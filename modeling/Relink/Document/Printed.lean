import Relink.Document.Value
import Relink.Number.Written
import Relink.Text.Quoted

/-!
# Values as plain text

How a value stands in a message. At the top a text and an id stand for themselves; inside lists
and maps a text is quoted and an id is named as one.

* `printed_text`: a text is printed as it is.
-/

namespace Relink.Value

open Number Text

mutual

/-- A value as a member of a list or a map. -/
def shown : Value → String
  | null => "None"
  | bool b => if b then "True" else "False"
  | int n => toString n
  | double x => x.written plainWords
  | text s => quoted s
  | objectId hex => "ObjectId('" ++ hex ++ "')"
  | list items => "[" ++ ", ".intercalate (shownItems items) ++ "]"
  | map fields => "\x7b" ++ ", ".intercalate (shownFields fields) ++ "\x7d"

/-- The members of a list. -/
def shownItems : List Value → List String
  | [] => []
  | v :: rest => shown v :: shownItems rest

/-- The fields of a map. -/
def shownFields : List (String × Value) → List String
  | [] => []
  | (key, v) :: rest => (quoted key ++ ": " ++ shown v) :: shownFields rest

end

/-- A value as it stands in a message. -/
def printed : Value → String
  | text s => s
  | objectId hex => hex
  | v => shown v

@[simp]
theorem printed_text (s : String) : printed (text s) = s := rfl

end Relink.Value
