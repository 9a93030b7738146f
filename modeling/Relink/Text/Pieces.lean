/-!
# Pieces of a text

A text falls into pieces at each separator.

* `pieces_ne_nil`: there is at least one piece, if only the empty one.
-/

namespace Relink.Text

/-- The pieces between the separators of a text. -/
def pieces (separator : Char) : List Char → List (List Char)
  | [] => [[]]
  | c :: rest =>
    if c == separator then [] :: pieces separator rest
    else (pieces separator rest).modifyHead (c :: ·)

@[simp]
theorem pieces_ne_nil (separator : Char) (cs : List Char) : pieces separator cs ≠ [] := by
  induction cs with
  | nil => simp [pieces]
  | cons c rest ih =>
    simp only [pieces]
    split <;> simp [List.modifyHead]
    split <;> simp_all

/-- The pieces of a string. -/
def split (separator : Char) (s : String) : List String :=
  (pieces separator s.toList).map String.ofList

/-- The last piece of a string. -/
def lastPiece (separator : Char) (s : String) : String :=
  String.ofList ((pieces separator s.toList).getLast (pieces_ne_nil separator s.toList))

end Relink.Text
