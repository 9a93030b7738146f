import Relink.Entries
import Relink.Number.Double

/-!
# Values of a document

A document is a map with keys in order, whose values nest. Two values are the same when they are
equal as numbers, texts or ids, and member by member as lists and maps, the order of keys aside.

* `same_text`: a text is the same as itself only.
-/

namespace Relink

open Number

/-- A value of a document. -/
inductive Value where
  /-- No value. -/
  | null
  /-- A truth value. -/
  | bool (value : Bool)
  /-- A whole number. -/
  | int (value : Int)
  /-- A double-precision number. -/
  | double (value : Double)
  | text (value : String)
  /-- An id made by the database, in hexadecimal. -/
  | objectId (hex : String)
  | list (items : List Value)
  | map (fields : List (String × Value))

/-- A document: the fields of a map. -/
abbrev Document := Entries Value

namespace Value

instance : Inhabited Value := ⟨null⟩

/-- The number that a truth value or a whole number stands for. -/
def int? : Value → Option Int
  | bool b => some (if b then 1 else 0)
  | int n => some n
  | _ => none

/-- Whether two values other than lists and maps are the same. -/
def sameScalar (v w : Value) : Bool :=
  match v, w with
  | null, null => true
  | text s, text t => s == t
  | objectId s, objectId t => s == t
  | double x, double y => x.equals y
  | double x, w => match w.int? with
    | some n => x.equalsInt n
    | none => false
  | v, double y => match v.int? with
    | some n => y.equalsInt n
    | none => false
  | v, w => match v.int?, w.int? with
    | some m, some n => m == n
    | _, _ => false

mutual

/-- Whether two values are the same. -/
def same : Value → Value → Bool
  | list items, w => match w with
    | list others => sameItems items others
    | _ => false
  | map fields, w => match w with
    | map others => fields.length == others.length && sameFields fields others
    | _ => false
  | v, w => sameScalar v w

/-- Whether two lists are the same, member by member. -/
def sameItems : List Value → List Value → Bool
  | [], others => others.isEmpty
  | v :: rest, others => match others with
    | w :: more => same v w && sameItems rest more
    | [] => false

/-- Whether each field is the same as the one of that name in `others`. -/
def sameFields : List (String × Value) → List (String × Value) → Bool
  | [], _ => true
  | (key, v) :: rest, others => (match Entries.get? key others with
    | some w => same v w
    | none => false) && sameFields rest others

end

/-- **A text is the same as itself only.** -/
theorem same_text (s : String) (w : Value) : same (text s) w = true ↔ w = text s := by
  cases w with
  | text t => simp [same, sameScalar, eq_comm (a := s)]
  | _ => simp [same, sameScalar, int?]

/-- The name of the kind of a value. -/
def kind : Value → String
  | null => "NoneType"
  | bool _ => "bool"
  | int _ => "int"
  | double _ => "float"
  | text _ => "str"
  | objectId _ => "ObjectId"
  | list _ => "list"
  | map _ => "dict"

/-- The text that a value is, if it is one. -/
def text? : Value → Option String
  | text s => some s
  | _ => none

end Value

end Relink
