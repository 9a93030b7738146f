import Relink.Text.Blank
import Relink.Text.CharClass
import Relink.Text.Quoted

/-!
# Whole numbers from text

A whole number is written as an optional sign and decimal digits of any script, with single low
lines allowed between digits and blanks around it. At most 4300 digits are read.

* `valueOf_append`: digits written one after another.
-/

namespace Relink.Number

/-- Why a text is no whole number. -/
inductive Fault where
  /-- The text does not follow the grammar. -/
  | malformed (text : String)
  /-- The text has more digits than are read. -/
  | tooLong (digits : Nat)
  deriving DecidableEq, Repr

/-- The largest number of digits that is read. -/
def digitLimit : Nat := 4300

/-- The wording of a fault. -/
def Fault.message : Fault → String
  | .malformed text => "invalid literal for int() with base 10: " ++ Text.quoted text
  | .tooLong digits =>
    s!"Exceeds the limit ({digitLimit} digits) for integer string conversion: value has " ++
      s!"{digits} digits; use sys.set_int_max_str_digits() to increase the limit"

/-- The blanks allowed around a number: all but the four information separators. -/
def isNumberBlank (c : Char) : Bool := Text.isBlank c && !(0x1c ≤ c.toNat && c.toNat ≤ 0x1f)

/-- The digits at the head of a text and what follows them. `fresh` says that a digit has to come
next, as at the start and after a low line. -/
def digitRun (fresh : Bool) : List Char → Option (List Nat × List Char)
  | [] => if fresh then none else some ([], [])
  | c :: rest =>
    match Text.digitValue? c with
    | some digit => (digitRun false rest).map fun run => (digit :: run.1, run.2)
    | none =>
      if fresh then none else if c == '_' then digitRun true rest else some ([], c :: rest)

/-- The number that decimal digits write. -/
def valueOf (digits : List Nat) : Nat := digits.foldl (fun acc digit => acc * 10 + digit) 0

theorem valueOf_append (ds : List Nat) (d : Nat) : valueOf (ds ++ [d]) = valueOf ds * 10 + d := by
  simp [valueOf]

/-- Whether the sign at the head of a text is a minus, and what follows the sign. -/
def takeSign : List Char → Bool × List Char
  | '-' :: rest => (true, rest)
  | '+' :: rest => (false, rest)
  | cs => (false, cs)

/-- The whole number that a text writes. -/
def whole (s : String) : Except Fault Int :=
  let (negative, body) := takeSign (Text.trimWhere isNumberBlank s.toList)
  match digitRun true body with
  | none => .error (.malformed s)
  | some (digits, rest) =>
    if digitLimit < digits.length then .error (.tooLong digits.length)
    else if rest ≠ [] then .error (.malformed s)
    else .ok (if negative then -(valueOf digits : Int) else valueOf digits)

end Relink.Number
