import Relink.Pattern.Flags
import Relink.Text.Blank
import Relink.Text.Case
import Relink.Text.CharClass
import Relink.Text.Letter

/-!
# Sets of characters

A set lists characters, ranges and classes, or all others. Whether a character belongs to it
depends on the flags: case may be ignored, and the classes may hold ASCII only.

* `CharSet.holds_one`: a set of one character, case minded, holds that character only.
-/

namespace Relink.Pattern

/-- A class of characters. -/
inductive Category where
  /-- Decimal digits. -/
  | digit
  | blank
  /-- Characters of words. -/
  | word
  deriving DecidableEq, Repr

/-- Whether a code point is in a class of ASCII characters. -/
def Category.holdsAscii (category : Category) (code : Nat) : Bool :=
  match category with
  | digit => 48 ≤ code && code ≤ 57
  | blank => code == 32 || (9 ≤ code && code ≤ 13)
  | word =>
    (48 ≤ code && code ≤ 57) || (65 ≤ code && code ≤ 90) || (97 ≤ code && code ≤ 122) || code == 95

/-- Whether a character is in a class. -/
def Category.holds (ascii : Bool) (category : Category) (c : Char) : Bool :=
  if ascii then category.holdsAscii c.toNat
  else match category with
    | digit => Text.isDigit c
    | blank => Text.isBlank c
    | word => Text.isWordChar c

/-- A member of a set of characters. Code points are numbers, since a pattern can name some that
are no characters. -/
inductive SetItem where
  /-- A code point. -/
  | single (code : Nat)
  /-- The code points from one to another. -/
  | range (first last : Nat)
  /-- A class, or all outside it. -/
  | category (negated : Bool) (kind : Category)
  deriving DecidableEq, Repr

/-- The lower case of a code point, of ASCII letters only if `ascii`. -/
def foldCase (ascii : Bool) (code : Nat) : Nat :=
  if ascii then (if 65 ≤ code && code ≤ 90 then code + 32 else code) else Text.lowerCode code

/-- The code points that count as equal to a lower-case one when case is ignored. -/
def caseKin (ascii : Bool) (lowered : Nat) : List Nat :=
  if ascii then [lowered, if 97 ≤ lowered && lowered ≤ 122 then lowered - 32 else lowered]
  else (Text.lowerKin lowered).flatMap fun code => code :: Text.capitalsOf code

/-- Whether a member holds a character. -/
def SetItem.holds (scope : Scope) (item : SetItem) (c : Char) : Bool :=
  match item with
  | single code =>
    if scope.ignoreCase then (caseKin scope.ascii (foldCase scope.ascii c.toNat)).contains code
    else c.toNat == code
  | range first last =>
    if scope.ignoreCase then
      (caseKin scope.ascii (foldCase scope.ascii c.toNat)).any fun code =>
        first ≤ code && code ≤ last
    else first ≤ c.toNat && c.toNat ≤ last
  | .category negated kind => negated != kind.holds scope.ascii c

/-- A set of characters, or all outside it. -/
structure CharSet where
  /-- Whether the characters outside are meant. -/
  negated : Bool
  /-- The members. -/
  items : List SetItem
  deriving DecidableEq, Repr

/-- Whether a set holds a character. -/
def CharSet.holds (scope : Scope) (set : CharSet) (c : Char) : Bool :=
  set.negated != set.items.any (·.holds scope c)

/-- The set of one code point. -/
def CharSet.one (code : Nat) : CharSet := ⟨false, [.single code]⟩

theorem CharSet.holds_one {scope : Scope} (h : scope.ignoreCase = false) (code : Nat) (c : Char) :
    (CharSet.one code).holds scope c = (c.toNat == code) := by
  simp [CharSet.holds, CharSet.one, SetItem.holds, h]

end Relink.Pattern
