/-!
# Classes of characters

The classes of the Unicode standard are stored as lists of closed intervals of code points. Of the
digits, the decimal ones of every script stand in ten consecutive code points, zero first; the
hexadecimal ones also serve to write code points with a fixed width.

* `Ranges.covers_iff`: a class holds what lies in one of its intervals.
* `digitValue?_ascii`: the ten ASCII digits have their own values.
* `hexValue?_hexDigit`: a hexadecimal digit reads back.
-/

namespace Relink.Text

/-- Closed intervals of code points, in ascending order. -/
abbrev Ranges := List (Nat × Nat)

/-- Whether a code point lies in one of the intervals. -/
def Ranges.covers (table : Ranges) (code : Nat) : Bool :=
  table.any fun range => range.1 ≤ code && code ≤ range.2

@[simp]
theorem Ranges.covers_nil (code : Nat) : Ranges.covers [] code = false := rfl

theorem Ranges.covers_iff {table : Ranges} {code : Nat} :
    table.covers code = true ↔ ∃ range ∈ table, range.1 ≤ code ∧ code ≤ range.2 := by
  simp [Ranges.covers]

/-- The code points of the digits zero. -/
def zeroDigits : List Nat :=
  [0x30, 0x660, 0x6f0, 0x7c0, 0x966, 0x9e6, 0xa66, 0xae6, 0xb66, 0xbe6, 0xc66, 0xce6, 0xd66,
   0xde6, 0xe50, 0xed0, 0xf20, 0x1040, 0x1090, 0x17e0, 0x1810, 0x1946, 0x19d0, 0x1a80, 0x1a90,
   0x1b50, 0x1bb0, 0x1c40, 0x1c50, 0xa620, 0xa8d0, 0xa900, 0xa9d0, 0xa9f0, 0xaa50, 0xabf0, 0xff10,
   0x104a0, 0x10d30, 0x11066, 0x110f0, 0x11136, 0x111d0, 0x112f0, 0x11450, 0x114d0, 0x11650,
   0x116c0, 0x11730, 0x118e0, 0x11950, 0x11c50, 0x11d50, 0x11da0, 0x16a60, 0x16ac0, 0x16b50,
   0x1d7ce, 0x1d7d8, 0x1d7e2, 0x1d7ec, 0x1d7f6, 0x1e140, 0x1e2f0, 0x1e950, 0x1fbf0]

/-- The value of a decimal digit, `none` for any other character. -/
def digitValue? (c : Char) : Option Nat :=
  (zeroDigits.find? fun nought => nought ≤ c.toNat && c.toNat < nought + 10).map (c.toNat - ·)

/-- Whether a character is a decimal digit of some script. -/
def isDigit (c : Char) : Bool := (digitValue? c).isSome

/-- Whether a character is one of the ten digits of ASCII. -/
def isAsciiDigit (c : Char) : Bool := '0' ≤ c && c ≤ '9'

theorem digitValue?_ascii {c : Char} (lo : 48 ≤ c.toNat) (hi : c.toNat < 58) :
    digitValue? c = some (c.toNat - 48) := by
  have h : (decide (48 ≤ c.toNat) && decide (c.toNat < 48 + 10)) = true := by simp [lo, hi]
  simp [digitValue?, zeroDigits, h]

/-- The lower-case hexadecimal digit of a number below 16. -/
def hexDigit (n : Nat) : Char := Char.ofNat (if n < 10 then 48 + n else 87 + n)

/-- The last `width` hexadecimal digits of a number. -/
def hex : (width : Nat) → (n : Nat) → List Char
  | 0, _ => []
  | width + 1, n => hex width (n / 16) ++ [hexDigit (n % 16)]

@[simp]
theorem length_hex (width n : Nat) : (hex width n).length = width := by
  induction width generalizing n with
  | zero => rfl
  | succ width ih => simp [hex, ih]

/-- The value of a hexadecimal digit of either case. -/
def hexValue? (c : Char) : Option Nat :=
  if '0' ≤ c && c ≤ '9' then some (c.toNat - 48)
  else if 'a' ≤ c && c ≤ 'f' then some (c.toNat - 87)
  else if 'A' ≤ c && c ≤ 'F' then some (c.toNat - 55)
  else none

/-- **A digit reads back.** -/
theorem hexValue?_hexDigit {n : Nat} (h : n < 16) : hexValue? (hexDigit n) = some n := by
  revert n
  decide

end Relink.Text
