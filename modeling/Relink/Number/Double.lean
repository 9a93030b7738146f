/-!
# Double-precision numbers

A binary number with a significand of at most 53 bits, held by sign, significand and exponent, so
that equality and rounding are arithmetic of whole numbers.

* `equals_comm`: comparing does not depend on the order.
-/

namespace Relink.Number

/-- A double-precision number. A finite one is `± significand * 2 ^ exponent`; its significand
has 53 bits unless the exponent is the least one. -/
inductive Double where
  /-- Not a number. -/
  | nan
  /-- One of the two infinities. -/
  | infinite (negative : Bool)
  /-- A finite number, a signed zero included. -/
  | finite (negative : Bool) (significand : Nat) (exponent : Int)
  deriving DecidableEq, Repr

namespace Double

/-- The number of bits of a significand. -/
def precision : Nat := 53

/-- The least exponent. -/
def leastExponent : Int := -1074

/-- The greatest exponent. -/
def greatestExponent : Int := 971

/-- Equality as numbers: the two zeros are equal and a `nan` equals nothing. -/
def equals : Double → Double → Bool
  | finite n s e, finite n' s' e' => (s == 0 && s' == 0) || (n == n' && s == s' && e == e')
  | infinite n, infinite n' => n == n'
  | _, _ => false

theorem equals_comm (x y : Double) : equals x y = equals y x := by
  rcases x with _ | n | ⟨n, s, e⟩ <;> rcases y with _ | n' | ⟨n', s', e'⟩ <;> try rfl
  · exact Bool.beq_comm
  · rw [equals, equals, Bool.and_comm (s == 0), Bool.beq_comm (a := n),
      Bool.beq_comm (a := s) (b := s'), Bool.beq_comm (a := e)]

/-- Whether a double equals a whole number. -/
def equalsInt (x : Double) (n : Int) : Bool :=
  match x with
  | finite negative s e =>
    let whole : Int := if negative then -(s : Int) else s
    if 0 ≤ e then whole * Nat.pow 2 e.toNat == n else whole == n * Nat.pow 2 (-e).toNat
  | _ => false

/-- A quotient rounded to the nearest whole number, a half to the even one. -/
def roundHalfEven (num den : Nat) : Nat :=
  let below := num / den
  let twice := 2 * (num % den)
  if twice < den then below
  else if den < twice then below + 1
  else below + below % 2

/-- The base-two exponent of a positive quotient: `2 ^ k ≤ num / den < 2 ^ (k + 1)`. -/
def binaryExponent (num den : Nat) : Int :=
  let guess : Int := (num.log2 : Int) - den.log2
  let reached :=
    if 0 ≤ guess then den * Nat.pow 2 guess.toNat ≤ num
    else den ≤ num * Nat.pow 2 (-guess).toNat
  if reached then guess else guess - 1

/-- The double nearest to a quotient, a half to the even significand. -/
def ofQuotient (negative : Bool) (num den : Nat) : Double :=
  if num = 0 then .finite negative 0 leastExponent
  else
    let e := max (binaryExponent num den - (precision - 1)) leastExponent
    let s :=
      if 0 ≤ e then roundHalfEven num (den * Nat.pow 2 e.toNat)
      else roundHalfEven (num * Nat.pow 2 (-e).toNat) den
    let (s, e) := if s = Nat.pow 2 precision then (Nat.pow 2 (precision - 1), e + 1) else (s, e)
    if greatestExponent < e then .infinite negative else .finite negative s e

/-- The double nearest to `digits * 10 ^ scale`. Numbers far outside the range are settled by
their magnitude alone. -/
def ofDecimal (negative : Bool) (digits : Nat) (scale : Int) : Double :=
  if digits = 0 then .finite negative 0 leastExponent
  else
    let magnitude : Int := (digits.log2 : Int) * 3 / 10 + scale
    if 400 < magnitude then .infinite negative
    else if magnitude < -800 then .finite negative 0 leastExponent
    else if 0 ≤ scale then ofQuotient negative (digits * Nat.pow 10 scale.toNat) 1
    else ofQuotient negative digits (Nat.pow 10 (-scale).toNat)

end Double

end Relink.Number
