import Relink.Number.Double

/-!
# The shortest decimal of a double

Of all decimals that round to a finite double, those with the fewest digits are sought, and of
these the one nearest to the double. All comparisons are exact.

* `pick?_admits`: the decimal picked from a grid rounds to the centre of the interval.
* `search_admits`: so does the decimal that the search ends with.
-/

namespace Relink.Number

/-- The decimal `digits * 10 ^ scale`. -/
structure Decimal where
  /-- The digits as one number. -/
  digits : Nat
  /-- The power of ten they are scaled by. -/
  scale : Int
  deriving DecidableEq, Repr

/-- The number of decimal digits of a number, one for zero. -/
def digitCount (n : Nat) : Nat := (Nat.toDigits 10 n).length

/-- The number `base ^ power` as a quotient. -/
def powerQuotient (base : Nat) (power : Int) : Nat × Nat :=
  if 0 ≤ power then (base.pow power.toNat, 1) else (1, base.pow (-power).toNat)

/-- A positive double `significand * 2 ^ exponent` with the two ends of the interval of the
numbers that round to it, in units of a quarter of its last place. -/
structure Interval where
  /-- The number in quarters. -/
  centre : Nat
  /-- The lower end in quarters. -/
  low : Nat
  /-- The upper end in quarters. -/
  high : Nat
  /-- Whether the ends round to the number too. -/
  closed : Bool
  /-- The exponent of a quarter. -/
  unit : Int

/-- The interval of the numbers that round to `significand * 2 ^ exponent`. -/
def Interval.of (significand : Nat) (exponent : Int) : Interval where
  centre := 4 * significand
  low := if significand = Nat.pow 2 (Double.precision - 1) ∧ exponent ≠ Double.leastExponent
    then 4 * significand - 1 else 4 * significand - 2
  high := 4 * significand + 2
  closed := significand % 2 = 0
  unit := exponent - 2

/-- The grid of the decimals with a given scale laid over the quarters of an interval: `quarter`
and `step` are the sizes of a quarter and of a grid step in a common unit. -/
structure Grid where
  /-- The size of a quarter. -/
  quarter : Nat
  /-- The size of a grid step. -/
  step : Nat

/-- The grid with scale `scale` over the interval `i`. -/
def Interval.grid (i : Interval) (scale : Int) : Grid :=
  let (a, b) := powerQuotient 2 i.unit
  let (g, h) := powerQuotient 10 scale
  ⟨a * h, g * b⟩

/-- Whether the `k`-th grid point rounds to the centre of the interval. -/
def Interval.admits (i : Interval) (grid : Grid) (k : Nat) : Bool :=
  let point := k * grid.step
  let low := i.low * grid.quarter
  let high := i.high * grid.quarter
  if i.closed then low ≤ point && point ≤ high else low < point && point < high

/-- The grid point that rounds to the centre, the nearer one of two, an even one of two equally
near. -/
def Interval.pick? (i : Interval) (scale : Int) : Option Decimal :=
  let grid := i.grid scale
  let centre := i.centre * grid.quarter
  let below := centre / grid.step
  let rest := centre % grid.step
  let lower := if i.admits grid below && 0 < below then some (⟨below, scale⟩ : Decimal) else none
  let upper := if i.admits grid (below + 1) then some (⟨below + 1, scale⟩ : Decimal) else none
  match lower, upper with
  | some l, some u =>
    if 2 * rest < grid.step then some l
    else if grid.step < 2 * rest then some u
    else if below % 2 = 0 then some l else some u
  | some l, none => some l
  | none, u => u

theorem Interval.pick?_admits {i : Interval} {scale : Int} {d : Decimal}
    (h : i.pick? scale = some d) : d.scale = scale ∧ i.admits (i.grid scale) d.digits = true := by
  simp only [pick?] at h
  split at h <;> grind

/-- The decimal exponent of the centre: the number `p` of its digits before the point, such that
`10 ^ (p - 1) ≤ centre < 10 ^ p`. -/
def Interval.pointPosition (i : Interval) : Int :=
  let (a, b) := powerQuotient 2 i.unit
  let num := i.centre * a
  let guess : Int := (digitCount num : Int) - digitCount b
  let (g, h) := powerQuotient 10 guess
  if num * h < g * b then guess else guess + 1

/-- The first grid with a hit, from the coarse to the fine. -/
def Interval.search (i : Interval) (point : Int) : (left : Nat) → (digits : Nat) → Option Decimal
  | 0, _ => none
  | left + 1, digits =>
    match i.pick? (point - digits) with
    | some d => some d
    | none => i.search point left (digits + 1)

/-- **The decimal that the search ends with** rounds to the centre. -/
theorem Interval.search_admits {i : Interval} {point : Int} {left digits : Nat} {d : Decimal}
    (h : i.search point left digits = some d) : i.admits (i.grid d.scale) d.digits = true := by
  induction left generalizing digits with
  | zero => cases h
  | succ left ih =>
    simp only [search] at h
    split at h
    · next picked hp =>
      cases h
      obtain ⟨hs, ha⟩ := pick?_admits hp
      rwa [hs]
    · exact ih h

/-- A decimal without zeros at its end, with at most `fuel` of them removed. -/
def Decimal.trimZeros : (fuel : Nat) → Decimal → Decimal
  | 0, d => d
  | fuel + 1, d =>
    if d.digits % 10 = 0 ∧ d.digits ≠ 0 then trimZeros fuel ⟨d.digits / 10, d.scale + 1⟩ else d

/-- The shortest decimal that rounds to `significand * 2 ^ exponent`. -/
def shortest (significand : Nat) (exponent : Int) : Decimal :=
  if significand = 0 then ⟨0, 0⟩
  else
    let i := Interval.of significand exponent
    let point := i.pointPosition
    (((i.search point 17 1).getD ⟨0, 0⟩)).trimZeros 20

end Relink.Number
