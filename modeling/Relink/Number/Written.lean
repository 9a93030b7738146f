import Relink.Number.Shortest
import Relink.Number.Whole

/-!
# Numbers as text

How a double is written: the shortest decimal, positionally from `1e-4` up to below `1e16` and
with at least one place, otherwise with an exponent of at least two digits. The words for what is
not finite depend on where the text stands. Reading accepts the same texts and more.
-/

namespace Relink.Number

/-- The words for what is not a finite number. -/
structure Words where
  /-- Not a number. -/
  nan : String
  /-- Infinity, without a sign. -/
  infinity : String

/-- The words in plain text. -/
def plainWords : Words := ⟨"nan", "inf"⟩

/-- The words in audit lines. -/
def auditWords : Words := ⟨"NaN", "Infinity"⟩

/-- A decimal exponent with a sign and at least two digits. -/
def exponentText (e : Int) : String :=
  let digits := toString e.natAbs
  (if e < 0 then "-" else "+") ++ (if digits.length < 2 then "0" ++ digits else digits)

/-- A decimal as text. -/
def Decimal.written (d : Decimal) : String :=
  let digits := Nat.toDigits 10 d.digits
  let point : Int := digits.length + d.scale
  if d.digits = 0 then "0.0"
  else if -4 < point ∧ point ≤ 16 then
    if point ≤ 0 then
      String.ofList ('0' :: '.' :: List.replicate (-point).toNat '0' ++ digits)
    else
      let padded := digits ++ List.replicate (point.toNat - digits.length) '0'
      let places := padded.drop point.toNat
      String.ofList (padded.take point.toNat ++ '.' :: (if places.isEmpty then ['0'] else places))
  else
    let places := digits.drop 1
    String.ofList (digits.take 1 ++ (if places.isEmpty then [] else '.' :: places)) ++
      "e" ++ exponentText (point - 1)

/-- A double as text. -/
def Double.written (words : Words) : Double → String
  | .nan => words.nan
  | .infinite negative => (if negative then "-" else "") ++ words.infinity
  | .finite negative s e => (if negative then "-" else "") ++ (shortest s e).written

/-- Decimal digits, possibly none, as they may stand on one side of a point. -/
def optionalDigits (cs : List Char) : Option (List Nat × List Char) :=
  match cs with
  | c :: _ => if Text.isDigit c then digitRun true cs else some ([], cs)
  | [] => some ([], cs)

/-- The exponent at the head of a text, zero if there is none. -/
def takeExponent : List Char → Option (Int × List Char)
  | c :: rest =>
    if c == 'e' || c == 'E' then
      let (negative, body) := takeSign rest
      (digitRun true body).map fun run =>
        (if negative then -(valueOf run.1 : Int) else valueOf run.1, run.2)
    else some (0, c :: rest)
  | [] => some (0, [])

/-- The double that an unsigned text writes. -/
def readUnsigned (negative : Bool) (cs : List Char) : Option Double :=
  let word := String.ofList (cs.map Char.toLower)
  if word == "inf" || word == "infinity" then some (.infinite negative)
  else if word == "nan" then some .nan
  else do
    let (before, rest) ← optionalDigits cs
    let (places, rest) ← match rest with
      | '.' :: tail => optionalDigits tail
      | _ => some ([], rest)
    if before.isEmpty && places.isEmpty then none
    else
      let (e, rest) ← takeExponent rest
      if rest.isEmpty then
        some (Double.ofDecimal negative (valueOf (before ++ places)) (e - places.length))
      else none

/-- The double that a text writes. -/
def Double.read? (s : String) : Option Double :=
  let (negative, body) := takeSign (Text.trimWhere isNumberBlank s.toList)
  readUnsigned negative body

end Relink.Number
