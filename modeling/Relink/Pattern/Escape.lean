import Relink.Pattern.Node
import Relink.Pattern.Reader
import Relink.Text.CharacterName
import Relink.Text.CharClass
import Relink.Text.Identifier

/-!
# Escapes

What a backslash and the characters after it stand for, within a set of characters and outside.
-/

namespace Relink.Pattern

/-- The code point of a one-letter escape. -/
def controlEscape? : Char → Option Nat
  | 'a' => some 7
  | 'b' => some 8
  | 'f' => some 12
  | 'n' => some 10
  | 'r' => some 13
  | 't' => some 9
  | 'v' => some 11
  | '\\' => some 92
  | _ => none

/-- The class of a one-letter escape. -/
def categoryEscape? : Char → Option SetItem
  | 'd' => some (.category false .digit)
  | 'D' => some (.category true .digit)
  | 's' => some (.category false .blank)
  | 'S' => some (.category true .blank)
  | 'w' => some (.category false .word)
  | 'W' => some (.category true .word)
  | _ => none

/-- The place of a one-letter escape. -/
def placeEscape? (scope : Scope) : Char → Option Place
  | 'A' => some .textStart
  | 'Z' => some .textEnd
  | 'b' => some (.boundary false scope.ascii)
  | 'B' => some (.boundary true scope.ascii)
  | _ => none

/-- Whether a character is a letter of ASCII. -/
def isAsciiLetter (c : Char) : Bool := ('a' ≤ c && c ≤ 'z') || ('A' ≤ c && c ≤ 'Z')

/-- Whether a character is an octal digit. -/
def isOctal (c : Char) : Bool := '0' ≤ c && c ≤ '7'

/-- The number that octal digits write. -/
def octalValue (digits : List Char) : Nat :=
  digits.foldl (fun acc c => acc * 8 + (c.toNat - 48)) 0

/-- The number that hexadecimal digits write. -/
def hexValue (digits : List Char) : Nat :=
  digits.foldl (fun acc c => acc * 16 + (Text.hexValue? c).getD 0) 0

/-- An escape of exactly `count` hexadecimal digits after the letter `c`. -/
def hexEscape (c : Char) (count : Nat) : Reading Nat := do
  let digits ← takeChars (fun d => (Text.hexValue? d).isSome) count
  let text := '\\' :: c :: digits
  if digits.length < count then refuse (.incompleteEscape (String.ofList text)) text.length
  let code := hexValue digits
  if 0x7fffffff < code then throw .codeTooLarge
  if 0x10ffff < code then refuse (.badEscape (String.ofList text)) text.length
  return code

/-- An escape of a character by its name in braces. -/
def nameEscape : Reading Nat := do
  if !(← accept '\x7b') then refuse .noBrace 0
  let name ← readName '\x7d' "character name"
  match Text.named? name with
  | some code => return code
  | none => refuse (.undefinedCharacter name) (name.length + 4)

/-- An escape by number or name, if the letter begins one. -/
def codeEscape? (c : Char) : Reading (Option Nat) := do
  match c with
  | 'x' => return some (← hexEscape c 2)
  | 'u' => return some (← hexEscape c 4)
  | 'U' => return some (← hexEscape c 8)
  | 'N' => return some (← nameEscape)
  | _ => return none

/-- The code point of an escaped character that has no other meaning. -/
def plainEscape (c : Char) : Reading Nat := do
  if isAsciiLetter c || Text.isAsciiDigit c then
    refuse (.badEscape (String.ofList ['\\', c])) 2
  else return c.toNat

/-- What an escape stands for in a set of characters. -/
def setEscape (c : Char) : Reading SetItem := do
  match controlEscape? c, categoryEscape? c with
  | some code, _ => return .single code
  | none, some item => return item
  | none, none =>
    match ← codeEscape? c with
    | some code => return .single code
    | none =>
      if isOctal c then
        let digits := c :: (← takeChars isOctal 2)
        if 0o377 < octalValue digits then
          refuse (.octalTooLarge (String.ofList ('\\' :: digits))) (digits.length + 1)
        return .single (octalValue digits)
      else return .single (← plainEscape c)

/-- Refuses a reference, from within a look-behind, to a group that has not ended or that the
look-behind itself defines. -/
def checkLookbehind (group : Nat) : Reading Unit := do
  let r ← get
  match r.lookbehind with
  | none => return
  | some first =>
    if !r.hasEnded group then refuse .openGroup 0
    if first ≤ group then refuse .sameLookbehind 0

/-- An escape that begins with a digit other than zero: three octal digits, or else the number of
a group. -/
def digitEscape (scope : Scope) (c : Char) : Reading Node := do
  let second ← takeChars Text.isAsciiDigit 1
  let third ← if isOctal c && second.any isOctal then takeChars isOctal 1 else pure []
  let digits := c :: second ++ third
  if !third.isEmpty then
    if 0o377 < octalValue digits then
      refuse (.octalTooLarge (String.ofList ('\\' :: digits))) (digits.length + 1)
    return .char scope (.one (octalValue digits))
  let group := Number.valueOf (digits.map fun d => d.toNat - 48)
  let r ← get
  if group < r.groups.length then
    if !r.hasEnded group then refuse .openGroup (digits.length + 1)
    checkLookbehind group
    return .reference scope group
  else refuse (.invalidReference group) digits.length

/-- What an escape stands for outside a set of characters. -/
def escape (scope : Scope) (c : Char) : Reading Node := do
  match placeEscape? scope c, categoryEscape? c, controlEscape? c with
  | some place, _, _ => return .place place
  | none, some item, _ => return .char scope ⟨false, [item]⟩
  | none, none, some code => return .char scope (.one code)
  | none, none, none =>
    match ← codeEscape? c with
    | some code => return .char scope (.one code)
    | none =>
      if c == '0' then
        return .char scope (.one (octalValue (c :: (← takeChars isOctal 2))))
      else if Text.isAsciiDigit c then digitEscape scope c
      else return .char scope (.one (← plainEscape c))

end Relink.Pattern
