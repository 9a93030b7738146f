import Relink.Pattern.Reader
import Relink.Text.Letter

/-!
# Groups of flags

The letters at the opening of a bracket that set flags, for the whole pattern or for the bracket.
-/

namespace Relink.Pattern

/-- What the letters of a bracket set. -/
inductive FlagGroup where
  /-- Flags for the whole pattern, already noted. -/
  | whole
  /-- Flags turned on and off for the bracket. -/
  | part (on off : List Flag)
  deriving DecidableEq, Repr

/-- The flag that a token names. -/
def Token.flag? : Token → Option Flag
  | plain c => Flag.ofChar? c
  | _ => none

/-- Refuses a token that is no flag: as an unknown one if it is a letter. -/
def refuseFlag {α : Type} (token : Token) (otherwise : Complaint) : Reading α :=
  match token with
  | .plain c => refuse (if Text.isLetter c then .unknownFlag else otherwise) 1
  | _ => refuse otherwise token.text.length

/-- The flags turned on, the first given, and the token that ends them. -/
def flagsOn : (fuel : Nat) → Flag → List Flag → Reading (List Flag × Char)
  | 0, _, _ => refuse .flagsNotEnded 0
  | fuel + 1, flag, on => do
    if flag == .locale then refuse .localeFlag 0
    if flag.isKind && on.any (fun other => other.isKind && other != flag) then
      refuse .conflictingKinds 0
    let on := on ++ [flag]
    match ← take with
    | none => refuse .flagsNotEnded 0
    | some (.plain ')') => return (on, ')')
    | some (.plain '-') => return (on, '-')
    | some (.plain ':') => return (on, ':')
    | some token => match token.flag? with
      | some next => flagsOn fuel next on
      | none => refuseFlag token .flagsNotEnded

/-- The flags turned off, the first given, up to the colon. -/
def flagsOff : (fuel : Nat) → Flag → List Flag → Reading (List Flag)
  | 0, _, _ => refuse .noColon 0
  | fuel + 1, flag, off => do
    if flag.isKind then refuse .kindOff 0
    let off := off ++ [flag]
    match ← take with
    | none => refuse .noColon 0
    | some (.plain ':') => return off
    | some token => match token.flag? with
      | some next => flagsOff fuel next off
      | none => refuseFlag token .noColon

/-- The flags of a bracket, after its first letter or its minus has been taken. -/
def flagGroup (first : Option Flag) : Reading FlagGroup := do
  let fuel := (← get).rest.length + 1
  let (on, ending) ← match first with
    | some flag => flagsOn fuel flag []
    | none => pure ([], '-')
  if ending == ')' then
    modify fun r => { r with flags := r.flags ++ on }
    return .whole
  if on.any Flag.isGlobal then refuse .globalOn 1
  let off ← if ending == '-' then
      match ← take with
      | none => refuse .noFlag 0
      | some token => match token.flag? with
        | some flag => flagsOff fuel flag []
        | none => refuseFlag token .noFlag
    else pure []
  if off.any Flag.isGlobal then refuse .globalOff 1
  if on.any off.contains then refuse .onAndOff 1
  return .part on off

end Relink.Pattern
