import Relink.Pattern.Fault
import Relink.Pattern.Flags
import Relink.Pattern.Token

/-!
# Reading tokens

What is kept while a pattern is read from left to right, and the steps that take its tokens. A
fault is placed some characters before the next token.
-/

namespace Relink.Pattern

/-- What is kept while a pattern is read. -/
structure Reader where
  /-- The tokens not yet taken. -/
  rest : List Placed
  /-- The length of the pattern. -/
  size : Nat
  /-- The flags set for the whole pattern. -/
  flags : List Flag
  /-- The widths of the groups by number, `none` for those not ended; the zeroth stands for the
  pattern and is never ended. -/
  groups : List (Option (Nat × Nat))
  /-- The numbers of the named groups. -/
  names : List (String × Nat)
  /-- The number of groups there were where the outermost look-behind began. -/
  lookbehind : Option Nat
  /-- The group numbers that conditions name, with the first place of each. -/
  references : List (Nat × Nat)

/-- A step of reading. -/
abbrev Reading := StateT Reader (Except Fault)

/-- A single backslash at the end is refused as soon as it comes next. -/
def settle : List Placed → Except Fault (List Placed)
  | ⟨position, .dangling⟩ :: _ => .error (.malformed .danglingEscape (some position))
  | rest => .ok rest

/-- The reader at the start of a pattern. -/
def Reader.start (pattern : List Char) : Except Fault Reader := do
  let rest ← settle (tokens 0 pattern)
  return ⟨rest, pattern.length, [], [none], [], none, []⟩

/-- The widths of the groups ended so far. -/
def Reader.widthOf (r : Reader) (group : Nat) : Nat × Nat := (r.groups[group]?.join).getD (0, 0)

/-- Whether a group has ended. -/
def Reader.hasEnded (r : Reader) (group : Nat) : Bool := (r.groups[group]?.join).isSome

/-- The place of the next token. -/
def tell : Reading Nat := do
  let r ← get
  match r.rest with
  | [] => return r.size
  | placed :: _ => return placed.position

/-- Stops with a complaint placed `back` characters before the next token. -/
def refuse {α : Type} (complaint : Complaint) (back : Nat) : Reading α := do
  throw (.malformed complaint (some ((← tell) - back)))

/-- The next token. -/
def peek : Reading (Option Token) := do return (← get).rest.head?.map (·.token)

/-- Passes over the next token. -/
def advance : Reading Unit := do
  let r ← get
  let rest ← settle r.rest.tail
  set { r with rest := rest }

/-- Takes the next token. -/
def take : Reading (Option Token) := do
  let token ← peek
  advance
  return token

/-- Takes the next token if it is the character `c`. -/
def accept (c : Char) : Reading Bool := do
  if (← peek) == some (.plain c) then
    advance
    return true
  else return false

/-- Takes up to `limit` characters that satisfy `p`. -/
def takeChars (p : Char → Bool) : (limit : Nat) → Reading (List Char)
  | 0 => return []
  | limit + 1 => do
    match ← peek with
    | some (.plain c) =>
      if p c then
        advance
        return c :: (← takeChars p limit)
      else return []
    | _ => return []

/-- Takes characters up to the terminator `stop` and past it; `what` names what is read. -/
def readUntil (stop : Char) (what : String) : (fuel : Nat) → List Char → Reading String
  | 0, _ => refuse (.noName what) 0
  | fuel + 1, taken => do
    match ← take with
    | none =>
      if taken.isEmpty then refuse (.noName what) 0
      else refuse (.unterminatedName stop) taken.length
    | some token =>
      if token == .plain stop then
        if taken.isEmpty then refuse (.noName what) 1 else return String.ofList taken
      else readUntil stop what fuel (taken ++ token.text)

/-- A name up to its terminator. -/
def readName (stop : Char) (what : String) : Reading String := do
  readUntil stop what ((← get).rest.length + 1) []

end Relink.Pattern
