import Relink.Pattern.Escape
import Relink.Pattern.FlagGroup

/-!
# The grammar of patterns

A pattern is a choice of rows. A row is made of characters, sets, places, brackets and
repetitions of what stands just before.
-/

namespace Relink.Pattern

/-- Refuses with `unterminatedGroup` unless a bracket that began at `start` ends here. -/
def closeBracket (start : Nat) : Reading Unit := do
  if !(← accept ')') then refuse .unterminatedGroup ((← tell) - start)

/-- The member of a set that a token stands for. -/
def setMember : Token → Reading SetItem
  | .plain c => return .single c.toNat
  | .escape c => setEscape c
  | .dangling => return .single 92

/-- The members of a set that began at `start`, after those in `items`, the latest first. -/
def setItems (start : Nat) : (fuel : Nat) → List SetItem → Reading (List SetItem)
  | 0, items => return items
  | fuel + 1, items => do
    match ← take with
    | none => refuse .unterminatedSet ((← tell) - start)
    | some token =>
      if token == .plain ']' && !items.isEmpty then return items
      let first ← setMember token
      if ← accept '-' then
        match ← take with
        | none => refuse .unterminatedSet ((← tell) - start)
        | some (.plain ']') => return .single '-'.toNat :: first :: items
        | some other =>
          let last ← setMember other
          let complaint :=
            .badRange (String.ofList token.text) (String.ofList other.text)
          let back := token.text.length + 1 + other.text.length
          match first, last with
          | .single lo, .single hi =>
            if hi < lo then refuse complaint back
            else setItems start fuel (.range lo hi :: items)
          | _, _ => refuse complaint back
      else setItems start fuel (first :: items)

/-- A set of characters, after its opening bracket. -/
def charSet (scope : Scope) : Reading Node := do
  let start := (← tell) - 1
  let negated ← accept '^'
  let items ← setItems start ((← get).rest.length + 1) []
  return .char scope ⟨negated, items.reverse⟩

/-- The least count that a repetition cannot have. -/
def countLimit : Nat := 4294967295

/-- A count of a repetition, `absent` if there are no digits. -/
def countOf (digits : List Char) (absent : Option Nat) : Reading (Option Nat) := do
  if digits.isEmpty then return absent
  if Number.digitLimit < digits.length then throw (.count (.tooLong digits.length))
  let count := Number.valueOf (digits.map fun d => d.toNat - 48)
  if countLimit ≤ count then throw .countTooLarge
  return some count

/-- The least and the greatest count in braces, after the opening one; nothing is taken and
`none` returned where the braces do not hold counts. -/
def braces : Reading (Option (Nat × Option Nat)) := do
  let saved ← get
  let start ← tell
  if (← peek) == some (.plain '\x7d') then return none
  let fuel := saved.rest.length
  let least ← takeChars Text.isAsciiDigit fuel
  let most ← if ← accept ',' then takeChars Text.isAsciiDigit fuel else pure least
  if !(← accept '\x7d') then
    -- no counts after all: what was taken is read again as plain characters
    set saved
    return none
  let lo := ((← countOf least none).getD 0)
  let hi ← countOf most none
  if hi.any (· < lo) then refuse .leastAboveGreatest ((← tell) - start)
  return some (lo, hi)

/-- The counts of a repetition sign. -/
def counts : Char → Reading (Option (Nat × Option Nat))
  | '?' => return some (0, some 1)
  | '*' => return some (0, none)
  | '+' => return some (1, none)
  | _ => braces

/-- The greed that the sign after a repetition gives it. -/
def greed : Reading Greed := do
  if ← accept '?' then return .lazy
  if ← accept '+' then return .possessive
  return .greedy

/-- The items of a row after a repetition sign has been taken, the latest first. -/
def repetition (scope : Scope) (sign : Char) (items : List Node) : Reading (List Node) := do
  let start ← tell
  match ← counts sign with
  | none => return .char scope (.one sign.toNat) :: items
  | some (least, most) =>
    match items with
    | [] | .place _ :: _ => refuse .nothingToRepeat ((← tell) - start + 1)
    | .repeated .. :: _ => refuse .multipleRepeat ((← tell) - start + 1)
    | item :: before =>
      return .repeated (← greed) least most item :: before

/-- A comment that began at `start`, up to its end. -/
def comment (start : Nat) : (fuel : Nat) → Reading Unit
  | 0 => return
  | fuel + 1 => do
    match ← peek with
    | none => refuse .unterminatedComment ((← tell) - start)
    | some token =>
      advance
      if token == .plain ')' then return else comment start fuel

/-- Passes over what is left of a line. -/
def restOfLine : (fuel : Nat) → Reading Unit
  | 0 => return
  | fuel + 1 => do
    match ← take with
    | none | some (.plain '\n') => return
    | some _ => restOfLine fuel

/-- Whether a token is passed over as a blank. -/
def isSkipped (scope : Scope) : Token → Bool
  | .plain c => scope.verbose && (c == ' ' || (9 ≤ c.toNat && c.toNat ≤ 13))
  | _ => false

/-- Refuses a group name that is no identifier. -/
def checkName (name : String) : Reading Unit := do
  if !Text.isIdentifier name.toList then refuse (.badGroupName name) (name.length + 1)

/-- Begins a group and gives its number. -/
def openGroup (name : Option String) : Reading Nat := do
  let r ← get
  let number := r.groups.length
  match name with
  | none => pure ()
  | some name =>
    match r.names.lookup name with
    | some former => refuse (.redefinedGroup name number former) (name.length + 1)
    | none => modify fun r => { r with names := (name, number) :: r.names }
  modify fun r => { r with groups := r.groups ++ [none] }
  return number

/-- Ends a group that takes the texts of `body`. -/
def closeGroup (number : Nat) (body : Node) : Reading Unit :=
  modify fun r => { r with groups := r.groups.set number (some (body.width r.widthOf)) }

/-- A reference to a group by its name, after `(?P=`. -/
def namedReference (scope : Scope) : Reading Node := do
  let name ← readName ')' "group name"
  checkName name
  match (← get).names.lookup name with
  | none => refuse (.unknownGroup name) (name.length + 1)
  | some group =>
    if !(← get).hasEnded group then refuse .openGroup (name.length + 1)
    checkLookbehind group
    return .reference scope group

/-- The largest number of groups. -/
def groupLimit : Nat := 1073741823

/-- The group that a condition names. -/
def conditionGroup : Reading Nat := do
  let name ← readName ')' "group name"
  let back := name.length + 1
  let group ←
    if Text.isIdentifier name.toList then
      match (← get).names.lookup name with
      | some group => pure group
      | none => refuse (.unknownGroup name) back
    else
      match Number.whole name with
      | .ok (.ofNat 0) => refuse .badGroupNumber back
      | .ok (.ofNat group) =>
        if groupLimit ≤ group then refuse (.invalidReference group) back
        let position := (← tell) - back
        modify fun r =>
          if (r.references.lookup group).isSome then r
          else { r with references := r.references ++ [(group, position)] }
        pure group
      | _ => refuse (.badGroupName name) back
  checkLookbehind group
  return group

/-- What a bracket gives. -/
inductive Bracket where
  /-- A tree. -/
  | node (node : Node)
  /-- Nothing, as a comment does. -/
  | nothing
  /-- Flags for the whole pattern. -/
  | flags

/-- What the characters after `(?` announce. -/
inductive Opening where
  /-- A group, with its name if it has one. -/
  | group (name : Option String)
  /-- A bracket that is no group, with the flags it sets. -/
  | plain (on off : List Flag)
  /-- A bracket whose first way is the only one. -/
  | atomic
  /-- A look ahead, or behind. -/
  | look (behind negated : Bool)
  | condition (group : Nat)
  /-- Something already read to its end. -/
  | done (bracket : Bracket)

/-- Reads the opening of a bracket that began at `start`. -/
def opening (scope : Scope) (start : Nat) : Reading Opening := do
  if !(← accept '?') then return .group none
  match ← take with
  | none => refuse .unexpectedEnd 0
  | some (.plain 'P') =>
    if ← accept '<' then
      let name ← readName '>' "group name"
      checkName name
      return .group (some name)
    else if ← accept '=' then return .done (.node (← namedReference scope))
    else match ← take with
      | none => refuse .unexpectedEnd 0
      | some token =>
        refuse (.unknownExtension ("?P" ++ String.ofList token.text)) (token.text.length + 2)
  | some (.plain ':') => return .plain [] []
  | some (.plain '#') =>
    comment start ((← get).rest.length + 1)
    return .done .nothing
  | some (.plain '=') => return .look false false
  | some (.plain '!') => return .look false true
  | some (.plain '<') =>
    match ← take with
    | none => refuse .unexpectedEnd 0
    | some (.plain '=') => return .look true false
    | some (.plain '!') => return .look true true
    | some token =>
      refuse (.unknownExtension ("?<" ++ String.ofList token.text)) (token.text.length + 2)
  | some (.plain '(') => return .condition (← conditionGroup)
  | some (.plain '>') => return .atomic
  | some (.plain '-') => ofFlags (← flagGroup none)
  | some token => match token.flag? with
    | some flag => ofFlags (← flagGroup (some flag))
    | none => refuse (.unknownExtension ("?" ++ String.ofList token.text)) (token.text.length + 1)
where
  /-- The opening that flags announce. -/
  ofFlags : FlagGroup → Reading Opening
    | .whole => return .done .flags
    | .part on off => return .plain on off

mutual

/-- A choice of rows. At the `outermost` level the flags for the whole pattern are in force. -/
def choices : (fuel : Nat) → Scope → (outermost : Bool) → Reading Node
  | 0, _, _ => return .empty
  | fuel + 1, scope, outermost => do
    let first ← row fuel scope outermost []
    return .choice first (← moreChoices fuel scope outermost)

/-- The rows of a choice after the first. -/
def moreChoices : (fuel : Nat) → Scope → (outermost : Bool) → Reading (List Node)
  | 0, _, _ => return []
  | fuel + 1, scope, outermost => do
    if ← accept '|' then
      let flags := (← get).flags
      let node ← row fuel (if outermost then Scope.ofFlags flags else scope) false []
      return node :: (← moreChoices fuel scope outermost)
    else return []

/-- A row after `items`, the latest first. Flags for the whole pattern may stand at its beginning
if it is the `first` of the pattern. -/
def row : (fuel : Nat) → Scope → (first : Bool) → List Node → Reading Node
  | 0, _, _, items => return .row items.reverse
  | fuel + 1, scope, first, items => do
    match ← peek with
    | none | some .dangling | some (.plain '|') | some (.plain ')') => return .row items.reverse
    | some token =>
      advance
      if isSkipped scope token then row fuel scope first items
      else match token with
        | .escape c => row fuel scope first ((← escape scope c) :: items)
        | .plain '#' =>
          if scope.verbose then
            restOfLine ((← get).rest.length + 1)
            row fuel scope first items
          else row fuel scope first (.char scope (.one '#'.toNat) :: items)
        | .plain '.' => row fuel scope first (.any scope.dotAll :: items)
        | .plain '^' =>
          let place := if scope.multiLine then .lineStart else Place.textStart
          row fuel scope first (.place place :: items)
        | .plain '$' =>
          let place := if scope.multiLine then .lineEnd else Place.finalEnd
          row fuel scope first (.place place :: items)
        | .plain '[' => row fuel scope first ((← charSet scope) :: items)
        | .plain '(' =>
          let start := (← tell) - 1
          match ← bracket fuel scope start with
          | .node node => row fuel scope first (node :: items)
          | .nothing => row fuel scope first items
          | .flags =>
            -- flags for the whole pattern are in force from here on as well
            if !first || !items.isEmpty then refuse .flagsNotAtStart ((← tell) - start)
            row fuel (Scope.ofFlags (← get).flags) first items
        | .plain c =>
          if c == '*' || c == '+' || c == '?' || c == '\x7b' then
            row fuel scope first (← repetition scope c items)
          else row fuel scope first (.char scope (.one c.toNat) :: items)
        | .dangling => return .row items.reverse

/-- A bracket that began at `start`. -/
def bracket : (fuel : Nat) → Scope → (start : Nat) → Reading Bracket
  | 0, _, _ => return .nothing
  | fuel + 1, scope, start => do
    match ← opening scope start with
    | .done bracket => return bracket
    | .group name =>
      let number ← openGroup name
      let body ← choices fuel scope false
      closeBracket start
      closeGroup number body
      return .node (.group (some number) body)
    | .plain on off =>
      let body ← choices fuel (scope.change on off) false
      closeBracket start
      return .node (.group none body)
    | .atomic =>
      let body ← choices fuel scope false
      closeBracket start
      return .node (.atomic body)
    | .look false negated =>
      let body ← choices fuel scope false
      closeBracket start
      return .node (.ahead negated body)
    | .look true negated =>
      -- only the outermost look-behind counts: groups from its first on are its own
      let outer := (← get).lookbehind
      modify fun r => { r with lookbehind := some (outer.getD r.groups.length) }
      let body ← choices fuel scope false
      modify fun r => { r with lookbehind := outer }
      closeBracket start
      return .node (.behind negated (body.width (← get).widthOf).1 body)
    | .condition group =>
      let yes ← row fuel scope false []
      let no ← if ← accept '|' then row fuel scope false [] else pure .empty
      if (← peek) == some (.plain '|') then refuse .threeBranches 0
      closeBracket start
      return .node (.condition group yes no)

end

end Relink.Pattern
