import Relink.Number.Whole

/-!
# Faults of a pattern

What can be wrong with a pattern, and the wording. A fault that has a place in the pattern names
it, with line and column when the pattern has several lines.
-/

namespace Relink.Pattern

/-- How a repetition takes its turns. -/
inductive Greed where
  /-- As many as possible first. -/
  | greedy
  /-- As few as possible first. -/
  | lazy
  /-- As many as possible, without giving back. -/
  | possessive
  deriving DecidableEq, Repr

/-- The word for a greed in complaints. -/
def Greed.word : Greed → String
  | .greedy => "MAX_REPEAT"
  | .lazy => "MIN_REPEAT"
  | .possessive => "POSSESSIVE_REPEAT"

/-- What is wrong with a pattern. -/
inductive Complaint where
  /-- The pattern ends after a backslash. -/
  | danglingEscape
  /-- An escape lacks digits. -/
  | incompleteEscape (escape : String)
  /-- An escape has no meaning. -/
  | badEscape (escape : String)
  /-- An octal escape is above 255. -/
  | octalTooLarge (escape : String)
  /-- No brace opens the name of a character. -/
  | noBrace
  /-- No character has this name. -/
  | undefinedCharacter (name : String)
  /-- A name is empty; `what` says which. -/
  | noName (what : String)
  /-- A name is not ended by its terminator. -/
  | unterminatedName (terminator : Char)
  /-- A group name has a character that no name has. -/
  | badGroupName (name : String)
  /-- No group has this name. -/
  | unknownGroup (name : String)
  /-- Two groups have one name. -/
  | redefinedGroup (name : String) (group former : Nat)
  /-- A group is referred to before it ends. -/
  | openGroup
  /-- A group is referred to in the look-behind that defines it. -/
  | sameLookbehind
  /-- No group has this number. -/
  | invalidReference (group : Nat)
  /-- A condition names group zero. -/
  | badGroupNumber
  /-- A condition has more than two branches. -/
  | threeBranches
  /-- A set of characters is not ended. -/
  | unterminatedSet
  /-- A range does not run upward between two characters. -/
  | badRange (first last : String)
  /-- A repetition has nothing before it. -/
  | nothingToRepeat
  /-- A repetition follows a repetition. -/
  | multipleRepeat
  /-- A repetition's least count exceeds its greatest. -/
  | leastAboveGreatest
  /-- The pattern ends within the opening of a group. -/
  | unexpectedEnd
  /-- The opening of a group has no meaning. -/
  | unknownExtension (text : String)
  /-- A comment is not ended. -/
  | unterminatedComment
  /-- A group is not ended. -/
  | unterminatedGroup
  /-- A group is ended that was not begun. -/
  | unbalanced
  /-- Flags for the whole pattern do not stand at its start. -/
  | flagsNotAtStart
  /-- The flag for the locale is not allowed. -/
  | localeFlag
  /-- Two flags for the classes are set at once. -/
  | conflictingKinds
  /-- A letter is no flag. -/
  | unknownFlag
  /-- The list of flags is not ended. -/
  | flagsNotEnded
  /-- No flag follows the minus. -/
  | noFlag
  /-- No colon follows the flags turned off. -/
  | noColon
  /-- A flag for the whole pattern is turned on for a part. -/
  | globalOn
  /-- A flag for the whole pattern is turned off for a part. -/
  | globalOff
  /-- A flag for the classes is turned off. -/
  | kindOff
  /-- A flag is turned on and off. -/
  | onAndOff
  /-- A look-behind has no fixed width. -/
  | variableLookbehind
  /-- A look-behind is too wide. -/
  | wideLookbehind
  /-- A repetition stands where none is allowed. -/
  | templateRepeat (greed : Greed)
  deriving DecidableEq, Repr

/-- The wording of a complaint. -/
def Complaint.text : Complaint → String
  | danglingEscape => "bad escape (end of pattern)"
  | incompleteEscape escape => "incomplete escape " ++ escape
  | badEscape escape => "bad escape " ++ escape
  | octalTooLarge escape => "octal escape value " ++ escape ++ " outside of range 0-0o377"
  | noBrace => "missing \x7b"
  | undefinedCharacter name => "undefined character name " ++ Text.quoted name
  | noName what => "missing " ++ what
  | unterminatedName terminator => s!"missing {terminator}, unterminated name"
  | badGroupName name => "bad character in group name " ++ Text.quoted name
  | unknownGroup name => "unknown group name " ++ Text.quoted name
  | redefinedGroup name group former =>
    "redefinition of group name " ++ Text.quoted name ++ s!" as group {group}; was group {former}"
  | openGroup => "cannot refer to an open group"
  | sameLookbehind => "cannot refer to group defined in the same lookbehind subpattern"
  | invalidReference group => s!"invalid group reference {group}"
  | badGroupNumber => "bad group number"
  | threeBranches => "conditional backref with more than two branches"
  | unterminatedSet => "unterminated character set"
  | badRange first last => "bad character range " ++ first ++ "-" ++ last
  | nothingToRepeat => "nothing to repeat"
  | multipleRepeat => "multiple repeat"
  | leastAboveGreatest => "min repeat greater than max repeat"
  | unexpectedEnd => "unexpected end of pattern"
  | unknownExtension text => "unknown extension " ++ text
  | unterminatedComment => "missing ), unterminated comment"
  | unterminatedGroup => "missing ), unterminated subpattern"
  | unbalanced => "unbalanced parenthesis"
  | flagsNotAtStart => "global flags not at the start of the expression"
  | localeFlag => "bad inline flags: cannot use 'L' flag with a str pattern"
  | conflictingKinds => "bad inline flags: flags 'a', 'u' and 'L' are incompatible"
  | unknownFlag => "unknown flag"
  | flagsNotEnded => "missing -, : or )"
  | noFlag => "missing flag"
  | noColon => "missing :"
  | globalOn => "bad inline flags: cannot turn on global flag"
  | globalOff => "bad inline flags: cannot turn off global flag"
  | kindOff => "bad inline flags: cannot turn off flags 'a', 'u' and 'L'"
  | onAndOff => "bad inline flags: flag turned on and off"
  | variableLookbehind => "look-behind requires fixed-width pattern"
  | wideLookbehind => "looks too much behind"
  | templateRepeat greed => "internal: unsupported template operator " ++ greed.word

/-- Why a pattern is refused. -/
inductive Fault where
  /-- A complaint, with its place if it has one. -/
  | malformed (complaint : Complaint) (position : Option Nat)
  /-- A count of a repetition is out of range. -/
  | countTooLarge
  /-- A count of a repetition has too many digits. -/
  | count (fault : Number.Fault)
  /-- The number of an escaped character is far out of range. -/
  | codeTooLarge
  /-- The flags of the whole pattern ask for ASCII and for Unicode. -/
  | conflictingFlags
  deriving DecidableEq, Repr

/-- The line and the column of a position, both counted from one. -/
def lineAndColumn (pattern : List Char) (position : Nat) : Nat × Nat :=
  let before := pattern.take position
  (before.count '\n' + 1, (before.reverse.takeWhile (· ≠ '\n')).length + 1)

/-- The wording of a fault in `pattern`. -/
def Fault.message (pattern : String) : Fault → String
  | malformed complaint none => complaint.text
  | malformed complaint (some position) =>
    let place := complaint.text ++ s!" at position {position}"
    if pattern.toList.contains '\n' then
      let (line, column) := lineAndColumn pattern.toList position
      place ++ s!" (line {line}, column {column})"
    else place
  | countTooLarge => "the repetition number is too large"
  | count fault => fault.message
  | codeTooLarge => "Python int too large to convert to C int"
  | conflictingFlags => "ASCII and UNICODE flags are incompatible"

end Relink.Pattern
