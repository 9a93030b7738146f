/-!
# Flags of a pattern

Flags are set for a whole pattern or for a part of it. A `Scope` holds what the flags in force say.

* `ofChar?_letter`: a flag is found by its letter.
-/

namespace Relink.Pattern

/-- A flag that a pattern can set. -/
inductive Flag where
  /-- Upper and lower case count as equal. -/
  | ignoreCase
  /-- Classes follow the locale. -/
  | locale
  /-- Line ends count as text ends. -/
  | multiLine
  /-- The dot stands for every character. -/
  | dotAll
  /-- Blanks and comments are passed over. -/
  | verbose
  /-- Classes hold ASCII only. -/
  | ascii
  /-- Repetition is not allowed. -/
  | template
  /-- Classes follow Unicode. -/
  | unicode
  deriving DecidableEq, Repr

namespace Flag

/-- The letter of a flag. -/
def letter : Flag → Char
  | ignoreCase => 'i'
  | locale => 'L'
  | multiLine => 'm'
  | dotAll => 's'
  | verbose => 'x'
  | ascii => 'a'
  | template => 't'
  | unicode => 'u'

/-- The flag with a letter. -/
def ofChar? (c : Char) : Option Flag :=
  [ignoreCase, locale, multiLine, dotAll, verbose, ascii, template, unicode].find? (·.letter == c)

theorem ofChar?_letter (flag : Flag) : ofChar? flag.letter = some flag := by cases flag <;> rfl

/-- Whether a flag says which characters the classes hold. -/
def isKind : Flag → Bool
  | ascii | locale | unicode => true
  | _ => false

/-- Whether a flag holds for the whole pattern only. -/
def isGlobal : Flag → Bool
  | template => true
  | _ => false

end Flag

/-- The flags in force at a place of a pattern. -/
structure Scope where
  /-- Upper and lower case count as equal. -/
  ignoreCase : Bool := false
  /-- Line ends count as text ends. -/
  multiLine : Bool := false
  /-- The dot stands for every character. -/
  dotAll : Bool := false
  /-- Blanks and comments are passed over. -/
  verbose : Bool := false
  /-- Classes hold ASCII only. -/
  ascii : Bool := false
  deriving DecidableEq, Repr

/-- The scope with some flags turned on and others off. A flag for the classes turned on replaces
the one in force. -/
def Scope.change (scope : Scope) (on off : List Flag) : Scope where
  ignoreCase := (scope.ignoreCase || on.contains .ignoreCase) && !off.contains .ignoreCase
  multiLine := (scope.multiLine || on.contains .multiLine) && !off.contains .multiLine
  dotAll := (scope.dotAll || on.contains .dotAll) && !off.contains .dotAll
  verbose := (scope.verbose || on.contains .verbose) && !off.contains .verbose
  ascii := if on.any Flag.isKind then on.contains .ascii else scope.ascii

/-- The scope that flags for the whole pattern give. -/
def Scope.ofFlags (flags : List Flag) : Scope := Scope.change {} flags []

end Relink.Pattern
