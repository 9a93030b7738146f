import Relink.Settings.Environment

/-!
# Files of variables

A file gives variables line by line: a name, an equals sign and a value, in quotes or without,
after an optional `export`. Lines that do not follow the form are passed over. Variables that are
set already stay; of several lines for one name the last counts.

The tool leaves the reading of a file to a library, and relies on what `lay` says: variables that are
set stay, whatever the file gives to the others. All results are about `lay`, with any pairs in
place of a file. What stands before it, `read` with its parts, stands for the library, and follows
its form except that `${NAME}` in a value stands for itself, where the library puts in the value of
the variable with that name.

* `load_of_set`: a variable that is set, be it to nothing, keeps its value.
-/

namespace Relink.EnvFile

/-- Whether a character is a blank within a line. -/
def isInnerBlank (c : Char) : Bool := Text.isBlank c && c != '\n' && c != '\r'

/-- A text with every line end written as a line feed. -/
def unifyLineEnds : List Char → List Char
  | '\r' :: '\n' :: rest => '\n' :: unifyLineEnds rest
  | '\r' :: rest => '\n' :: unifyLineEnds rest
  | c :: rest => c :: unifyLineEnds rest
  | [] => []

/-- What stands before the closing quote, and what follows it. A quote after a backslash closes
only if no other one does. -/
def quotedBody (quote : Char) : List Char → Option (List Char × List Char)
  | [] => none
  | '\\' :: c :: rest =>
    if c == quote then
      -- if no other quote follows, this one closes
      match quotedBody quote rest with
      | some (body, after) => some ('\\' :: c :: body, after)
      | none => some (['\\'], rest)
    else (quotedBody quote (c :: rest)).map fun parts => ('\\' :: parts.1, parts.2)
  | c :: rest =>
    if c == quote then some ([], rest)
    else (quotedBody quote rest).map fun parts => (c :: parts.1, parts.2)

/-- The escapes between single quotes. -/
def singleEscapes : List (Char × Char) := [('\\', '\\'), ('\'', '\'')]

/-- The escapes between double quotes. -/
def doubleEscapes : List (Char × Char) :=
  [('\\', '\\'), ('\'', '\''), ('"', '"'), ('a', '\x07'), ('b', '\x08'), ('f', '\x0c'),
    ('n', '\n'), ('r', '\r'), ('t', '\t'), ('v', '\x0b')]

/-- A text with its escapes replaced by what they stand for. -/
def unescaped (escapes : List (Char × Char)) : List Char → List Char
  | '\\' :: c :: rest =>
    match escapes.lookup c with
    | some meant => meant :: unescaped escapes rest
    | none => '\\' :: unescaped escapes (c :: rest)
  | c :: rest => c :: unescaped escapes rest
  | [] => []

/-- What stands before a comment, which begins with a blank. -/
def beforeComment : List Char → List Char
  | c :: '#' :: rest => if Text.isBlank c then [] else c :: beforeComment ('#' :: rest)
  | c :: rest => c :: beforeComment rest
  | [] => []

/-- A value and what follows it; `none` if a quote is not closed. -/
def value (cs : List Char) : Option (List Char × List Char) :=
  match cs with
  | '\'' :: rest => (quotedBody '\'' rest).map fun parts =>
    (unescaped singleEscapes parts.1, parts.2)
  | '"' :: rest => (quotedBody '"' rest).map fun parts =>
    (unescaped doubleEscapes parts.1, parts.2)
  | _ =>
    let line := cs.takeWhile fun c => c != '\n' && c != '\r'
    some ((Text.trimEnd (String.ofList (beforeComment line))).toList, cs.drop line.length)

/-- What follows an `export` with blanks after it, or else the text itself. -/
def afterExport (cs : List Char) : List Char :=
  let word := "export".toList
  if word.isPrefixOf cs then
    let rest := cs.drop word.length
    if rest.head?.any isInnerBlank then rest.dropWhile isInnerBlank else cs
  else cs

/-- A name and what follows it, the empty name at a comment; `none` if there is no name. -/
def name (cs : List Char) : Option (List Char × List Char) :=
  match cs with
  | '#' :: _ => some ([], cs)
  | '\'' :: rest =>
    let body := rest.takeWhile (· != '\'')
    match rest.drop body.length with
    | _ :: after => if body.isEmpty then none else some (body, after)
    | [] => none
  | _ =>
    let body := cs.takeWhile fun c => c != '=' && c != '#' && !Text.isBlank c
    if body.isEmpty then none else some (body, cs.drop body.length)

/-- What follows a comment and the end of the line; `none` if something else comes first. -/
def lineEnd (cs : List Char) : Option (List Char) :=
  let cs := match cs.dropWhile isInnerBlank with
    | '#' :: rest => rest.dropWhile fun c => c != '\n' && c != '\r'
    | rest => rest
  match cs with
  | [] => some []
  | c :: rest => if c == '\n' || c == '\r' then some rest else none

/-- What follows the line. -/
def afterLine (cs : List Char) : List Char := (cs.dropWhile (· != '\n')).tail

/-- One line: the name and its value if there are any, and what follows the line. -/
def binding (cs : List Char) : Option (String × Option String) × List Char :=
  match name (afterExport cs) with
  | none => (none, afterLine (afterExport cs))
  | some (key, rest) =>
    match rest.dropWhile isInnerBlank with
    | '=' :: rest =>
      let rest := rest.dropWhile isInnerBlank
      match value rest with
      | none => (none, afterLine rest)
      | some (text, rest) => match lineEnd rest with
        | some after => (some (String.ofList key, some (String.ofList text)), after)
        | none => (none, afterLine rest)
    | rest => match lineEnd rest with
      | some after => (if key.isEmpty then none else some (String.ofList key, none), after)
      | none => (none, afterLine rest)

/-- The lines of a file, with the value that each gives to its name. -/
def bindings : (fuel : Nat) → List Char → List (String × Option String)
  | 0, _ => []
  | fuel + 1, cs =>
    match cs.dropWhile Text.isBlank with
    | [] => []
    | c :: rest =>
      let (bound, after) := binding (c :: rest)
      bound.toList ++ bindings fuel after

/-- What a file gives to its names, the last line of a name counting, as the library reads it less the
expansion of variables. -/
def read (text : String) : List (String × Option String) :=
  let cs := unifyLineEnds text.toList
  (bindings (cs.length + 1) cs).reverse

/-- The environment with variables set, where they were not, to what is given to their names. -/
def lay (pairs : List (String × Option String)) (env : Environment) : Environment := fun v =>
  (env v).or ((pairs.lookup v.name).join)

/-- The environment with the variables of a file set where they were not. -/
def load (text : String) (env : Environment) : Environment := lay (read text) env

/-- **A variable that is set keeps its value.** -/
theorem load_of_set {text value : String} {env : Environment} {v : Variable}
    (h : env v = some value) : load text env v = some value := by
  simp [load, lay, h]

end Relink.EnvFile
