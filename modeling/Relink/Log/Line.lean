import Relink.Log
import Relink.Pattern.Basic

/-!
# Lines of the log

A line format names the fields of a record in directives such as `%(message)s`, with flags, a
width and a precision. A format without any directive is refused.
-/

namespace Relink.Log

/-- A record as a line shows it. -/
structure Entry where
  logger : String
  level : Level
  text : String

/-- A field of a record. -/
inductive Field where
  | text (value : String)
  | number (value : Int)

/-- The words for colours. -/
def colours : List String :=
  ["black", "red", "green", "yellow", "blue", "purple", "cyan", "white"]

/-- The words for shades, which stand before a colour. -/
def shades : List String :=
  ["", "bold_", "thin_", "light_", "fg_", "fg_bold_", "fg_thin_", "fg_light_", "bg_", "bg_bold_",
    "bg_light_"]

/-- Whether a name stands for a colour or a style, of which a line keeps nothing. -/
def isColour (name : String) : Bool :=
  ["log_color", "reset", "bold", "thin"].contains name ||
    shades.any fun shade => colours.any fun colour => name == shade ++ colour

/-- The field with a name. -/
def Entry.field? (entry : Entry) (name : String) : Option Field :=
  match name with
  | "message" | "msg" => some (.text entry.text)
  | "name" => some (.text entry.logger)
  | "levelname" => some (.text entry.level.name)
  | "levelno" => some (.number entry.level.number)
  | name => if isColour name then some (.text "") else none

/-- A directive of a format. -/
structure Directive where
  name : String
  flags : List Char
  /-- The least width. -/
  width : Nat
  /-- The greatest number of characters. -/
  precision : Option Nat
  /-- The letter of the conversion. -/
  conversion : Char
  deriving DecidableEq, Repr

/-- The number that leading ASCII digits write, if there are any, and what follows them. -/
def takeNumber (cs : List Char) : Option Nat × List Char :=
  let digits := cs.takeWhile Text.isAsciiDigit
  (if digits.isEmpty then none
    else some (digits.foldl (fun acc c => acc * 10 + (c.toNat - 48)) 0), cs.drop digits.length)

/-- The directive after a percent sign, and what follows it. -/
def directive? (cs : List Char) : Option (Directive × List Char) :=
  match cs with
  | '(' :: rest =>
    let name := rest.takeWhile Text.isWordChar
    match rest.drop name.length with
    | ')' :: rest =>
      let flags := rest.takeWhile fun c => "#0+ -".toList.contains c
      let (width, rest) := takeNumber (rest.drop flags.length)
      let (precision, rest) := match rest with
        | '.' :: more => (some ((takeNumber more).1.getD 0), (takeNumber more).2)
        | _ => (none, rest)
      match rest with
      | c :: rest =>
        if name.isEmpty || !"diouxefgcrsaDIOUXEFGCRSA%".toList.contains c then none
        else some (⟨String.ofList name, flags, width.getD 0, precision, c⟩, rest)
      | [] => none
    | _ => none
  | _ => none

/-- What a directive looks like, as a pattern. -/
def directivePattern : String :=
  "(?i)%\\(\\w+\\)[#0+ -]*(\\*|\\d+)?(\\.(\\*|\\d+))?[diouxefgcrsa%]"

/-- Whether a format has a directive. -/
def hasDirective (format : String) : Bool :=
  match Pattern.read directivePattern with
  | .ok pattern => pattern.found format
  | .error _ => false

/-- A text brought to a width. -/
def padded (d : Directive) (fill : Char) (cs : List Char) : List Char :=
  let blanks := List.replicate (d.width - cs.length)
  if d.flags.contains '-' then cs ++ blanks ' ' else blanks fill ++ cs

/-- A text cut to the precision and brought to the width. -/
def Directive.ofText (d : Directive) (s : String) : List Char :=
  padded d ' ' (s.toList.take (d.precision.getD s.length))

/-- A number with at least as many digits as the precision says, brought to the width. -/
def Directive.ofNumber (d : Directive) (n : Int) : List Char :=
  let sign :=
    if n < 0 then ['-']
    else if d.flags.contains '+' then ['+']
    else if d.flags.contains ' ' then [' ']
    else []
  let digits := (toString n.natAbs).toList
  let digits := List.replicate (d.precision.getD 0 - digits.length) '0' ++ digits
  if d.flags.contains '0' && !d.flags.contains '-' then
    sign ++ padded { d with width := d.width - sign.length } '0' digits
  else padded d ' ' (sign ++ digits)

/-- A field as a directive shows it. -/
def Directive.shown (d : Directive) (field : Field) : Option (List Char) :=
  match d.conversion, field with
  | 's', .text s => some (d.ofText s)
  | 'r', .text s => some (d.ofText (Text.quoted s))
  | 's', .number n | 'r', .number n | 'a', .number n => some (d.ofText (toString n))
  | 'd', .number n | 'i', .number n | 'u', .number n => some (d.ofNumber n)
  | _, _ => none

/-- A record in a format, with at most `fuel` parts; `none` if it cannot be shown so. -/
def render (entry : Entry) : (fuel : Nat) → List Char → Option (List Char)
  | _, [] => some []
  | 0, _ => none
  | fuel + 1, '%' :: '%' :: rest => (render entry fuel rest).map ('%' :: ·)
  | fuel + 1, '%' :: rest => do
    let (d, rest) ← directive? rest
    let field ← entry.field? d.name
    return (← d.shown field) ++ (← render entry fuel rest)
  | fuel + 1, c :: rest => (render entry fuel rest).map (c :: ·)

/-- The format of a line, the plain message if none is given. -/
def lineFormat (format : String) : String := if format == "" then "%(message)s" else format

/-- The line of a record in a format. -/
def line? (format : String) (entry : Entry) : Option String :=
  let cs := (lineFormat format).toList
  (render entry (cs.length + 1) cs).map String.ofList

/-- The line of a record in the log file, without its time. -/
def fileLine (entry : Entry) : String :=
  entry.level.name ++ ":" ++ entry.logger ++ ":" ++ entry.text

end Relink.Log
