import Relink.Document.Printed
import Relink.Failure.Driver
import Relink.Uri

/-!
# Failures

A failure is either raised by something outside, such as a call to the database, or it is a fault
that the tool itself reports, with a code, a context in order, a suggestion and perhaps the
failure that caused it.
-/

namespace Relink

/-- The kind of a fault that the tool reports. -/
inductive Fault.Kind where
  /-- Any fault. -/
  | general
  /-- A fault of the document store. -/
  | store
  /-- The connection to the document store failed. -/
  | connection
  /-- A call to the document store failed. -/
  | query
  /-- A document does not hold the expected text. -/
  | malformed
  deriving DecidableEq, Repr

/-- A fault that the tool reports. -/
structure Fault where
  kind : Fault.Kind
  /-- What went wrong. -/
  message : String
  /-- A code, for programs. -/
  code : Option String
  /-- What it was about, in order. -/
  context : Entries Value
  /-- What to do about it. -/
  suggestion : Option String

/-- The kind of a failure from outside. -/
inductive Failure.Kind where
  /-- An error of the database driver. -/
  | driver (kind : Failure.DriverKind)
  /-- A document that cannot be stored. -/
  | invalidDocument
  /-- A document too large to be stored. -/
  | documentTooLarge
  /-- A value out of place. -/
  | value
  /-- A failure while running. -/
  | runtime
  /-- A key that is not there. -/
  | key
  /-- A value of a kind out of place. -/
  | type
  /-- A failure of the system. -/
  | system
  /-- A number out of range. -/
  | overflow
  /-- Any failure. -/
  | general
  deriving DecidableEq, Repr

/-- A failure. -/
inductive Failure where
  /-- A failure from outside. -/
  | raised (kind : Failure.Kind) (message : String)
  /-- A fault that the tool reports, with its cause if it has one. -/
  | reported (fault : Fault) (cause : Option Failure)

namespace Fault

/-- A non-empty text, as a part that may be missing. -/
def nonEmpty (s : Option String) : Option String := s.filter (· != "")

/-- The text of a fault, given that of its cause. -/
def text (fault : Fault) (cause : Option String) : String :=
  let code := match nonEmpty fault.code with
    | some code => "[" ++ code ++ "] "
    | none => ""
  let context :=
    if fault.context.isEmpty then ""
    else " (context: " ++
      ", ".intercalate (fault.context.map fun entry => entry.1 ++ "=" ++ entry.2.printed) ++ ")"
  let cause := match cause with
    | some cause => " (caused by: " ++ cause ++ ")"
    | none => ""
  let suggestion := match nonEmpty fault.suggestion with
    | some suggestion => " (suggestion: " ++ suggestion ++ ")"
    | none => ""
  code ++ fault.message ++ context ++ cause ++ suggestion

end Fault

namespace Failure

mutual

/-- The text of a failure. A missing key is named in quotes. -/
def text : Failure → String
  | raised .key message => Text.quoted message
  | raised _ message => message
  | reported fault cause => fault.text (textOf cause)

/-- The text of a failure that may be missing. -/
def textOf : Option Failure → Option String
  | some failure => some (text failure)
  | none => none

end

/-- A value out of place. -/
def value (message : String) : Failure := raised .value message

end Failure

end Relink
