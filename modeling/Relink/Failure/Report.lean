import Relink.Failure.Basic

/-!
# Reporting a fault

A fault is built from a message and from entries of its own, which are put into the context that
the caller gives. A code or a suggestion that is given, be it none, stands; otherwise the kind
has its own.

* `report_none_own`: a caller who gives no map at all gets an empty context, but not with entries
  to put.
* `wrapped_driver`: an error of the driver becomes a fault of its family.
-/

namespace Relink

/-- The context that a caller gives. -/
inductive GivenContext where
  /-- None is given. -/
  | absent
  /-- The caller says that there is no context. -/
  | none
  | map (entries : Entries Value)

/-- The entries that a caller gives. -/
def GivenContext.entries : GivenContext → Entries Value
  | absent | none => []
  | map entries => entries

/-- What a caller gives for a fault besides its message. A code or a suggestion is `none` if the
caller says nothing, and `some none` if the caller says that there is none. -/
structure Fault.Given where
  context : GivenContext := .absent
  code : Option (Option String) := none
  suggestion : Option (Option String) := none

namespace Fault

/-- The code of a kind of fault. -/
def Kind.code : Kind → Option String
  | .connection => some "MONGODB_CONNECTION_FAILED"
  | .query => some "MONGODB_QUERY_FAILED"
  | .malformed => some "MALFORMED_DOCUMENT"
  | .general | .store => none

/-- The suggestion of a kind of fault. -/
def Kind.suggestion : Kind → Option String
  | .connection =>
    some "Check MONGODB_BIND_ADDR and credentials, and ensure the database is reachable"
  | _ => none

/-- The fault of a kind with a message and entries of its own. -/
def report (kind : Kind) (message : String) (own : Entries Value) (given : Given) :
    Except Failure Fault :=
  let built := fun context =>
    .ok ⟨kind, message, given.code.getD kind.code, context, given.suggestion.getD kind.suggestion⟩
  match given.context with
  | .none =>
    if own.isEmpty then built []
    else .error (.raised .type "'NoneType' object does not support item assignment")
  | context => built (context.entries.putAll own)

theorem report_none_own {kind : Kind} {message : String} {own : Entries Value} {given : Given}
    (h : given.context = .none) :
    (∃ fault, report kind message own given = .ok fault) ↔ own = [] := by
  cases own <;> simp [report, h]

/-- An entry for a text that is neither missing nor empty. -/
def textEntry (key : String) (s : Option String) : Entries Value :=
  ((nonEmpty s).map fun s => (key, .text s)).toList

/-- The own entries of a failed connection: the address without credentials. -/
def connectionEntries (uri : Option String) : Entries Value :=
  ((nonEmpty uri).map fun uri => ("uri", .text (Uri.bare uri))).toList

/-- The own entries of a failed call. -/
def queryEntries (operation path : Option String) : Entries Value :=
  textEntry "operation" operation ++ textEntry "field_path" path

/-- The own entries of a malformed document. -/
def malformedEntries (id : Value) (path : Option String) : Entries Value :=
  (match id with
    | .null => []
    | id => [("document_id", .text id.printed)]) ++ textEntry "field_path" path

/-- A fault whose context is complete as it is given. -/
def plain (kind : Kind) (message : String) (context : Entries Value) : Fault :=
  ⟨kind, message, kind.code, context, kind.suggestion⟩

/-- The kind and the message of the fault that a failed call is reported as. -/
def wrapped (failure : Failure) : Kind × String :=
  match failure with
  | .raised (.driver kind) _ =>
    match kind.family with
    | .connection => (.connection, "MongoDB connection failed: " ++ failure.text)
    | .operation => (.query, "MongoDB operation failed: " ++ failure.text)
    | .other => (.store, "MongoDB error: " ++ failure.text)
  | _ => (.store, "Document store operation failed: " ++ failure.text)

theorem wrapped_driver (kind : Failure.DriverKind) (message : String) :
    (wrapped (.raised (.driver kind) message)).1 =
      match kind.family with
      | .connection => .connection
      | .operation => .query
      | .other => .store := by
  simp only [wrapped]
  split <;> rfl

/-- The fault that a failed call is reported as, in a context. -/
def wrap (failure : Failure) (context : Entries Value) : Failure :=
  let (kind, message) := wrapped failure
  .reported (plain kind message context) (some failure)

end Fault

/-- Whether a failure is an error of the database driver. -/
def Failure.isDriver : Failure → Bool
  | .raised (.driver _) _ => true
  | _ => false

/-- The failure that a call of the store ends with, in a context: errors of the driver are
wrapped, others stay as they are. -/
def Failure.ofCall (failure : Failure) (context : Entries Value) : Failure :=
  if failure.isDriver then Fault.wrap failure context else failure

end Relink
