import Relink.Failure.Report
import Relink.Log
import Relink.Store.Collection

/-!
# Calls and events

The two calls that the fixer makes to the collection, and everything that a run leaves behind:
lines of the audit trail, log records, calls, and what the server was asked for.
-/

namespace Relink

/-- A request to find documents. -/
structure FindRequest where
  filter : Filter
  /-- The path to which the documents are cut down. -/
  projection : Option String
  /-- The cap on the number of documents, zero for none. -/
  limit : Int

/-- A request to set one field of one document. -/
structure UpdateRequest where
  /-- The id of the document. -/
  id : Value
  path : String
  /-- The value that the field has to hold. -/
  old : String
  /-- The value that it is set to. -/
  new : String

namespace FindRequest

/-- The failure that a find ends with when the call fails. -/
def failure (request : FindRequest) (cause : Failure) : Failure :=
  cause.ofCall [("operation", .text "find"), ("query", .map request.filter.fields)]

/-- The cap as it is recorded, none if the cursor was not capped. -/
def cap (request : FindRequest) : Option Int :=
  if request.limit = 0 then none else some request.limit

end FindRequest

namespace UpdateRequest

/-- The filter for the document, provided it still holds the old value. -/
def filter (request : UpdateRequest) : Filter :=
  .expecting request.id request.path request.old

/-- The failure that an update ends with when the call fails. -/
def failure (request : UpdateRequest) (cause : Failure) : Failure :=
  cause.ofCall [("operation", .text "update_one"), ("document_id", .text request.id.printed),
    ("field_path", .text request.path)]

/-- The change that the update asks for, as a value. -/
def change (request : UpdateRequest) : Value :=
  .map [("$set", .map [(request.path, .text request.new)])]

end UpdateRequest

/-- A call to the collection. -/
inductive Call where
  /-- A find, with the cap if the cursor was capped. -/
  | find (request : FindRequest) (cap : Option Int)
  | update (request : UpdateRequest)

/-- The options with which a client is made. -/
structure ClientOptions where
  /-- The time to connect, in milliseconds. -/
  connectTimeout : Int
  /-- The time for an answer, in milliseconds. -/
  socketTimeout : Int
  /-- Whether the connection is encrypted. -/
  encrypted : Bool
  /-- The name and the password of the user, if there is one. -/
  credentials : Option (String × String)
  deriving DecidableEq, Repr

/-- What the server is asked for, by which client. -/
inductive ServerEvent where
  /-- A client is made, or was to be made. -/
  | opened (client : Nat) (uri : String) (options : ClientOptions)
  /-- The server is asked whether it answers. -/
  | pinged (client : Nat)
  /-- A collection is chosen. -/
  | selected (client : Nat) (database collection : String)
  | closed (client : Nat)
  deriving DecidableEq, Repr

/-- What a run leaves behind. -/
inductive Event where
  /-- A line of the audit trail. -/
  | line (text : String)
  /-- A log record. -/
  | record (record : Record)
  /-- A call to the collection. -/
  | call (call : Call)
  /-- Something the server was asked for. -/
  | server (event : ServerEvent)

namespace Event

/-- The lines among some events. -/
def lines (events : List Event) : List String :=
  events.filterMap fun | line text => some text | _ => none

/-- The records among some events. -/
def records (events : List Event) : List Record :=
  events.filterMap fun | record r => some r | _ => none

/-- The calls among some events. -/
def calls (events : List Event) : List Call :=
  events.filterMap fun | call c => some c | _ => none

theorem lines_append (first rest : List Event) :
    lines (first ++ rest) = lines first ++ lines rest := List.filterMap_append ..

theorem calls_append (first rest : List Event) :
    calls (first ++ rest) = calls first ++ calls rest := List.filterMap_append ..

/-- What the server was asked for among some events. -/
def servers (events : List Event) : List ServerEvent :=
  events.filterMap fun | server e => some e | _ => none

end Event

end Relink
