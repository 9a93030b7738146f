import Relink.Fix.Job
import Relink.Settings.Connection

/-!
# The life of a store

A store holds a collection, which was handed to it or which it reached through a client of its
own. Connecting makes a client and asks the server whether it answers; disconnecting closes the
client that the store made.

* `connect_of_attached`: a store that holds a collection contacts no server.
* `connect_failed`: a failed attempt leaves the store as it was.
* `disconnect_idle`: without a client of its own a store has nothing to close.
-/

namespace Relink

/-- How the server answers: the errors that meet the clients yet to be made, and the questions
yet to be asked, in order. -/
structure Server where
  /-- The outcomes of making clients. -/
  openings : List (Option Failure) := []
  /-- The outcomes of asking whether the server answers. -/
  pings : List (Option Failure) := []
  /-- The number of clients that were to be made so far. -/
  clients : Nat := 0

namespace Server

/-- The outcome of making the next client. -/
def opening (server : Server) : Option Failure × Server :=
  (server.openings.head?.join,
    { server with openings := server.openings.tail, clients := server.clients + 1 })

/-- The outcome of asking whether the server answers. -/
def ping (server : Server) : Option Failure × Server :=
  (server.pings.head?.join, { server with pings := server.pings.tail })

end Server

/-- A store. -/
structure Store where
  /-- How the database is reached, if the store is to connect itself. -/
  connection : Option Connection
  /-- The client that the store made. -/
  client : Option Nat := none
  /-- Whether the store holds a collection. -/
  attached : Bool := false
  deriving DecidableEq, Repr

/-- What comes of a step of a store. -/
structure Contact (α : Type) where
  outcome : Except Failure α
  /-- The store afterwards. -/
  store : Store
  /-- The server afterwards. -/
  server : Server
  /-- What was left behind, in order. -/
  trace : List Event

namespace Connection

/-- The options with which a client is made. -/
def clientOptions (c : Connection) : ClientOptions where
  connectTimeout := c.connectTimeout * 1000
  socketTimeout := c.queryTimeout * 1000
  encrypted := c.encrypted
  credentials := if c.username == "" then none else some (c.username, c.password)

/-- The fault of a connection that cannot be made. -/
def failure (c : Connection) (cause : Failure) : Failure :=
  if cause.isDriver then
    .reported (.plain .connection "Failed to connect to MongoDB"
      (Entries.putAll [("database", .text c.database)] (Fault.connectionEntries c.uri)))
      (some cause)
  else cause

end Connection

namespace Store

/-- The fault of a store that holds no collection. -/
def detached (message : String) : Failure :=
  .reported (.plain .connection message [("is_connected", .bool false)]) none

/-- A store made from settings, or from a collection that is handed to it. -/
def make (connection : Option Connection) (collection : Bool) : Except Failure Store :=
  if connection.isNone && !collection then
    .error (.value "Either a MongoDB config or a collection is required")
  else .ok { connection, attached := collection }

/-- Whether there is a collection to work on. -/
def collection (store : Store) : Except Failure Unit :=
  if store.attached then .ok () else .error (detached "Not connected to MongoDB")

/-- Connects, unless the store holds a collection already. -/
def connect (store : Store) (server : Server) : Contact Unit :=
  if store.attached then ⟨.ok (), store, server, []⟩
  else match store.connection with
  | none => ⟨.error (detached "No MongoDB configuration to connect with"), store, server, []⟩
  | some c =>
    let begun := Event.record ⟨.debug, "Connecting to MongoDB", [("uri", .text c.shown)]⟩
    let client := server.clients
    let opened := Event.server (.opened client c.uri c.clientOptions)
    match server.opening with
    | (some cause, server) => ⟨.error (c.failure cause), store, server, [begun, opened]⟩
    | (none, server) =>
      let pinged := Event.server (.pinged client)
      match server.ping with
      -- the client is given up without being closed
      | (some cause, server) => ⟨.error (c.failure cause), store, server, [begun, opened, pinged]⟩
      | (none, server) =>
        ⟨.ok (), { store with client := some client, attached := true }, server,
          [begun, opened, pinged, .server (.selected client c.database c.collection),
            .record ⟨.info, "Connected to MongoDB",
              [("database", .text c.database), ("collection", .text c.collection)]⟩]⟩

/-- Closes the client that the store made, and lets go of the collection with it. -/
def disconnect (store : Store) : Store × List Event :=
  match store.client with
  | none => (store, [])
  | some client =>
    ({ store with client := none, attached := false },
      [.server (.closed client), .record ⟨.debug, "MongoDB connection closed", []⟩])

/-- Finds documents, if the store holds a collection. -/
def find (store : Store) (request : FindRequest) : Job (List Document) :=
  match store.collection with
  | .ok () => .find request .done
  | .error failure => .fail failure

/-- Updates a document, if the store holds a collection. -/
def update (store : Store) (request : UpdateRequest) : Job Bool :=
  match store.collection with
  | .ok () => .update request .done
  | .error failure => .fail failure

/-- The store after its collection was taken from it from outside, as anyone who holds the store can
do. No step of the store leads here: the client that it made is still open. -/
def forget (store : Store) : Store := { store with attached := false }

theorem connect_of_attached {store : Store} (h : store.attached = true) (server : Server) :
    store.connect server = ⟨.ok (), store, server, []⟩ := by
  simp [connect, h]

/-- **A failed attempt leaves the store as it was.** -/
theorem connect_failed {store : Store} {server : Server} {failure : Failure}
    (h : (store.connect server).outcome = .error failure) :
    (store.connect server).store = store := by
  unfold connect at h ⊢
  split
  · rfl
  · split
    · rfl
    · split
      · rfl
      · split
        · rfl
        · simp_all

theorem disconnect_idle {store : Store} (h : store.client = none) :
    store.disconnect = (store, []) := by
  simp [disconnect, h]

end Store

end Relink
