import Relink.Settings.Environment
import Relink.Uri

/-!
# The connection

How the database is reached: its address, the names of database and collection, the user, and
the times allowed.

* `check_ok_uri`: an accepted address has one of the two schemes.
-/

namespace Relink

/-- How the database is reached. -/
structure Connection where
  /-- The address. -/
  uri : String
  database : String
  collection : String
  /-- The name of the user, empty for none. -/
  username : String
  /-- The password of the user. -/
  password : String
  /-- Whether the connection is encrypted. -/
  encrypted : Bool
  /-- The time to connect, in seconds. -/
  connectTimeout : Int
  /-- The time for an answer, in seconds. -/
  queryTimeout : Int
  deriving DecidableEq, Repr

namespace Connection

open Settings

/-- The parts of a connection that are given; the others come from the environment. -/
structure Given where
  /-- The address. -/
  uri : Option String := none
  database : Option String := none
  collection : Option String := none
  /-- The name of the user. -/
  username : Option String := none
  /-- The password of the user. -/
  password : Option String := none
  /-- Whether the connection is encrypted. -/
  encrypted : Option Bool := none
  /-- The time to connect, in seconds. -/
  connectTimeout : Option Int := none
  /-- The time for an answer, in seconds. -/
  queryTimeout : Option Int := none

/-- Whether an address has one of the two schemes. -/
def hasScheme (uri : String) : Bool :=
  "mongodb://".toList.isPrefixOf uri.toList || "mongodb+srv://".toList.isPrefixOf uri.toList

/-- The conditions against a connection, in the order in which they are looked at. -/
def objections (c : Connection) : List (Bool × Refusal) :=
  [(Text.trim c.uri == "", .noUri), (!hasScheme c.uri, .scheme), (c.database == "", .noDatabase),
    (c.collection == "", .noCollection), (c.password != "" && c.username == "", .noUsername),
    (decide (c.connectTimeout < 1), .connectTimeout), (decide (c.queryTimeout < 1), .queryTimeout)]

/-- Refuses a connection that is not complete. -/
def check (c : Connection) : Except Refusal Unit := refuseFirst c.objections

/-- **An accepted address** has one of the two schemes. -/
theorem check_ok_uri {c : Connection} (h : c.check = .ok ()) : hasScheme c.uri = true := by
  simpa using refuseFirst_eq_ok.1 h (!hasScheme c.uri, .scheme) (by simp [objections])

/-- The connection with the parts given, the others from the environment. -/
def build (env : Environment) (parts : Given) : Except Refusal Connection := do
  let encrypted ← given parts.encrypted (flagOf env .encrypted false)
  let connectTimeout ← given parts.connectTimeout (numberOf env .connectTimeout 5)
  let queryTimeout ← given parts.queryTimeout (numberOf env .queryTimeout 15)
  let c : Connection := {
    uri := parts.uri.getD (textOf env .uri "mongodb://localhost:27017")
    database := parts.database.getD (textOf env .database "datasets")
    collection := parts.collection.getD (textOf env .collection "instances")
    username := parts.username.getD (textOf env .username "")
    password := parts.password.getD (textOf env .password "")
    encrypted, connectTimeout, queryTimeout }
  c.check
  return c

/-- The connection as it is shown in the log. -/
def shown (c : Connection) : String :=
  let user := if c.username == "" then "anonymous" else c.username
  Uri.logged c.uri ++ " (db: " ++ c.database ++ ", collection: " ++ c.collection ++ ", user: " ++
    user ++ ")"

end Connection

end Relink
