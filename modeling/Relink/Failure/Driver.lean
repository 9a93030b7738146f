/-!
# Errors of the database driver

The kinds of errors that a call to the database can end with, and the families they fall into.
-/

namespace Relink.Failure

/-- The kind of an error of the database driver. -/
inductive DriverKind where
  /-- An error of no special kind. -/
  | general
  /-- The server answered out of turn. -/
  | protocol
  /-- A call that is not allowed. -/
  | invalidOperation
  /-- A name that is not allowed. -/
  | invalidName
  /-- A collection that does not hold together. -/
  | collectionInvalid
  /-- The connection failed. -/
  | connection
  /-- No connection became free in time. -/
  | waitQueueTimeout
  /-- The connection was lost and is sought again. -/
  | autoReconnect
  /-- The network did not answer in time. -/
  | networkTimeout
  /-- The server is not the primary one. -/
  | notPrimary
  /-- No server was found in time. -/
  | serverSelectionTimeout
  /-- The client is not configured rightly. -/
  | configuration
  /-- The address is not well formed. -/
  | invalidUri
  /-- An operation failed on the server. -/
  | operation
  /-- A cursor is gone. -/
  | cursorNotFound
  /-- An operation took too long. -/
  | executionTimeout
  /-- A write was not acknowledged as asked. -/
  | writeConcern
  /-- A write was not acknowledged in time. -/
  | writeTimeout
  /-- A write failed. -/
  | write
  /-- A write would double a key. -/
  | duplicateKey
  deriving DecidableEq, Repr

/-- What an error of the driver is a matter of. -/
inductive Family where
  /-- The connection to the server or its configuration. -/
  | connection
  /-- An operation on the server. -/
  | operation
  /-- Anything else. -/
  | other
  deriving DecidableEq, Repr

/-- The family of a kind of error. -/
def DriverKind.family : DriverKind → Family
  | connection | waitQueueTimeout | autoReconnect | networkTimeout | notPrimary
  | serverSelectionTimeout | configuration | invalidUri => .connection
  | operation | cursorNotFound | executionTimeout | writeConcern | writeTimeout | write
  | duplicateKey => .operation
  | general | protocol | invalidOperation | invalidName | collectionInvalid => .other

end Relink.Failure
