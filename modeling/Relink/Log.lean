import Relink.Document.Value

/-!
# Log records

A record has a level, a text and named values. What is logged below the threshold is dropped.
-/

namespace Relink

/-- The level of a record. -/
inductive Level where
  /-- Details of the work. -/
  | debug
  /-- What is done. -/
  | info
  /-- What may need attention. -/
  | warning
  /-- What failed. -/
  | error
  /-- What makes going on impossible. -/
  | critical
  deriving DecidableEq, Repr

namespace Level

/-- The number of a level. -/
def number : Level → Int
  | debug => 10
  | info => 20
  | warning => 30
  | error => 40
  | critical => 50

/-- The name of a level. -/
def name : Level → String
  | debug => "DEBUG"
  | info => "INFO"
  | warning => "WARNING"
  | error => "ERROR"
  | critical => "CRITICAL"

/-- The levels from the lowest to the highest. -/
def all : List Level := [debug, info, warning, error, critical]

/-- The level with a name. -/
def named? (name : String) : Option Level := all.find? (·.name == name)

end Level

/-- A log record. -/
structure Record where
  level : Level
  text : String
  fields : Entries Value

end Relink
