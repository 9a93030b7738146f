import Relink.Failure.Basic
import Relink.Log.Line
import Relink.Settings.LogSettings

/-!
# Setting up the log

The root logger keeps what is at or above its level and writes it to the console and perhaps to a
file. The loggers of the database driver have a level of their own; every other logger takes that
of its nearest ancestor.
-/

namespace Relink.Log

/-- The loggers of the database driver. -/
def driverLoggers : List String :=
  ["pymongo", "pymongo.command", "pymongo.connection", "pymongo.serverSelection",
    "pymongo.topology"]

/-- The log as it is set up. -/
structure Setup where
  rootLevel : Int
  /-- The level of the loggers of the driver. -/
  driverLevel : Int
  /-- The format of a line on the console. -/
  format : String
  /-- Whether there is a file. -/
  hasFile : Bool
  deriving DecidableEq, Repr

/-- The fault of a format without a directive. -/
def badFormat (format : String) : Failure :=
  .value ("Invalid format '" ++ format ++ "' for '%' style")

/-- The log as the settings ask for. -/
def setUp (settings : LogSettings) : Except Failure Setup :=
  match settings.threshold with
  | .error fault => .error (.value fault.message)
  | .ok level =>
    if hasDirective (lineFormat settings.format) then
      .ok {
        rootLevel := level
        driverLevel := if Text.upper settings.level == "DEBUG" then 10 else 30
        format := settings.format
        hasFile := settings.file.any (· != "") }
    else .error (badFormat settings.format)

/-- The record that setting up makes. -/
def announcement (settings : LogSettings) : Entry where
  logger := "link_fixer.config_manager"
  level := .debug
  text := "📝 Logging configured: level=" ++ settings.level ++ ", file=" ++
    (match settings.file with
      | some file => if file == "" then "console" else file
      | none => "console")

/-- Whether a logger is one of the driver or below one. -/
def isDriverLogger (logger : String) : Bool :=
  logger == "pymongo" || "pymongo.".toList.isPrefixOf logger.toList

/-- The level from which on a logger keeps records. -/
def Setup.levelOf (setup : Setup) (logger : String) : Int :=
  if isDriverLogger logger then setup.driverLevel else setup.rootLevel

/-- The records that are kept. -/
def Setup.kept (setup : Setup) (entries : List Entry) : List Entry :=
  entries.filter fun entry => setup.levelOf entry.logger ≤ entry.level.number

/-- The lines on the console. -/
def Setup.console (setup : Setup) (entries : List Entry) : List String :=
  (setup.kept entries).filterMap (line? setup.format)

/-- The lines in the file, if there is one. -/
def Setup.file (setup : Setup) (entries : List Entry) : Option (List String) :=
  if setup.hasFile then some ((setup.kept entries).map fileLine) else none

/-- The handlers of the root, by the names of their kinds. -/
def Setup.handlers (setup : Setup) : List String :=
  "StreamHandler" :: if setup.hasFile then ["FileHandler"] else []

end Relink.Log
