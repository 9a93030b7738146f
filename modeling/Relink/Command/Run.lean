import Relink.Command.Options
import Relink.Command.Summary
import Relink.Fix.Pass
import Relink.Log.Setup
import Relink.Settings.Basic
import Relink.Store.Lifecycle

/-!
# The command

The command reads its options and the environment, sets up the log, connects to the database,
fixes the links, disconnects, and prints a summary. Whatever happens in between, a connection that
was made is closed.
-/

namespace Relink.Command

/-- How the command ends. -/
inductive Exit where
  /-- With an exit code, and a message if it is an error. -/
  | code (code : Nat) (message : Option String)
  /-- With a failure that the command does not handle. -/
  | escaped (failure : Failure)

namespace Exit

/-- What is printed of an exit on the standard error. -/
def complaint : Exit → Option String
  | code _ message => message.map ("Error: " ++ ·)
  | escaped failure => some failure.text

/-- The exit code of the process. -/
def status : Exit → Nat
  | code number _ => number
  | escaped _ => 1

end Exit

/-- What the command meets outside. -/
structure World where
  environment : Environment
  /-- The collection. -/
  site : Site
  /-- What happens at each call to the collection. -/
  schedule : Schedule
  /-- How the server answers. -/
  server : Server
  /-- The names of the database and of the collection. -/
  place : String × String

/-- What comes of the command. -/
structure Outcome where
  /-- How the command ends. -/
  exit : Exit
  /-- The summary, if one is printed. -/
  summary : Option Summary
  /-- The log, if it was set up. -/
  log : Option Log.Setup
  /-- The collection afterwards. -/
  site : Site
  /-- What was left behind, in order. -/
  trace : List Event

/-- The level from which on records are kept until the log is set up. -/
def firstLevel : Int := 20

/-- The records that are kept from a level on. -/
def keepRecords (level : Int) (events : List Event) : List Event :=
  events.filter fun
    | .record r => level ≤ r.level.number
    | _ => true

/-- Whether an event is a call. -/
def isCall : Event → Bool
  | .call _ => true
  | _ => false

/-- Whether nothing is to be written, as far as the options say. -/
def Options.mode (options : Options) : Option Bool :=
  if options.apply then some false else if options.dryRun then some true else none

/-- What the options override. -/
def Options.overrides (options : Options) : Settings.Overrides where
  limit := options.limit
  formats := options.formats
  dryRun := options.mode
  skipUnchanged := if options.skipUnchanged then some true else none
  repeated := if options.repeated then some true else none
  maxPasses := options.maxPasses
  uri := options.uri
  database := options.database
  collection := options.collection
  level := options.level

/-- The exit after a failure: a fault of the tool is reported, any other failure escapes. -/
def exitOf : Failure → Exit
  | .reported fault cause => .code 1 (some (Failure.reported fault cause).text)
  | failure => .escaped failure

/-- Fixes the links of the collection that the settings name. Of another collection than the one
outside nothing is known, and it is empty. -/
def fix (world : World) (settings : Settings) : Job.Ending Report :=
  let job := Fix.run settings.plan Defaults.rules
  if (settings.connection.database, settings.connection.collection) = world.place then
    job.perform world.schedule world.site
  else
    let ending := job.perform .quiet { documents := [] }
    { ending with site := world.site, trace := ending.trace.filter (!isCall ·) }

/-- Connects, fixes the links, and closes the connection in any case. -/
def session (world : World) (settings : Settings) : Except Failure Report × Site × List Event :=
  let store : Store := { connection := some settings.connection }
  let contact := store.connect world.server
  match contact.outcome with
  | .error failure => (.error failure, world.site, contact.trace)
  | .ok () =>
    let ending := fix world settings
    (ending.result, ending.site, contact.trace ++ ending.trace ++ contact.store.disconnect.2)

/-- What comes of the command if it ends before the log is set up. -/
def stopped (world : World) (exit : Exit) (trace : List Event) : Outcome :=
  { exit, summary := none, log := none, site := world.site, trace }

/-- The command with its options read. -/
def runOptions (world : World) (options : Options) : Outcome :=
  if options.apply && options.dryRun then
    stopped world (.code 1 (some "--apply and --dry-run are mutually exclusive")) []
  else
    let (settings, records) := Settings.create world.environment options.overrides
    let begun := keepRecords firstLevel (records.map .record)
    match settings with
    | .error fault => stopped world (.code 1 (some fault.message)) begun
    | .ok settings =>
      match Log.setUp settings.log with
      | .error failure => stopped world (.escaped failure) begun
      | .ok log =>
        let (result, site, events) := session world settings
        let trace :=
          begun ++ keepRecords log.rootLevel (settings.summary.map .record ++ events)
        match result with
        | .error failure =>
          { exit := exitOf failure, summary := none, log := some log, site, trace }
        | .ok report =>
          { exit := .code 0 none
            summary := if options.summary then some (.of report) else none
            log := some log, site, trace }

/-- The command. -/
def run (world : World) (arguments : List String) : Outcome :=
  match Options.read arguments with
  | .error fault => stopped world (.code 2 (some fault.message)) []
  | .ok options => runOptions world options

end Relink.Command
