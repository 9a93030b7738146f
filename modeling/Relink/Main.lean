import Relink.Command.Run

/-!
# The command line

The outer layer of the command. Without a database driver of its own it works on an empty
collection: it reads the options and the environment, and prints the audit trail, the log, the
summary and the exit code that the command comes to.
-/

namespace Relink

/-- The environment of the process. -/
def processEnvironment : IO Environment := do
  let entries ← Variable.all.mapM fun v => do return (v, ← IO.getEnv v.name)
  return fun v => (entries.lookup v).join

/-- Prints what comes of the command, and gives the exit code. -/
def printOutcome (outcome : Command.Outcome) : IO UInt32 := do
  for event in outcome.trace do
    match event with
    | .line text => IO.println text
    | .record r => IO.eprintln (r.level.name ++ ":" ++ r.text)
    | _ => pure ()
  if let some summary := outcome.summary then
    IO.eprintln summary.title
    for row in Command.Summary.headers :: summary.rows do
      IO.eprintln ("  ".intercalate row)
    IO.eprintln summary.closing
  if let some text := outcome.exit.complaint then IO.eprintln text
  return outcome.exit.status.toUInt32

end Relink

/-- The command. -/
def main (arguments : List String) : IO UInt32 := do
  let environment ← Relink.processEnvironment
  let world : Relink.Command.World := {
    environment
    site := { documents := [] }
    schedule := .quiet
    server := {}
    place := ("datasets", "instances") }
  Relink.printOutcome (Relink.Command.run world arguments)
