import Relink.Failure.Basic
import Relink.Settings.Connection
import Relink.Settings.LogSettings
import Relink.Settings.Plan

/-!
# The settings of the tool

The three sections of the settings, read from the environment and then overridden. All sections
are looked at again afterwards, since what overrides has not been looked at yet.

* `create_ok`: settings that are created have passed every check.
-/

namespace Relink

/-- The settings of the tool. -/
structure Settings where
  /-- How the database is reached. -/
  connection : Connection
  /-- The plan of the run. -/
  plan : Plan
  /-- Settings of the log. -/
  log : LogSettings
  deriving DecidableEq, Repr

namespace Settings

/-- The failure that a refusal is: of a type where a level names no number, else of a value. -/
def Refusal.failure : Refusal → Failure
  | .levelNotNumber => .raised .type (message .levelNotNumber)
  | refusal => .value refusal.message

/-- What overrides the environment. An empty text or list overrides nothing. -/
structure Overrides where
  /-- The cap on the documents of a format and rule. -/
  limit : Option Int := none
  /-- The download formats. -/
  formats : List String := []
  /-- Whether nothing is to be written. -/
  dryRun : Option Bool := none
  /-- Whether values without the text to replace are skipped. -/
  skipUnchanged : Option Bool := none
  /-- Whether passes are repeated. -/
  repeated : Option Bool := none
  /-- The greatest number of passes. -/
  maxPasses : Option Int := none
  /-- The address of the database. -/
  uri : String := ""
  database : String := ""
  collection : String := ""
  /-- The level of the log. -/
  level : String := ""

/-- The parts of the plan that are overridden. -/
def Overrides.planParts (overrides : Overrides) : Plan.Given where
  formats := if overrides.formats.isEmpty then none else some overrides.formats
  limit := overrides.limit
  dryRun := overrides.dryRun
  skipUnchanged := overrides.skipUnchanged
  repeated := overrides.repeated
  maxPasses := overrides.maxPasses

/-- The text that overrides `current`, if it is not empty. -/
def overridden (text current : String) : String := if text == "" then current else text

/-- The settings with what overrides them put in place. -/
def override (overrides : Overrides) (s : Settings) : Settings where
  connection := { s.connection with
    uri := overridden overrides.uri s.connection.uri
    database := overridden overrides.database s.connection.database
    collection := overridden overrides.collection s.connection.collection }
  plan := s.plan.revised overrides.planParts
  log := { s.log with level := overridden overrides.level s.log.level }

/-- The settings that the environment gives. -/
def ofEnvironment (env : Environment) : Except Refusal Settings := do
  let connection ← Connection.build env {}
  let plan ← Plan.build env {}
  let log ← LogSettings.build env {}
  return { connection, plan, log }

/-- The settings that the environment gives, with what overrides them put in place. -/
def read (env : Environment) (overrides : Overrides) : Except Refusal Settings := do
  return override overrides (← ofEnvironment env)

/-- Looks at all sections: the settings afterwards, normalised as far as the checks have come, and
what they refuse. -/
def validate (s : Settings) : Settings × Except Refusal Unit :=
  match s.connection.check with
  | .error refusal => (s, .error refusal)
  | .ok () =>
    let s := { s with plan := s.plan.normalised }
    match s.plan.check with
    | .error refusal => (s, .error refusal)
    | .ok () =>
      match s.log.check with
      | .error refusal => (s, .error refusal)
      | .ok () => ({ s with log := s.log.normalised }, .ok ())

/-- The record of what the checks say. -/
def verdict : Except Refusal Unit → Record
  | .ok () => ⟨.debug, "Configuration validation successful", []⟩
  | .error refusal => ⟨.error, "❌ Configuration validation failed: " ++ refusal.message, []⟩

/-- The settings that the environment and what overrides it give, with all sections looked at, and
the records made on the way. -/
def create (env : Environment) (overrides : Overrides) : Except Refusal Settings × List Record :=
  match read env overrides with
  | .error refusal => (.error refusal, [])
  | .ok s =>
    let (s, outcome) := s.validate
    (outcome.map fun _ => s, [verdict outcome])

/-- **Settings that are created have passed every check.** -/
theorem create_ok {env : Environment} {overrides : Overrides} {s : Settings}
    (h : (create env overrides).1 = .ok s) :
    s.connection.check = .ok () ∧ s.plan.check = .ok () ∧
      s.log.level ∈ levelNames := by
  unfold create at h
  split at h
  · cases h
  · next read hr =>
    simp only [validate] at h
    split at h
    · simp [Except.map] at h
    · next hc =>
      split at h
      · simp [Except.map] at h
      · next hp =>
        split at h
        · simp [Except.map] at h
        · next hl =>
          simp only [Except.map, Except.ok.injEq] at h
          subst h
          refine ⟨hc, hp, ?_⟩
          simpa [LogSettings.check, LogSettings.normalised] using hl

/-- How a truth value stands in the summary. -/
def truthWord (b : Bool) : String := if b then "True" else "False"

/-- The lines of the summary of the settings. -/
def summaryLines (s : Settings) : List String :=
  let rule := String.ofList (List.replicate 60 '=')
  [rule, "🔧 DOWNLOAD LINK FIXER CONFIGURATION", rule,
    "🗄️  MongoDB: " ++ s.connection.shown,
    "⚙️  Fixer:",
    "   - Formats: " ++ ", ".intercalate s.plan.formats,
    "   - Limit per format/rule: " ++ toString s.plan.limit,
    "   - Dry Run: " ++ truthWord s.plan.dryRun,
    "   - Skip Unchanged: " ++ truthWord s.plan.skipUnchanged] ++
  (if s.plan.repeated then
    ["   - Repeat Until Clean: max " ++ toString s.plan.maxPasses ++ " passes"] else []) ++
  ["📝 Logging Level: " ++ s.log.level] ++
  (match s.log.file with
    | some file => if file == "" then [] else ["📄 Log File: " ++ file]
    | none => []) ++
  [rule]

/-- The records of the summary of the settings. -/
def summary (s : Settings) : List Record := s.summaryLines.map fun line => ⟨.info, line, []⟩

end Settings

end Relink
