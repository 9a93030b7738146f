import Relink.Log
import Relink.Settings.Environment

/-!
# Settings of the log

The level from which on records are kept, the format of a line, and the file they go to.

* `check_ok_threshold`: an accepted level has a number.
-/

namespace Relink

/-- Settings of the log. -/
structure LogSettings where
  level : String
  /-- The format of a line. -/
  format : String
  /-- The file, if there is one. -/
  file : Option String
  deriving DecidableEq, Repr

namespace LogSettings

open Settings

/-- The parts of the settings that are given; the others come from the environment. -/
structure Given where
  level : Option String := none
  /-- The format of a line. -/
  format : Option String := none
  /-- The file; `some none` says that there is none. -/
  file : Option (Option String) := none

/-- The format of a line when nothing else is said. -/
def usualFormat : String := "%(log_color)s%(levelname)s:%(name)s:%(message)s"

/-- The settings with the level in upper case. -/
def normalised (s : LogSettings) : LogSettings := { s with level := Text.upper s.level }

/-- Refuses a level that is none of the five in upper case. -/
def check (s : LogSettings) : Except Refusal Unit :=
  if levelNames.contains (Text.upper s.level) then .ok () else .error .level

/-- The settings with the parts given, the others from the environment. -/
def build (env : Environment) (parts : Given) : Except Refusal LogSettings := do
  let s : LogSettings := {
    level := parts.level.getD (textOf env .logLevel "INFO")
    format := parts.format.getD (textOf env .logFormat usualFormat)
    file := parts.file.getD (env .logFile) }
  s.check
  return s.normalised

/-- The numbers of the levels by all their names. -/
def levelNumbers : List (String × Int) :=
  [("DEBUG", 10), ("INFO", 20), ("WARNING", 30), ("WARN", 30), ("ERROR", 40), ("CRITICAL", 50),
    ("FATAL", 50), ("NOTSET", 0)]

/-- The names under which logging itself stands. -/
def verbs : List String :=
  ["debug", "info", "warning", "warn", "error", "critical", "fatal", "exception", "log"]

/-- The number of the level: what is below it is not kept. -/
def threshold (s : LogSettings) : Except Refusal Int :=
  match levelNumbers.lookup s.level with
  | some number => .ok number
  | none => .error (if verbs.contains s.level then .levelNotNumber else .unknownLevel s.level)

/-- **An accepted level has a number**, between 10 and 50. -/
theorem check_ok_threshold {s : LogSettings} (h : s.check = .ok ()) :
    ∃ number, s.normalised.threshold = .ok number ∧ 10 ≤ number ∧ number ≤ 50 := by
  unfold check at h
  split at h
  · next hc =>
    have hm : Text.upper s.level ∈ levelNames := by simpa using hc
    have hall : ∀ name ∈ levelNames, ∃ number, levelNumbers.lookup name = some number ∧
        10 ≤ number ∧ number ≤ 50 := by decide
    obtain ⟨number, hn, hlo, hhi⟩ := hall _ hm
    exact ⟨number, by simp [threshold, normalised, hn], hlo, hhi⟩
  · cases h

end LogSettings

end Relink
