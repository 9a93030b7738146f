import Relink.Fix.Report

/-!
# The summary of a run

A table with a row for each outcome that matched something, and a closing line that says whether
to run again.

* `Summary.closing_of`: the links are called clean exactly when nothing was rewritten.
-/

namespace Relink.Command

/-- The summary of a run. -/
structure Summary where
  /-- The title of the table. -/
  title : String
  /-- The rows of the table. -/
  rows : List (List String)
  /-- The line below the table. -/
  closing : String
  deriving DecidableEq, Repr

namespace Summary

/-- The headers of the table. -/
def headers : List String := ["Format", "Rule", "Matched", "Rewritten", "No-op", "Conflicts"]

/-- The row of an outcome. -/
def row (result : RuleResult) : List String :=
  [result.format, result.rule, toString result.matched, toString result.rewritten,
    toString result.unchanged, toString result.conflicts]

/-- The closing line when there was something to rewrite. -/
def again : String := "[yellow]Re-run until count_done is 0.[/yellow]"

/-- The closing line when there was nothing to rewrite. -/
def clean : String := "[green]No stale download links found.[/green]"

/-- The summary of a report. -/
def of (report : Report) : Summary where
  title := "Download link fixes (" ++ (if report.dryRun then "dry run" else "applied") ++ ")"
  rows := (report.results.filter (·.matched != 0)).map row
  closing := if report.countDone = 0 then clean else again

theorem closing_of (report : Report) : (of report).closing = clean ↔ report.countDone = 0 := by
  have differ : again ≠ clean := by decide +kernel
  by_cases h : report.countDone = 0
  · exact iff_of_true (if_pos h) h
  · exact iff_of_false (fun e => differ ((if_neg h).symm.trans e)) h

end Summary

end Relink.Command
