import Relink.Document.Value

/-!
# Reports

What a run counted: for each download format and rule how many documents were matched, rewritten,
really changed, left unchanged, or lost to another writer.

* `countDone_merge`, `changed_merge`: merged reports add up.
-/

namespace Relink

/-- The outcome of one rule applied to one download format. -/
structure RuleResult where
  /-- The download format. -/
  format : String
  rule : String
  /-- The path of the link field. -/
  path : String
  /-- The number of documents read. -/
  matched : Int := 0
  /-- The number of rewrites, performed or simulated. -/
  rewritten : Int := 0
  /-- The number of rewrites whose new value differs from the old one. -/
  changed : Int := 0
  /-- The number of documents whose value lacks the text to replace. -/
  unchanged : Int := 0
  /-- The number of documents that changed before they could be rewritten. -/
  conflicts : Int := 0
  deriving DecidableEq, Repr

/-- The report of a run. -/
structure Report where
  /-- Whether nothing was to be written. -/
  dryRun : Bool
  passes : Int := 0
  /-- The outcomes, pass by pass. -/
  results : List RuleResult := []
  deriving DecidableEq, Repr

namespace Report

/-- The sum of one count over all outcomes. -/
def total (count : RuleResult → Int) (report : Report) : Int :=
  report.results.foldr (fun result rest => count result + rest) 0

/-- The number of rewrites. -/
def countDone : Report → Int := total (·.rewritten)

/-- The number of rewrites that changed a value. -/
def changed : Report → Int := total (·.changed)

/-- The number of values that lacked the text to replace. -/
def unchanged : Report → Int := total (·.unchanged)

/-- The number of documents lost to another writer. -/
def conflicts : Report → Int := total (·.conflicts)

/-- A report with the passes and the outcomes of another added. -/
def merge (report other : Report) : Report where
  dryRun := report.dryRun
  passes := report.passes + other.passes
  results := report.results ++ other.results

theorem total_merge (count : RuleResult → Int) (report other : Report) :
    (report.merge other).total count = report.total count + other.total count := by
  simp only [total, merge, List.foldr_append]
  induction report.results with
  | nil => simp
  | cons result rest ih => simp only [List.foldr_cons, ih, Int.add_assoc]

theorem countDone_merge (report other : Report) :
    (report.merge other).countDone = report.countDone + other.countDone := total_merge ..

theorem changed_merge (report other : Report) :
    (report.merge other).changed = report.changed + other.changed := total_merge ..

end Report

end Relink
