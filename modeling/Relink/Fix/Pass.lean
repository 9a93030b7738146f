import Relink.Document.Json
import Relink.Fix.Report
import Relink.Fix.Job
import Relink.Settings.Plan

/-!
# Passes

A pass applies every rule to every download format. For each pair it reads a batch of documents
and rewrites them one by one; a run is one pass, or passes repeated until one changes nothing.

* `Audit.line_eq`: the line of an update of another field than the id.
* `replaceLink_dryRun`: a dry run writes the line of a rewrite and nothing else.
* `repeatPasses_zero`: without a pass left the run stops with a warning.
-/

namespace Relink

/-- The text at a path of a document. -/
def Document.textAt (path : String) (document : Document) : Except Failure String :=
  let id := document.id?.getD .null
  match Value.reach? (Path.steps path) (.map document) with
  | some (.text s) => .ok s
  | some v =>
    .error (.reported (.plain .malformed ("Field " ++ path ++ " is not a string")
      (Entries.putAll [("value_type", .text v.kind)] (Fault.malformedEntries id path))) none)
  | none =>
    .error (.reported (.plain .malformed ("Document has no field " ++ path)
      (Fault.malformedEntries id path)) none)

/-- The id of a document. -/
def Document.id (document : Document) : Except Failure Value :=
  match document.id? with
  | some id => .ok id
  | none => .error (.raised .key "_id")

namespace Audit

/-- The line of the audit trail for an update: the filter and the change of the update in JSON. -/
def line (request : UpdateRequest) : String :=
  Json.ofValue (.list [.map request.filter.fields, request.change])

theorem line_eq {request : UpdateRequest} (h : request.path ≠ "_id") :
    line request = Json.ofValue (.list [.map [("_id", request.id),
      (request.path, .text request.old)], request.change]) := by
  simp [line, UpdateRequest.filter, Filter.expecting, Filter.fields, Entries.put,
    Condition.toValue, h.symm]

end Audit

namespace Job

/-- The result of a computation, or its failure. -/
def ofExcept {α : Type} : Except Failure α → Job α
  | .ok result => done result
  | .error failure => fail failure

end Job

namespace Fix

open Job

/-- Writes the line of a rewrite and, unless nothing is to be written, updates the document if it
still holds the old value. Says whether the link is replaced, or would be. -/
def replaceLink (plan : Plan) (request : UpdateRequest) : Job Bool := do
  say (Audit.line request)
  if plan.dryRun then return true
  if ← Job.update request done then return true
  note .warning "Document changed before update, not rewritten"
    [("document_id", .text request.id.printed), ("field_path", .text request.path),
      ("expected", .text request.old)]
  return false

theorem replaceLink_dryRun {plan : Plan} (h : plan.dryRun = true) (request : UpdateRequest) :
    replaceLink plan request = .echo (Audit.line request) (.done true) := by
  simp [replaceLink, h, say, Bind.bind, Job.bind, Pure.pure]

/-- Rewrites one document of a batch, and counts it. -/
def fixDocument (plan : Plan) (rule : Rule) (result : RuleResult) (document : Document) :
    Job RuleResult := do
  let old ← ofExcept (document.textAt result.path)
  let applicable := rule.applies old
  let result := if applicable then result else { result with unchanged := result.unchanged + 1 }
  if !applicable && plan.skipUnchanged then
    -- a document without an id fails here, after its value has been read
    let id ← ofExcept document.id
    note .info "Skipping value without replaceable substring"
      [("document_id", .text id.printed), ("field_path", .text result.path), ("value", .text old),
        ("rule", .text rule.name)]
    return result
  let new := rule.apply old
  let id ← ofExcept document.id
  if ← replaceLink plan ⟨id, result.path, old, new⟩ then
    return { result with
      rewritten := result.rewritten + 1
      changed := if new != old then result.changed + 1 else result.changed }
  else return { result with conflicts := result.conflicts + 1 }

/-- Rewrites the documents of a batch in order. -/
def fixDocuments (plan : Plan) (rule : Rule) : RuleResult → List Document → Job RuleResult
  | result, [] => return result
  | result, document :: rest => do
    let result ← fixDocument plan rule result document
    fixDocuments plan rule result rest

/-- The request for the batch of a rule and a format. -/
def batch (plan : Plan) (rule : Rule) (format : String) : FindRequest where
  filter := rule.query format
  projection := rule.path format
  limit := plan.limit

/-- Applies a rule to a download format. The whole batch is read before the first rewrite. -/
def fixRule (plan : Plan) (format : String) (rule : Rule) : Job RuleResult := do
  let documents ← Job.find (batch plan rule format) done
  fixDocuments plan rule
    { format := format, rule := rule.name, path := rule.path format, matched := documents.length }
    documents

/-- Applies rules to a download format in order. -/
def fixRules (plan : Plan) (format : String) : List Rule → Job (List RuleResult)
  | [] => return []
  | rule :: rest => do
    let result ← fixRule plan format rule
    return result :: (← fixRules plan format rest)

/-- Applies rules to download formats in order. -/
def fixFormats (plan : Plan) (rules : List Rule) : List String → Job (List RuleResult)
  | [] => return []
  | format :: rest => do
    say ("processing: " ++ format)
    let results ← fixRules plan format rules
    return results ++ (← fixFormats plan rules rest)

/-- Applies every rule to every download format once. -/
def fixAll (plan : Plan) (rules : List Rule) : Job Report := do
  let results ← fixFormats plan rules plan.formats
  let report : Report := { dryRun := plan.dryRun, passes := 1, results := results }
  say ("count_done: " ++ toString report.countDone)
  note .info "Link fixing pass complete"
    [("dry_run", .bool report.dryRun), ("count_done", .int report.countDone),
      ("changed", .int report.changed), ("unchanged", .int report.unchanged),
      ("conflicts", .int report.conflicts)]
  return report

/-- Repeats passes, at most `left` more, until one makes no effective change. A dry run cannot
make progress and stops after one pass. -/
def repeatPasses (plan : Plan) (rules : List Rule) : (left : Nat) → Report → Job Report
  | 0, total => do
    note .warning "Stopped before links were clean"
      [("max_passes", .int plan.maxPasses), ("count_done", .int total.countDone)]
    return total
  | left + 1, total => do
    let report ← fixAll plan rules
    let total := total.merge report
    if plan.dryRun || report.changed == 0 then return total
    repeatPasses plan rules left total

theorem repeatPasses_zero (plan : Plan) (rules : List Rule) (total : Report) :
    repeatPasses plan rules 0 total =
      .log ⟨.warning, "Stopped before links were clean",
        [("max_passes", .int plan.maxPasses), ("count_done", .int total.countDone)]⟩
        (.done total) := rfl

/-- Repeats passes until the links are clean. -/
def fixUntilClean (plan : Plan) (rules : List Rule) : Job Report := do
  let total ← repeatPasses plan rules plan.maxPasses.toNat { dryRun := plan.dryRun }
  if 1 < total.passes then
    say ("passes: " ++ toString total.passes ++ ", total count_done: " ++ toString total.countDone)
  return total

/-- One pass, or passes repeated, as the plan says. -/
def run (plan : Plan) (rules : List Rule) : Job Report :=
  if plan.repeated then fixUntilClean plan rules else fixAll plan rules

/-- The greatest number of rewrites of a pass. -/
def maxRewrites (plan : Plan) (rules : List Rule) : Int :=
  plan.limit * rules.length * plan.formats.length

/-- The failure of a fixer without rules. -/
def noRules : Failure := .value "At least one rewrite rule is required"

end Fix

end Relink
