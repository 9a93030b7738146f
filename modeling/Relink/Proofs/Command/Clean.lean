import Mathlib.Algebra.Order.BigOperators.Group.List
import Mathlib.Algebra.Order.Group.Int
import Relink.Command.Summary
import Relink.Proofs.Fix.Counters

/-!
# What a clean summary says of what was read

The summary calls the links clean when nothing was rewritten. Each document that was read with the
text to replace was then asked for, and lost to another writer. So the links are clean indeed if no
such document was lost, and a run that lost one calls them clean all the same.

* `fixRule_observed`: the outcomes of a stage go with what its batch read and with its updates.
* `Observed.stale_eq_lost`: what was stale and not rewritten was lost.
* `clean_summary`: what a run read that calls the links clean.
* `clean_after_loss`: a run that has read a stale link and calls the links clean.
-/

namespace Relink.Fix

open Job Command

variable {plan : Plan} {rule : Rule} {schedule : Schedule} {batch : Batch}
  {outcomes : List Outcome} {result : RuleResult} {documents : List Document}

/-- Whether a document has, at a path, a text that contains what a rule replaces. -/
def staleAt (rule : Rule) (path : String) (document : Document) : Bool :=
  (document.textAt path).toOption.any rule.applies

namespace Batch

/-- The path of the links of a batch. -/
def path (batch : Batch) : String := batch.rule.path batch.format

/-- The documents that a batch read. -/
def read (batch : Batch) : List Document := batch.search.outcome.toOption.getD []

/-- The documents that a batch read with the text to replace. -/
def stale (batch : Batch) : List Document := batch.read.filter (staleAt batch.rule batch.path)

/-- The updates of such documents that selected nothing: another writer was there before. -/
def lostStale (batch : Batch) : List Update :=
  batch.updates.filter fun update => update.lost && batch.rule.applies update.request.old

/-- **A batch told by outcomes**, one for each document that it read: its updates are the rewrites
that were asked for, and the result counts the outcomes. -/
structure Observed (plan : Plan) (batch : Batch) (outcomes : List Outcome) (result : RuleResult) :
    Prop where
  asked : batch.search.request = Fix.batch plan batch.rule batch.format
  found : batch.search.outcome = .ok batch.read
  told : List.Forall₂ (fun document outcome => outcome.Of batch.path document) batch.read outcomes
  due : ∀ outcome ∈ outcomes, outcome.Due plan batch.rule batch.path
  requested : batch.updates.map Update.request =
    if plan.dryRun then [] else outcomes.filterMap Outcome.request?
  lost : batch.updates.countP Update.lost = outcomes.countP Outcome.lost
  result_eq : result = resultOf batch.format batch.rule outcomes

end Batch

namespace Outcome

variable {path : String}

/-- The calls that some outcomes leave are the updates of a live run. -/
theorem calls_events (plan : Plan) (rule : Rule) (path : String) (outcomes : List Outcome) :
    Event.calls (outcomes.flatMap (events plan rule path)) =
      if plan.dryRun then [] else (outcomes.filterMap request?).map Call.update := by
  induction outcomes with
  | nil => simp [Event.calls]
  | cons outcome rest ih =>
    rw [List.flatMap_cons, Event.calls, List.filterMap_append, ← Event.calls, ← Event.calls, ih]
    rcases outcome with ⟨id, old⟩ | ⟨request, _ | _⟩ <;> cases hd : plan.dryRun <;>
      simp [events, hd, Event.calls, List.filterMap_cons, request?]

/-- The documents with the text to replace are those whose outcomes have it. -/
theorem stale_of_told
    (h : List.Forall₂ (fun document outcome => outcome.Of path document) documents outcomes) :
    (documents.filter (staleAt rule path)).map (fun d => (d.id, d.textAt path)) =
      (outcomes.filter fun o => rule.applies o.old).map fun o => (.ok o.id, .ok o.old) := by
  induction h with
  | nil => rfl
  | @cons document outcome _ _ hof _ ih =>
    have hstale : staleAt rule path document = rule.applies outcome.old := by
      rw [staleAt, hof.2]
      rfl
    rw [List.filter_cons, List.filter_cons, hstale]
    split
    · rw [List.map_cons, List.map_cons, ih, hof.1, hof.2]
    · exact ih

/-- What has the text to replace was asked for. -/
theorem applies_requests (h : ∀ outcome ∈ outcomes, outcome.Due plan rule path) :
    (outcomes.filter fun o => rule.applies o.old).map (fun o => (o.id, o.old)) =
      ((outcomes.filterMap request?).filter fun r => rule.applies r.old).map
        fun r => (r.id, r.old) := by
  induction outcomes with
  | nil => rfl
  | cons outcome rest ih =>
    obtain ⟨hfirst, hrest⟩ := List.forall_mem_cons.1 h
    have hih := ih hrest
    cases outcome with
    | skipped id old => simpa [Outcome.old, List.filterMap_cons, request?, hfirst.2] using hih
    | asked request made =>
      cases ha : rule.applies request.old <;>
        simpa [Outcome.old, Outcome.id, List.filterMap_cons, request?, ha] using hih

end Outcome

/-- **The documents of a stage**: outcomes that its updates and its counters go with. -/
theorem fixDocuments_observed (schedule : Schedule) (plan : Plan) (rule : Rule)
    (documents : List Document) (result : RuleResult) (site : Site) :
    ∃ updates : List Update,
      moments schedule (fixDocuments plan rule result documents) site = updates.map .updated ∧
      ∀ r, (perform schedule (fixDocuments plan rule result documents) site).result = .ok r →
        ∃ outcomes : List Outcome,
          List.Forall₂ (fun document outcome => outcome.Of result.path document) documents
            outcomes ∧
          (∀ outcome ∈ outcomes, outcome.Due plan rule result.path) ∧
          updates.map Update.request =
            (if plan.dryRun then [] else outcomes.filterMap Outcome.request?) ∧
          updates.countP Update.lost = outcomes.countP Outcome.lost ∧
          r = tallying rule outcomes result := by
  have hsound : ∀ moment ∈ moments schedule (fixDocuments plan rule result documents) site,
      moment.Sound (inBatch rule result.path documents) fun _ => True :=
    (moments_sound _ (fun _ _ _ _ _ _ => trivial) (fun _ _ _ _ => trivial)
      (fixDocuments_does plan rule result fun _ h => h) trivial).1
  obtain ⟨updates, hu, -⟩ := exists_updates hsound
  refine ⟨updates, hu, fun r hr => ?_⟩
  obtain ⟨outcomes, htold, hdue, rfl, htrace⟩ :=
    fixDocuments_leaves plan rule documents result site r hr
  have hrequested : updates.map Update.request =
      if plan.dryRun then [] else outcomes.filterMap Outcome.request? := by
    have hcalls : Event.calls
        (perform schedule (fixDocuments plan rule result documents) site).trace =
          (moments schedule (fixDocuments plan rule result documents) site).map Moment.call :=
      calls_trace _ _
    rw [htrace, hu, Outcome.calls_events] at hcalls
    apply List.map_injective_iff.2 (fun _ _ => Call.update.inj)
    rw [List.map_map, apply_ite (List.map Call.update), List.map_nil, hcalls, List.map_map]
    rfl
  refine ⟨outcomes, htold, hdue, hrequested, ?_, rfl⟩
  cases hd : plan.dryRun with
  | true =>
    obtain rfl : updates = [] := by simpa [hd] using hrequested
    rw [Outcome.countP_lost_of_dry hd hdue]
    rfl
  | false =>
    obtain ⟨counted, hc, hcounts⟩ := fixDocuments_counts hd schedule rule documents result site
    obtain rfl : counted = updates :=
      List.map_injective_iff.2 (fun _ _ => Moment.updated.inj) (hc.symm.trans hu)
    have hconflicts := (hcounts _ hr).conflicts
    simp only [tallying] at hconflicts
    omega

/-- **A stage is one batch**, told by its outcomes. -/
theorem fixRule_observed (plan : Plan) (format : String) (rule : Rule) :
    (fixRule plan format rule).Ensures schedule (fun _ => True) (fun _ => True) fun result =>
      Staged (fun batch r => ∃ outcomes, batch.Observed plan outcomes r) [(format, rule)]
        [result] := by
  intro site _
  rw [fixRule_eq]
  simp only [moments, perform]
  rcases hfind : site.find schedule (batch plan rule format) with ⟨outcome, after, call⟩
  cases outcome with
  | error failure =>
    exact ⟨[⟨format, rule, ⟨batch plan rule format, site.cap schedule (batch plan rule format),
      site.meets schedule .find, .error failure⟩, []⟩], rfl, by simp, trivial, by simp⟩
  | ok documents =>
    obtain ⟨updates, hu, hall⟩ := fixDocuments_observed schedule plan rule documents
      { format, rule := rule.name, path := rule.path format, matched := documents.length } after
    refine ⟨[⟨format, rule, ⟨batch plan rule format, site.cap schedule (batch plan rule format),
      site.meets schedule .find, .ok documents⟩, updates⟩], by simp [Batch.moments, hu], by simp,
      trivial, fun result hr => ⟨rfl, .cons ?_ .nil⟩⟩
    obtain ⟨outcomes, htold, hdue, hrequested, hlost, rfl⟩ := hall result hr
    refine ⟨outcomes, rfl, rfl, htold, hdue, hrequested, hlost, ?_⟩
    simp [tallying, resultOf, htold.length_eq]

/-- **In a batch without a rewrite** everything that was asked for was lost. -/
theorem Batch.Observed.lost_of_none_rewritten (h : batch.Observed plan outcomes result)
    (hnone : result.rewritten = 0) :
    batch.updates.map Update.request = outcomes.filterMap Outcome.request? ∧
      ∀ update ∈ batch.updates, update.lost = true := by
  obtain ⟨-, -, -, hdue, hrequested, hlost, rfl⟩ := h
  have hmade : outcomes.countP Outcome.made = 0 := Int.ofNat_eq_zero.1 hnone
  have hcount := Outcome.countP_made_add_countP_lost outcomes
  -- a dry run makes what it asks for, so it asked for nothing
  have hall : batch.updates.map Update.request = outcomes.filterMap Outcome.request? := by
    rw [hrequested]
    split
    · next hd =>
      rw [Outcome.countP_lost_of_dry hd hdue] at hcount
      exact (List.length_eq_zero_iff.1 (by omega)).symm
    · rfl
  have hlen : batch.updates.length = (outcomes.filterMap Outcome.request?).length := by
    rw [← hall, List.length_map]
  exact ⟨hall, List.countP_eq_length.1 (by omega)⟩

/-- **What was stale and not rewritten was lost**: in a batch without a rewrite, the documents with
the text to replace are those of the lost updates, and were lost as they were read. -/
theorem Batch.Observed.stale_eq_lost (h : batch.Observed plan outcomes result)
    (hnone : result.rewritten = 0) :
    batch.stale.map (fun d => (d.id, d.textAt batch.path)) =
      batch.lostStale.map fun u => (.ok u.request.id, .ok u.request.old) := by
  obtain ⟨hall, hevery⟩ := h.lost_of_none_rewritten hnone
  have hloststale : batch.lostStale =
      batch.updates.filter fun update => batch.rule.applies update.request.old := by
    refine List.filter_congr fun update hm => ?_
    rw [hevery update hm, Bool.true_and]
  calc batch.stale.map (fun d => (d.id, d.textAt batch.path))
      = ((outcomes.filter fun o => batch.rule.applies o.old).map fun o => (o.id, o.old)).map
          fun p => (.ok p.1, .ok p.2) := by
        rw [Batch.stale, Outcome.stale_of_told h.told, List.map_map]
        rfl
    _ = (((batch.updates.map Update.request).filter fun r => batch.rule.applies r.old).map
          fun r => (r.id, r.old)).map fun p => (.ok p.1, .ok p.2) := by
        rw [Outcome.applies_requests h.due, hall]
    _ = batch.lostStale.map fun u => (.ok u.request.id, .ok u.request.old) := by
        rw [hloststale, List.filter_map, List.map_map, List.map_map]
        rfl

/-- No document of a batch was lost, if the result counts no conflict. -/
theorem Batch.Observed.lostStale_eq_nil (h : batch.Observed plan outcomes result)
    (hnone : result.conflicts = 0) : batch.lostStale = [] := by
  obtain ⟨-, -, -, -, -, hlost, rfl⟩ := h
  have hzero : batch.updates.countP Update.lost = 0 := hlost.trans (Int.ofNat_eq_zero.1 hnone)
  refine List.filter_eq_nil_iff.2 fun update hm hc => ?_
  exact List.countP_eq_zero.1 hzero update hm (Bool.and_eq_true_iff.1 hc).1

/-- A count that is never negative is nowhere if its sum is zero. -/
theorem total_eq_zero {count : RuleResult → Int} {report : Report}
    (hpos : ∀ result ∈ report.results, 0 ≤ count result) (h : report.total count = 0) :
    ∀ result ∈ report.results, count result = 0 := by
  rw [Report.total_eq_sum] at h
  exact fun result hm => List.all_zero_of_le_zero_le_of_sum_eq_zero (List.forall_mem_map.2 hpos) h
    (List.mem_map_of_mem hm)

/-- **What a run read that calls the links clean**, whatever other writers do. It is its batches,
pass by pass one for each format and rule. The documents that a batch read with the text to replace
are exactly those that it lost to another writer. So if it lost none of them it read none; and it
lost none if no conflict was counted, as in a dry run. -/
theorem clean_summary (plan : Plan) (rules : List Rule) (schedule : Schedule) (site : Site)
    {report : Report} (hr : (perform schedule (run plan rules) site).result = .ok report)
    (hclean : (Summary.of report).closing = Summary.clean) :
    ∃ (batches : List Batch) (passes : Nat),
      moments schedule (run plan rules) site = batches.flatMap Batch.moments ∧
      report.passes = passes ∧
      batches.map Batch.stage = (List.replicate passes (stages plan.formats rules)).flatten ∧
      (∀ batch ∈ batches, batch.search.request = Fix.batch plan batch.rule batch.format ∧
        batch.search.outcome = .ok batch.read ∧
        batch.stale.map (fun d => (d.id, d.textAt batch.path)) =
          batch.lostStale.map fun u => (.ok u.request.id, .ok u.request.old)) ∧
      ((∀ batch ∈ batches, batch.lostStale = []) → ∀ batch ∈ batches, batch.stale = []) ∧
      (report.conflicts = 0 → ∀ batch ∈ batches, batch.lostStale = []) ∧
      (plan.dryRun = true → report.conflicts = 0) := by
  obtain ⟨batches, hm, -, -, hreturns⟩ :=
    run_staged (fun format _ rule _ => fixRule_observed plan format rule) site trivial
  obtain ⟨passes, hpasses, hstaged⟩ := hreturns report hr
  have hrewritten : ∀ result ∈ report.results, result.rewritten = 0 := by
    refine total_eq_zero (hstaged.forall_results ?_) ((Summary.closing_of report).1 hclean)
    rintro batch result ⟨outcomes, hobserved⟩
    exact hobserved.result_eq ▸ Int.natCast_nonneg _
  have hbatch : ∀ batch ∈ batches, batch.search.request = Fix.batch plan batch.rule batch.format ∧
      batch.search.outcome = .ok batch.read ∧
      batch.stale.map (fun d => (d.id, d.textAt batch.path)) =
        batch.lostStale.map fun u => (.ok u.request.id, .ok u.request.old) := by
    refine hstaged.forall_batches hrewritten ?_
    rintro batch result ⟨outcomes, hobserved⟩ hnone
    exact ⟨hobserved.asked, hobserved.found, hobserved.stale_eq_lost hnone⟩
  refine ⟨batches, passes, hm, hpasses, hstaged.stages_eq, hbatch, fun hlost batch hb => ?_,
    fun hnone => ?_, fun hd => ?_⟩
  · have hsame := (hbatch batch hb).2.2
    rw [hlost batch hb, List.map_nil] at hsame
    exact List.map_eq_nil_iff.1 hsame
  · refine hstaged.forall_batches (total_eq_zero (hstaged.forall_results ?_) hnone) ?_
    · rintro batch result ⟨outcomes, hobserved⟩
      exact hobserved.result_eq ▸ Int.natCast_nonneg _
    · rintro batch result ⟨outcomes, hobserved⟩ hzero
      exact hobserved.lostStale_eq_nil hzero
  · rw [Report.conflicts, Report.total_eq_sum]
    refine List.sum_eq_zero (List.forall_mem_map.2 (hstaged.forall_results ?_))
    rintro batch result ⟨outcomes, hobserved⟩
    rw [hobserved.result_eq, resultOf, Outcome.countP_lost_of_dry hd hobserved.due]
    rfl

/-- A live plan that skips what lacks the text to replace. -/
def skipping : Plan := { Plan.trial "csv" 10 1 with skipUnchanged := true }

/-- A link that a pattern matches and that lacks the text to replace. -/
def oneMatched : Site where
  documents := Collection.linked "csv" 1 ["http://www.onsdigital.co.uk/a.csv"]

/-- A run that skips what it read calls the links clean, and has read none with the text. -/
theorem clean_summary_skipped :
    ∃ (report : Report) (batches : List Batch),
      (perform .quiet (run skipping Defaults.rules) oneMatched).result = .ok report ∧
      (Summary.of report).closing = Summary.clean ∧
      report.results.map (fun r => (r.matched, r.unchanged)) = [(1, 1), (0, 0), (0, 0)] ∧
      moments .quiet (run skipping Defaults.rules) oneMatched = batches.flatMap Batch.moments ∧
      ∀ batch ∈ batches, batch.stale = [] := by
  have hfacts : (perform .quiet (run skipping Defaults.rules) oneMatched).result.toOption.map
      (fun report => ((Summary.of report).closing, report.conflicts,
        report.results.map fun r => (r.matched, r.unchanged))) =
      some (Summary.clean, 0, [(1, 1), (0, 0), (0, 0)]) := by decide +kernel
  cases hr : (perform .quiet (run skipping Defaults.rules) oneMatched).result with
  | error failure => simp [hr, Except.toOption] at hfacts
  | ok report =>
    obtain ⟨hclean, hnone, hcounts⟩ : (Summary.of report).closing = Summary.clean ∧
        report.conflicts = 0 ∧
        report.results.map (fun r => (r.matched, r.unchanged)) = [(1, 1), (0, 0), (0, 0)] := by
      simpa [hr, Except.toOption] using hfacts
    obtain ⟨batches, -, hm, -, -, -, hstale, hlost, -⟩ := clean_summary _ _ _ _ hr hclean
    exact ⟨report, batches, rfl, hclean, hcounts, hm, hstale (hlost hnone)⟩

/-- **A run that has read a stale link calls the links clean**: another writer changed the link
before its update. -/
theorem clean_after_loss :
    (perform (overtaking (.text "http://mirror.example.org/")) (run (.trial "csv" 10 1)
        [Defaults.command]) oneStale).result.toOption.map (fun report =>
          (Summary.of report).closing) = some Summary.clean ∧
      ∃ search documents, ∃ document ∈ documents,
        .found search ∈ moments (overtaking (.text "http://mirror.example.org/"))
          (run (.trial "csv" 10 1) [Defaults.command]) oneStale ∧
        search.outcome = .ok documents ∧
        staleAt Defaults.command (Defaults.command.path "csv") document = true := by
  refine ⟨by decide +kernel, ?_⟩
  have hread : ((moments (overtaking (.text "http://mirror.example.org/"))
      (run (.trial "csv" 10 1) [Defaults.command]) oneStale).filterMap Moment.search?).any
        (fun search => (search.outcome.toOption.getD []).any
          (staleAt Defaults.command (Defaults.command.path "csv"))) = true := by decide +kernel
  obtain ⟨search, hs, hany⟩ := List.any_eq_true.1 hread
  obtain ⟨_, hm, hsearch⟩ := List.mem_filterMap.1 hs
  obtain rfl := Moment.search?_eq_some.1 hsearch
  obtain ⟨document, hd, hstale⟩ := List.any_eq_true.1 hany
  cases ho : search.outcome with
  | error => simp [ho, Except.toOption] at hd
  | ok documents =>
    exact ⟨search, documents, document, by simpa [ho, Except.toOption] using hd, hm, ho, hstale⟩

end Relink.Fix
