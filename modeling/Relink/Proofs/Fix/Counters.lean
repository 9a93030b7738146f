import Relink.Proofs.Fix.Conflict
import Relink.Proofs.Fix.Passes
import Relink.Proofs.Rule.Leftmost

/-!
# The counters add up

The five counters of a result are sums over the outcomes of its documents, and so are the numbers of
audit lines and of conflicts that a stage leaves behind. So they fit, whatever other writers do,
stage by stage in every pass of a run.

* `Told.addsUp`: the counters of a stage fit each other and what the stage leaves behind.
* `Passed`: what a pass leaves behind, with its total.
* `counters_add_up`: a run that returns is made of such passes.
-/

namespace Relink.Fix

open Job

variable {plan : Plan} {rule : Rule} {rules : List Rule} {format path : String}
  {schedule : Schedule} {outcomes : List Outcome} {result : RuleResult} {trace : List Event}

/-- Whether a record tells of a document that was lost to another writer. -/
def isLost (record : Record) : Bool :=
  record.text == "Document changed before update, not rewritten"

namespace Outcome

theorem countP_made_add_countP_lost (outcomes : List Outcome) :
    outcomes.countP made + outcomes.countP lost = (outcomes.filterMap request?).length := by
  induction outcomes with
  | nil => rfl
  | cons outcome rest ih =>
    rcases outcome with ⟨id, old⟩ | ⟨request, _ | _⟩ <;>
      simp only [List.countP_cons, List.filterMap_cons, List.length_cons, made, lost, request?,
        Bool.not_true, Bool.not_false, Bool.false_eq_true, if_true, if_false] <;> omega

theorem countP_changing_le (outcomes : List Outcome) :
    outcomes.countP changing ≤ outcomes.countP made := by
  refine List.countP_mono_left fun outcome _ h => ?_
  cases outcome with
  | skipped => cases h
  | asked request selected => exact (Bool.and_eq_true_iff.1 h).1

/-- A rewrite to another value replaces something. -/
theorem Due.applies_of_changing {outcome : Outcome} (h : outcome.Due plan rule path)
    (hc : outcome.changing = true) : rule.applies outcome.old = true := by
  cases outcome with
  | skipped => cases hc
  | asked request selected =>
    have hne : request.new ≠ request.old := bne_iff_ne.1 (Bool.and_eq_true_iff.1 hc).2
    obtain ⟨-, hnew, -, -⟩ := h
    rw [hnew] at hne
    exact (Rule.apply_ne_iff.1 hne).1

/-- No value is both changed and without the text to replace. -/
theorem countP_changing_add_le (h : ∀ outcome ∈ outcomes, outcome.Due plan rule path) :
    outcomes.countP changing + outcomes.countP (fun o => !rule.applies o.old) ≤
      outcomes.length := by
  have hsplit : outcomes.length = outcomes.countP (fun o => rule.applies o.old) +
      outcomes.countP (fun o => !rule.applies o.old) := by
    simpa using List.length_eq_countP_add_countP (fun o : Outcome => rule.applies o.old)
  have hle := List.countP_mono_left fun outcome hm => (h outcome hm).applies_of_changing
  omega

/-- What was asked for, of all documents: all, or those with the text to replace. -/
theorem length_requests (h : ∀ outcome ∈ outcomes, outcome.Due plan rule path) :
    (outcomes.filterMap request?).length +
      (if plan.skipUnchanged then outcomes.countP fun o => !rule.applies o.old else 0) =
        outcomes.length := by
  induction outcomes with
  | nil => simp
  | cons outcome rest ih =>
    obtain ⟨hfirst, hrest⟩ := List.forall_mem_cons.1 h
    have hih := ih hrest
    cases outcome with
    | skipped id old =>
      obtain ⟨hs, ha⟩ := hfirst
      simp only [hs, if_true, request?, Outcome.old, ha, List.filterMap_cons, List.countP_cons,
        List.length_cons, Bool.not_false] at hih ⊢
      omega
    | asked request selected =>
      obtain ⟨-, -, hs, -⟩ := hfirst
      by_cases hskip : plan.skipUnchanged = true
      · simp only [hskip, if_true, request?, Outcome.old, hs hskip, List.filterMap_cons,
          List.countP_cons, List.length_cons, Bool.not_true] at hih ⊢
        simp only [Bool.false_eq_true, if_false]
        omega
      · simp only [hskip, request?, List.filterMap_cons, List.length_cons] at hih ⊢
        simp only [Bool.false_eq_true, if_false] at hih ⊢
        omega

theorem countP_lost_of_dry (hd : plan.dryRun = true)
    (h : ∀ outcome ∈ outcomes, outcome.Due plan rule path) : outcomes.countP lost = 0 := by
  rw [List.countP_eq_zero]
  intro outcome hm
  cases outcome with
  | skipped => simp [lost]
  | asked request selected => simp [lost, (h _ hm).2.2.2 hd]

/-- **The audit lines of some outcomes** are those of the rewrites that were asked for. -/
theorem lines_events (plan : Plan) (rule : Rule) (path : String) (outcomes : List Outcome) :
    (Event.lines (outcomes.flatMap (events plan rule path))).filter Audit.isLine =
      (outcomes.filterMap request?).map Audit.line := by
  induction outcomes with
  | nil => rfl
  | cons outcome rest ih =>
    rw [List.flatMap_cons, Event.lines_append, List.filter_append, ih]
    cases outcome with
    | skipped => rfl
    | asked request selected =>
      have hone : Event.lines ((asked request selected).events plan rule path) =
          [Audit.line request] := by
        cases hd : plan.dryRun <;> cases selected <;> simp [events, hd, Event.lines]
      rw [hone, List.filter_cons_of_pos (Audit.isLine_line request)]
      rfl

/-- **The conflicts that some outcomes leave** are those of the documents that were lost. -/
theorem countP_records_events (h : ∀ outcome ∈ outcomes, outcome.Due plan rule path) :
    (Event.records (outcomes.flatMap (events plan rule path))).countP isLost =
      outcomes.countP lost := by
  induction outcomes with
  | nil => rfl
  | cons outcome rest ih =>
    obtain ⟨hfirst, hrest⟩ := List.forall_mem_cons.1 h
    rw [List.flatMap_cons, Event.records_append, List.countP_append, ih hrest, List.countP_cons,
      Nat.add_comm]
    congr 1
    cases outcome with
    | skipped => rfl
    | asked request selected =>
      obtain ⟨-, -, -, hdry⟩ := hfirst
      cases hd : plan.dryRun with
      | true => simp [events, hd, hdry hd, lost, Event.records]
      | false => cases selected <;> simp [events, hd, lost, Event.records, lostRecord, isLost]

end Outcome

/-- **The audit lines of a stage** are those of the rewrites that were asked for. -/
theorem Told.lines_eq (h : Told plan format rule outcomes result trace) :
    (Event.lines trace).filter Audit.isLine =
      (outcomes.filterMap Outcome.request?).map Audit.line := by
  obtain ⟨-, -, cap, rfl⟩ := h
  exact Outcome.lines_events plan rule (rule.path format) outcomes

/-- **The counters of a stage add up**, with each other and with what the stage leaves behind: an
audit line for each rewrite that was made or lost, and a warning for each that was lost. -/
structure AddsUp (plan : Plan) (format : String) (rule : Rule) (result : RuleResult)
    (trace : List Event) : Prop where
  format_eq : result.format = format
  rule_eq : result.rule = rule.name
  path_eq : result.path = rule.path format
  matched_le : result.matched ≤ plan.limit
  unchanged_nonneg : 0 ≤ result.unchanged
  conflicts_nonneg : 0 ≤ result.conflicts
  changed_le : result.changed ≤ result.rewritten
  changed_add_le : result.changed + result.unchanged ≤ result.matched
  taken : result.rewritten + result.conflicts =
    if plan.skipUnchanged then result.matched - result.unchanged else result.matched
  dry : plan.dryRun = true → result.conflicts = 0
  audited : ∃ requests : List UpdateRequest,
    (Event.lines trace).filter Audit.isLine = requests.map Audit.line ∧
      (requests.length : Int) = result.rewritten + result.conflicts ∧
      ∀ request ∈ requests, request.path = rule.path format ∧
        request.new = rule.apply request.old
  warned : ((Event.records trace).countP isLost : Int) = result.conflicts

/-- **The counters of a stage that returns add up.** -/
theorem Told.addsUp (h : Told plan format rule outcomes result trace)
    (hlen : (outcomes.length : Int) ≤ plan.limit) : AddsUp plan format rule result trace := by
  have hlines := h.lines_eq
  obtain ⟨hdue, rfl, cap, rfl⟩ := h
  have hasked := Outcome.countP_made_add_countP_lost outcomes
  have hchanging := Outcome.countP_changing_le outcomes
  have hdisjoint := Outcome.countP_changing_add_le hdue
  have hrequests := Outcome.length_requests hdue
  refine ⟨rfl, rfl, rfl, hlen, Int.natCast_nonneg _, Int.natCast_nonneg _, ?_, ?_, ?_, fun hd => ?_,
    ⟨outcomes.filterMap Outcome.request?, hlines, ?_, ?_⟩, ?_⟩
  · simp only [resultOf]
    omega
  · simp only [resultOf]
    omega
  · simp only [resultOf]
    cases hs : plan.skipUnchanged <;>
      simp only [hs, if_true, if_false, Bool.false_eq_true] at hrequests ⊢ <;> omega
  · simp only [resultOf, Outcome.countP_lost_of_dry hd hdue]
    rfl
  · simp only [resultOf]
    omega
  · intro request hm
    obtain ⟨outcome, ho, he⟩ := List.mem_filterMap.1 hm
    cases outcome with
    | skipped => cases he
    | asked asked selected =>
      cases he
      exact ⟨(hdue _ ho).1, (hdue _ ho).2.1⟩
  · exact congrArg Nat.cast (Outcome.countP_records_events hdue)

/-- **A pass adds up**: it is told stage by stage, with one result for each format and rule, and the
count it echoes is the sum of its rewrites. -/
structure PassAddsUp (plan : Plan) (rules : List Rule) (report : Report) (trace : List Event) : Prop
    extends PassTold (AddsUp plan) plan rules report trace where
  order : (report.results.map fun r => (r.format, r.rule)) =
    (stages plan.formats rules).map fun stage => (stage.1, stage.2.name)
  countDone_eq : report.countDone = (report.results.map RuleResult.rewritten).sum
  countDone_le : report.countDone ≤ maxRewrites plan rules

theorem length_stages (formats : List String) (rules : List Rule) :
    (stages formats rules).length = rules.length * formats.length := by
  induction formats with
  | nil => rfl
  | cons format rest ih =>
    rw [stages, List.flatMap_cons, List.length_append, List.length_map, ← stages, ih,
      List.length_cons, Nat.mul_succ, Nat.add_comm]

/-- The results of an account are those of the formats and rules, in order. -/
theorem Account.order {formats : List String} {results : List RuleResult}
    (h : Account (AddsUp plan) rules formats results trace) :
    (results.map fun r => (r.format, r.rule)) =
      (stages formats rules).map fun stage => (stage.1, stage.2.name) := by
  induction h with
  | nil => rfl
  | @cons format _ done _ _ here more ih =>
    have hformat : (done.map fun stage => (stage.1.format, stage.1.rule)) =
        rules.map fun rule => (format, rule.name) := by
      clear more ih
      induction here with
      | nil => rfl
      | cons h _ ih => rw [List.map_cons, List.map_cons, ih, h.format_eq, h.rule_eq]
    rw [List.map_append, ih, List.map_map, Function.comp_def, hformat]
    simp [stages, Function.comp_def]

theorem AddsUp.rewritten_le (h : AddsUp plan format rule result trace) :
    result.rewritten ≤ plan.limit := by
  have htaken := h.taken
  have hmatched := h.matched_le
  have hconflicts := h.conflicts_nonneg
  have hunchanged := h.unchanged_nonneg
  split at htaken <;> omega

/-- **Every pass that returns adds up.** -/
theorem fixAll_addsUp (hp : plan.Accepted) (hc : Capped plan.limit schedule) (rules : List Rule) :
    (fixAll plan rules).Leaves schedule (PassAddsUp plan rules) := by
  have hstage : ∀ format rule, (fixRule plan format rule).Leaves schedule
      (AddsUp plan format rule) := by
    intro format rule
    refine (fixRule_told plan format rule).mono ?_
    rintro result trace ⟨outcomes, htold, hlen⟩
    exact htold.addsUp (hlen hp.limit_pos hc)
  refine (fixAll_account fun format _ rule _ => hstage format rule).mono ?_
  rintro report trace htold
  obtain ⟨body, haccount, -⟩ := htold.account
  have horder := haccount.order
  have hlen : report.results.length = rules.length * plan.formats.length := by
    simpa [length_stages] using congrArg List.length horder
  have hsum : report.countDone = (report.results.map RuleResult.rewritten).sum :=
    Report.total_eq_sum _ report
  refine { htold with order := horder, countDone_eq := hsum, countDone_le := ?_ }
  calc report.countDone
      = (report.results.map RuleResult.rewritten).sum := hsum
    _ ≤ (report.results.map RuleResult.rewritten).length • plan.limit :=
        List.sum_le_card_nsmul _ _
          (List.forall_mem_map.2 (haccount.forall_results fun _ _ _ _ h => h.rewritten_le))
    _ = maxRewrites plan rules := by
        rw [List.length_map, hlen, maxRewrites, Int.nsmul_eq_mul, Int.natCast_mul, Int.mul_comm,
          Int.mul_assoc]

/-- What comes after the passes is no part of the audit trail, and tells of no document lost. -/
theorem closing_aside (plan : Plan) (last total : Report) :
    (Event.lines (closing plan last total)).filter Audit.isLine = [] ∧
      (Event.records (closing plan last total)).countP isLost = 0 := by
  have hwarning : (Event.records (warning plan last total)).countP isLost = 0 := by
    unfold warning
    split <;> simp [Event.records, spentRecord, isLost]
  rw [closing, Event.lines_append, lines_warning, Event.records_append, List.countP_append,
    hwarning]
  split <;> simp [Event.lines, Event.records, isLine_passesLine]

/-- **A run that returns is made of passes**: its results are theirs, and all that it leaves of the
audit trail and of lost documents they have left. -/
theorem run_passes (hp : plan.Accepted) {site : Site} {report : Report}
    (hr : (perform schedule (run plan rules) site).result = .ok report) :
    ∃ passes rest,
      PassesFrom plan rules schedule site passes (perform schedule (run plan rules) site).site ∧
      report.passes = passes.length ∧
      report.results = passes.flatMap (fun pass => pass.1.results) ∧
      (perform schedule (run plan rules) site).trace = passes.flatMap Prod.snd ++ rest ∧
      (Event.lines rest).filter Audit.isLine = [] ∧ (Event.records rest).countP isLost = 0 := by
  unfold run at hr ⊢
  split at hr
  · next hrepeated =>
    rw [if_pos hrepeated]
    obtain ⟨-, hreturns⟩ := fixUntilClean_shape hp rules schedule site
    obtain ⟨earlier, last, hshape, htrace⟩ := hreturns report hr
    refine ⟨earlier ++ [last], _, hshape.passed, ?_, ?_, htrace,
      closing_aside plan last.1 report⟩
    · rw [hshape.merged_eq, passes_merged hshape.passed]
      simp
    · rw [hshape.merged_eq, results_merged]
      simp
  · next hrepeated =>
    rw [if_neg hrepeated]
    rcases hone : perform schedule (fixAll plan rules) site with ⟨result, after, trace⟩
    rw [hone] at hr
    obtain rfl : result = .ok report := hr
    have hcount := (changed_nonneg_of_pass (congrArg Ending.result hone)).2
    exact ⟨[(report, trace)], [], .cons hone (.nil after), hcount, by simp, by simp, rfl, rfl⟩

/-- **The counters add up**, whatever other writers do, in every run that returns. Its results are,
pass by pass, one for each format and rule. The counters of each fit the limit, each other, and what
the stage left behind; and each pass echoes the sum of its rewrites, within the bound on a pass. -/
theorem counters_add_up (hp : plan.Accepted) (rules : List Rule) (schedule : Schedule)
    (hc : Capped plan.limit schedule) (site : Site) {report : Report}
    (hr : (perform schedule (run plan rules) site).result = .ok report) :
    let ending := perform schedule (run plan rules) site
    ∃ passes rest, PassesFrom plan rules schedule site passes ending.site ∧
      report.passes = passes.length ∧
      report.results = passes.flatMap (fun pass => pass.1.results) ∧
      ending.trace = passes.flatMap Prod.snd ++ rest ∧
      (Event.lines rest).filter Audit.isLine = [] ∧ (Event.records rest).countP isLost = 0 ∧
      ∀ pass ∈ passes, PassAddsUp plan rules pass.1 pass.2 := by
  obtain ⟨passes, rest, hpassed, hcount, hresults, htrace, haudit, hlost⟩ := run_passes hp hr
  refine ⟨passes, rest, hpassed, hcount, hresults, htrace, haudit, hlost, fun pass hm => ?_⟩
  obtain ⟨start, after, hpass⟩ := hpassed.exists_site pass hm
  have hadds := fixAll_addsUp hp hc rules start pass.1
  rw [hpass] at hadds
  exact hadds rfl

/-- Of two links one is overtaken: two audit lines, one rewrite and one conflict. -/
theorem counters_add_up_overtaken :
    Capped 10 (overtaking (.text "http://mirror.example.org/")) ∧
      ∃ (report : Report) (passes : List (Report × List Event)),
      (perform (overtaking (.text "http://mirror.example.org/"))
        (run (.trial "csv" 10 1) [Defaults.command]) twoStale).result = .ok report ∧
      report.results.map (fun r => (r.matched, r.rewritten, r.conflicts)) = [(2, 1, 1)] ∧
      report.results = passes.flatMap (fun pass => pass.1.results) ∧
      ∀ pass ∈ passes, PassAddsUp (.trial "csv" 10 1) [Defaults.command] pass.1 pass.2 := by
  have hp : (Plan.trial "csv" 10 1).Accepted := Plan.accepted_trial rfl (by decide) (by decide)
  have hc : Capped 10 (overtaking (.text "http://mirror.example.org/")) := fun n documents h =>
    absurd h ((lawful_overtaking _).cursors n documents)
  have hcounts : (perform (overtaking (.text "http://mirror.example.org/"))
      (run (.trial "csv" 10 1) [Defaults.command]) twoStale).result.toOption.map
        (fun report => report.results.map fun r => (r.matched, r.rewritten, r.conflicts)) =
      some [(2, 1, 1)] := by decide +kernel
  cases hr : (perform (overtaking (.text "http://mirror.example.org/"))
      (run (.trial "csv" 10 1) [Defaults.command]) twoStale).result with
  | error failure => simp [hr, Except.toOption] at hcounts
  | ok report =>
    obtain ⟨passes, -, -, -, hresults, -, -, -, hadds⟩ := counters_add_up hp [Defaults.command]
      (overtaking (.text "http://mirror.example.org/")) hc twoStale hr
    exact ⟨hc, report, passes, rfl, by simpa [hr, Except.toOption] using hcounts, hresults, hadds⟩

end Relink.Fix
