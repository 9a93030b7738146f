import Mathlib.Algebra.Order.BigOperators.Group.List
import Mathlib.Algebra.Ring.Int.Defs
import Relink.Proofs.Fix.Outcomes
import Relink.Proofs.Fix.Sweeps
import Relink.Proofs.Fix.Trail

/-!
# Passes one after another

What a run of repeated passes is made of, whatever other writers do between its calls. Each pass
starts at the site that the one before it left. The loop goes on only after a live pass that changed
something, and ends in one of three ways: with a pass after which there is no going on, with the
last pass that is allowed, or with a pass that fails.

* `PassesFrom`: passes, each at the site that the one before it left.
* `repeatPasses_ended`: the three ways in which repeated passes end.
* `fixUntilClean_shape`: what repeating passes until the links are clean leaves behind.
* `repeated_run`: the shape of a run of repeated passes.
-/

namespace Relink

theorem Report.total_eq_sum (count : RuleResult → Int) (report : Report) :
    report.total count = (report.results.map count).sum := by
  rw [Report.total, List.sum_eq_foldr, List.foldr_map]

namespace Fix

open Job

variable {plan : Plan} {rules : List Rule} {schedule : Schedule} {site middle : Site}
  {report total : Report} {left : Nat}

/-- **Passes one after another**, each at the site that the one before it left: their reports, each
with what the pass left behind, and the site at the end. -/
inductive PassesFrom (plan : Plan) (rules : List Rule) (schedule : Schedule) :
    Site → List (Report × List Event) → Site → Prop
  | nil (site : Site) : PassesFrom plan rules schedule site [] site
  | cons {site middle last : Site} {report : Report} {trace : List Event}
      {more : List (Report × List Event)}
      (first : perform schedule (fixAll plan rules) site = ⟨.ok report, middle, trace⟩)
      (rest : PassesFrom plan rules schedule middle more last) :
      PassesFrom plan rules schedule site ((report, trace) :: more) last

/-- Each of some passes is a pass at some site. -/
theorem PassesFrom.exists_site {passes : List (Report × List Event)} {last : Site}
    (h : PassesFrom plan rules schedule site passes last) :
    ∀ pass ∈ passes, ∃ site after,
      perform schedule (fixAll plan rules) site = ⟨.ok pass.1, after, pass.2⟩ := by
  induction h with
  | nil => simp
  | cons first _ ih => exact List.forall_mem_cons.2 ⟨⟨_, _, first⟩, ih⟩

/-- The reports of some passes, merged in order into one. -/
def merged (total : Report) (passes : List (Report × List Event)) : Report :=
  (passes.map Prod.fst).foldl Report.merge total

theorem merged_cons (total : Report) (pass : Report × List Event)
    (more : List (Report × List Event)) :
    merged total (pass :: more) = merged (total.merge pass.1) more := rfl

theorem results_merged (total : Report) (passes : List (Report × List Event)) :
    (merged total passes).results = total.results ++ passes.flatMap fun pass => pass.1.results := by
  induction passes generalizing total with
  | nil => simp [merged]
  | cons pass more ih => simp [merged_cons, ih, Report.merge]

theorem countDone_merged (total : Report) (passes : List (Report × List Event)) :
    (merged total passes).countDone =
      total.countDone + (passes.map fun pass => pass.1.countDone).sum := by
  induction passes generalizing total with
  | nil => simp [merged]
  | cons pass more ih =>
    rw [merged_cons, ih, Report.countDone_merge, List.map_cons, List.sum_cons, Int.add_assoc]

/-- The loop goes on after a pass. -/
def GoesOn (plan : Plan) (report : Report) : Prop := plan.dryRun = false ∧ report.changed ≠ 0

/-- The record that the passes are used up. -/
def spentRecord (plan : Plan) (total : Report) : Record where
  level := .warning
  text := "Stopped before links were clean"
  fields := [("max_passes", .int plan.maxPasses), ("count_done", .int total.countDone)]

/-- **How repeated passes end**, of which `left` are allowed: with a pass after which the loop does
not go on, with the last pass that is allowed, or with a pass that fails. -/
inductive Ended (plan : Plan) (rules : List Rule) (schedule : Schedule) (left : Nat)
    (total : Report) (site : Site) : Ending Report → Prop
  | stopped {earlier : List (Report × List Event)} {pass : Report × List Event} {last : Site}
      (passed : PassesFrom plan rules schedule site (earlier ++ [pass]) last)
      (bound : earlier.length < left) (going : ∀ pass ∈ earlier, GoesOn plan pass.1)
      (stop : ¬ GoesOn plan pass.1) :
      Ended plan rules schedule left total site
        ⟨.ok (merged total (earlier ++ [pass])), last, (earlier ++ [pass]).flatMap Prod.snd⟩
  | spent {passes : List (Report × List Event)} {last : Site}
      (passed : PassesFrom plan rules schedule site passes last) (bound : passes.length = left)
      (going : ∀ pass ∈ passes, GoesOn plan pass.1) :
      Ended plan rules schedule left total site
        ⟨.ok (merged total passes), last,
          passes.flatMap Prod.snd ++ [.record (spentRecord plan (merged total passes))]⟩
  | failed {passes : List (Report × List Event)} {middle last : Site} {failure : Failure}
      {trace : List Event} (passed : PassesFrom plan rules schedule site passes middle)
      (bound : passes.length < left) (going : ∀ pass ∈ passes, GoesOn plan pass.1)
      (fails : perform schedule (fixAll plan rules) middle = ⟨.error failure, last, trace⟩) :
      Ended plan rules schedule left total site
        ⟨.error failure, last, passes.flatMap Prod.snd ++ trace⟩

/-- **One more pass in front**, after which the loop goes on. -/
theorem Ended.cons {ending : Ending Report} {trace : List Event}
    (first : perform schedule (fixAll plan rules) site = ⟨.ok report, middle, trace⟩)
    (hgo : GoesOn plan report)
    (h : Ended plan rules schedule left (total.merge report) middle ending) :
    Ended plan rules schedule (left + 1) total site
      { ending with trace := trace ++ ending.trace } := by
  cases h with
  | @stopped earlier pass _ passed bound going stop =>
    have hmore := @Ended.stopped plan rules schedule (left + 1) total site
      ((report, trace) :: earlier) pass _ (.cons first passed) (Nat.succ_lt_succ bound)
      (List.forall_mem_cons.2 ⟨hgo, going⟩) stop
    simpa [merged_cons] using hmore
  | @spent passes _ passed bound going =>
    have hmore := @Ended.spent plan rules schedule (left + 1) total site
      ((report, trace) :: passes) _ (.cons first passed) (congrArg Nat.succ bound)
      (List.forall_mem_cons.2 ⟨hgo, going⟩)
    simpa [merged_cons] using hmore
  | @failed passes _ _ _ _ passed bound going fails =>
    have hmore := @Ended.failed plan rules schedule (left + 1) total site
      ((report, trace) :: passes) _ _ _ _ (.cons first passed) (Nat.succ_lt_succ bound)
      (List.forall_mem_cons.2 ⟨hgo, going⟩) fails
    simpa using hmore

/-- **Repeated passes end in one of the three ways.** -/
theorem repeatPasses_ended (plan : Plan) (rules : List Rule) (schedule : Schedule) (left : Nat)
    (total : Report) (site : Site) :
    Ended plan rules schedule left total site
      (perform schedule (repeatPasses plan rules left total) site) := by
  induction left generalizing total site with
  | zero => exact .spent (.nil site) rfl (by simp)
  | succ left ih =>
    rw [repeatPasses_succ, perform_bind, Ending.andThen]
    rcases hpass : perform schedule (fixAll plan rules) site with ⟨result, middle, trace⟩
    cases result with
    | error failure =>
      simpa using @Ended.failed plan rules schedule (left + 1) total site [] _ _ _ _ (.nil site)
        (Nat.succ_pos left) (by simp) hpass
    | ok report =>
      simp only
      split
      · next hstop =>
        have hnot : ¬ GoesOn plan report := by
          rintro ⟨hlive, hchanged⟩
          simp [hlive, hchanged] at hstop
        have hone := @Ended.stopped plan rules schedule (left + 1) total site [] (report, trace) _
          (.cons hpass (.nil middle)) (Nat.succ_pos left) (by simp) hnot
        simpa [merged, perform] using hone
      · next hstop =>
        have hgo : GoesOn plan report := by simpa [GoesOn] using hstop
        exact (ih (total.merge report) middle).cons hpass hgo

/-- A count that is negative for no outcome is not negative in total. -/
theorem total_nonneg {count : RuleResult → Int} {report : Report}
    (h : ∀ result ∈ report.results, 0 ≤ count result) : 0 ≤ report.total count := by
  rw [Report.total_eq_sum]
  exact List.sum_nonneg (List.forall_mem_map.2 h)

/-- The number of changes of a pass is not negative, and a pass is one pass. -/
theorem changed_nonneg_of_pass
    (h : (perform schedule (fixAll plan rules) site).result = .ok report) :
    0 ≤ report.changed ∧ report.passes = 1 := by
  have hstage : ∀ format rule, (fixRule plan format rule).Leaves schedule
      fun result _ => 0 ≤ result.changed := by
    intro format rule
    refine (fixRule_told plan format rule).mono ?_
    rintro result trace ⟨outcomes, told, -⟩
    rw [told.result_eq]
    exact Int.natCast_nonneg _
  have hpass := fixAll_account (S := fun _ _ result _ => 0 ≤ result.changed)
    (fun format _ rule _ => hstage format rule) site report h
  obtain ⟨body, account, -⟩ := hpass.account
  exact ⟨total_nonneg (account.forall_results fun _ _ _ _ h => h), hpass.passes_eq⟩

theorem passes_merged {passes : List (Report × List Event)} {last : Site}
    (h : PassesFrom plan rules schedule site passes last) (total : Report) :
    (merged total passes).passes = total.passes + passes.length := by
  induction h generalizing total with
  | nil => simp [merged]
  | cons first _ ih =>
    have hone := (changed_nonneg_of_pass (congrArg Ending.result first)).2
    rw [merged_cons, ih]
    simp only [Report.merge, hone, List.length_cons]
    omega

/-- Whether a line tells the number of passes. -/
def tellsPasses (line : String) : Bool := "passes: ".toList.isPrefixOf line.toList

/-- The line that tells the number of passes and the count of all. -/
def passesLine (total : Report) : String :=
  "passes: " ++ toString total.passes ++ ", total count_done: " ++ toString total.countDone

theorem tellsPasses_passesLine (total : Report) : tellsPasses (passesLine total) = true := by
  simp [tellsPasses, passesLine, List.isPrefixOf]

theorem isLine_passesLine (total : Report) : Audit.isLine (passesLine total) = false := by
  rw [passesLine, String.append_assoc, String.append_assoc]
  exact isLine_append (by decide)

/-- What a pass writes: no line that tells the number of passes. -/
def untold : Event → Prop
  | .line text => tellsPasses text = false
  | _ => True

/-- **A pass tells no number of passes.** -/
theorem fixAll_untold (plan : Plan) (rules : List Rule) :
    (fixAll plan rules).Does untold fun _ => True := by
  have hline : ∀ request, tellsPasses (Audit.line request) = false := by
    intro request
    have h := Audit.isLine_line request
    cases hl : (Audit.line request).toList <;>
      simp_all [tellsPasses, Audit.isLine, List.isPrefixOf]
  have hdocument : ∀ rule result document,
      (fixDocument plan rule result document).Does untold fun _ => True := by
    intro rule result document
    rw [fixDocument_eq]
    split
    · trivial
    · trivial
    · split
      · exact ⟨trivial, trivial⟩
      · cases hd : plan.dryRun with
        | true =>
          rw [replaceLink_dryRun hd]
          exact ⟨hline _, trivial⟩
        | false =>
          rw [replaceLink_live hd]
          refine ⟨hline _, trivial, fun selected => ?_⟩
          cases selected with
          | true => trivial
          | false => exact ⟨trivial, trivial⟩
  have hformats : (fixFormats plan rules plan.formats).Does untold fun _ => True :=
    fixFormats_of_documents (Does.composes fun _ _ => trivial)
      (fun format _ h => ⟨by simp [untold, tellsPasses, List.isPrefixOf], h⟩) hdocument rules
      plan.formats
  exact hformats.bind fun _ _ => ⟨by simp [untold, tellsPasses, List.isPrefixOf], trivial, trivial⟩

/-- Whether a record tells that the passes are used up. -/
def isSpent (record : Record) : Bool := record.text == "Stopped before links were clean"

theorem countP_isSpent_of_not_warned {trace : List Event} (h : ¬ Warned trace) :
    (Event.records trace).countP isSpent = 0 := by
  rw [List.countP_eq_zero]
  intro record hm hs
  obtain ⟨event, he, hr⟩ := List.mem_filterMap.1 hm
  cases event with
  | record r =>
    cases hr
    exact h ⟨_, he, by simpa [isSpent] using hs⟩
  | line | call | server => cases hr

/-- **Passes leave no record that they are used up**, and tell no number of passes. -/
theorem PassesFrom.silent {passes : List (Report × List Event)} {last : Site}
    (h : PassesFrom plan rules schedule site passes last) :
    (Event.records (passes.flatMap Prod.snd)).countP isSpent = 0 ∧
      (Event.lines (passes.flatMap Prod.snd)).filter tellsPasses = [] := by
  induction h with
  | nil => exact ⟨rfl, rfl⟩
  | @cons site _ _ report trace _ first _ ih =>
    have hwarned := not_warned_fixAll plan rules schedule site
    have htold : ∀ event ∈ (perform schedule (fixAll plan rules) site).trace, untold event :=
      (perform_of_does (fixAll_untold plan rules) site).1
    rw [first] at hwarned htold
    rw [List.flatMap_cons, Event.records_append, Event.lines_append, List.countP_append,
      List.filter_append, ih.1, ih.2, countP_isSpent_of_not_warned hwarned, List.append_nil]
    refine ⟨rfl, List.filter_eq_nil_iff.2 fun line hm => ?_⟩
    obtain ⟨event, he, hl⟩ := List.mem_filterMap.1 hm
    cases event with
    | line text =>
      cases hl
      simpa [untold] using htold _ he
    | record | call | server => cases hl

/-- **The shape of repeated passes** that return: the passes before the last, the last, the site at
the end and the report. -/
structure Shape (plan : Plan) (rules : List Rule) (schedule : Schedule) (site : Site)
    (earlier : List (Report × List Event)) (last : Report × List Event) (after : Site)
    (total : Report) : Prop where
  passed : PassesFrom plan rules schedule site (earlier ++ [last]) after
  merged_eq : total = merged { dryRun := plan.dryRun } (earlier ++ [last])
  passes_le : total.passes ≤ plan.maxPasses
  dry : plan.dryRun = true → earlier = []
  progress : ∀ pass ∈ earlier, 0 < pass.1.changed
  stop : last.1.changed = 0 ∨ plan.dryRun = true ∨ total.passes = plan.maxPasses

/-- The warning after repeated passes, if there is one. -/
def warning (plan : Plan) (last total : Report) : List Event :=
  if plan.dryRun = false ∧ 0 < last.changed then [.record (spentRecord plan total)] else []

theorem countP_isSpent_warning (plan : Plan) (last total : Report) :
    (Event.records (warning plan last total)).countP isSpent =
      if plan.dryRun = false ∧ 0 < last.changed then 1 else 0 := by
  unfold warning
  split <;> rfl

theorem lines_warning (plan : Plan) (last total : Report) :
    Event.lines (warning plan last total) = [] := by
  unfold warning
  split <;> rfl

theorem passes_shape {earlier : List (Report × List Event)} {last : Report × List Event}
    {after : Site} (h : PassesFrom plan rules schedule site (earlier ++ [last]) after) :
    (merged { dryRun := plan.dryRun } (earlier ++ [last])).passes = earlier.length + 1 := by
  rw [passes_merged h]
  simp

/-- A pass after which the loop goes on has changed something. -/
theorem GoesOn.changed_pos {passes : List (Report × List Event)} {after : Site}
    (h : PassesFrom plan rules schedule site passes after) {pass : Report × List Event}
    (hm : pass ∈ passes) (hgo : GoesOn plan pass.1) : 0 < pass.1.changed := by
  obtain ⟨_, _, hpass⟩ := h.exists_site pass hm
  have hnonneg := (changed_nonneg_of_pass (congrArg Ending.result hpass)).1
  have hne := hgo.2
  omega

/-- **Repeated passes that return** have their shape, and warn if the last of them was live and
changed something. -/
theorem Ended.shape (hp : plan.Accepted) {ending : Ending Report}
    (h : Ended plan rules schedule plan.maxPasses.toNat { dryRun := plan.dryRun } site ending)
    (hr : ending.result = .ok total) :
    ∃ earlier last, Shape plan rules schedule site earlier last ending.site total ∧
      ending.trace = (earlier ++ [last]).flatMap Prod.snd ++ warning plan last.1 total := by
  have hmax := hp.maxPasses_pos
  cases h with
  | @stopped earlier last _ passed bound going stop =>
    cases hr
    have hpasses := passes_shape passed
    have hstop : last.1.changed = 0 ∨ plan.dryRun = true := by
      by_contra hc
      obtain ⟨h1, h2⟩ := not_or.1 hc
      exact stop ⟨by simpa using h2, h1⟩
    refine ⟨earlier, last, ⟨passed, rfl, by omega, fun hd => ?_, fun pass hm => ?_, ?_⟩, ?_⟩
    · -- the loop does not go on after a dry pass
      apply List.eq_nil_iff_forall_not_mem.2
      intro pass hm
      exact absurd (going pass hm).1 (by simp [hd])
    · exact (going pass hm).changed_pos passed (List.mem_append_left _ hm)
    · exact hstop.imp_right Or.inl
    · have hnone : ¬ (plan.dryRun = false ∧ 0 < last.1.changed) := by
        rintro ⟨hlive, hpos⟩
        rcases hstop with h | h
        · omega
        · simp [h] at hlive
      simp [warning, hnone]
  | @spent passes _ passed bound going =>
    cases hr
    rcases List.eq_nil_or_concat passes with rfl | ⟨earlier, last, hsplit⟩
    · -- at least one pass is allowed
      simp at bound
      omega
    · rw [List.concat_eq_append] at hsplit
      subst hsplit
      have hpasses := passes_shape passed
      have hlen : earlier.length + 1 = plan.maxPasses.toNat := by simpa using bound
      have hlast := going last (by simp)
      have hpos := hlast.changed_pos passed (by simp)
      refine ⟨earlier, last, ⟨passed, rfl, by omega, fun hd => ?_, fun pass hm => ?_, ?_⟩, ?_⟩
      · exact absurd hlast.1 (by simp [hd])
      · exact (going pass (by simp [hm])).changed_pos passed (List.mem_append_left _ hm)
      · exact Or.inr (Or.inr (by omega))
      · simp [warning, hlast.1, hpos]
  | failed => cases hr

/-- What is left behind after the passes: the warning, if there is one, and then the line with the
number of passes, if there was more than one. -/
def closing (plan : Plan) (last total : Report) : List Event :=
  warning plan last total ++ if 1 < total.passes then [.line (passesLine total)] else []

/-- Passes are repeated, and then their number is told if there was more than one. -/
theorem fixUntilClean_eq (plan : Plan) (rules : List Rule) :
    fixUntilClean plan rules =
      (repeatPasses plan rules plan.maxPasses.toNat { dryRun := plan.dryRun }).bind fun total =>
        if 1 < total.passes then .echo (passesLine total) (.done total) else .done total := rfl

/-- **Repeating passes until the links are clean** fails only with a pass that fails. If it returns,
the passes have their shape and leave what they leave, and then comes the closing. -/
theorem fixUntilClean_shape (hp : plan.Accepted) (rules : List Rule) (schedule : Schedule)
    (site : Site) :
    let ending := perform schedule (fixUntilClean plan rules) site
    (∀ failure, ending.result = .error failure → ∃ passes middle,
        PassesFrom plan rules schedule site passes middle ∧
        (perform schedule (fixAll plan rules) middle).result = .error failure) ∧
      ∀ total, ending.result = .ok total → ∃ earlier last,
        Shape plan rules schedule site earlier last ending.site total ∧
        ending.trace = (earlier ++ [last]).flatMap Prod.snd ++ closing plan last.1 total := by
  have hended := repeatPasses_ended plan rules schedule plan.maxPasses.toNat
    { dryRun := plan.dryRun } site
  simp only
  rw [fixUntilClean_eq, perform_bind, Ending.andThen]
  rcases hperf : perform schedule (repeatPasses plan rules plan.maxPasses.toNat
    { dryRun := plan.dryRun }) site with ⟨result, after, trace⟩
  rw [hperf] at hended
  cases result with
  | error failure =>
    refine ⟨?_, by simp⟩
    rintro _ ⟨⟩
    cases hended with
    | failed passed _ _ fails => exact ⟨_, _, passed, by rw [fails]⟩
  | ok total =>
    have hlast : perform schedule
        (if 1 < total.passes then .echo (passesLine total) (.done total) else .done total) after =
          ⟨.ok total, after, if 1 < total.passes then [.line (passesLine total)] else []⟩ := by
      split <;> rfl
    simp only [hlast]
    refine ⟨by simp, ?_⟩
    rintro _ ⟨⟩
    obtain ⟨earlier, last, hshape, rfl⟩ := hended.shape hp rfl
    exact ⟨earlier, last, hshape, List.append_assoc ..⟩

/-- **The shape of a run of repeated passes** that returns: the passes before the last, the last,
how the run ended and its report. -/
structure Repeated (plan : Plan) (rules : List Rule) (schedule : Schedule) (site : Site)
    (earlier : List (Report × List Event)) (last : Report × List Event) (ending : Ending Report)
    (total : Report) : Prop extends Shape plan rules schedule site earlier last ending.site total
    where
  passes_eq : total.passes = earlier.length + 1
  countDone_eq : total.countDone = ((earlier ++ [last]).map fun pass => pass.1.countDone).sum
  trace_eq : ending.trace = (earlier ++ [last]).flatMap Prod.snd ++ closing plan last.1 total
  warned : (Event.records ending.trace).countP isSpent =
    if plan.dryRun = false ∧ 0 < last.1.changed then 1 else 0
  told : (Event.lines ending.trace).filter tellsPasses =
    if 1 < total.passes then [passesLine total] else []

/-- **The shape of a run of repeated passes**, whatever other writers do and whatever the rules are.
It fails only with a pass that fails. Otherwise it returns the report of at least one and at most
so many passes as are allowed, each at the site that the one before it left. All but the last have
changed something, and the last has not, unless it was a dry one or the last that is allowed. The
run warns once if a live last pass has changed something, and then, if there was more than one pass,
tells their number and their count. -/
theorem repeated_run (hp : plan.Accepted) (rules : List Rule) (schedule : Schedule) (site : Site) :
    let ending := perform schedule (fixUntilClean plan rules) site
    (∀ failure, ending.result = .error failure → ∃ passes middle,
        PassesFrom plan rules schedule site passes middle ∧
        (perform schedule (fixAll plan rules) middle).result = .error failure) ∧
      ∀ total, ending.result = .ok total → ∃ earlier last,
        Repeated plan rules schedule site earlier last ending total := by
  obtain ⟨hfails, hreturns⟩ := fixUntilClean_shape hp rules schedule site
  refine ⟨hfails, fun total hr => ?_⟩
  obtain ⟨earlier, last, hshape, htrace⟩ := hreturns total hr
  obtain ⟨hspent, htold⟩ := hshape.passed.silent
  refine ⟨earlier, last, { hshape with
    passes_eq := ?_, countDone_eq := ?_, trace_eq := htrace, warned := ?_, told := ?_ }⟩
  · rw [hshape.merged_eq, passes_shape hshape.passed]
  · rw [hshape.merged_eq, countDone_merged]
    simp [Report.countDone, Report.total]
  · rw [htrace, closing, Event.records_append, Event.records_append, List.countP_append,
      List.countP_append, hspent, countP_isSpent_warning]
    split <;> simp [Event.records]
  · rw [htrace, closing, Event.lines_append, Event.lines_append, List.filter_append,
      List.filter_append, htold, lines_warning]
    split <;> simp [Event.lines, tellsPasses_passesLine]

/-- A rule whose new text holds the old one: its links never become clean. -/
def growing : Rule := { Defaults.command with old := ".csv", new := ".csv.csv" }

/-- A live plan of repeated passes over one format, at most two of them. -/
def twice : Plan := { Plan.trial "csv" 10 2 with repeated := true }

theorem accepted_twice : twice.Accepted :=
  ⟨Plan.check_ok.2 ⟨by decide, by decide, by decide, by decide⟩, List.nodup_singleton "csv"⟩

/-- A rule whose links never become clean uses up the passes: both change all links, and the run
warns and tells their number. -/
theorem repeated_run_growing :
    ∃ total earlier last,
      (perform .quiet (fixUntilClean twice [growing]) twoStale).result = .ok total ∧
      Repeated twice [growing] .quiet twoStale earlier last
        (perform .quiet (fixUntilClean twice [growing]) twoStale) total ∧
      earlier.length = 1 ∧ total.countDone = 4 ∧
      (Event.records (perform .quiet (fixUntilClean twice [growing]) twoStale).trace).countP
        isSpent = 1 := by
  obtain ⟨-, hreturns⟩ := repeated_run accepted_twice [growing] .quiet twoStale
  have hcounts : ((perform .quiet (fixUntilClean twice [growing]) twoStale).result.toOption.map
        fun total => (total.passes, total.countDone)) = some (2, 4) ∧
      (Event.records (perform .quiet (fixUntilClean twice [growing]) twoStale).trace).countP
        isSpent = 1 := by decide +kernel
  cases hr : (perform .quiet (fixUntilClean twice [growing]) twoStale).result with
  | error failure => simp [hr, Except.toOption] at hcounts
  | ok total =>
    obtain ⟨earlier, last, h⟩ := hreturns total hr
    obtain ⟨hpasses, hdone⟩ : total.passes = 2 ∧ total.countDone = 4 := by
      simpa [hr, Except.toOption] using hcounts.1
    have hlen := h.passes_eq
    exact ⟨total, earlier, last, rfl, h, by omega, hdone, hcounts.2⟩

end Fix

end Relink
