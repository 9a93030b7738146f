import Mathlib.Data.List.Perm.Basic
import Relink.Proofs.Fix.Sweep
import Relink.Proofs.Rule.Alike
import Relink.Proofs.Store.Linked

/-!
# The order of formats and rules

A live pass over a tidy collection is the sweep of its stages. A stage of a default rule leaves to
every other stage what that stage selects and counts (`forall₂_alike_relinkFirst`), and two stages
rewrite alike in either order (`relinkFirst_comm`). So the stages of a pass may be permuted.

* `sweep_perm`: permuted stages have permuted results and leave the same documents.
* `order_independent`: the order of the formats and of the default rules makes no difference.
-/

namespace Relink.Fix

open Job

variable {plan : Plan} {rule other : Rule} {format format' : String}
  {documents documents' : List Document}

/-- Alike documents are taken alike: a rule applies to the same of the texts. -/
theorem map_applies_taken (h : List.Forall₂ (rule.Alike format) documents documents') (n : Nat) :
    (rule.taken format n documents').map rule.applies =
      (rule.taken format n documents).map rule.applies := by
  induction h generalizing n with
  | nil => rfl
  | @cons d d' rest rest' hd _ ih =>
    cases hs : rule.text? format d with
    | none =>
      have hsel : rule.selects format d = false := by rw [Rule.selects, hs]; rfl
      have hsel' : rule.selects format d' = false := hd.selects_eq.trans hsel
      rw [Rule.taken_cons_of_not_selects hsel, Rule.taken_cons_of_not_selects hsel', ih]
    | some s =>
      obtain ⟨s', hs', hf, ha⟩ := hd.text?_eq_some hs
      cases hfound : rule.pattern.found s with
      | false =>
        have hsel : rule.selects format d = false := by rw [Rule.selects, hs]; exact hfound
        have hsel' : rule.selects format d' = false := hd.selects_eq.trans hsel
        rw [Rule.taken_cons_of_not_selects hsel, Rule.taken_cons_of_not_selects hsel', ih]
      | true =>
        cases n with
        | zero => simp [Rule.taken]
        | succ n =>
          rw [Rule.taken_cons_of_selects hs hfound,
            Rule.taken_cons_of_selects hs' (hf.trans hfound), List.map_cons, List.map_cons, ha, ih]

/-- **A stage leaves to another** documents that are alike to it. -/
theorem forall₂_alike_relinkFirst (hr : rule ∈ Defaults.rules) (ho : other ∈ Defaults.rules)
    (hf : '.' ∉ format.toList) (hf' : '.' ∉ format'.toList)
    (hne : ¬ (format' = format ∧ other.name = rule.name)) (n : Nat) (documents : List Document) :
    List.Forall₂ (other.Alike format') documents (rule.relinkFirst format n documents) := by
  induction documents generalizing n with
  | nil => cases n <;> exact .nil
  | cons d rest ih =>
    cases n with
    | zero => exact List.forall₂_same.2 fun d _ => Rule.Alike.refl other format' d
    | succ n =>
      rw [Rule.relinkFirst]
      split
      · exact .cons (Defaults.alike_relink hr ho hf hf' hne d) (ih n)
      · exact .cons (Rule.Alike.refl other format' d) (ih (n + 1))

/-- **Two stages rewrite alike in either order.** -/
theorem relinkFirst_comm (hr : rule ∈ Defaults.rules) (ho : other ∈ Defaults.rules)
    (hf : '.' ∉ format.toList) (hf' : '.' ∉ format'.toList)
    (hne : ¬ (format' = format ∧ other.name = rule.name)) (n m : Nat)
    (documents : List Document) :
    rule.relinkFirst format n (other.relinkFirst format' m documents) =
      other.relinkFirst format' m (rule.relinkFirst format n documents) := by
  have hne' : ¬ (format = format' ∧ rule.name = other.name) := fun h => hne ⟨h.1.symm, h.2.symm⟩
  induction documents generalizing n m with
  | nil => cases n <;> cases m <;> rfl
  | cons d rest ih =>
    cases n with
    | zero => rw [Rule.relinkFirst, Rule.relinkFirst]
    | succ n =>
      cases m with
      | zero => rw [Rule.relinkFirst.eq_1, Rule.relinkFirst.eq_1]
      | succ m =>
        -- neither stage changes whether the other selects the first document
        have h1 := (Defaults.alike_relink hr ho hf hf' hne d).selects_eq
        have h2 := (Defaults.alike_relink ho hr hf' hf hne' d).selects_eq
        have hcomm := Defaults.relink_comm hr ho hf hf' d
        cases hs : rule.selects format d <;> cases ht : other.selects format' d <;>
          simp [Rule.relinkFirst, hs, ht, h1, h2, hcomm, ih]

/-- What a stage counts depends only on the texts to which its rule applies. -/
theorem resultOn_congr (hr : rule ∈ Defaults.rules) {texts texts' : List String}
    (h : texts'.map rule.applies = texts.map rule.applies) (plan : Plan) (format : String) :
    resultOn plan rule format texts' = resultOn plan rule format texts := by
  have hlen : texts'.length = texts.length := by simpa using congrArg List.length h
  have happlies : texts'.countP rule.applies = texts.countP rule.applies := by
    have := congrArg (List.countP id) h
    simpa [List.countP_map] using this
  have hnot : texts'.countP (fun s => !rule.applies s) =
      texts.countP fun s => !rule.applies s := by
    have := congrArg (List.countP fun b => !b) h
    simpa [List.countP_map, Function.comp_def] using this
  -- a default rule changes the texts to which it applies
  have hchanged : ∀ texts : List String, texts.countP (fun s => rule.apply s != s) =
      texts.countP rule.applies := by
    intro texts
    apply List.countP_congr
    intro s _
    simpa using Defaults.apply_ne_iff hr
  simp only [resultOn, hlen, happlies, hnot, hchanged]

/-- A default rule is known by its name. -/
theorem rule_of_name (hr : rule ∈ Defaults.rules) (ho : other ∈ Defaults.rules)
    (hn : other.name = rule.name) : other = rule := by
  have hnodup : (Defaults.rules.map Rule.name).Nodup := by decide
  exact List.inj_on_of_nodup_map hnodup ho hr hn

/-- A stage of a default rule for a format without a dot. -/
def Plain (stage : String × Rule) : Prop := '.' ∉ stage.1.toList ∧ stage.2 ∈ Defaults.rules

/-- **Two stages in either order** have the same results and leave the same documents. -/
theorem sweep_swap {first second : String × Rule} (h1 : Plain first) (h2 : Plain second)
    (rest : List (String × Rule)) (documents : List Document) :
    (sweep plan (second :: first :: rest) documents).1.Perm
        (sweep plan (first :: second :: rest) documents).1 ∧
      (sweep plan (second :: first :: rest) documents).2 =
        (sweep plan (first :: second :: rest) documents).2 := by
  obtain ⟨format, rule⟩ := first
  obtain ⟨format', other⟩ := second
  obtain ⟨hf, hr⟩ := h1
  obtain ⟨hf', ho⟩ := h2
  by_cases hsame : format' = format ∧ other.name = rule.name
  · obtain ⟨rfl, hn⟩ := hsame
    have he : other = rule := rule_of_name hr ho hn
    subst he
    exact ⟨List.Perm.refl _, rfl⟩
  · have hsame' : ¬ (format = format' ∧ rule.name = other.name) :=
      fun h => hsame ⟨h.1.symm, h.2.symm⟩
    have hleft := map_applies_taken
      (forall₂_alike_relinkFirst hr ho hf hf' hsame plan.limit.toNat documents) plan.limit.toNat
    have hright := map_applies_taken
      (forall₂_alike_relinkFirst ho hr hf' hf hsame' plan.limit.toNat documents) plan.limit.toNat
    simp only [sweep, resultOn_congr ho hleft, resultOn_congr hr hright,
      relinkFirst_comm hr ho hf hf' hsame]
    exact ⟨List.Perm.swap _ _ _, trivial⟩

/-- **Permuted stages** have permuted results and leave the same documents. -/
theorem sweep_perm {first second : List (String × Rule)} (h : first.Perm second)
    (hs : ∀ stage ∈ first, Plain stage) (documents : List Document) :
    (sweep plan first documents).1.Perm (sweep plan second documents).1 ∧
      (sweep plan first documents).2 = (sweep plan second documents).2 := by
  induction h generalizing documents with
  | nil => exact ⟨List.Perm.refl _, rfl⟩
  | cons stage _ ih =>
    obtain ⟨-, hrest⟩ := List.forall_mem_cons.1 hs
    obtain ⟨hp, hd⟩ := ih hrest (stage.2.relinkFirst stage.1 plan.limit.toNat documents)
    exact ⟨hp.cons _, hd⟩
  | swap a b rest =>
    obtain ⟨hb, hrest⟩ := List.forall_mem_cons.1 hs
    exact sweep_swap (List.forall_mem_cons.1 hrest).1 hb rest documents
  | trans hp _ ih1 ih2 =>
    obtain ⟨hr1, hd1⟩ := ih1 hs documents
    obtain ⟨hr2, hd2⟩ := ih2 (fun stage hm => hs stage (hp.mem_iff.2 hm)) documents
    exact ⟨hr1.trans hr2, hd1.trans hd2⟩

theorem stages_perm {formats formats' : List String} {rules rules' : List Rule}
    (hf : formats.Perm formats') (hr : rules.Perm rules') :
    (stages formats rules).Perm (stages formats' rules') := by
  exact hf.flatMap fun format _ => hr.map fun rule => (format, rule)

theorem total_perm {results results' : List RuleResult} (h : results.Perm results')
    (count : RuleResult → Int) (b b' : Bool) (k k' : Int) :
    Report.total count ⟨b, k, results⟩ = Report.total count ⟨b', k', results'⟩ := by
  simp only [Report.total]
  induction h with
  | nil => rfl
  | cons result _ ih => simp only [List.foldr_cons, ih]
  | swap a b rest =>
    simp only [List.foldr_cons]
    omega
  | trans _ _ ih1 ih2 => exact ih1.trans ih2

/-- An accepted plan with its formats in another order is accepted. -/
theorem accepted_of_perm (hp : plan.Accepted) {formats : List String}
    (hf : formats.Perm plan.formats) : Plan.Accepted { plan with formats := formats } := by
  obtain ⟨hne, hall, hlimit, hpasses⟩ := Plan.check_ok.1 hp.check
  refine ⟨Plan.check_ok.2 ⟨?_, ?_, hlimit, hpasses⟩, hf.nodup_iff.2 hp.nodup⟩
  · intro he
    have hnil : formats = [] := he
    rw [hnil] at hf
    exact hne hf.nil_eq.symm
  · intro format hm
    exact hall format (hf.mem_iff.1 hm)

/-- **The order of the formats and of the default rules makes no difference.** Without other writers
a live pass over a tidy collection returns in any order, leaves the same documents, and reports the
same results up to their order, so that all its counts are the same. -/
theorem order_independent (hp : plan.Accepted) (hlive : plan.dryRun = false)
    {formats : List String} {rules : List Rule} (hformats : formats.Perm plan.formats)
    (hrules : rules.Perm Defaults.rules) (site : Site)
    (h : Tidy (stages plan.formats Defaults.rules) site.documents) :
    (perform .quiet (fixAll { plan with formats := formats } rules) site).site.documents =
        (perform .quiet (fixAll plan Defaults.rules) site).site.documents ∧
      ∃ report report',
        (perform .quiet (fixAll plan Defaults.rules) site).result = .ok report ∧
        (perform .quiet (fixAll { plan with formats := formats } rules) site).result =
          .ok report' ∧
        report'.results.Perm report.results ∧ report'.countDone = report.countDone ∧
        report'.changed = report.changed ∧ report'.unchanged = report.unchanged ∧
        report'.conflicts = report.conflicts := by
  have hstages := stages_perm hformats hrules
  have hplain : ∀ stage ∈ stages formats rules, Plain stage := by
    intro stage hm
    have hmem := mem_stages.1 (hstages.mem_iff.1 hm)
    exact ⟨hp.no_dot _ hmem.1, hmem.2⟩
  have htidy : Tidy (stages formats rules) site.documents :=
    h.of_subset fun stage hm => hstages.mem_iff.1 hm
  obtain ⟨hr, hd⟩ := fixAll_yields hp hlive Defaults.rules h site rfl
  obtain ⟨hr', hd'⟩ := fixAll_yields (accepted_of_perm hp hformats) hlive rules htidy site rfl
  -- the limit of the plan is all that a sweep asks of it besides the way of counting
  have hsweep : ∀ stages documents, sweep { plan with formats := formats } stages documents =
      sweep plan stages documents := by
    intro stages
    induction stages with
    | nil => intro documents; rfl
    | cons stage rest ih => intro documents; simp only [sweep, ih]; rfl
  obtain ⟨hresults, hdocs⟩ := sweep_perm hstages hplain site.documents
  rw [hsweep] at hd'
  rw [hd, hd']
  refine ⟨hdocs, _, _, hr, hr', ?_⟩
  simp only [sweepReport, hsweep]
  exact ⟨hresults, total_perm hresults _ _ _ _ _, total_perm hresults _ _ _ _ _,
    total_perm hresults _ _ _ _ _, total_perm hresults _ _ _ _ _⟩

/-- A live plan for some formats. -/
def planFor (formats : List String) : Plan := ⟨formats, 10, false, false, false, 1⟩

theorem accepted_planFor : (planFor ["xlsx", "csv"]).Accepted :=
  ⟨Plan.check_ok.2 ⟨by decide, by decide, by decide, by decide⟩, by decide⟩

/-- The two texts are replaced in either order. -/
theorem order_independent_overlapping :
    (perform .quiet (fixAll (planFor ["csv", "xlsx"])
        [Defaults.static, Defaults.beta, Defaults.command]) overlapping).site.documents =
      (perform .quiet (fixAll (planFor ["xlsx", "csv"]) Defaults.rules)
        overlapping).site.documents ∧
    (perform .quiet (fixAll (planFor ["xlsx", "csv"]) Defaults.rules)
        overlapping).site.documents.map (Defaults.command.text? "csv") =
      [some "http://download.ons.gov.uk//download.ons.gov.uk/a.csv"] := by
  have htidy : Tidy (stages (planFor ["xlsx", "csv"]).formats Defaults.rules)
      overlapping.documents :=
    ⟨Collection.keyed_linked _ _ _, fun stage _ => Collection.noList_linked stage.2 stage.1⟩
  have hformats : ["csv", "xlsx"].Perm (planFor ["xlsx", "csv"]).formats := List.Perm.swap _ _ _
  have hrules : [Defaults.static, Defaults.beta, Defaults.command].Perm Defaults.rules :=
    List.reverse_perm Defaults.rules
  obtain ⟨hdocs, -⟩ := order_independent accepted_planFor rfl hformats hrules overlapping htidy
  simp only [planFor] at hdocs ⊢
  exact ⟨hdocs, by decide +kernel⟩

end Relink.Fix
