import Mathlib.Algebra.GroupWithZero.Nat
import Relink.Proofs.Fix.Sweeps
import Relink.Proofs.Rule.Effect
import Relink.Proofs.Store.Linked

/-!
# Conservation and convergence for the default rules

The staleness of a collection counts the positions at which the texts that the default rules replace
stand in the links, overlaps counted. Each change that a live pass reports takes away one of them,
and nothing else does. So repeated passes stop by themselves.

* `staleness_relinkFirst`: what one stage takes away.
* `staleness_sweep`: what a pass takes away.
* `sweeps_clean`: sweeps that may be repeated often enough end clean.
* `conservation`: a pass without other writers conserves the count, and repeated passes converge.
-/

namespace Relink.Fix

open Job

variable {plan : Plan} {rule other : Rule} {format s : String} {document : Document}
  {documents : List Document} {formats : List String}

/-- The positions at which the text that a stage replaces stands in its link of a document. -/
def stale (stage : String × Rule) (document : Document) : Nat :=
  ((stage.2.text? stage.1 document).map stage.2.positions).getD 0

/-- **The staleness of a collection**: such positions over all documents and stages. -/
def staleness (stages : List (String × Rule)) (documents : List Document) : Nat :=
  (documents.map fun document => (stages.map fun stage => stale stage document).sum).sum

/-- Sums whose terms differ by one in some places. -/
theorem sum_map_add_countP {α : Type} {f g : α → Nat} {p : α → Bool} {xs : List α}
    (h : ∀ x ∈ xs, f x + (if p x then 1 else 0) = g x) :
    (xs.map f).sum + xs.countP p = (xs.map g).sum := by
  induction xs with
  | nil => rfl
  | cons x rest ih =>
    obtain ⟨h1, h2⟩ := List.forall_mem_cons.1 h
    have := ih h2
    simp only [List.map_cons, List.sum_cons, List.countP_cons]
    omega

/-- **One rewritten link** takes away one position of the stage it is rewritten for, and none of the
others. -/
theorem stale_relink (format' : String) (hr : rule ∈ Defaults.rules) (ho : other ∈ Defaults.rules)
    (hf : '.' ∉ format.toList) (hs : rule.text? format document = some s)
    (ha : rule.applies s = true) :
    stale (format', other) (rule.relink format document) +
        (if format' == format && other.name == rule.name then 1 else 0) =
      stale (format', other) document := by
  by_cases hsame : format' = format ∧ other.field = rule.field
  · -- two rules for one link read the same text, and their texts overlap at slashes only
    obtain ⟨rfl, hfield⟩ := hsame
    have hsother : other.text? format' document = some s := by
      rw [Rule.text?_eq_some] at hs ⊢
      rwa [Rule.way_inj.2 ⟨rfl, hfield⟩]
    have heffect := Defaults.positions_apply hr ho hfield ha
    simp only [stale, Rule.text?_relink hf hfield hs, hsother, Option.map_some, Option.getD_some]
    simpa using heffect
  · have hname : ¬ (format' = format ∧ other.name = rule.name) := by
      rintro ⟨rfl, hn⟩
      exact hsame ⟨rfl, Defaults.field_of_name rule hr other ho hn⟩
    simp only [stale, Rule.text?_relink_of_ne hf hsame]
    simpa using fun h1 h2 => hname ⟨h1, h2⟩

/-- A format and a default rule make one stage of a pass. -/
theorem countP_stages (hn : formats.Nodup) (hm : format ∈ formats) (hr : rule ∈ Defaults.rules) :
    (stages formats Defaults.rules).countP
      (fun stage => stage.1 == format && stage.2.name == rule.name) = 1 := by
  have hone : ∀ rule ∈ Defaults.rules,
      Defaults.rules.countP (fun other => other.name == rule.name) = 1 := by decide
  induction formats with
  | nil => simp at hm
  | cons first rest ih =>
    obtain ⟨hfirst, hrest⟩ := List.nodup_cons.1 hn
    have hs : stages (first :: rest) Defaults.rules =
        (Defaults.rules.map fun rule => (first, rule)) ++ stages rest Defaults.rules := rfl
    rw [hs, List.countP_append, List.countP_map]
    -- the stages of one format stand together
    by_cases he : first = format
    · subst he
      have hnone : (stages rest Defaults.rules).countP
          (fun stage => stage.1 == first && stage.2.name == rule.name) = 0 := by
        rw [List.countP_eq_zero]
        rintro ⟨f, r⟩ hmem
        have hf := (mem_stages.1 hmem).1
        simp only [Bool.and_eq_true, beq_iff_eq, not_and]
        rintro rfl
        exact absurd hf hfirst
      have := hone rule hr
      simpa [Function.comp_def, hnone] using this
    · have hmem : format ∈ rest := (List.mem_cons.1 hm).resolve_left (Ne.symm he)
      have hb : (first == format) = false := by simpa using he
      simpa [Function.comp_def, hb] using ih hrest hmem

/-- **One rewritten document** loses one position, if its text is changed. -/
theorem stale_sum_relink (hn : formats.Nodup) (hm : format ∈ formats) (hr : rule ∈ Defaults.rules)
    (hf : '.' ∉ format.toList) (hs : rule.text? format document = some s) :
    ((stages formats Defaults.rules).map fun stage =>
        stale stage (rule.relink format document)).sum + (if rule.apply s != s then 1 else 0) =
      ((stages formats Defaults.rules).map fun stage => stale stage document).sum := by
  by_cases ha : rule.applies s = true
  · have hne := (Defaults.apply_ne_iff hr).2 ha
    have hsum := sum_map_add_countP fun stage (hstage : stage ∈ stages formats Defaults.rules) =>
      stale_relink stage.1 hr (mem_stages.1 hstage).2 hf hs ha
    rw [countP_stages hn hm hr] at hsum
    simpa [hne] using hsum
  · have hsame := Rule.apply_of_not_applies (by simpa using ha)
    simp [Rule.relink_of_fixed hf hs hsame, hsame]

/-- **What one stage takes away.** -/
theorem staleness_relinkFirst (hn : formats.Nodup) (hm : format ∈ formats)
    (hr : rule ∈ Defaults.rules) (hf : '.' ∉ format.toList) (n : Nat) (documents : List Document) :
    staleness (stages formats Defaults.rules) (rule.relinkFirst format n documents) +
        (rule.taken format n documents).countP (fun s => rule.apply s != s) =
      staleness (stages formats Defaults.rules) documents := by
  induction documents generalizing n with
  | nil => cases n <;> simp [Rule.relinkFirst, Rule.taken]
  | cons document rest ih =>
    cases n with
    | zero => simp [Rule.relinkFirst, Rule.taken]
    | succ n =>
      cases hsel : rule.selects format document with
      | true =>
        obtain ⟨s, hs, hfound⟩ := Rule.selects_iff.1 hsel
        have hfirst := stale_sum_relink hn hm hr hf hs
        have hrest := ih n
        rw [Rule.taken_cons_of_selects hs hfound, Rule.relinkFirst, if_pos hsel]
        simp only [staleness, List.map_cons, List.sum_cons, List.countP_cons] at hrest ⊢
        omega
      | false =>
        have hrest := ih (n + 1)
        rw [Rule.taken_cons_of_not_selects hsel, Rule.relinkFirst, if_neg (by simp [hsel])]
        simp only [staleness, List.map_cons, List.sum_cons] at hrest ⊢
        omega

/-- **What a pass takes away** is what its results count as changed. -/
theorem staleness_sweep (hp : plan.Accepted) {chosen : List (String × Rule)}
    (hs : chosen ⊆ stages plan.formats Defaults.rules) (documents : List Document) :
    (staleness (stages plan.formats Defaults.rules) (sweep plan chosen documents).2 : Int) +
        (sweepReport plan chosen documents).changed =
      staleness (stages plan.formats Defaults.rules) documents := by
  induction chosen generalizing documents with
  | nil => rw [sweep, changed_sweepReport_nil, Int.add_zero]
  | cons stage rest ih =>
    obtain ⟨format, rule⟩ := stage
    obtain ⟨hmem, hrest⟩ := List.cons_subset.1 hs
    obtain ⟨hm, hr⟩ := mem_stages.1 hmem
    have hone := staleness_relinkFirst hp.nodup hm hr (hp.no_dot format hm) plan.limit.toNat
      documents
    have hmore := ih hrest (rule.relinkFirst format plan.limit.toNat documents)
    rw [changed_sweepReport_cons, sweep]
    simp only at hmore ⊢
    omega

/-- **Sweeps that may be repeated often enough end clean**, after at most one more than the number
of positions to take away. -/
theorem sweeps_clean (hp : plan.Accepted) (left : Nat) (total : Report)
    (documents : List Document)
    (h : staleness (stages plan.formats Defaults.rules) documents < left) :
    (sweeps plan (stages plan.formats Defaults.rules) left total documents).clean = true ∧
      (sweeps plan (stages plan.formats Defaults.rules) left total documents).report.passes ≤
        total.passes + staleness (stages plan.formats Defaults.rules) documents + 1 := by
  induction left generalizing total documents with
  | zero => omega
  | succ left ih =>
    have hdrop := staleness_sweep hp (List.Subset.refl _) documents
    have hpos := changed_sweepReport_nonneg plan (stages plan.formats Defaults.rules) documents
    simp only [sweeps]
    split
    · refine ⟨rfl, ?_⟩
      simp only [Report.merge, sweepReport]
      omega
    · next hchanged =>
      -- such a pass takes a position away, so fewer are left than passes
      have hne : (sweepReport plan (stages plan.formats Defaults.rules) documents).changed ≠ 0 := by
        simpa using hchanged
      obtain ⟨hclean, hpasses⟩ := ih
        (total.merge (sweepReport plan (stages plan.formats Defaults.rules) documents))
        (sweep plan (stages plan.formats Defaults.rules) documents).2 (by omega)
      refine ⟨hclean, Int.le_trans hpasses ?_⟩
      simp only [Report.merge, sweepReport]
      omega

/-- **Conservation and convergence.** Without other writers a live pass over a tidy collection
returns, and what it counts as changed is what the staleness has lost. Repeated passes of which
there may be more than positions to take away stop by themselves, at the latest with the pass after
the last position is gone, and without a warning. -/
theorem conservation (hp : plan.Accepted) (hlive : plan.dryRun = false) (site : Site)
    (h : Tidy (stages plan.formats Defaults.rules) site.documents) :
    (∃ report, (perform .quiet (fixAll plan Defaults.rules) site).result = .ok report ∧
      (staleness (stages plan.formats Defaults.rules)
        (perform .quiet (fixAll plan Defaults.rules) site).site.documents : Int) =
          staleness (stages plan.formats Defaults.rules) site.documents - report.changed) ∧
    ((staleness (stages plan.formats Defaults.rules) site.documents : Int) < plan.maxPasses →
      ∃ report, (perform .quiet (fixUntilClean plan Defaults.rules) site).result = .ok report ∧
        report.passes ≤ staleness (stages plan.formats Defaults.rules) site.documents + 1 ∧
        ¬ Warned (perform .quiet (fixUntilClean plan Defaults.rules) site).trace) := by
  constructor
  · obtain ⟨hr, hs⟩ := fixAll_yields hp hlive Defaults.rules h site rfl
    refine ⟨_, hr, ?_⟩
    rw [hs]
    have := staleness_sweep hp (List.Subset.refl _) site.documents
    omega
  · intro hmany
    obtain ⟨hr, -, hw⟩ := fixUntilClean_sweeps hp hlive site h
    obtain ⟨hclean, hpasses⟩ := sweeps_clean hp plan.maxPasses.toNat ⟨false, 0, []⟩
      site.documents (by omega)
    exact ⟨_, hr, by simpa using hpasses, by simp [hw, hclean]⟩

theorem staleness_overlapping :
    staleness (stages ["csv"] Defaults.rules) overlapping.documents = 2 := by decide +kernel

/-- Two stale texts that share a slash are taken away one by one. -/
theorem conservation_overlapping :
    (∃ report, (perform .quiet (fixAll (.trial "csv" 1 3) Defaults.rules) overlapping).result =
        .ok report ∧
      (staleness (stages ["csv"] Defaults.rules) (perform .quiet (fixAll (.trial "csv" 1 3)
        Defaults.rules) overlapping).site.documents : Int) = 2 - report.changed) ∧
    ∃ report, (perform .quiet (fixUntilClean (.trial "csv" 1 3) Defaults.rules)
        overlapping).result = .ok report ∧ report.passes ≤ 3 ∧
      ¬ Warned (perform .quiet (fixUntilClean (.trial "csv" 1 3) Defaults.rules)
        overlapping).trace := by
  have hp : (Plan.trial "csv" 1 3).Accepted := Plan.accepted_trial rfl (by decide) (by decide)
  have htidy : Tidy (stages ["csv"] Defaults.rules) overlapping.documents :=
    ⟨Collection.keyed_linked _ _ _, fun stage _ => Collection.noList_linked stage.2 stage.1⟩
  obtain ⟨hpass, hrun⟩ := conservation hp rfl overlapping htidy
  rw [Plan.formats_trial, staleness_overlapping] at hpass hrun
  obtain ⟨report, hr, hpasses, hw⟩ := hrun (by decide)
  exact ⟨hpass, report, hr, by omega, hw⟩

end Relink.Fix
