import Mathlib.Logic.Function.Iterate
import Relink.Proofs.Fix.Sweep
import Relink.Proofs.Store.Linked

/-!
# Passes that change nothing

Each rule of a pass queries what the rules before it have left. Still, that a pass changes nothing
can be read off the collection it starts from: of the documents that a query selects there, the
first few hold texts that the rule leaves as they are. Such a collection is settled, and no number
of passes moves it.

* `changed_sweepReport_eq_zero_iff`: a sweep changes nothing exactly if no stage meets a text that
  its rule changes, all stages on the documents that the sweep starts from.
* `changed_eq_zero_iff`: a pass changes nothing exactly if the collection is settled.
* `unchanged_pass`: a pass that changes nothing, and all that follow it.
-/

namespace Relink.Fix

open Job

variable {plan : Plan} {rules : List Rule} {rule : Rule} {format : String}
  {documents : List Document}

/-- **A settled collection**: for every format and rule, each of the first few documents that the
query selects holds a text that the rule leaves as it is. -/
def Settled (plan : Plan) (rules : List Rule) (documents : List Document) : Prop :=
  ∀ format ∈ plan.formats, ∀ rule ∈ rules,
    ∀ document ∈ (documents.filter (rule.query format).holds).take plan.limit.toNat,
      ∃ s, document.textAt (rule.path format) = .ok s ∧ rule.apply s = s

/-- The texts that a stage takes stay exactly if those of the documents selected first do. -/
theorem forall_taken_iff (hf : '.' ∉ format.toList)
    (hn : ∀ document ∈ documents, Value.NoList (rule.way format) (.map document)) (n : Nat) :
    (∀ s ∈ rule.taken format n documents, rule.apply s = s) ↔
      ∀ document ∈ (documents.filter (rule.query format).holds).take n,
        ∃ s, document.textAt (rule.path format) = .ok s ∧ rule.apply s = s := by
  have hfilter : documents.filter (rule.query format).holds =
      documents.filter (rule.selects format) :=
    List.filter_congr fun document hd => Rule.holds_query_eq hf (hn document hd)
  have hmap := Rule.map_some_taken rule format n documents
  rw [hfilter]
  constructor
  · intro h document hd
    have hmem : rule.text? format document ∈ (rule.taken format n documents).map some := by
      rw [hmap]
      exact List.mem_map_of_mem hd
    obtain ⟨s, hs, he⟩ := List.mem_map.1 hmem
    refine ⟨s, ?_, h s hs⟩
    rw [Rule.textAt_eq_ok_iff hf]
    exact Rule.text?_eq_some.1 he.symm
  · intro h s hs
    have hmem : some s ∈ (rule.taken format n documents).map some := List.mem_map_of_mem hs
    rw [hmap] at hmem
    obtain ⟨document, hd, he⟩ := List.mem_map.1 hmem
    obtain ⟨t, ht, hfixed⟩ := h document hd
    rw [Rule.textAt_eq_ok_iff hf, ← Rule.text?_eq_some, he] at ht
    cases ht
    exact hfixed

/-- Stages that meet only texts that stay change nothing. -/
theorem changed_sweepReport_of_fixed {stages : List (String × Rule)}
    (hf : ∀ stage ∈ stages, '.' ∉ stage.1.toList)
    (h : ∀ stage ∈ stages, ∀ s ∈ stage.2.taken stage.1 plan.limit.toNat documents,
      stage.2.apply s = s) :
    (sweepReport plan stages documents).changed = 0 := by
  induction stages with
  | nil => exact changed_sweepReport_nil plan documents
  | cons stage rest ih =>
    obtain ⟨hf1, hf2⟩ := List.forall_mem_cons.1 hf
    obtain ⟨h1, h2⟩ := List.forall_mem_cons.1 h
    have hnone : (stage.2.taken stage.1 plan.limit.toNat documents).countP
        (fun s => stage.2.apply s != s) = 0 := by
      rw [List.countP_eq_zero]
      intro s hs
      simp [h1 s hs]
    -- the first stage leaves the documents, so the others meet them as well
    have hsame := Rule.relinkFirst_of_fixed hf1 h1
    have hrest := ih hf2 h2
    rw [changed_sweepReport_cons, hsame, hnone, hrest]
    rfl

/-- **A sweep changes nothing** exactly if no stage meets a text that its rule changes, all stages
on the documents that the sweep starts from. -/
theorem changed_sweepReport_eq_zero_iff {stages : List (String × Rule)}
    (hf : ∀ stage ∈ stages, '.' ∉ stage.1.toList) :
    (sweepReport plan stages documents).changed = 0 ↔
      ∀ stage ∈ stages, ∀ s ∈ stage.2.taken stage.1 plan.limit.toNat documents,
        stage.2.apply s = s :=
  ⟨fun h => (sweep_of_unchanged hf h).2, changed_sweepReport_of_fixed hf⟩

/-- **A pass changes nothing** exactly if the collection is settled. -/
theorem changed_eq_zero_iff (hp : plan.Accepted)
    (h : Tidy (stages plan.formats rules) documents) :
    (sweepReport plan (stages plan.formats rules) documents).changed = 0 ↔
      Settled plan rules documents := by
  rw [changed_sweepReport_eq_zero_iff (stages_dotless hp rules)]
  constructor
  · intro hfixed format hformat rule hrule
    have hstage : (format, rule) ∈ stages plan.formats rules := mem_stages.2 ⟨hformat, hrule⟩
    have hiff := forall_taken_iff (hp.no_dot format hformat) (h.noList _ hstage) plan.limit.toNat
    exact hiff.1 (hfixed _ hstage)
  · rintro hsettled ⟨format, rule⟩ hstage
    obtain ⟨hformat, hrule⟩ := mem_stages.1 hstage
    have hiff := forall_taken_iff (hp.no_dot format hformat) (h.noList _ hstage) plan.limit.toNat
    exact hiff.2 (hsettled format hformat rule hrule)

/-- The site after a live pass without other writers. -/
def passed (plan : Plan) (rules : List Rule) (site : Site) : Site :=
  (perform .quiet (fixAll plan rules) site).site

/-- No number of passes moves a collection that one pass leaves as it is. -/
theorem documents_iterate_passed (hp : plan.Accepted) (hlive : plan.dryRun = false)
    (h : Tidy (stages plan.formats rules) documents)
    (hzero : (sweepReport plan (stages plan.formats rules) documents).changed = 0) (n : Nat)
    (site : Site) (hs : site.documents = documents) :
    ((passed plan rules)^[n] site).documents = documents := by
  induction n generalizing site with
  | zero => exact hs
  | succ n ih =>
    rw [Function.iterate_succ_apply]
    apply ih
    obtain ⟨-, hleft⟩ := fixAll_yields hp hlive rules h site hs
    rw [passed, hleft]
    exact (sweep_of_unchanged (stages_dotless hp rules) hzero).1

/-- **What a pass that changes nothing means.** Over a tidy collection, without other writers and
failures, a live pass returns. It reports no change exactly if the collection it started from is
settled. It then leaves the collection as it was, as does any number of passes, and a further pass
has the same report. -/
theorem unchanged_pass (hp : plan.Accepted) (hlive : plan.dryRun = false) (rules : List Rule)
    (site : Site) (h : Tidy (stages plan.formats rules) site.documents) :
    ∃ report, (perform .quiet (fixAll plan rules) site).result = .ok report ∧
      (report.changed = 0 ↔ Settled plan rules site.documents) ∧
      (report.changed = 0 →
        (perform .quiet (fixAll plan rules) site).site.documents = site.documents ∧
        ∀ n, ((passed plan rules)^[n] site).documents = site.documents ∧
          (perform .quiet (fixAll plan rules) ((passed plan rules)^[n] site)).result =
            .ok report) := by
  have hyields := fixAll_yields hp hlive rules h
  refine ⟨_, (hyields site rfl).1, changed_eq_zero_iff hp h, fun hzero => ?_⟩
  have hsame := documents_iterate_passed hp hlive h hzero
  exact ⟨hsame 1 site rfl, fun n => ⟨hsame n site rfl, (hyields _ (hsame n site rfl)).1⟩⟩

/-- A link that holds a pattern but nothing to replace, and a stale one behind it. -/
def legacy : Site where
  documents := Collection.linked "csv" 1
    ["https://www.onsdigital.co.uk/legacy/a.csv", "http://download.cmd.onsdigital.co.uk/b.csv"]

/-- A batch of one is filled by a link that stays: the pass rewrites it and changes nothing, and so
does every pass after it. -/
theorem unchanged_pass_legacy :
    ∃ report, (perform .quiet (fixAll (.trial "csv" 1 1) Defaults.rules) legacy).result =
        .ok report ∧
      report.countDone = 1 ∧ Settled (.trial "csv" 1 1) Defaults.rules legacy.documents ∧
      ∀ n, ((passed (.trial "csv" 1 1) Defaults.rules)^[n] legacy).documents =
          legacy.documents ∧
        (perform .quiet (fixAll (.trial "csv" 1 1) Defaults.rules)
          ((passed (.trial "csv" 1 1) Defaults.rules)^[n] legacy)).result = .ok report := by
  have hp : (Plan.trial "csv" 1 1).Accepted := Plan.accepted_trial rfl (by decide) (by decide)
  have htidy : Tidy (stages (Plan.trial "csv" 1 1).formats Defaults.rules) legacy.documents :=
    ⟨Collection.keyed_linked _ _ _, fun stage _ => Collection.noList_linked stage.2 stage.1⟩
  have hcounts : (sweepReport (.trial "csv" 1 1)
        (stages (Plan.trial "csv" 1 1).formats Defaults.rules) legacy.documents).changed = 0 ∧
      (sweepReport (.trial "csv" 1 1)
        (stages (Plan.trial "csv" 1 1).formats Defaults.rules) legacy.documents).countDone = 1 := by
    decide +kernel
  obtain ⟨report, hr, hiff, hstays⟩ := unchanged_pass hp rfl Defaults.rules legacy htidy
  obtain ⟨hsweep, -⟩ := fixAll_yields hp rfl Defaults.rules htidy legacy rfl
  obtain rfl := Except.ok.inj (hsweep.symm.trans hr)
  exact ⟨_, hr, hcounts.2, hiff.1 hcounts.1, (hstays hcounts.1).2⟩

end Relink.Fix
