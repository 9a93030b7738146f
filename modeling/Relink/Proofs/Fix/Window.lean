import Relink.Proofs.Fix.Sweeps
import Relink.Proofs.Rule.Effect
import Relink.Proofs.Store.Linked

/-!
# What repeated passes leave behind

Repeated passes stop when one changes nothing, which tells only of the documents that were read: for
each format and rule the first few in which the pattern is found. A value with the pattern but
without the text to replace is never rewritten and keeps its place among them. So a stale link that
is left when passes stop without a warning stands behind that many such values.

* `exists_sweep_of_clean`: clean sweeps end with one that changes nothing.
* `le_countP_of_fixed`: a stale link that was not taken stands behind enough links that stay.
* `clean_window`: what is left when repeated passes stop without a warning.
* `hidden_by_window`: a stale link can be left.
-/

namespace Relink.Fix

open Job

variable {plan : Plan} {rules : List Rule} {rule : Rule} {format s : String} {document : Document}
  {documents front back : List Document}

/-- **Clean sweeps end with one that changes nothing**, and leave what it leaves. -/
theorem exists_sweep_of_clean (plan : Plan) (stages : List (String × Rule)) (left : Nat)
    (total : Report) (documents : List Document)
    (h : (sweeps plan stages left total documents).clean = true) :
    ∃ last, (sweepReport plan stages last).changed = 0 ∧
      (sweeps plan stages left total documents).documents = (sweep plan stages last).2 := by
  induction left generalizing total documents with
  | zero => cases h
  | succ left ih =>
    simp only [sweeps] at h ⊢
    split at h
    · next hc =>
      rw [if_pos hc]
      exact ⟨documents, by simpa using hc, rfl⟩
    · next hc =>
      rw [if_neg hc]
      exact ih _ _ h

/-- Whether a link holds the pattern of a rule, but not the text to replace. -/
def idle (rule : Rule) (format : String) (document : Document) : Bool :=
  (rule.text? format document).any fun s => rule.pattern.found s && !rule.applies s

theorem countP_idle (documents : List Document) :
    documents.countP (idle rule format) =
      ((documents.filterMap (rule.text? format)).filter rule.pattern.found).countP
        (fun s => !rule.applies s) := by
  induction documents with
  | nil => rfl
  | cons document rest ih =>
    cases hs : rule.text? format document with
    | none => simp [hs, idle, ih]
    | some s => cases hf : rule.pattern.found s <;> simp [hs, hf, idle, ih, List.countP_cons]

/-- **A stale link that was not taken** stands behind as many links that stay as were taken. -/
theorem le_countP_of_fixed {n : Nat}
    (ha : ∀ t ∈ rule.taken format n (front ++ document :: back), rule.applies t = false)
    (hs : rule.text? format document = some s) (hf : rule.pattern.found s = true)
    (happ : rule.applies s = true) : n ≤ front.countP (idle rule format) := by
  have htaken : rule.taken format n (front ++ document :: back) =
      (((front.filterMap (rule.text? format)).filter rule.pattern.found) ++
        s :: ((back.filterMap (rule.text? format)).filter rule.pattern.found)).take n := by
    simp [Rule.taken, hs, hf]
  rw [countP_idle]
  rw [htaken] at ha
  generalize (front.filterMap (rule.text? format)).filter rule.pattern.found = texts at ha ⊢
  -- else the stale text itself would be among those taken
  have hlen : n ≤ texts.length := by
    by_contra hlt
    have hmem : s ∈ (texts ++ s :: (back.filterMap (rule.text? format)).filter
        rule.pattern.found).take n := by
      rw [List.take_append, List.mem_append]
      right
      obtain ⟨k, hk⟩ : ∃ k, n - texts.length = k + 1 := ⟨n - texts.length - 1, by omega⟩
      rw [hk, List.take_succ_cons]
      exact List.mem_cons_self
    rw [ha s hmem] at happ
    cases happ
  rw [List.take_append_of_le_length hlen] at ha
  have hall : (texts.take n).countP (fun t => !rule.applies t) = (texts.take n).length :=
    List.countP_eq_length.2 fun t ht => by simp [ha t ht]
  calc n = (texts.take n).countP (fun t => !rule.applies t) := by rw [hall]; simp [hlen]
    _ ≤ texts.countP (fun t => !rule.applies t) :=
      (List.take_sublist n texts).countP_le

/-- **What is left when repeated passes stop without a warning.** They return, and a document whose
link still holds the text to replace, for a format and a default rule, stands behind at least as
many documents as a batch takes whose links hold the pattern but not that text. -/
theorem clean_window (hp : plan.Accepted) (hlive : plan.dryRun = false) (site : Site)
    (h : Tidy (stages plan.formats Defaults.rules) site.documents)
    (hquiet : ¬ Warned (perform .quiet (fixUntilClean plan Defaults.rules) site).trace) :
    (∃ report, (perform .quiet (fixUntilClean plan Defaults.rules) site).result = .ok report) ∧
    ∀ format ∈ plan.formats, ∀ rule ∈ Defaults.rules, ∀ front document back,
      (perform .quiet (fixUntilClean plan Defaults.rules) site).site.documents =
        front ++ document :: back →
      ∀ s, rule.text? format document = some s → rule.applies s = true →
        plan.limit ≤ front.countP (idle rule format) := by
  obtain ⟨hr, hd, hw⟩ := fixUntilClean_sweeps hp hlive site h
  refine ⟨⟨_, hr⟩, fun format hf rule hrule front document back hdocs s hs happ => ?_⟩
  have hclean : (sweeps plan (stages plan.formats Defaults.rules) plan.maxPasses.toNat
      ⟨false, 0, []⟩ site.documents).clean = true := by
    simpa using fun hc => hquiet (hw.2 hc)
  -- the last sweep changed nothing, so it read what is left
  obtain ⟨last, hzero, hlast⟩ := exists_sweep_of_clean _ _ _ _ _ hclean
  obtain ⟨hsame, hstay⟩ := sweep_of_unchanged (stages_dotless hp Defaults.rules) hzero
  rw [hd, hlast, hsame] at hdocs
  subst hdocs
  have hidle : ∀ t ∈ rule.taken format plan.limit.toNat (front ++ document :: back),
      rule.applies t = false := by
    intro t ht
    have hfixed := hstay (format, rule) (mem_stages.2 ⟨hf, hrule⟩) t ht
    by_contra hc
    exact (Defaults.apply_ne_iff hrule).2 (by simpa using hc) hfixed
  have := le_countP_of_fixed hidle hs (Defaults.found_of_applies hrule happ) happ
  omega

/-- Two links: the first holds a pattern but nothing to replace, the second is stale. -/
def crowded : Site where
  documents := Collection.linked "csv" 1
    ["https://www.onsdigital.co.uk/legacy/a.csv", "http://download.cmd.onsdigital.co.uk/b.csv"]

theorem tidy_crowded : Tidy (stages ["csv"] Defaults.rules) crowded.documents :=
  ⟨Collection.keyed_linked _ _ _, fun stage _ => Collection.noList_linked stage.2 stage.1⟩

theorem accepted_crowded : (Plan.trial "csv" 1 100).Accepted :=
  Plan.accepted_trial rfl (by decide) (by decide)

theorem not_warned_crowded :
    ¬ Warned (perform .quiet (fixUntilClean (.trial "csv" 1 100) Defaults.rules)
      crowded).trace := by
  have hclean : (sweeps (.trial "csv" 1 100)
      (stages (Plan.trial "csv" 1 100).formats Defaults.rules)
      (Plan.trial "csv" 1 100).maxPasses.toNat ⟨false, 0, []⟩ crowded.documents).clean = true := by
    decide +kernel
  have hw := (fixUntilClean_sweeps accepted_crowded rfl crowded tidy_crowded).2.2
  rw [hw, hclean]
  decide

/-- What is stale stands behind one link that stays. -/
theorem clean_window_crowded :
    ¬ Warned (perform .quiet (fixUntilClean (.trial "csv" 1 100) Defaults.rules) crowded).trace ∧
      ∀ front document back, (perform .quiet (fixUntilClean (.trial "csv" 1 100) Defaults.rules)
          crowded).site.documents = front ++ document :: back →
        ∀ s, Defaults.command.text? "csv" document = some s →
          Defaults.command.applies s = true →
            (1 : Int) ≤ front.countP (idle Defaults.command "csv") :=
  ⟨not_warned_crowded, (clean_window accepted_crowded rfl crowded tidy_crowded
    not_warned_crowded).2 "csv" (by decide) Defaults.command List.mem_cons_self⟩

/-- **A stale link can be left**: the passes stop without a warning, and the second link is as it
was. -/
theorem hidden_by_window :
    (Plan.trial "csv" 1 100).Accepted ∧ Tidy (stages ["csv"] Defaults.rules) crowded.documents ∧
      ¬ Warned (perform .quiet (fixUntilClean (.trial "csv" 1 100) Defaults.rules) crowded).trace ∧
      ∃ document ∈ (perform .quiet (fixUntilClean (.trial "csv" 1 100) Defaults.rules)
          crowded).site.documents,
        ∃ s, Defaults.command.text? "csv" document = some s ∧
          Defaults.command.applies s = true := by
  refine ⟨accepted_crowded, tidy_crowded, not_warned_crowded, ?_⟩
  have hleft : (perform .quiet (fixUntilClean (.trial "csv" 1 100) Defaults.rules)
      crowded).site.documents.any (fun document =>
        (Defaults.command.text? "csv" document).any Defaults.command.applies) = true := by
    decide +kernel
  obtain ⟨document, hm, ha⟩ := List.any_eq_true.1 hleft
  obtain ⟨s, hs, happ⟩ := (Option.any_eq_true _ _).1 ha
  exact ⟨document, hm, s, hs, happ⟩

end Relink.Fix
