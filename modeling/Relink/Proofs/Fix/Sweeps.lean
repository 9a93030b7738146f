import Relink.Proofs.Fix.Sweep

/-!
# Repeated passes without other writers

Without other writers, passes repeated are sweeps repeated, until one changes nothing or the number
of passes is used up. Only in the second case the run logs that it stopped before the links were
clean.

* `fixAll_does`: what a pass can log.
* `repeatPasses_sweeps`: repeated passes are repeated sweeps.
* `fixUntilClean_sweeps`: what a run of repeated passes comes to, and when it warns.
-/

namespace Relink.Fix

open Job

variable {plan : Plan} {rules : List Rule} {documents : List Document}

/-- What a pass leaves behind: notices on documents, and a record that it is complete. -/
def inPass : Event → Prop
  | .record record => record.text ∈ notices ++ ["Link fixing pass complete"]
  | _ => True

/-- **What a pass can log**: notices on documents, and that it is complete. -/
theorem fixAll_does (plan : Plan) (rules : List Rule) :
    (fixAll plan rules).Does inPass fun _ => True := by
  have hdocument : ∀ rule result document,
      (fixDocument plan rule result document).Does inPass fun _ => True := by
    intro rule result document
    refine (fixDocument_does (List.mem_singleton_self document)).mono (fun event h => ?_)
      fun _ _ => trivial
    cases event with
    | record record => exact List.mem_append_left _ h
    | _ => trivial
  have hformats : (fixFormats plan rules plan.formats).Does inPass fun _ => True :=
    fixFormats_of_documents (Does.composes fun _ _ => trivial) (fun _ _ h => ⟨trivial, h⟩) hdocument
      rules plan.formats
  exact hformats.bind fun _ _ => ⟨trivial, List.mem_append_right _ List.mem_cons_self, trivial⟩

/-- Some events tell that the passes were used up before the links were clean. -/
def Warned (trace : List Event) : Prop :=
  ∃ record, Event.record record ∈ trace ∧ record.text = "Stopped before links were clean"

theorem warned_append {first rest : List Event} :
    Warned (first ++ rest) ↔ Warned first ∨ Warned rest := by
  simp only [Warned, List.mem_append, or_and_right, exists_or]

/-- **A pass does not warn.** -/
theorem not_warned_fixAll (plan : Plan) (rules : List Rule) (schedule : Schedule) (site : Site) :
    ¬ Warned (perform schedule (fixAll plan rules) site).trace := by
  rintro ⟨record, hm, ht⟩
  have hall : ∀ text ∈ notices ++ ["Link fixing pass complete"],
      text ≠ "Stopped before links were clean" := by decide
  exact hall _ ((perform_of_does (fixAll_does plan rules) site).1 _ hm) ht

/-- What repeated sweeps come to: the report of all, the documents that are left, and whether the
last sweep changed nothing. -/
structure Swept where
  report : Report
  documents : List Document
  clean : Bool

/-- **Sweeps repeated**, at most `left` more, until one changes nothing. -/
def sweeps (plan : Plan) (stages : List (String × Rule)) :
    (left : Nat) → Report → List Document → Swept
  | 0, total, documents => ⟨total, documents, false⟩
  | left + 1, total, documents =>
    let report := sweepReport plan stages documents
    let after := (sweep plan stages documents).2
    if report.changed == 0 then ⟨total.merge report, after, true⟩
    else sweeps plan stages left (total.merge report) after

/-- **Repeated passes are repeated sweeps**, and warn exactly if the last one was not clean. -/
theorem repeatPasses_sweeps (hp : plan.Accepted) (hlive : plan.dryRun = false) (left : Nat)
    (total : Report) (site : Site) (h : Tidy (stages plan.formats rules) site.documents) :
    let swept := sweeps plan (stages plan.formats rules) left total site.documents
    let ending := perform .quiet (repeatPasses plan rules left total) site
    ending.result = .ok swept.report ∧ ending.site.documents = swept.documents ∧
      (Warned ending.trace ↔ swept.clean = false) := by
  induction left generalizing total site with
  | zero => simp [repeatPasses_zero, perform, Ending.after, sweeps, Warned]
  | succ left ih =>
    obtain ⟨hr, hs⟩ := fixAll_yields hp hlive rules h site rfl
    -- the warning, if there is one, comes from a later pass
    have hnone := not_warned_fixAll plan rules .quiet site
    simp only [repeatPasses, bind_eq, perform_bind, Ending.andThen, hr, hlive, Bool.false_or,
      sweeps]
    split
    · simp [pure_eq, perform, hs, hnone]
    · have htidy := h.sweep plan (stages_dotless hp rules)
      rw [← hs] at htidy
      have hrest := ih (total.merge (sweepReport plan (stages plan.formats rules)
        site.documents)) _ htidy
      rw [hs] at hrest
      obtain ⟨h1, h2, h3⟩ := hrest
      exact ⟨h1, h2, by rw [warned_append, or_iff_right hnone, h3]⟩

/-- **A run of repeated passes without other writers.** -/
theorem fixUntilClean_sweeps (hp : plan.Accepted) (hlive : plan.dryRun = false) (site : Site)
    (h : Tidy (stages plan.formats rules) site.documents) :
    let swept := sweeps plan (stages plan.formats rules) plan.maxPasses.toNat ⟨false, 0, []⟩
      site.documents
    let ending := perform .quiet (fixUntilClean plan rules) site
    ending.result = .ok swept.report ∧ ending.site.documents = swept.documents ∧
      (Warned ending.trace ↔ swept.clean = false) := by
  obtain ⟨hr, hs, hw⟩ := repeatPasses_sweeps hp hlive plan.maxPasses.toNat ⟨false, 0, []⟩ site h
  simp only [fixUntilClean, hlive, bind_eq, perform_bind, Ending.andThen, hr]
  split
  · refine ⟨rfl, hs, ?_⟩
    rw [warned_append, ← hw]
    simp [Warned, say, Job.bind, perform, Ending.after, pure_eq]
  · refine ⟨rfl, hs, ?_⟩
    rw [warned_append, ← hw]
    simp [Warned, perform, pure_eq]

end Relink.Fix
