import Relink.Proofs.Fix.Rewrite

/-!
# Dry runs only read

A dry run asks for no update, in one pass or in repeated ones. A job that asks for none leaves the
collection to the other writers: it is left with what they did before each find that was made, and
with nothing else.

* `Job.calls_of_reads`: a job that only reads leaves no update behind.
* `Job.documents_of_reads`: what a job leaves that only reads.
* `run_reads`: a dry run only reads.
-/

namespace Relink

/-- What other writers do just before each of some finds, counted from the first one on. -/
def Schedule.editsAtFinds (schedule : Schedule) (first count : Nat) : List Edit :=
  (List.range' first count).flatMap fun n => (schedule .find n).edits

/-- An event is anything but a request to update. -/
def Event.Reads : Event → Prop
  | .call (.update _) => False
  | _ => True

theorem Site.edited_append (site : Site) (edits more : List Edit) :
    site.edited (edits ++ more) = (site.edited edits).edited more := by
  simp [edited]

theorem Schedule.editsAtFinds_succ (schedule : Schedule) (first count : Nat) :
    schedule.editsAtFinds first (count + 1) =
      (schedule .find first).edits ++ schedule.editsAtFinds (first + 1) count := by
  simp [editsAtFinds, List.range'_succ]

namespace Job

variable {α : Type} {schedule : Schedule} {R : α → Prop} {job : Job α}

theorem calls_of_reads (h : job.Does Event.Reads R) (site : Site) (request : UpdateRequest) :
    .update request ∉ Event.calls (perform schedule job site).trace := by
  intro hm
  obtain ⟨event, he, hc⟩ := List.mem_filterMap.1 hm
  have hreads := (perform_of_does h site).1 event he
  cases event with
  | call c =>
    cases hc
    exact hreads
  | line | record | server => cases hc

/-- **What a job leaves that only reads**: the collection as the other writers made it before each
of its finds. -/
theorem documents_of_reads (h : job.Does Event.Reads R) (site : Site) :
    (perform schedule job site).site.documents =
      (site.edited (schedule.editsAtFinds site.finds
        (moments schedule job site).length)).documents := by
  -- from find to find: what the others did before it comes first, then what they do before the rest
  induction job generalizing site with
  | done | fail => rfl
  | echo line next ih => exact ih h.2 site
  | log record next ih => exact ih h.2 site
  | find request next ih =>
    have hsite := Site.site_find schedule site request
    rcases hf : site.find schedule request with ⟨outcome, after, call⟩
    rw [hf] at hsite
    simp only at hsite
    subst hsite
    cases outcome with
    | ok documents =>
      have hrest := ih documents (h.2 documents) ⟨site.meets schedule .find, site.finds + 1,
        site.updates⟩
      simp only [perform, moments, hf, Ending.after, List.length_cons]
      rw [hrest, Schedule.editsAtFinds_succ, Site.edited_append]
      rfl
    | error failure =>
      simp only [perform, moments, hf, List.length_singleton]
      rw [Schedule.editsAtFinds_succ, Site.edited_append]
      rfl
  | update request next ih => exact absurd h.1 id

end Job

namespace Fix

open Job

variable {plan : Plan}

theorem fixDocument_reads (hdry : plan.dryRun = true) (rule : Rule) (result : RuleResult)
    (document : Document) :
    (fixDocument plan rule result document).Does Event.Reads fun _ => True := by
  rw [fixDocument_eq]
  split
  · trivial
  · trivial
  · split
    · exact ⟨trivial, trivial⟩
    · rw [replaceLink_dryRun hdry]
      exact ⟨trivial, trivial⟩

theorem fixAll_reads (hdry : plan.dryRun = true) (rules : List Rule) :
    (fixAll plan rules).Does Event.Reads fun _ => True := by
  have hformats : (fixFormats plan rules plan.formats).Does Event.Reads fun _ => True :=
    fixFormats_of_documents (Does.composes fun _ _ => trivial) (fun _ _ h => ⟨trivial, h⟩)
      (fixDocument_reads hdry) rules plan.formats
  exact hformats.bind fun _ _ => ⟨trivial, trivial, trivial⟩

theorem repeatPasses_reads (hdry : plan.dryRun = true) (rules : List Rule) (left : Nat)
    (total : Report) :
    (repeatPasses plan rules left total).Does Event.Reads fun _ => True := by
  cases left with
  | zero => exact ⟨trivial, trivial⟩
  | succ left =>
    -- a dry run ends with its first pass
    rw [repeatPasses_succ]
    refine (fixAll_reads hdry rules).bind fun report _ => ?_
    rw [hdry, Bool.true_or, if_pos rfl]
    trivial

/-- **A dry run only reads.** -/
theorem run_reads (hdry : plan.dryRun = true) (rules : List Rule) :
    (run plan rules).Does Event.Reads fun _ => True := by
  unfold run
  split
  · refine (repeatPasses_reads hdry rules plan.maxPasses.toNat _).bind fun total _ => ?_
    split
    · exact ⟨trivial, trivial⟩
    · trivial
  · exact fixAll_reads hdry rules

end Fix

end Relink
