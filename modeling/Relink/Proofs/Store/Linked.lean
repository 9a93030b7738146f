import Relink.Defaults
import Relink.Proofs.Settings.Plan
import Relink.Proofs.Store.Keyed
import Relink.Store.Site

/-!
# Collections of single links

The smallest collections that runs are about: numbered documents, each with one link in one format.
They satisfy all that is asked of a collection, as a plan for that format does of a plan.

* `Collection.keyed_linked`: their ids are distinct.
* `Collection.noList_linked`: no list is met in them.
* `Plan.accepted_trial`: a plan for them is accepted.
-/

namespace Relink

namespace Rule

/-- The least document with something in the link field of a download format. -/
def holding (rule : Rule) (format : String) (id v : Value) : Document :=
  [("_id", id), (downloadsKey, .map [(format, .map [(rule.field.key, v)])])]

theorem noList_holding (rule other : Rule) (format format' : String) (id : Value) (s : String) :
    Value.NoList (other.way format') (.map (rule.holding format id (.text s))) := by
  have htext : ∀ steps, Value.NoList steps (.text s) := by
    intro steps
    cases steps with
    | nil => simp [Value.NoList]
    | cons step rest => exact ⟨by simp, fun w hw => by simp [Value.child?, Value.fields?] at hw⟩
  refine ⟨by simp, fun downloads hd => ?_⟩
  obtain rfl : Value.map [(format, .map [(rule.field.key, .text s)])] = downloads := by
    simpa [holding, Entries.get?, downloadsKey] using hd
  refine ⟨by simp, fun entry he => ?_⟩
  obtain ⟨-, rfl⟩ : format = format' ∧ Value.map [(rule.field.key, .text s)] = entry := by
    simpa [Entries.get?] using he
  refine ⟨by simp, fun v hv => ?_⟩
  obtain ⟨-, rfl⟩ : rule.field.key = other.field.key ∧ Value.text s = v := by
    simpa [Entries.get?] using hv
  exact htext []

end Rule

namespace Collection

/-- **Numbered documents**, each with one link of a format. -/
def linked (format : String) (number : Int) : List String → List Document
  | [] => []
  | link :: rest =>
    Defaults.command.holding format (.int number) (.text link) :: linked format (number + 1) rest

theorem id?_linked {format : String} {number : Int} {links : List String} {document : Document}
    (h : document ∈ linked format number links) :
    ∃ k, number ≤ k ∧ document.id? = some (.int k) := by
  induction links generalizing number with
  | nil => cases h
  | cons link rest ih =>
    rcases List.mem_cons.1 h with rfl | h
    · exact ⟨number, Int.le_refl _, rfl⟩
    · obtain ⟨k, hk, hid⟩ := ih h
      exact ⟨k, by omega, hid⟩

/-- **The ids of numbered documents are distinct.** -/
theorem keyed_linked (format : String) (number : Int) (links : List String) :
    Keyed (linked format number links) := by
  refine ⟨fun document h => ?_, ?_⟩
  · obtain ⟨k, -, hid⟩ := id?_linked h
    exact ⟨_, hid, rfl⟩
  · induction links generalizing number with
    | nil => exact List.nodup_nil
    | cons link rest ih =>
      refine List.nodup_cons.2 ⟨fun hm => ?_, ih (number + 1)⟩
      obtain ⟨document, hd, he⟩ := List.mem_map.1 hm
      obtain ⟨k, hk, hid⟩ := id?_linked hd
      have hsame : some (Value.int k) = some (Value.int number) := hid.symm.trans he
      simp only [Option.some.injEq, Value.int.injEq] at hsame
      omega

/-- **No list is met** in a document with one link. -/
theorem noList_linked {format : String} {number : Int} {links : List String} (rule : Rule)
    (format' : String) : ∀ document ∈ linked format number links,
      Value.NoList (rule.way format') (.map document) := by
  induction links generalizing number with
  | nil => simp [linked]
  | cons link rest ih =>
    exact List.forall_mem_cons.2 ⟨Rule.noList_holding _ _ _ _ _ _, ih⟩

end Collection

/-- A live plan for one format, with a cap on the documents of a batch and on the passes. -/
def Plan.trial (format : String) (limit maxPasses : Int) : Plan where
  formats := [format]
  limit := limit
  dryRun := false
  skipUnchanged := false
  repeated := false
  maxPasses := maxPasses

@[simp]
theorem Plan.formats_trial (format : String) (limit maxPasses : Int) :
    (trial format limit maxPasses).formats = [format] := rfl

theorem Plan.accepted_trial {format : String} {limit maxPasses : Int}
    (hf : isFormat format = true) (hl : 1 ≤ limit) (hm : 1 ≤ maxPasses) :
    (trial format limit maxPasses).Accepted :=
  ⟨check_ok.2 ⟨by simp [trial], by simpa [trial] using hf, hl, hm⟩, List.nodup_singleton format⟩

namespace Fix

/-- A link with two stale texts that share a slash. -/
def overlapping : Site where
  documents := Collection.linked "csv" 1
    ["http://download.cmd.onsdigital.co.uk//download.beta.ons.gov.uk/a.csv"]

/-- Two stale links. -/
def twoStale : Site where
  documents := Collection.linked "csv" 1
    ["http://download.cmd.onsdigital.co.uk/a.csv", "http://download.cmd.onsdigital.co.uk/b.csv"]

end Fix

end Relink
