import Relink.Proofs.Fix.Batches
import Relink.Proofs.Store.Linked

/-!
# Safety among other writers

Whatever other writers do between the calls of a run, and whichever calls fail: an update changes
nothing, or sets one link field of one document that its batch has read and that its query still
selects.

* `Batch.Sound.rewrote`: what one update does.
* `run_safe`: all batches of a run are safe.
-/

namespace Relink.Fix

open Job

variable {plan : Plan} {rules : List Rule} {schedule : Schedule} {batch : Batch} {update : Update}

/-- **An update rewrote one link**: of the document with the id asked for, which the batch has read
and whose query selected it just before, the link field of the batch was set. -/
structure Batch.Rewrote (batch : Batch) (update : Update) (front : List Document)
    (old new : Document) (back : List Document) : Prop where
  before : update.before = front ++ old :: back
  after : update.after = front ++ new :: back
  id : old.id? = some update.request.id
  others : ∀ other ∈ front ++ back, other.id? ≠ some update.request.id
  read : ∃ documents, batch.search.outcome = .ok documents ∧
    ∃ document ∈ documents, document.id? = some update.request.id
  selected : (batch.rule.query batch.format).holds old = true
  set : Value.SetAt (.text update.request.new) (batch.rule.way batch.format) (.map old) (.map new)

namespace Batch.Sound

/-- **What one update does**: it changes nothing, or rewrites one link. -/
theorem rewrote (hs : batch.Sound plan schedule) (hf : '.' ∉ batch.format.toList)
    (hmaps : schedule.KeepsMaps batch.format) (hm : update ∈ batch.updates) :
    update.after = update.before ∨
      ∃ front old new back, batch.Rewrote update front old new back := by
  obtain ⟨hpath, hkey, hpattern⟩ := hs.request_spec hf hm
  obtain ⟨hk, hc⟩ := hs.carried update hm
  unfold Update.Carried at hc
  split at hc
  · rcases Collection.updateFirst_cases update.request.filter update.request.path
      (.text update.request.new) update.before with ⟨-, hu⟩ | ⟨front, old, back, hb, hh, hu⟩
    · left
      rw [hu] at hc
      exact (Prod.mk.inj hc).2.symm
    · right
      rw [hu] at hc
      rw [hb] at hk
      have hold : old ∈ front ++ old :: back := by simp
      obtain ⟨id, hid, hidkey⟩ := hk.key old hold
      rw [UpdateRequest.filter, hpath] at hh
      obtain ⟨rfl, w, hw, hmet⟩ :=
        (Filter.holds_expecting (Rule.path_ne_id hf) hkey hidkey hid).1 hh
      -- the writers keep maps, so a filter finds there only what is reached
      have hopen := hs.opened hmaps update hm old (by rw [hb]; exact hold) hid
      have hcand := hw
      rw [Rule.candidates_path hf, Rule.way, hopen.direct.candidates_eq, Option.mem_toList] at hcand
      refine ⟨front, old, _, back, hb, (Prod.mk.inj hc).2.symm, hid, ?_, ?_, ?_, ?_⟩
      · exact fun other ho => hid ▸ hk.id?_ne ho
      · obtain ⟨documents, ho, hr⟩ := hs.requested update hm
        obtain ⟨read, hread, hrid, -⟩ := hr.read
        exact ⟨documents, ho, read, hread, hrid⟩
      · rw [Rule.holds_query, List.any_eq_true]
        exact ⟨w, hw, Condition.metBy_found hmet hpattern⟩
      · rw [Document.map_assign, hpath, Rule.steps_path hf]
        exact Value.assign_setAt hcand
  · exact Or.inl hc

end Batch.Sound

/-- A rewritten document keeps its id. -/
theorem Batch.Rewrote.id?_new {front back : List Document} {old new : Document}
    (h : batch.Rewrote update front old new back) : new.id? = old.id? := by
  have hr : ∀ document : Document, document.id? = Value.reach? ["_id"] (.map document) := by
    intro document
    simp [Value.reach?, Document.id?]
  rw [hr, hr]
  apply h.set.reach?_of_apart <;> simp [Rule.way, Rule.entry, Rule.downloadsKey]

/-- Steps that neither lead along the way to a link field of some formats and rules, nor beyond. -/
def Apart (formats : List String) (rules : List Rule) (steps : List String) : Prop :=
  ∀ format ∈ formats, ∀ rule ∈ rules, ¬ rule.way format <+: steps ∧ ¬ steps <+: rule.way format

/-- **A batch is safe**: each of its updates changes nothing or rewrites one link. So no document is
made, deleted or moved, and nothing is touched but the link fields of the formats and rules. -/
structure Batch.Safe (formats : List String) (rules : List Rule) (batch : Batch) : Prop where
  format : batch.format ∈ formats
  rule : batch.rule ∈ rules
  updates : ∀ update ∈ batch.updates, update.after = update.before ∨
    ∃ front old new back, batch.Rewrote update front old new back
  ids : ∀ update ∈ batch.updates,
    update.after.map Document.id? = update.before.map Document.id?
  apart : ∀ update ∈ batch.updates, ∀ steps, Apart formats rules steps →
    update.after.map (fun document => Value.reach? steps (.map document)) =
      update.before.map (fun document => Value.reach? steps (.map document))

theorem Batch.OfRun.safe (hb : batch.OfRun plan rules schedule) (hp : plan.Accepted)
    (hmaps : ∀ format ∈ plan.formats, schedule.KeepsMaps format) :
    batch.Safe plan.formats rules := by
  have hcases : ∀ update ∈ batch.updates, update.after = update.before ∨
      ∃ front old new back, batch.Rewrote update front old new back :=
    fun update hu => hb.sound.rewrote (hp.no_dot _ hb.format) (hmaps _ hb.format) hu
  refine ⟨hb.format, hb.rule, hcases, fun update hu => ?_, fun update hu steps ha => ?_⟩
  · rcases hcases update hu with he | ⟨front, old, new, back, h⟩
    · rw [he]
    · rw [h.before, h.after]
      simp [h.id?_new]
  · rcases hcases update hu with he | ⟨front, old, new, back, h⟩
    · rw [he]
    · obtain ⟨h1, h2⟩ := ha _ hb.format _ hb.rule
      rw [h.before, h.after]
      simp only [List.map_append, List.map_cons]
      rw [h.set.reach?_of_apart h1 h2]

/-- **Safety among other writers.** The calls of a run are those of some batches, each of which is
the find for a format and a rule followed by updates, and each of which is safe. -/
theorem run_safe (hp : plan.Accepted) (hl : schedule.Lawful)
    (hmaps : ∀ format ∈ plan.formats, schedule.KeepsMaps format) (site : Site)
    (hk : Collection.Keyed site.documents) (rules : List Rule) :
    ∃ batches : List Batch,
      moments schedule (run plan rules) site = batches.flatMap Batch.moments ∧
      Event.calls (perform schedule (run plan rules) site).trace =
        (batches.flatMap Batch.moments).map Moment.call ∧
      Moment.Follow schedule (perform schedule (run plan rules) site).site.documents site
        (batches.flatMap Batch.moments) ∧
      ∀ batch ∈ batches, batch.search.request = Fix.batch plan batch.rule batch.format ∧
        batch.Safe plan.formats rules := by
  obtain ⟨batches, hm, hall, -⟩ := run_ensures rules hl hp.no_dot site hk
  refine ⟨batches, hm, hm ▸ calls_trace _ _, hm ▸ follow_moments _ _, fun batch hb => ?_⟩
  exact ⟨(hall batch hb).sound.asked, (hall batch hb).safe hp hmaps⟩

/-- Another writer stores a list with the text that was read in the second link. -/
def listing : Schedule := .storing Defaults.command "csv" (.int 2)
  (.list [.text "http://download.cmd.onsdigital.co.uk/b.csv", .text "http://mirror.example.org/"])

/-- Both links are rewritten, although the second is a list by then. -/
theorem run_safe_listing :
    (perform listing (run (.trial "csv" 10 1) [Defaults.command]) twoStale).site.documents.map
        (Defaults.command.text? "csv") =
      [some "http://download.ons.gov.uk/a.csv", some "http://download.ons.gov.uk/b.csv"] ∧
    ∃ batches : List Batch,
      moments listing (run (.trial "csv" 10 1) [Defaults.command]) twoStale =
        batches.flatMap Batch.moments ∧
      ∀ batch ∈ batches, batch.Safe ["csv"] [Defaults.command] := by
  obtain ⟨hl, hm⟩ := Schedule.storing_spec (by decide : '.' ∉ "csv".toList) Defaults.command
    (.int 2) (.list [.text "http://download.cmd.onsdigital.co.uk/b.csv",
      .text "http://mirror.example.org/"])
  have hp : (Plan.trial "csv" 10 1).Accepted := Plan.accepted_trial rfl (by decide) (by decide)
  obtain ⟨batches, hb, -, -, hsafe⟩ := run_safe hp hl (List.forall_mem_singleton.2 hm) twoStale
    (Collection.keyed_linked _ _ _) [Defaults.command]
  exact ⟨by decide +kernel, batches, hb, fun batch hmem => (hsafe batch hmem).2⟩

end Relink.Fix
