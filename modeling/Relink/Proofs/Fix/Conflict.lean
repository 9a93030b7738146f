import Relink.Proofs.Fix.Batches
import Relink.Proofs.Store.Linked

/-!
# Updates that another writer overtook

A live update is made on the condition that its link field still holds the text that was read. The
condition is also met by a list with that text among its members. So an update that was overtaken
leaves the documents alone and is counted as a conflict, unless the other writer has stored such a
list, which is overwritten.

* `Batch.Sound.overtaken`, `Batch.Sound.overwritten`: the two cases for one update.
* `run_conflict`: which of the overtaken updates of a run are conflicts, and what is counted.
* `listed_overwritten`: a list that another writer has stored is lost.
-/

namespace Relink.Fix

open Job

variable {plan : Plan} {schedule : Schedule} {batch : Batch} {update : Update}
  {document : Document} {w : Value} {selected : Bool}

/-- A value is a list with a text among its members. -/
def Lists (s : String) (v : Value) : Prop := ∃ items, v = .list items ∧ .text s ∈ items

namespace Batch.Sound

/-- **An overtaken update is lost** if the link is neither the text that was read nor a list with
it. -/
theorem overtaken (hs : batch.Sound plan schedule) (hf : '.' ∉ batch.format.toList)
    (hm : update ∈ batch.updates) (hd : document ∈ update.before)
    (hid : document.id? = some update.request.id)
    (hw : Value.reach? (batch.rule.way batch.format) (.map document) = some w)
    (hne : w ≠ .text update.request.old) (hlist : ¬ Lists update.request.old w)
    (ho : update.outcome = .ok selected) : selected = false ∧ update.after = update.before := by
  obtain ⟨hpath, -, -⟩ := hs.request_spec hf hm
  obtain ⟨hk, hc⟩ := hs.carried update hm
  rw [Update.Carried, ho] at hc
  simp only [UpdateRequest.filter, hpath] at hc
  rw [hk.updateFirst_lost (Rule.path_ne_id hf) hd hid] at hc
  · exact ⟨(Prod.mk.inj hc).1.symm, (Prod.mk.inj hc).2.symm⟩
  · rw [Rule.candidates_path hf, Value.candidates_of_reach? hw]
    rintro ⟨v, hv, hmet⟩
    obtain rfl := List.mem_singleton.1 hv
    rcases Condition.metBy_text.1 hmet with he | hl
    · exact hne he
    · exact hlist hl

/-- **An overtaken update is made** if the link is a list with the text that was read. -/
theorem overwritten (hs : batch.Sound plan schedule) (hf : '.' ∉ batch.format.toList)
    (hm : update ∈ batch.updates) (hd : document ∈ update.before)
    (hid : document.id? = some update.request.id)
    (hw : Value.reach? (batch.rule.way batch.format) (.map document) = some w)
    (hlist : Lists update.request.old w) (ho : update.outcome = .ok selected) :
    selected = true ∧ ∃ front back, update.before = front ++ document :: back ∧
      update.after = front ++
        document.assign (.text update.request.new) (batch.rule.path batch.format) :: back := by
  obtain ⟨hpath, -, -⟩ := hs.request_spec hf hm
  obtain ⟨hk, hc⟩ := hs.carried update hm
  obtain ⟨front, back, hb⟩ := List.append_of_mem hd
  rw [Update.Carried, ho, hb] at hc
  rw [hb] at hk
  simp only [UpdateRequest.filter, hpath] at hc
  rw [hk.updateFirst_at (Rule.path_ne_id hf) hid] at hc
  · exact ⟨(Prod.mk.inj hc).1.symm, front, back, hb, (Prod.mk.inj hc).2.symm⟩
  · rw [Rule.candidates_path hf, Value.candidates_of_reach? hw]
    exact ⟨w, List.mem_singleton_self w, Condition.metBy_text.2 (Or.inr hlist)⟩

end Batch.Sound

/-- **Which overtaken updates are conflicts.** An update that is carried out while the link of its
document is another value than the text that was read leaves the documents alone and is counted as a
conflict, and neither as a rewrite nor as a change, unless that value is a list with the text that
was read. Such a list is overwritten, and the update is counted as a rewrite. -/
theorem run_conflict (hp : plan.Accepted) (hlive : plan.dryRun = false) (hl : schedule.Lawful)
    (site : Site) (hk : Collection.Keyed site.documents) (rules : List Rule) :
    ∃ batches : List Batch,
      moments schedule (run plan rules) site = batches.flatMap Batch.moments ∧
      (∀ report, (perform schedule (run plan rules) site).result = .ok report →
        List.Forall₂ Batch.Tallied batches report.results) ∧
      ∀ batch ∈ batches, ∀ update ∈ batch.updates,
        (∃ documents, batch.search.outcome = .ok documents ∧
          Requested batch.rule (batch.rule.path batch.format) documents update.request) ∧
        ∀ document ∈ update.before, document.id? = some update.request.id →
          ∀ w, Value.reach? (batch.rule.way batch.format) (.map document) = some w →
            w ≠ .text update.request.old → ∀ selected, update.outcome = .ok selected →
              (¬ Lists update.request.old w → selected = false ∧ update.after = update.before ∧
                update.lost = true ∧ update.made = false ∧ update.effective = false) ∧
              (Lists update.request.old w → selected = true ∧ update.lost = false ∧
                update.made = true ∧ ∃ front back, update.before = front ++ document :: back ∧
                  update.after = front ++ document.assign (.text update.request.new)
                    (batch.rule.path batch.format) :: back) := by
  obtain ⟨batches, hm, hall, -, htally⟩ := run_ensures rules hl hp.no_dot site hk
  refine ⟨batches, hm, fun report hr => htally report hr hlive, fun batch hb update hu => ?_⟩
  have hs := (hall batch hb).sound
  have hf := hp.no_dot _ (hall batch hb).format
  refine ⟨hs.requested update hu, fun document hd hid w hw hne selected ho => ⟨?_, ?_⟩⟩
  · intro hlist
    obtain ⟨rfl, ha⟩ := hs.overtaken hf hu hd hid hw hne hlist ho
    exact ⟨rfl, ha, by simp [Update.lost, ho], by simp [Update.made, ho],
      by simp [Update.effective, Update.made, ho]⟩
  · intro hlist
    obtain ⟨rfl, hafter⟩ := hs.overwritten hf hu hd hid hw hlist ho
    exact ⟨rfl, by simp [Update.lost, ho], by simp [Update.made, ho], hafter⟩

/-- A stale link. -/
def oneStale : Site where
  documents := Collection.linked "csv" 1 ["http://download.cmd.onsdigital.co.uk/a.csv"]

/-- Another writer stores a value in the link before the first update. -/
def overtaking (value : Value) : Schedule := .storing Defaults.command "csv" (.int 1) value

theorem lawful_overtaking (value : Value) : (overtaking value).Lawful :=
  (Schedule.storing_spec (by decide : '.' ∉ "csv".toList) Defaults.command (.int 1) value).1

/-- An update that is overtaken by another text is a conflict. -/
theorem run_conflict_text :
    (perform (overtaking (.text "http://mirror.example.org/")) (run (.trial "csv" 10 1)
        [Defaults.command]) oneStale).result.toOption.map Report.conflicts = some 1 ∧
      ∃ batches : List Batch,
        moments (overtaking (.text "http://mirror.example.org/")) (run (.trial "csv" 10 1)
          [Defaults.command]) oneStale = batches.flatMap Batch.moments ∧
        ∀ report, (perform (overtaking (.text "http://mirror.example.org/"))
            (run (.trial "csv" 10 1) [Defaults.command]) oneStale).result = .ok report →
          List.Forall₂ Batch.Tallied batches report.results := by
  have hp : (Plan.trial "csv" 10 1).Accepted := Plan.accepted_trial rfl (by decide) (by decide)
  obtain ⟨batches, hm, htally, -⟩ := run_conflict hp rfl (lawful_overtaking _) oneStale
    (Collection.keyed_linked _ _ _) [Defaults.command]
  exact ⟨by decide +kernel, batches, hm, htally⟩

/-- A list with the text that was read, and another. -/
def listed : Value :=
  .list [.text "http://download.cmd.onsdigital.co.uk/a.csv", .text "http://mirror.example.org/"]

/-- **A list that another writer has stored is lost.** It is not the text that was read, but the
update overwrites it and is counted as a change. -/
theorem listed_overwritten :
    (Plan.trial "csv" 10 1).Accepted ∧ (overtaking listed).Lawful ∧
      Collection.Keyed oneStale.documents ∧
      ∃ update, .updated update ∈
          moments (overtaking listed) (run (.trial "csv" 10 1) [Defaults.command]) oneStale ∧
        update.request.old = "http://download.cmd.onsdigital.co.uk/a.csv" ∧
        update.before.map (fun document => (Value.reach? (Defaults.command.way "csv")
          (.map document)).map Value.kind) = [some "list"] ∧
        update.lost = false ∧ update.effective = true ∧
        update.after.map (Defaults.command.text? "csv") =
          [some "http://download.ons.gov.uk/a.csv"] := by
  refine ⟨Plan.accepted_trial rfl (by decide) (by decide), lawful_overtaking _,
    Collection.keyed_linked _ _ _, ?_⟩
  have h : ((moments (overtaking listed) (run (.trial "csv" 10 1) [Defaults.command])
      oneStale).filterMap Moment.update?).any (fun u =>
        u.request.old == "http://download.cmd.onsdigital.co.uk/a.csv" &&
          u.before.map (fun document => (Value.reach? (Defaults.command.way "csv")
            (.map document)).map Value.kind) == [some "list"] &&
          !u.lost && u.effective &&
          u.after.map (Defaults.command.text? "csv") ==
            [some "http://download.ons.gov.uk/a.csv"]) = true := by decide +kernel
  obtain ⟨u, hm, hc⟩ := List.any_eq_true.1 h
  obtain ⟨_, hm, hu⟩ := List.mem_filterMap.1 hm
  obtain rfl := Moment.update?_eq_some.1 hu
  simp only [Bool.and_eq_true, beq_iff_eq, Bool.not_eq_true'] at hc
  obtain ⟨⟨⟨⟨h1, h2⟩, h3⟩, h4⟩, h5⟩ := hc
  exact ⟨u, hm, h1, h2, h3, h4, h5⟩

end Relink.Fix
