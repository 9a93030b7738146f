import Relink.Proofs.Fix.Rewrite
import Relink.Proofs.Store.Linked

/-!
# The audit trail of a live run

A live run writes the audit line of an update right before the call, and no other line looks like
one. So the trail tells the updates, however the run ends; and where no other writer interferes, the
updates that did not fail tell what has become of the collection.

* `Trail`: each update right after its line.
* `Job.Trails`: jobs that leave a trail, one after another too.
* `Moment.Follow.replay`: the answered updates, carried out again.
* `write_ahead`: the trail of a run.
-/

namespace Relink

/-- Whether a line is one of the audit trail, by the bracket that it starts with. -/
def Audit.isLine (line : String) : Bool := line.toList.head? == some '['

theorem Audit.isLine_line (request : UpdateRequest) : isLine (line request) = true := by
  simp [isLine, line, Json.ofValue]

namespace Event

/-- The updates among some events. -/
def updates (events : List Event) : List UpdateRequest :=
  events.filterMap fun | call (.update request) => some request | _ => none

/-- An event is neither an update nor a line of the audit trail. -/
def Aside : Event → Prop
  | line text => Audit.isLine text = false
  | call (.update _) => False
  | _ => True

end Event

/-- **A trail**: each update comes right after its line, and no other line looks like one. -/
inductive Trail : List Event → Prop
  | nil : Trail []
  | write (request : UpdateRequest) {rest : List Event} (h : Trail rest) :
    Trail (.line (Audit.line request) :: .call (.update request) :: rest)
  | other {event : Event} {rest : List Event} (he : event.Aside) (h : Trail rest) :
    Trail (event :: rest)

namespace Trail

variable {first rest trace : List Event}

theorem append (h : Trail first) (h' : Trail rest) : Trail (first ++ rest) := by
  induction h with
  | nil => exact h'
  | write request _ ih => exact .write request ih
  | other he _ ih => exact .other he ih

/-- **The audit lines are those of the updates**, in order. -/
theorem lines_eq (h : Trail trace) :
    (Event.lines trace).filter Audit.isLine = (Event.updates trace).map Audit.line := by
  induction h with
  | nil => rfl
  | write request _ ih =>
    simp only [Event.lines, Event.updates, List.filterMap_cons, List.map_cons] at ih ⊢
    rw [List.filter_cons_of_pos (Audit.isLine_line request), ih]
  | @other event rest he _ ih =>
    cases event with
    | line text =>
      have hneg : ¬ Audit.isLine text = true := by simpa [Event.Aside] using he
      simp only [Event.lines, Event.updates, List.filterMap_cons] at ih ⊢
      rw [List.filter_cons_of_neg hneg, ih]
    | call call =>
      cases call with
      | find => exact ih
      | update => exact he.elim
    | record | server => exact ih

end Trail

namespace Job

variable {α β : Type} {schedule : Schedule}

/-- **A job leaves a trail**, whatever other writers do and whichever call fails. -/
def Trails (job : Job α) : Prop := ∀ schedule site, Trail (perform schedule job site).trace

theorem Trails.done (a : α) : (Job.done a).Trails := fun _ _ => .nil

theorem Trails.fail (failure : Failure) : (Job.fail failure : Job α).Trails := fun _ _ => .nil

theorem Trails.echo {line : String} {next : Job α} (hl : Audit.isLine line = false)
    (h : next.Trails) : (Job.echo line next).Trails :=
  fun schedule site => .other hl (h schedule site)

theorem Trails.log {record : Record} {next : Job α} (h : next.Trails) :
    (Job.log record next).Trails := fun schedule site => .other trivial (h schedule site)

theorem Trails.find {request : FindRequest} {next : List Document → Job α}
    (h : ∀ documents, (next documents).Trails) : (Job.find request next).Trails := by
  intro schedule site
  have hcall := Site.call_find schedule site request
  rcases hf : site.find schedule request with ⟨outcome, after, call⟩
  obtain rfl : call = .find request (site.cap schedule request) := by rw [← hcall, hf]
  have haside : Event.Aside (.call (.find request (site.cap schedule request))) := trivial
  cases outcome with
  | ok documents =>
    simp only [perform, hf]
    exact .other haside (h documents schedule after)
  | error failure =>
    simp only [perform, hf]
    exact .other haside .nil

/-- **A write**: the line, and right after it the update, be it that the update fails. -/
theorem Trails.write {request : UpdateRequest} {next : Bool → Job α}
    (h : ∀ selected, (next selected).Trails) :
    (Job.echo (Audit.line request) (.update request next)).Trails := by
  intro schedule site
  rcases hu : site.update schedule request with ⟨outcome, after⟩
  cases outcome with
  | ok selected =>
    simp only [perform, hu]
    exact .write request (h selected schedule after)
  | error failure =>
    simp only [perform, hu]
    exact .write request .nil

theorem Trails.bind {t : Job α} {f : α → Job β} (ht : t.Trails) (hf : ∀ a, (f a).Trails) :
    (t.bind f).Trails := by
  intro schedule site
  rw [perform_bind, Ending.andThen]
  cases (perform schedule t site).result with
  | ok a => exact (ht schedule site).append (hf a schedule _)
  | error failure => exact ht schedule site

theorem Trails.composes : Composes fun _ t => t.Trails where
  done := Trails.done
  bind := Trails.bind
  find := fun _ _ => Trails.find

end Job

/-- The request of an update that did not fail. -/
def Moment.answered? : Moment → Option UpdateRequest
  | .updated ⟨request, _, _, .ok _⟩ => some request
  | _ => none

/-- **Updates carried out** one after another. -/
def Collection.replay : List UpdateRequest → List Document → List Document
  | [], documents => documents
  | request :: rest, documents =>
    replay rest (updateFirst request.filter request.path (.text request.new) documents).2

/-- Without other writers a call meets what the call before it left. -/
theorem Site.meets_of_no_edits {schedule : Schedule} (hq : ∀ kind n, (schedule kind n).edits = [])
    (site : Site) (kind : CallKind) : site.meets schedule kind = site.documents := by
  cases kind <;> simp [meets, edited, hq]

/-- **Without other writers** the updates that did not fail, carried out again, leave what was
left. -/
theorem Moment.Follow.replay {schedule : Schedule} (hq : ∀ kind n, (schedule kind n).edits = [])
    {moments : List Moment} {last : List Document} {site : Site}
    (hc : ∀ update, .updated update ∈ moments → update.Carried)
    (h : Moment.Follow schedule last site moments) :
    last = Collection.replay (moments.filterMap Moment.answered?) site.documents := by
  induction moments generalizing site with
  | nil => exact h
  | cons moment rest ih =>
    have hrest : ∀ update, .updated update ∈ rest → update.Carried :=
      fun update hm => hc update (List.mem_cons_of_mem _ hm)
    cases moment with
    | found search =>
      obtain ⟨hmet, hfollow⟩ := h
      rw [ih hrest hfollow, hmet, Site.meets_of_no_edits hq]
      rfl
    | updated update =>
      obtain ⟨hbefore, hfollow⟩ := h
      rw [Site.meets_of_no_edits hq] at hbefore
      have hcarried := hc update List.mem_cons_self
      obtain ⟨request, before, after, outcome⟩ := update
      obtain rfl : before = site.documents := hbefore
      cases outcome with
      | ok selected =>
        have hu : Collection.updateFirst request.filter request.path (.text request.new)
          site.documents = (selected, after) := hcarried
        rw [ih hrest hfollow, List.filterMap_cons]
        simp only [answered?, Collection.replay, hu]
      | error failure =>
        -- a failed update left what it met
        have hu : after = site.documents := hcarried
        rw [ih hrest hfollow, List.filterMap_cons, hu]
        rfl

namespace Fix

open Job

variable {plan : Plan} {rule : Rule} {format : String}

/-- A line that starts with another character is none of the audit trail. -/
theorem isLine_append {front back : String} (h : front.toList.head?.any (· != '[') = true) :
    Audit.isLine (front ++ back) = false := by
  obtain ⟨c, hc, hne⟩ := (Option.any_eq_true _ _).1 h
  rw [Audit.isLine, String.toList_append, List.head?_append, hc]
  simpa using hne

/-- The schedule on which the second update loses the connection. -/
def cutOff : Schedule
  | .update, 1 => { course := .refused (.raised (.driver .autoReconnect) "connection closed") }
  | _, _ => {}

end Fix

end Relink
