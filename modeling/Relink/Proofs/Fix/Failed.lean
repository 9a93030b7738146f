import Relink.Proofs.Fix.Trail

/-!
# Runs that end with a failed call

A call that fails is the last of its run. The run fails in one of its passes, and there in one of
its batches: the passes before are complete, and the one that fails has no count. If it is the find
that fails, nothing else is done in the batch.

* `Job.moments_failed`: a call that fails is the last of its job, whatever the job.
* `Job.FailsIn`: a job fails in a part of it.
* `fixFormats_failsIn`, `run_failsIn`: a pass fails in a batch, and a run in a pass.
* `run_stopped`: what is true of a run with a failed call.
-/

namespace Relink

/-- **A wrapped error of the driver** is a fault of its family with the error as its cause. -/
theorem Fault.wrap_driver (kind : Failure.DriverKind) (message : String)
    (context : Entries Value) :
    ∃ fault, wrap (.raised (.driver kind) message) context =
        .reported fault (some (.raised (.driver kind) message)) ∧
      fault.kind = (match kind.family with
        | .connection => .connection
        | .operation => .query
        | .other => .store) ∧
      fault.context = context :=
  ⟨_, rfl, wrapped_driver kind message, rfl⟩

namespace Moment

/-- How the call of a moment failed, if it did. -/
def failure? : Moment → Option Failure
  | found ⟨_, _, _, .error failure⟩ => some failure
  | updated ⟨_, _, _, .error failure⟩ => some failure
  | _ => none

/-- The documents that the call of a moment met. -/
def met : Moment → List Document
  | found search => search.met
  | updated update => update.before

/-- What a job ends with if the call of a moment fails. -/
def reported (cause : Failure) : Moment → Failure
  | found search => search.request.failure cause
  | updated update => update.request.failure cause

/-- The name of the operation of a moment. -/
def operation : Moment → String
  | found _ => "find"
  | updated _ => "update_one"

/-- **An error of the driver is wrapped**, with the operation in the context. -/
theorem reported_driver (moment : Moment) (kind : Failure.DriverKind) (message : String) :
    ∃ context, moment.reported (.raised (.driver kind) message) =
        Fault.wrap (.raised (.driver kind) message) context ∧
      ("operation", .text moment.operation) ∈ context := by
  cases moment with
  | found search => exact ⟨_, rfl, List.mem_cons_self⟩
  | updated update => exact ⟨_, rfl, List.mem_cons_self⟩

/-- Any other failure is passed on as it is. -/
theorem reported_other (moment : Moment) {cause : Failure} (h : cause.isDriver = false) :
    moment.reported cause = cause := by
  cases moment <;> simp [reported, FindRequest.failure, UpdateRequest.failure, Failure.ofCall, h]

end Moment

namespace Job

variable {α β γ : Type} {schedule : Schedule} {site middle : Site}

/-- **A job stops at a failed call**: it is the last call and the last thing that is done, and what
it met is left. -/
structure StopsAt (schedule : Schedule) (job : Job α) (site : Site) (moment : Moment)
    (cause : Failure) : Prop where
  last : ∃ earlier, moments schedule job site = earlier ++ [moment] ∧
    ∀ other ∈ earlier, other.failure? = none
  trace : ∃ before, (perform schedule job site).trace = before ++ [.call moment.call]
  result : (perform schedule job site).result = .error (moment.reported cause)
  left : (perform schedule job site).site.documents = moment.met

/-- A job stops where the rest of it stops, once its first call has been answered. -/
theorem StopsAt.cons {job rest : Job α} {moment first : Moment} {cause : Failure} {event : Event}
    (h : StopsAt schedule rest middle moment cause) (hfirst : first.failure? = none)
    (hm : moments schedule job site = first :: moments schedule rest middle)
    (hp : perform schedule job site = (perform schedule rest middle).after event) :
    StopsAt schedule job site moment cause := by
  obtain ⟨⟨earlier, he, hn⟩, ⟨before, hb⟩, hr, hl⟩ := h
  refine ⟨⟨first :: earlier, by rw [hm, he]; rfl, List.forall_mem_cons.2 ⟨hfirst, hn⟩⟩,
    ⟨event :: before, ?_⟩, ?_, ?_⟩
  · rw [hp, Ending.after, hb]
    rfl
  · rw [hp]
    exact hr
  · rw [hp]
    exact hl

/-- **A call that fails is the last of its job.** -/
theorem moments_failed (job : Job α) (site : Site) {moment : Moment} {cause : Failure}
    (hm : moment ∈ moments schedule job site) (hf : moment.failure? = some cause) :
    StopsAt schedule job site moment cause := by
  induction job generalizing site with
  | done | fail => simp [moments] at hm
  | echo line next ih =>
    obtain ⟨hlast, ⟨before, hb⟩, hr, hl⟩ := ih site hm
    exact ⟨hlast, ⟨.line line :: before, congrArg _ hb⟩, hr, hl⟩
  | log record next ih =>
    obtain ⟨hlast, ⟨before, hb⟩, hr, hl⟩ := ih site hm
    exact ⟨hlast, ⟨.record record :: before, congrArg _ hb⟩, hr, hl⟩
  | find request next ih =>
    have hcall := Site.call_find schedule site request
    have hdocs := Site.documents_find schedule site request
    rcases hs : site.find schedule request with ⟨outcome, after, call⟩
    simp only [hs] at hcall hdocs
    subst hcall
    cases outcome with
    | ok documents =>
      have hmoments : moments schedule (.find request next) site =
          .found ⟨request, site.cap schedule request, site.meets schedule .find, .ok documents⟩ ::
            moments schedule (next documents) after := by simp only [moments, hs]
      have hperform : perform schedule (.find request next) site =
          (perform schedule (next documents) after).after
            (.call (.find request (site.cap schedule request))) := by simp only [perform, hs]
      rw [hmoments] at hm
      rcases List.mem_cons.1 hm with rfl | hm
      · cases hf
      · exact (ih documents after hm).cons rfl hmoments hperform
    | error failure =>
      simp only [moments, hs, List.mem_singleton] at hm
      subst hm
      obtain rfl : failure = cause := Option.some.inj hf
      refine ⟨⟨[], ?_, by simp⟩, ⟨[], ?_⟩, ?_, ?_⟩ <;> simp only [moments, perform, hs]
      · rfl
      · rfl
      · rfl
      · exact hdocs
  | update request next ih =>
    have hcarried := Site.carried_update schedule site request
    rcases hs : site.update schedule request with ⟨outcome, after⟩
    rw [hs] at hcarried
    cases outcome with
    | ok selected =>
      have hmoments : moments schedule (.update request next) site =
          .updated ⟨request, site.meets schedule .update, after.documents, .ok selected⟩ ::
            moments schedule (next selected) after := by simp only [moments, hs]
      have hperform : perform schedule (.update request next) site =
          (perform schedule (next selected) after).after (.call (.update request)) := by
        simp only [perform, hs]
      rw [hmoments] at hm
      rcases List.mem_cons.1 hm with rfl | hm
      · cases hf
      · exact (ih selected after hm).cons rfl hmoments hperform
    | error failure =>
      simp only [moments, hs, List.mem_singleton] at hm
      subst hm
      obtain rfl : failure = cause := Option.some.inj hf
      refine ⟨⟨[], ?_, by simp⟩, ⟨[], ?_⟩, ?_, ?_⟩ <;> simp only [moments, perform, hs]
      · rfl
      · rfl
      · rfl
      · -- a failed update leaves what it met
        exact hcarried

/-- **A job fails in a part of it**, which begins at a site after some events. -/
structure FailsIn (schedule : Schedule) (job : Job α) (site : Site) (before : List Event)
    (part : Job β) (middle : Site) : Prop where
  trace : (perform schedule job site).trace = before ++ (perform schedule part middle).trace
  moments : ∃ earlier, moments schedule job site = earlier ++ moments schedule part middle
  failed : ∃ failure, (perform schedule job site).result = .error failure ∧
    (perform schedule part middle).result = .error failure

namespace FailsIn

variable {job : Job α} {part : Job β} {before more : List Event} {failure : Failure}

theorem self (h : (perform schedule job site).result = .error failure) :
    FailsIn schedule job site [] job site := ⟨rfl, ⟨[], rfl⟩, failure, h, h⟩

theorem echo {line : String} (h : FailsIn schedule job site before part middle) :
    FailsIn schedule (.echo line job) site (.line line :: before) part middle :=
  ⟨congrArg (List.cons _) h.trace, h.moments, h.failed⟩

/-- The first of two jobs fails, and the second is not done. -/
theorem first {f : α → Job γ} (h : FailsIn schedule job site before part middle) :
    FailsIn schedule (job.bind f) site before part middle := by
  obtain ⟨ht, ⟨earlier, hm⟩, failure, hf, hp⟩ := h
  refine ⟨?_, ⟨earlier, ?_⟩, failure, ?_, hp⟩
  · rw [perform_bind, Ending.andThen, hf, ht]
  · rw [moments_bind, hf, hm, List.append_nil]
  · rw [perform_bind, Ending.andThen, hf]

/-- The second of two jobs fails. -/
theorem second {t : Job γ} {f : γ → Job α} {a : γ} (ha : (perform schedule t site).result = .ok a)
    (h : FailsIn schedule (f a) (perform schedule t site).site before part middle) :
    FailsIn schedule (t.bind f) site ((perform schedule t site).trace ++ before) part middle := by
  obtain ⟨ht, ⟨earlier, hm⟩, failure, hf, hp⟩ := h
  refine ⟨?_, ⟨Job.moments schedule t site ++ earlier, ?_⟩, failure, ?_, hp⟩
  · rw [perform_bind, Ending.andThen, ha]
    simp only [ht, List.append_assoc]
  · rw [moments_bind, ha]
    simp only [hm, List.append_assoc]
  · rw [perform_bind, Ending.andThen, ha]
    exact hf

theorem trans {inner : Job γ} {last : Site} (h : FailsIn schedule job site before part middle)
    (h' : FailsIn schedule part middle more inner last) :
    FailsIn schedule job site (before ++ more) inner last := by
  obtain ⟨ht, ⟨xs, hx⟩, failure, hf, hp⟩ := h
  obtain ⟨ht', ⟨ys, hy⟩, failure', hf', hp'⟩ := h'
  obtain rfl : failure = failure' := Except.error.inj (hp.symm.trans hf')
  refine ⟨?_, ⟨xs ++ ys, ?_⟩, failure, hf, hp'⟩
  · rw [ht, ht', List.append_assoc]
  · rw [hx, hy, List.append_assoc]

/-- **The last call of a job is in the part in which it fails**, if that makes a call. -/
theorem mem_moments (h : FailsIn schedule job site before part middle) {earlier : List Moment}
    {moment : Moment} (hlast : Job.moments schedule job site = earlier ++ [moment])
    (hne : Job.moments schedule part middle ≠ []) : moment ∈ Job.moments schedule part middle := by
  obtain ⟨rest, hm⟩ := h.moments
  have hsame := congrArg List.getLast? (hlast.symm.trans hm)
  rw [List.getLast?_concat, List.getLast?_append_of_ne_nil _ hne] at hsame
  exact List.mem_of_getLast? hsame.symm

end FailsIn

/-- One job after another fails in the first or in the second. -/
theorem failed_bind {t : Job α} {f : α → Job β} {failure : Failure}
    (h : (perform schedule (t.bind f) site).result = .error failure) :
    (perform schedule t site).result = .error failure ∨
      ∃ a, (perform schedule t site).result = .ok a ∧
        (perform schedule (f a) (perform schedule t site).site).result = .error failure := by
  rw [perform_bind, Ending.andThen] at h
  cases hr : (perform schedule t site).result with
  | error other =>
    rw [hr] at h
    exact Or.inl (by simpa using h)
  | ok a =>
    rw [hr] at h
    exact Or.inr ⟨a, rfl, h⟩

end Job

namespace Fix

open Job

variable {plan : Plan} {rule : Rule} {rules : List Rule} {format : String} {schedule : Schedule}
  {site : Site} {failure : Failure}

theorem fixRules_failsIn
    (h : (perform schedule (fixRules plan format rules) site).result = .error failure) :
    ∃ rule ∈ rules, ∃ before middle,
      FailsIn schedule (fixRules plan format rules) site before (fixRule plan format rule)
        middle := by
  induction rules generalizing site with
  | nil => cases h
  | cons rule rest ih =>
    rw [fixRules_cons] at h ⊢
    rcases failed_bind h with hone | ⟨result, hone, h⟩
    · exact ⟨rule, List.mem_cons_self, _, _, (FailsIn.self hone).first⟩
    · rcases failed_bind h with hrest | ⟨_, _, h⟩
      · obtain ⟨other, hm, before, middle, hin⟩ := ih hrest
        exact ⟨other, List.mem_cons_of_mem _ hm, _, _, .second hone hin.first⟩
      · cases h

/-- **The work on the formats fails in a batch.** -/
theorem fixFormats_failsIn {formats : List String}
    (h : (perform schedule (fixFormats plan rules formats) site).result = .error failure) :
    ∃ format ∈ formats, ∃ rule ∈ rules, ∃ before middle,
      FailsIn schedule (fixFormats plan rules formats) site before (fixRule plan format rule)
        middle := by
  induction formats generalizing site with
  | nil => cases h
  | cons format rest ih =>
    rw [fixFormats_cons] at h ⊢
    rcases failed_bind h with hone | ⟨results, hone, h⟩
    · obtain ⟨rule, hm, before, middle, hin⟩ := fixRules_failsIn hone
      exact ⟨format, List.mem_cons_self, rule, hm, _, _, hin.first.echo⟩
    · rcases failed_bind h with hrest | ⟨_, _, h⟩
      · obtain ⟨other, hf, rule, hm, before, middle, hin⟩ := ih hrest
        exact ⟨other, List.mem_cons_of_mem _ hf, rule, hm, _, _,
          FailsIn.echo (.second hone hin.first)⟩
      · cases h

/-- A pass fails while it works on its formats. -/
theorem fixAll_failsIn (h : (perform schedule (fixAll plan rules) site).result = .error failure) :
    FailsIn schedule (fixAll plan rules) site [] (fixFormats plan rules plan.formats) site := by
  rcases failed_bind h with hformats | ⟨_, _, h⟩
  · exact (FailsIn.self hformats).first
  · cases h

/-- **Passes that are complete**, from one site to another, and what they leave behind. -/
inductive Passes (schedule : Schedule) (plan : Plan) (rules : List Rule) :
    Site → List Event → Site → Prop
  | none (site : Site) : Passes schedule plan rules site [] site
  | more {site last : Site} {events : List Event} {report : Report}
    (hr : (perform schedule (fixAll plan rules) site).result = .ok report)
    (h : Passes schedule plan rules (perform schedule (fixAll plan rules) site).site events last) :
    Passes schedule plan rules site ((perform schedule (fixAll plan rules) site).trace ++ events)
      last

theorem repeatPasses_failsIn {left : Nat} {total : Report}
    (h : (perform schedule (repeatPasses plan rules left total) site).result = .error failure) :
    ∃ before middle, Passes schedule plan rules site before middle ∧
      FailsIn schedule (repeatPasses plan rules left total) site before (fixAll plan rules)
        middle := by
  induction left generalizing total site with
  | zero => cases h
  | succ left ih =>
    rw [repeatPasses_succ] at h ⊢
    rcases failed_bind h with hone | ⟨report, hone, h⟩
    · exact ⟨[], site, .none site, (FailsIn.self hone).first⟩
    · split at h
      · cases h
      · next hmore =>
        obtain ⟨before, middle, hpasses, hin⟩ := ih h
        refine ⟨_, middle, .more hone hpasses, .second hone ?_⟩
        rw [if_neg hmore]
        exact hin

/-- **A run fails in a pass**, after some that are complete. -/
theorem run_failsIn (h : (perform schedule (run plan rules) site).result = .error failure) :
    ∃ before middle, Passes schedule plan rules site before middle ∧
      FailsIn schedule (run plan rules) site before (fixAll plan rules) middle := by
  unfold run at h ⊢
  split at h
  · next hrepeated =>
    rw [if_pos hrepeated]
    rcases failed_bind h with hpasses | ⟨total, _, h⟩
    · obtain ⟨before, middle, hp, hin⟩ := repeatPasses_failsIn hpasses
      exact ⟨before, middle, hp, hin.first⟩
    · split at h
      · cases h
      · cases h
  · next hrepeated =>
    rw [if_neg hrepeated]
    exact ⟨[], site, .none site, FailsIn.self h⟩

/-- A line tells the count of a pass. -/
def TellsCount (line : String) : Prop := "count_done: ".toList <+: line.toList

theorem not_tellsCount {line : String} (h : line.toList.head? ≠ some 'c') : ¬ TellsCount line := by
  rintro ⟨rest, hr⟩
  rw [← hr] at h
  exact h rfl

/-- What is done before the count of a pass is told. -/
def Uncounted : Event → Prop
  | .line text => ¬ TellsCount text
  | _ => True

theorem fixDocument_uncounted (plan : Plan) (rule : Rule) (result : RuleResult)
    (document : Document) :
    (fixDocument plan rule result document).Does Uncounted fun _ => True := by
  have hline : ∀ request, ¬ TellsCount (Audit.line request) := by
    intro request
    apply not_tellsCount
    have h := Audit.isLine_line request
    simp_all [Audit.isLine]
  rw [fixDocument_eq]
  split
  · trivial
  · trivial
  · split
    · exact ⟨trivial, trivial⟩
    · cases hd : plan.dryRun with
      | true =>
        rw [replaceLink_dryRun hd]
        exact ⟨hline _, trivial⟩
      | false =>
        rw [replaceLink_live hd]
        refine ⟨hline _, trivial, fun selected => ?_⟩
        cases selected with
        | true => trivial
        | false => exact ⟨trivial, trivial⟩

theorem fixFormats_uncounted (plan : Plan) (rules : List Rule) (formats : List String) :
    (fixFormats plan rules formats).Does Uncounted fun _ => True := by
  refine fixFormats_of_documents (Does.composes fun _ _ => trivial) (fun format _ h => ⟨?_, h⟩)
    (fixDocument_uncounted plan) rules formats
  apply not_tellsCount
  simp [String.toList_append]

/-- **A pass that fails tells no count.** -/
theorem fixAll_uncounted (h : (perform schedule (fixAll plan rules) site).result = .error failure) :
    ∀ line ∈ Event.lines (perform schedule (fixAll plan rules) site).trace, ¬ TellsCount line := by
  intro line hm
  rw [(fixAll_failsIn h).trace, List.nil_append] at hm
  obtain ⟨event, he, hl⟩ := List.mem_filterMap.1 hm
  have hdone := (perform_of_does (fixFormats_uncounted plan rules plan.formats) site).1 event he
  cases event with
  | line text =>
    cases hl
    exact hdone
  | _ => cases hl

/-- A batch makes a call. -/
theorem moments_fixRule_ne_nil (plan : Plan) (format : String) (rule : Rule) (site : Site) :
    moments schedule (fixRule plan format rule) site ≠ [] := by
  rw [fixRule_eq, moments]
  split <;> simp

/-- **A batch whose find fails** consists of the find. -/
theorem fixRule_find_failed {search : Search} {cause : Failure}
    (hm : .found search ∈ moments schedule (fixRule plan format rule) site)
    (hf : (Moment.found search).failure? = some cause) :
    (perform schedule (fixRule plan format rule) site).trace =
      [.call (Moment.found search).call] := by
  have hcall := Site.call_find schedule site (batch plan rule format)
  rw [fixRule_eq] at hm ⊢
  rcases hs : site.find schedule (batch plan rule format) with ⟨outcome, after, call⟩
  simp only [hs] at hcall
  cases outcome with
  | error failure =>
    simp only [moments, hs, List.mem_singleton] at hm
    cases hm
    simp only [perform, hs, hcall, Moment.call]
  | ok documents =>
    simp only [moments, hs] at hm
    rcases List.mem_cons.1 hm with he | hm
    · cases he
      cases hf
    · -- the rest of the batch finds nothing more
      obtain ⟨hsound, -⟩ := moments_sound (fun _ => True) (fun _ _ _ _ _ _ => trivial)
        (fun _ _ _ _ => trivial) (fixDocuments_does plan rule _ fun _ h => h) trivial
      exact (hsound _ hm).1.elim

/-- **What is true of a run with a failed call.** -/
structure Stopped (plan : Plan) (rules : List Rule) (schedule : Schedule) (site : Site)
    (moment : Moment) (cause : Failure) : Prop where
  /-- The call is the last one, and what it met is left. -/
  stops : StopsAt schedule (run plan rules) site moment cause
  /-- Without other writers this is what the updates before have made of the collection. -/
  replayed : (∀ kind n, (schedule kind n).edits = []) → moment.met =
    Collection.replay ((moments schedule (run plan rules) site).filterMap Moment.answered?)
      site.documents
  /-- The run fails in a pass, which tells no count, after some that are complete. -/
  pass : ∃ before middle, Passes schedule plan rules site before middle ∧
    (perform schedule (run plan rules) site).trace =
      before ++ (perform schedule (fixAll plan rules) middle).trace ∧
    ∀ line ∈ Event.lines (perform schedule (fixAll plan rules) middle).trace, ¬ TellsCount line
  /-- It fails in a batch of the pass, which consists of the find if the find fails. -/
  batch : ∃ format ∈ plan.formats, ∃ rule ∈ rules, ∃ before middle,
    (perform schedule (run plan rules) site).trace =
      before ++ (perform schedule (fixRule plan format rule) middle).trace ∧
    ∀ search, moment = .found search →
      (perform schedule (fixRule plan format rule) middle).trace = [.call moment.call]

/-- **A failed call stops the run.** -/
theorem run_stopped {moment : Moment} {cause : Failure}
    (hm : moment ∈ moments schedule (run plan rules) site) (hf : moment.failure? = some cause) :
    Stopped plan rules schedule site moment cause := by
  have hstops := moments_failed (run plan rules) site hm hf
  obtain ⟨before, middle, hpasses, hpass⟩ := run_failsIn hstops.result
  obtain ⟨failure, _, hfailed⟩ := hpass.failed
  have hformats := fixAll_failsIn hfailed
  obtain ⟨_, _, hfailed'⟩ := hformats.failed
  obtain ⟨format, hformat, rule, hrule, events, start, hbatch⟩ := fixFormats_failsIn hfailed'
  have hinner := hpass.trans (hformats.trans hbatch)
  refine ⟨hstops, ?_, ⟨before, middle, hpasses, hpass.trace, fixAll_uncounted hfailed⟩,
    format, hformat, rule, hrule, _, start, hinner.trace, ?_⟩
  · intro hq
    rw [← hstops.left]
    exact (follow_moments _ site).replay hq (carried_moments _ site)
  · rintro search rfl
    obtain ⟨earlier, hlast, -⟩ := hstops.last
    have hmem := hinner.mem_moments hlast (moments_fixRule_ne_nil plan format rule start)
    exact fixRule_find_failed hmem hf

end Fix

end Relink
