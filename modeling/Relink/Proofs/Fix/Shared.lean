import Mathlib.Algebra.BigOperators.Group.Finset.Piecewise
import Relink.Proofs.Fix.Conservation
import Relink.Proofs.Fix.Tally
import Relink.Proofs.Fix.Trail

/-!
# Fixers that share a collection

Several fixers work on one collection at once. They take turns in any order, one step of one fixer
at a time, and a step makes at most one call. A fixer may hold a batch that has long been rewritten
by another; its updates are then lost, and no link is counted twice.

* `Job.step`, `Shared.play`: one step of a job, and the turns of several.
* `exists_play_alone`: a fixer whose turns are not interrupted performs its job.
* `staleness_updateFirst`: what one update takes away from the staleness.
* `Accounted.turn`: a turn keeps the accounts.
* `fixers_count_once`: the accounts after any turns.
-/

namespace Relink

namespace Job

variable {α : Type}

/-- **One step of a job**: what is left of it, the site afterwards, and the update if the step is
one. A job that has ended takes no step. -/
def step (schedule : Schedule) : Job α → Site → Job α × Site × List Update
  | done result, site => (done result, site, [])
  | fail failure, site => (fail failure, site, [])
  | echo _ next, site => (next, site, [])
  | log _ next, site => (next, site, [])
  | find request next, site =>
    match site.find schedule request with
    | (.ok documents, after, _) => (next documents, after, [])
    | (.error failure, after, _) => (fail (request.failure failure), after, [])
  | update request next, site =>
    let made := fun outcome after => ⟨request, site.meets schedule .update, after, outcome⟩
    match site.update schedule request with
    | (.ok selected, after) => (next selected, after, [made (.ok selected) after.documents])
    | (.error failure, after) =>
      (fail (request.failure failure), after, [made (.error failure) after.documents])

/-- A job that has ended. -/
def ended : Except Failure α → Job α
  | .ok result => done result
  | .error failure => fail failure

/-- **What a job has counted** so far: whichever way it goes on, its report counts so much more than
what the rest of its updates changes, and what the rest of them loses. -/
def HasCounted (job : Job Report) (changed conflicts : Nat) : Prop :=
  job.Accounts (fun _ => True) fun report rest =>
    report.changed = ((changed + rest.countP Update.effective : Nat) : Int) ∧
      report.conflicts = ((conflicts + rest.countP Update.lost : Nat) : Int)

end Job

/-- Fixers that share a collection: what is left of the job of each, the collection, and the updates
that each has made so far. -/
structure Shared (ι : Type) where
  jobs : ι → Job Report
  site : Site
  made : ι → List Update

namespace Shared

variable {ι : Type} [DecidableEq ι]

/-- The fixers at the start, each with a plan of its own. -/
def start (plans : ι → Plan) (site : Site) : Shared ι where
  jobs := fun i => Fix.run (plans i) Defaults.rules
  site := site
  made := fun _ => []

/-- **A turn** of one fixer: the next step of its job. -/
def turn (schedule : Schedule) (state : Shared ι) (i : ι) : Shared ι where
  jobs := Function.update state.jobs i ((state.jobs i).step schedule state.site).1
  site := ((state.jobs i).step schedule state.site).2.1
  made := Function.update state.made i
    (state.made i ++ ((state.jobs i).step schedule state.site).2.2)

/-- **The fixers after some turns**, in order. -/
def play (schedule : Schedule) (turns : List ι) (state : Shared ι) : Shared ι :=
  turns.foldl (turn schedule) state

/-- **A fixer whose turns are not interrupted** performs its job: after enough of them its job has
ended as it ends when it is performed, the site is left in the same way, and the fixer has made the
same updates. -/
theorem exists_play_alone (schedule : Schedule) (i : ι) (state : Shared ι) :
    ∃ n, (play schedule (List.replicate n i) state).jobs i =
        Job.ended (Job.perform schedule (state.jobs i) state.site).result ∧
      (play schedule (List.replicate n i) state).site =
        (Job.perform schedule (state.jobs i) state.site).site ∧
      (play schedule (List.replicate n i) state).made i = state.made i ++
        (Job.moments schedule (state.jobs i) state.site).filterMap Moment.update? := by
  -- one turn takes the first step, and the rest of the job is played from there
  have hturn : ∀ (state : Shared ι) (n : Nat),
      play schedule (List.replicate (n + 1) i) state =
        play schedule (List.replicate n i) (state.turn schedule i) := fun _ _ => rfl
  generalize hjob : state.jobs i = job
  induction job generalizing state with
  | done result => exact ⟨0, hjob, rfl, by simp [play, Job.moments]⟩
  | fail failure => exact ⟨0, hjob, rfl, by simp [play, Job.moments]⟩
  | echo line next ih =>
    obtain ⟨n, hn⟩ := ih (state.turn schedule i) (by simp [turn, hjob, Job.step])
    refine ⟨n + 1, ?_⟩
    rw [hturn]
    simpa [turn, hjob, Job.step, Job.perform, Job.moments, Job.Ending.after] using hn
  | log record next ih =>
    obtain ⟨n, hn⟩ := ih (state.turn schedule i) (by simp [turn, hjob, Job.step])
    refine ⟨n + 1, ?_⟩
    rw [hturn]
    simpa [turn, hjob, Job.step, Job.perform, Job.moments, Job.Ending.after] using hn
  | find request next ih =>
    rcases hf : state.site.find schedule request with ⟨outcome, after, call⟩
    cases outcome with
    | ok documents =>
      obtain ⟨n, hn⟩ := ih documents (state.turn schedule i) (by simp [turn, hjob, Job.step, hf])
      refine ⟨n + 1, ?_⟩
      rw [hturn]
      simpa [turn, hjob, Job.step, hf, Job.perform, Job.moments, Job.Ending.after,
        Moment.update?, List.filterMap_cons] using hn
    | error failure =>
      refine ⟨1, ?_⟩
      simp [play, turn, hjob, Job.step, hf, Job.perform, Job.moments, Moment.update?, Job.ended]
  | update request next ih =>
    rcases hf : state.site.update schedule request with ⟨outcome, after⟩
    cases outcome with
    | ok selected =>
      obtain ⟨n, hn⟩ := ih selected (state.turn schedule i) (by simp [turn, hjob, Job.step, hf])
      refine ⟨n + 1, ?_⟩
      rw [hturn]
      simpa [turn, hjob, Job.step, hf, Job.perform, Job.moments, Job.Ending.after,
        Moment.update?] using hn
    | error failure =>
      refine ⟨1, ?_⟩
      simp [play, turn, hjob, Job.step, hf, Job.perform, Job.moments, Moment.update?, Job.ended]

end Shared

namespace Fix

variable {formats : List String} {rule : Rule} {format s : String} {id : Value}
  {document : Document} {documents : List Document} {schedule : Schedule}

/-- Where no list is met, the filter of an update selects only documents with the expected text. -/
theorem text?_of_expecting (hf : '.' ∉ format.toList)
    (hn : Value.NoList (rule.way format) (.map document))
    (h : (Filter.expecting id (rule.path format) s).holds document = true) :
    rule.text? format document = some s := by
  rw [Filter.expecting_eq (Rule.path_ne_id hf)] at h
  obtain ⟨w, hw, hmet⟩ : ∃ w ∈ document.candidates (rule.path format),
      (Condition.equals (.text s)).metBy w = true := by
    simp only [Filter.holds, List.all_cons, List.all_nil, Bool.and_true, Bool.and_eq_true,
      List.any_eq_true] at h
    exact h.2
  rw [Rule.candidates_path hf, hn.direct.candidates_eq, Option.mem_toList] at hw
  rcases Condition.metBy_text.1 hmet with rfl | ⟨items, rfl, -⟩
  · exact Rule.text?_eq_some.2 hw
  · exact absurd rfl (hn.ne_list hw items)

/-- **What one update takes away**: one position if it selects a document and changes its text, and
nothing otherwise. -/
theorem staleness_updateFirst (hn : formats.Nodup) (hdots : ∀ format ∈ formats, '.' ∉ format.toList)
    {request : UpdateRequest} (hr : Rewrites formats Defaults.rules request)
    (h : Tidy (stages formats Defaults.rules) documents) {selected : Bool} {after : List Document}
    (hu : Collection.updateFirst request.filter request.path (.text request.new) documents =
      (selected, after)) :
    Tidy (stages formats Defaults.rules) after ∧
      staleness (stages formats Defaults.rules) after +
          (if selected && request.new != request.old then 1 else 0) =
        staleness (stages formats Defaults.rules) documents := by
  obtain ⟨format, hf, rule, hrule, hpath, hnew⟩ := hr
  rcases Collection.updateFirst_cases request.filter request.path (.text request.new) documents with
    ⟨-, hnone⟩ | ⟨front, document, back, rfl, hholds, hsome⟩
  · obtain ⟨rfl, rfl⟩ := Prod.mk.inj (hnone.symm.trans hu)
    exact ⟨h, rfl⟩
  · obtain ⟨rfl, rfl⟩ := Prod.mk.inj (hsome.symm.trans hu)
    have hdot := hdots format hf
    -- the document selected still holds the text that was read, so its link is rewritten
    have hs : rule.text? format document = some request.old := by
      rw [UpdateRequest.filter, hpath] at hholds
      exact text?_of_expecting hdot (h.noList (format, rule) (mem_stages.2 ⟨hf, hrule⟩) document
        (by simp)) hholds
    have hassign : document.assign (.text request.new) request.path =
        rule.relink format document := by
      rw [Rule.relink_of_text hs, hpath, hnew]
    rw [hassign]
    refine ⟨⟨h.keyed.of_sublist (by simp [Rule.id?_relink hdot]), fun stage hstage => ?_⟩, ?_⟩
    · have hall := h.noList stage hstage
      simp only [List.forall_mem_append, List.forall_mem_cons] at hall ⊢
      exact ⟨hall.1, Rule.noList_relink hdot hall.2.1, hall.2.2⟩
    · have hone := stale_sum_relink hn hf hrule hdot hs
      rw [hnew, Bool.true_and]
      simp only [staleness, List.map_append, List.map_cons, List.sum_append, List.sum_cons]
      omega

/-- **One step of a fixer**, without other writers: its job goes on to account for its updates, and
the staleness loses what the update of the step changes, if there is one. -/
theorem step_accounts (hn : formats.Nodup) (hdots : ∀ format ∈ formats, '.' ∉ format.toList)
    (hq : ∀ kind n, (schedule kind n).edits = []) {α : Type} {job : Job α}
    {R : α → List Update → Prop} (hjob : job.Accounts (Rewrites formats Defaults.rules) R)
    (site : Site) (h : Tidy (stages formats Defaults.rules) site.documents) :
    (job.step schedule site).1.Accounts (Rewrites formats Defaults.rules)
        (fun a rest => R a ((job.step schedule site).2.2 ++ rest)) ∧
      Tidy (stages formats Defaults.rules) (job.step schedule site).2.1.documents ∧
      staleness (stages formats Defaults.rules) (job.step schedule site).2.1.documents +
          (job.step schedule site).2.2.countP Update.effective =
        staleness (stages formats Defaults.rules) site.documents ∧
      ∀ update ∈ (job.step schedule site).2.2, update.lost = true →
        update.after = update.before := by
  have hmeets := Site.meets_of_no_edits hq site
  cases job with
  | done result => exact ⟨hjob, h, rfl, by simp [Job.step]⟩
  | fail failure => exact ⟨trivial, h, rfl, by simp [Job.step]⟩
  | echo line next => exact ⟨hjob, h, rfl, by simp [Job.step]⟩
  | log record next => exact ⟨hjob, h, rfl, by simp [Job.step]⟩
  | find request next =>
    have hsame := Site.documents_find schedule site request
    rw [hmeets] at hsame
    rcases hf : site.find schedule request with ⟨outcome, after, call⟩
    rw [hf] at hsame
    simp only at hsame
    rw [← hsame] at h ⊢
    cases outcome with
    | ok documents =>
      simp only [Job.step, hf]
      exact ⟨hjob documents, h, rfl, by simp⟩
    | error failure =>
      simp only [Job.step, hf]
      exact ⟨trivial, h, rfl, by simp⟩
  | update request next =>
    have hcarried := Site.carried_update schedule site request
    rw [hmeets] at hcarried
    rcases hf : site.update schedule request with ⟨outcome, after⟩
    rw [hf] at hcarried
    cases outcome with
    | ok selected =>
      have hu : Collection.updateFirst request.filter request.path (.text request.new)
        site.documents = (selected, after.documents) := hcarried
      obtain ⟨htidy, hdrop⟩ := staleness_updateFirst hn hdots hjob.1 h hu
      simp only [Job.step, hf, hmeets]
      refine ⟨hjob.2 site.documents after.documents selected, htidy, ?_, ?_⟩
      · rw [List.countP_singleton]
        exact hdrop
      · intro update hm hlost
        rw [List.mem_singleton.1 hm] at hlost ⊢
        obtain rfl : selected = false := by simpa [Update.lost] using hlost
        have hnone := Collection.updateFirst_none (congrArg Prod.fst hu)
        rw [hu] at hnone
        exact hnone
    | error failure =>
      -- a failed update leaves what it met
      have hleft : after.documents = site.documents := hcarried
      simp only [Job.step, hf, hmeets, hleft]
      refine ⟨trivial, h, rfl, ?_⟩
      intro update hm hlost
      rw [List.mem_singleton.1 hm] at hlost
      cases hlost

end Fix

namespace Shared

open Relink.Fix

variable {ι : Type} [Fintype ι] {formats : List String} {documents : List Document}
  {schedule : Schedule}

/-- **The accounts of fixers that share a collection**, since it held some documents. -/
structure Accounted (formats : List String) (documents : List Document) (now : Shared ι) :
    Prop where
  tidy : Tidy (stages formats Defaults.rules) now.site.documents
  /-- What the staleness has lost, the updates of all fixers together have changed. -/
  drop : staleness (stages formats Defaults.rules) now.site.documents +
      ∑ i, (now.made i).countP Update.effective =
    staleness (stages formats Defaults.rules) documents
  accounts : ∀ i, (now.jobs i).Accounts (Rewrites formats Defaults.rules)
    fun report rest => Tallies report.results (now.made i ++ rest)
  /-- An update that was lost has changed nothing. -/
  kept : ∀ i, ∀ update ∈ now.made i, update.lost = true → update.after = update.before

/-- **Each link is counted once** by fixers that share a collection, since it held some
documents. -/
structure CountedOnce (formats : List String) (documents : List Document) (now : Shared ι) :
    Prop where
  /-- What the staleness has lost is what all fixers together have changed. -/
  drop : staleness (stages formats Defaults.rules) now.site.documents +
      ∑ i, (now.made i).countP Update.effective =
    staleness (stages formats Defaults.rules) documents
  /-- What a fixer has changed and lost is what it has counted so far. -/
  counted : ∀ i, (now.jobs i).HasCounted ((now.made i).countP Update.effective)
    ((now.made i).countP Update.lost)
  /-- A fixer that has ended reports what it has counted. -/
  reported : ∀ i report, now.jobs i = .done report →
    report.changed = (now.made i).countP Update.effective ∧
      report.conflicts = (now.made i).countP Update.lost
  /-- An update that is counted as a conflict has changed nothing. -/
  kept : ∀ i, ∀ update ∈ now.made i, update.lost = true → update.after = update.before

theorem Accounted.countedOnce {state : Shared ι} (h : Accounted formats documents state) :
    CountedOnce formats documents state := by
  have hcounted : ∀ i, (state.jobs i).HasCounted ((state.made i).countP Update.effective)
      ((state.made i).countP Update.lost) := by
    intro i
    refine (h.accounts i).mono (fun _ _ => trivial) fun report rest htally => ⟨?_, ?_⟩
    · rw [← List.countP_append]
      exact htally.changed
    · rw [← List.countP_append]
      exact htally.conflicts
  refine ⟨h.drop, hcounted, fun i report hdone => ?_, h.kept⟩
  have hreport := hcounted i
  rw [hdone] at hreport
  exact hreport

variable [DecidableEq ι]

theorem sum_countP_update (made : ι → List Update) (i : ι) (more : List Update)
    (p : Update → Bool) :
    ∑ j, (Function.update made i (made i ++ more) j).countP p =
      ∑ j, (made j).countP p + more.countP p := by
  have hone : ∀ j, (Function.update made i (made i ++ more) j).countP p =
      (made j).countP p + if j = i then more.countP p else 0 := by
    intro j
    by_cases hj : j = i
    · subst hj
      simp
    · simp [hj]
  simp only [hone, Finset.sum_add_distrib, Finset.sum_ite_eq', Finset.mem_univ, if_true]

/-- **A turn keeps the accounts.** -/
theorem Accounted.turn {state : Shared ι} (h : Accounted formats documents state)
    (hn : formats.Nodup) (hdots : ∀ format ∈ formats, '.' ∉ format.toList)
    (hq : ∀ kind n, (schedule kind n).edits = []) (i : ι) :
    Accounted formats documents (state.turn schedule i) := by
  obtain ⟨hjob, htidy, hdrop, hkept⟩ := step_accounts hn hdots hq (h.accounts i) state.site h.tidy
  refine ⟨htidy, ?_, fun j => ?_, fun j => ?_⟩
  · have hbefore := h.drop
    simp only [Shared.turn, sum_countP_update]
    omega
  · by_cases hj : j = i
    · subst hj
      simpa [Shared.turn, List.append_assoc] using hjob
    · simpa [Shared.turn, hj] using h.accounts j
  · by_cases hj : j = i
    · subst hj
      simp only [Shared.turn, Function.update_self, List.forall_mem_append]
      exact ⟨h.kept j, hkept⟩
    · simpa [Shared.turn, hj] using h.kept j

/-- **Any turns keep the accounts** of fixers whose plans are accepted. -/
theorem Accounted.play {state : Shared ι} (h : Accounted formats documents state)
    {plans : ι → Plan} (hp : ∀ i, (plans i).Accepted) (hformats : ∀ i, (plans i).formats = formats)
    (hq : ∀ kind n, (schedule kind n).edits = []) (turns : List ι) :
    Accounted formats documents (state.play schedule turns) := by
  induction turns generalizing state with
  | nil => exact h
  | cons i rest ih =>
    have hn : formats.Nodup := hformats i ▸ (hp i).nodup
    have hdots : ∀ format ∈ formats, '.' ∉ format.toList := hformats i ▸ (hp i).no_dot
    exact ih (h.turn hn hdots hq i)

/-- **Fixers count each link once.** Some live fixers share a tidy collection, for the same formats
and each with a limit of its own. There is no other writer, and they take their turns in any order.
At every moment what the staleness has lost since the start is what all of them together have
counted as changed so far, and what is counted as a conflict has changed nothing. -/
theorem fixers_count_once {plans : ι → Plan} (hp : ∀ i, (plans i).Accepted)
    (hlive : ∀ i, (plans i).dryRun = false) (hformats : ∀ i, (plans i).formats = formats)
    (hq : ∀ kind n, (schedule kind n).edits = []) (site : Site)
    (h : Tidy (stages formats Defaults.rules) site.documents) (turns : List ι) :
    CountedOnce formats site.documents ((start plans site).play schedule turns) := by
  have hstart : Accounted formats site.documents (start plans site) := by
    refine ⟨h, by simp [start], fun i => ?_, by simp [start]⟩
    have haccounts := run_accounts (hlive i) Defaults.rules
    rw [hformats i] at haccounts
    exact haccounts
  exact (hstart.play hp hformats hq turns).countedOnce

/-- Two fixers have read the same two links. The first rewrites one of them before the second comes
to it. -/
def racing : Shared Bool :=
  (start (fun first => .trial "csv" (if first then 1 else 2) 1) twoStale).play .quiet
    [true, true, false, false, true, true, false, false]

/-- The second fixer counts a conflict, and the link only once. -/
theorem fixers_count_once_racing :
    CountedOnce ["csv"] twoStale.documents racing ∧
      (racing.made true).countP Update.effective = 1 ∧
      (racing.made false).countP Update.lost = 1 := by
  have hp : ∀ first : Bool, (Plan.trial "csv" (if first then 1 else 2) 1).Accepted := by
    intro first
    cases first with
    | true => exact Plan.accepted_trial rfl (by decide) (by decide)
    | false => exact Plan.accepted_trial rfl (by decide) (by decide)
  exact ⟨fixers_count_once hp (fun _ => rfl) (fun _ => rfl) (fun _ _ => rfl) twoStale
    ⟨Collection.keyed_linked _ _ _, fun stage _ => Collection.noList_linked stage.2 stage.1⟩ _,
    by decide +kernel, by decide +kernel⟩

end Shared

end Relink
