import Relink.Fix.Job

/-!
# The calls of a job as they went

What performing a job leaves behind names its calls only. Here each call is kept together with the
documents that it met and, for an update, those that it left.

* `calls_trace`: the calls that a job leaves behind are those of its moments.
* `follow_moments`: between its calls a job leaves the documents to other writers.
* `moments_bind`: the moments of one job after another.
* `perform_of_does`: what holds of all that a job can do holds of what it leaves behind.
* `moments_sound`: an invariant of the documents that other writers keep, and that every update
  which the job can ask for keeps, holds at each of its calls and at the end.
-/

namespace Relink

/-- An update as it went: what was asked for, the documents just before and just after, and whether
a document was selected, or how the call failed. -/
structure Update where
  request : UpdateRequest
  before : List Document
  after : List Document
  outcome : Except Failure Bool

/-- A find as it went: what was asked for, the cap on the cursor if there was one, the documents
that were searched, and those that were found, or how the call failed. -/
structure Search where
  request : FindRequest
  cap : Option Int
  met : List Document
  outcome : Except Failure (List Document)

/-- A call as it went. -/
inductive Moment where
  | found (search : Search)
  | updated (update : Update)

/-- The call of a moment. -/
def Moment.call : Moment → Call
  | found search => .find search.request search.cap
  | updated update => .update update.request

/-- The update of a moment, if it is one. -/
def Moment.update? : Moment → Option Update
  | found _ => none
  | updated update => some update

theorem Moment.update?_eq_some {moment : Moment} {u : Update} :
    moment.update? = some u ↔ moment = .updated u := by
  cases moment <;> simp [update?]

/-- The find of a moment, if it is one. -/
def Moment.search? : Moment → Option Search
  | found search => some search
  | updated _ => none

theorem Moment.search?_eq_some {moment : Moment} {s : Search} :
    moment.search? = some s ↔ moment = .found s := by
  cases moment <;> simp [search?]

/-- **An update was carried out**, or failed and changed nothing. -/
def Update.Carried (update : Update) : Prop :=
  match update.outcome with
  | .ok selected =>
    Collection.updateFirst update.request.filter update.request.path (.text update.request.new)
      update.before = (selected, update.after)
  | .error _ => update.after = update.before

/-- What carrying an update out keeps of the documents holds after it, if it held before. -/
theorem Update.Carried.induct {I : List Document → Prop} {update : Update} (hc : update.Carried)
    (hI : ∀ documents, I documents → I (Collection.updateFirst update.request.filter
      update.request.path (.text update.request.new) documents).2)
    (hb : I update.before) : I update.after := by
  unfold Carried at hc
  split at hc
  · have := hI _ hb
    rwa [hc] at this
  · rwa [hc]

namespace Site

variable {schedule : Schedule} {site : Site}

/-- The documents that the next call of a kind meets, after what other writers do before it. -/
def meets (schedule : Schedule) (site : Site) : CallKind → List Document
  | .find => (site.edited (schedule .find site.finds).edits).documents
  | .update => (site.edited (schedule .update site.updates).edits).documents

/-- The cap on the cursor of the next find, none if the find is refused. -/
def cap (schedule : Schedule) (request : FindRequest) (site : Site) : Option Int :=
  match (schedule .find site.finds).course with
  | .refused _ => none
  | _ => request.cap

theorem call_find (schedule : Schedule) (site : Site) (request : FindRequest) :
    (site.find schedule request).2.2 = .find request (site.cap schedule request) := by
  unfold find cap
  simp only
  split <;> simp_all

theorem site_find (schedule : Schedule) (site : Site) (request : FindRequest) :
    (site.find schedule request).2.1 =
      ⟨site.meets schedule .find, site.finds + 1, site.updates⟩ := by
  unfold find
  simp only
  split <;> rfl

theorem documents_find (schedule : Schedule) (site : Site) (request : FindRequest) :
    (site.find schedule request).2.1.documents = site.meets schedule .find := by
  rw [site_find]

theorem counts_update (schedule : Schedule) (site : Site) (request : UpdateRequest) :
    (site.update schedule request).2.finds = site.finds ∧
      (site.update schedule request).2.updates = site.updates + 1 := by
  unfold update
  simp only
  split <;> exact ⟨rfl, rfl⟩

theorem carried_update (schedule : Schedule) (site : Site) (request : UpdateRequest) :
    Update.Carried ⟨request, site.meets schedule .update,
      (site.update schedule request).2.documents, (site.update schedule request).1⟩ := by
  unfold update Update.Carried
  simp only
  split
  · next h => split at h <;> cases h; rfl
  · next h => split at h <;> cases h; rfl

/-- A find that is not supplied with documents gives what its filter selects, if it succeeds. -/
theorem find_ok {request : FindRequest} {documents : List Document}
    (hs : ∀ supplied, (schedule .find site.finds).course ≠ .supplied supplied)
    (h : (site.find schedule request).1 = .ok documents) :
    documents = Collection.select request.filter request.projection request.limit
      (site.meets schedule .find) := by
  unfold find at h
  simp only at h
  split at h
  · exact (Except.ok.inj h).symm
  · cases h
  · simp only at h
    split at h <;> cases h
    rfl
  · next supplied hc => exact absurd hc (hs supplied)

theorem edited_induct {I : List Document → Prop} {edits : List Edit}
    (he : ∀ edit ∈ edits, ∀ documents, I documents → I (edit.apply documents))
    (h : I site.documents) : I (site.edited edits).documents := by
  obtain ⟨documents, finds, updates⟩ := site
  simp only [edited]
  induction edits generalizing documents with
  | nil => exact h
  | cons edit rest ih =>
    exact ih (fun e hm => he e (List.mem_cons_of_mem _ hm)) _
      (he edit List.mem_cons_self documents h)

/-- What other writers keep of the documents a call meets, if it held after the call before. -/
theorem meets_induct {I : List Document → Prop}
    (he : ∀ kind n, ∀ edit ∈ (schedule kind n).edits, ∀ documents, I documents →
      I (edit.apply documents))
    (kind : CallKind) (h : I site.documents) : I (site.meets schedule kind) := by
  cases kind with
  | find => exact edited_induct (he _ _) h
  | update => exact edited_induct (he _ _) h

end Site

/-- **Moments follow one another**: each call meets what other writers make of the documents that
the call before it left, a find leaves what it met, and nothing happens after the last call. -/
def Moment.Follow (schedule : Schedule) (last : List Document) : Site → List Moment → Prop
  | site, [] => last = site.documents
  | site, .found search :: rest => search.met = site.meets schedule .find ∧
      Moment.Follow schedule last ⟨search.met, site.finds + 1, site.updates⟩ rest
  | site, .updated update :: rest => update.before = site.meets schedule .update ∧
      Moment.Follow schedule last ⟨update.after, site.finds, site.updates + 1⟩ rest

namespace Job

variable {α β : Type} {schedule : Schedule} {P : Event → Prop}

/-- The calls of a job as they go when it is performed. -/
def moments (schedule : Schedule) : Job α → Site → List Moment
  | done _, _ | fail _, _ => []
  | echo _ next, site | log _ next, site => moments schedule next site
  | find request next, site =>
    match site.find schedule request with
    | (.ok documents, after, _) =>
      .found ⟨request, site.cap schedule request, site.meets schedule .find, .ok documents⟩ ::
        moments schedule (next documents) after
    | (.error failure, _, _) =>
      [.found ⟨request, site.cap schedule request, site.meets schedule .find, .error failure⟩]
  | update request next, site =>
    match site.update schedule request with
    | (.ok selected, after) =>
      .updated ⟨request, site.meets schedule .update, after.documents, .ok selected⟩ ::
        moments schedule (next selected) after
    | (.error failure, after) =>
      [.updated ⟨request, site.meets schedule .update, after.documents, .error failure⟩]

/-- **The calls that a job leaves behind** are those of its moments. -/
theorem calls_trace (job : Job α) (site : Site) :
    Event.calls (perform schedule job site).trace =
      (moments schedule job site).map Moment.call := by
  induction job generalizing site with
  | done | fail => rfl
  | echo line next ih => exact ih site
  | log record next ih => exact ih site
  | find request next ih =>
    have hcall := Site.call_find schedule site request
    rcases hf : site.find schedule request with ⟨outcome, after, call⟩
    simp only [hf] at hcall
    cases outcome with
    | ok documents =>
      have := ih documents after
      simp_all [perform, moments, Event.calls, Ending.after, Moment.call]
    | error failure => simp [perform, moments, hf, hcall, Event.calls, Moment.call]
  | update request next ih =>
    rcases hf : site.update schedule request with ⟨outcome, after⟩
    cases outcome with
    | ok selected =>
      have := ih selected after
      simp_all [perform, moments, Event.calls, Ending.after, Moment.call]
    | error failure => simp [perform, moments, hf, Event.calls, Moment.call]

/-- **The moments of one job after another.** -/
theorem moments_bind (t : Job α) (f : α → Job β) (site : Site) :
    moments schedule (t.bind f) site = moments schedule t site ++
      match (perform schedule t site).result with
      | .ok a => moments schedule (f a) (perform schedule t site).site
      | .error _ => [] := by
  induction t generalizing site with
  | done | fail => rfl
  | echo line next ih => exact ih site
  | log record next ih => exact ih site
  | find request next ih =>
    rcases hf : site.find schedule request with ⟨outcome, after, call⟩
    cases outcome with
    | ok documents => simp [bind, moments, perform, hf, ih documents after, Ending.after]
    | error failure => simp [bind, moments, perform, hf]
  | update request next ih =>
    rcases hf : site.update schedule request with ⟨outcome, after⟩
    cases outcome with
    | ok selected => simp [bind, moments, perform, hf, ih selected after, Ending.after]
    | error failure => simp [bind, moments, perform, hf]

/-- **The moments of a job follow one another**, up to the documents that the job leaves. -/
theorem follow_moments (job : Job α) (site : Site) :
    Moment.Follow schedule (perform schedule job site).site.documents site
      (moments schedule job site) := by
  induction job generalizing site with
  | done | fail => simp [moments, perform, Moment.Follow]
  | echo line next ih => exact ih site
  | log record next ih => exact ih site
  | find request next ih =>
    -- a find leaves exactly the documents that it met
    have hsite := Site.site_find schedule site request
    rcases hf : site.find schedule request with ⟨outcome, after, call⟩
    rw [hf] at hsite
    simp only at hsite
    subst hsite
    cases outcome with
    | ok documents => simpa [moments, perform, hf, Moment.Follow, Ending.after] using ih documents _
    | error failure => simp [moments, perform, hf, Moment.Follow]
  | update request next ih =>
    have hcount := Site.counts_update schedule site request
    rcases hf : site.update schedule request with ⟨outcome, documents, finds, updates⟩
    rw [hf] at hcount
    obtain ⟨rfl, rfl⟩ := hcount
    cases outcome with
    | ok selected => simpa [moments, perform, hf, Moment.Follow, Ending.after] using ih selected _
    | error failure => simp [moments, perform, hf, Moment.Follow]

/-- **All that a job can do**, whatever its calls answer, satisfies `P`, and its result `R`. -/
def Does (P : Event → Prop) (R : α → Prop) : Job α → Prop
  | done result => R result
  | fail _ => True
  | echo line next => P (.line line) ∧ Does P R next
  | log record next => P (.record record) ∧ Does P R next
  | find request next =>
    (∀ cap, P (.call (.find request cap))) ∧ ∀ documents, Does P R (next documents)
  | update request next => P (.call (.update request)) ∧ ∀ selected, Does P R (next selected)

theorem Does.bind {t : Job α} {f : α → Job β} {R : α → Prop} {R' : β → Prop} (ht : t.Does P R)
    (hf : ∀ a, R a → (f a).Does P R') : (t.bind f).Does P R' := by
  induction t with
  | done result => exact hf result ht
  | fail => trivial
  | echo line next ih => exact ⟨ht.1, ih ht.2⟩
  | log record next ih => exact ⟨ht.1, ih ht.2⟩
  | find request next ih => exact ⟨ht.1, fun documents => ih documents (ht.2 documents)⟩
  | update request next ih => exact ⟨ht.1, fun selected => ih selected (ht.2 selected)⟩

theorem Does.mono {t : Job α} {Q : Event → Prop} {R R' : α → Prop} (ht : t.Does P R)
    (hP : ∀ event, P event → Q event) (hR : ∀ a, R a → R' a) : t.Does Q R' := by
  induction t with
  | done result => exact hR result ht
  | fail => trivial
  | echo line next ih => exact ⟨hP _ ht.1, ih ht.2⟩
  | log record next ih => exact ⟨hP _ ht.1, ih ht.2⟩
  | find request next ih =>
    exact ⟨fun cap => hP _ (ht.1 cap), fun documents => ih documents (ht.2 documents)⟩
  | update request next ih => exact ⟨hP _ ht.1, fun selected => ih selected (ht.2 selected)⟩

/-- **What a job leaves behind**, and its result, are among what it can do. -/
theorem perform_of_does {job : Job α} {R : α → Prop} (h : job.Does P R) (site : Site) :
    (∀ event ∈ (perform schedule job site).trace, P event) ∧
      ∀ a, (perform schedule job site).result = .ok a → R a := by
  induction job generalizing site with
  | done result =>
    simp only [perform, List.not_mem_nil, false_imp_iff, implies_true, true_and, Except.ok.injEq]
    rintro _ rfl
    exact h
  | fail => simp [perform]
  | echo line next ih =>
    obtain ⟨h1, h2⟩ := ih h.2 site
    exact ⟨List.forall_mem_cons.2 ⟨h.1, h1⟩, h2⟩
  | log record next ih =>
    obtain ⟨h1, h2⟩ := ih h.2 site
    exact ⟨List.forall_mem_cons.2 ⟨h.1, h1⟩, h2⟩
  | find request next ih =>
    have hcall : P (.call (site.find schedule request).2.2) := by
      rw [Site.call_find]
      exact h.1 _
    rcases hf : site.find schedule request with ⟨outcome, after, call⟩
    rw [hf] at hcall
    cases outcome with
    | ok documents =>
      obtain ⟨h1, h2⟩ := ih documents (h.2 documents) after
      simp only [perform, hf, Ending.after, List.forall_mem_cons]
      exact ⟨⟨hcall, h1⟩, h2⟩
    | error failure => simpa [perform, hf] using hcall
  | update request next ih =>
    rcases hf : site.update schedule request with ⟨outcome, after⟩
    cases outcome with
    | ok selected =>
      obtain ⟨h1, h2⟩ := ih selected (h.2 selected) after
      simp only [perform, hf, Ending.after, List.forall_mem_cons]
      exact ⟨⟨h.1, h1⟩, h2⟩
    | error failure => simpa [perform, hf] using h.1

end Job

/-- A call among those that `P` allows, made while the documents satisfy `I`. An update is carried
out, or changes nothing. -/
def Moment.Sound (P : Event → Prop) (I : List Document → Prop) (moment : Moment) : Prop :=
  P (.call moment.call) ∧ match moment with
    | found search => I search.met
    | updated update => I update.before ∧ update.Carried

namespace Job

variable {α : Type} {schedule : Schedule} {P : Event → Prop}

/-- **An invariant of the documents**, kept by other writers and by every update that a job can ask
for, holds at each call of the job and at its end. -/
theorem moments_sound (I : List Document → Prop)
    (hedit : ∀ kind n, ∀ edit ∈ (schedule kind n).edits, ∀ documents, I documents →
      I (edit.apply documents))
    (hupdate : ∀ request, P (.call (.update request)) → ∀ documents, I documents →
      I (Collection.updateFirst request.filter request.path (.text request.new) documents).2)
    {job : Job α} {R : α → Prop} (hjob : job.Does P R) {site : Site} (h : I site.documents) :
    (∀ moment ∈ moments schedule job site, moment.Sound P I) ∧
      I (perform schedule job site).site.documents := by
  -- the invariant goes from site to site: through the other writers to a call, and through the call
  induction job generalizing site with
  | done | fail => exact ⟨by simp [moments], h⟩
  | echo line next ih => exact ih hjob.2 h
  | log record next ih => exact ih hjob.2 h
  | find request next ih =>
    have hm := Site.meets_induct hedit .find h
    have hd := Site.documents_find schedule site request
    rcases hf : site.find schedule request with ⟨outcome, after, call⟩
    rw [hf] at hd
    cases outcome with
    | ok documents =>
      obtain ⟨h1, h2⟩ := @ih documents (hjob.2 documents) after (by rw [hd]; exact hm)
      simp only [moments, perform, hf, Ending.after, List.forall_mem_cons]
      exact ⟨⟨⟨hjob.1 _, hm⟩, h1⟩, h2⟩
    | error failure =>
      simp only [moments, perform, hf, List.forall_mem_singleton]
      exact ⟨⟨hjob.1 _, hm⟩, by rw [hd]; exact hm⟩
  | update request next ih =>
    have hm := Site.meets_induct hedit .update h
    have hq := hjob.1
    have hc := Site.carried_update schedule site request
    have ha := hc.induct (hupdate request hq) hm
    rcases hf : site.update schedule request with ⟨outcome, after⟩
    rw [hf] at hc ha
    cases outcome with
    | ok selected =>
      obtain ⟨h1, h2⟩ := @ih selected (hjob.2 selected) after ha
      simp only [moments, perform, hf, Ending.after, List.forall_mem_cons]
      exact ⟨⟨⟨hq, hm, hc⟩, h1⟩, h2⟩
    | error failure =>
      simp only [moments, perform, hf, List.forall_mem_singleton]
      exact ⟨⟨hq, hm, hc⟩, ha⟩

/-- Every job can do what it can do. -/
theorem does_true (job : Job α) : job.Does (fun _ => True) fun _ => True := by
  induction job with
  | done | fail => trivial
  | echo line next ih => exact ⟨trivial, ih⟩
  | log record next ih => exact ⟨trivial, ih⟩
  | find request next ih => exact ⟨fun _ => trivial, ih⟩
  | update request next ih => exact ⟨trivial, ih⟩

/-- **Every update of a job was carried out**, or failed and changed nothing. -/
theorem carried_moments (job : Job α) (site : Site) :
    ∀ update, .updated update ∈ moments schedule job site → update.Carried := by
  intro update hm
  have hsound := (moments_sound (fun _ => True) (fun _ _ _ _ _ _ => trivial)
    (fun _ _ _ _ => trivial) job.does_true trivial).1 _ hm
  exact hsound.2.2

end Job

end Relink
