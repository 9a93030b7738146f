import Mathlib.Data.List.Forall2
import Relink.Proofs.Rule.Link

/-!
# Two jobs in step

A job that only reads, and another that also writes, performed side by side without other writers.
They are in step if they write lines that differ at most in the texts that were read, and come to
the same end: both to a result, or both to the same malformed document.

* `Audit.SameLine`: two lines that differ at most in the texts that were read.
* `Job.Lockstep`: two jobs in step, with a rule for each step that they take together.
* `Lockstep.update`: only the second job takes this step.
* `Lockstep.bind`: jobs in step may be put together.
-/

namespace Relink

/-- **Two lines are the same**, or audit lines for the same field of the same document. -/
inductive Audit.SameLine : String → String → Prop
  | same (line : String) : SameLine line line
  | field {request request' : UpdateRequest} (hid : request'.id = request.id)
    (hpath : request'.path = request.path) : SameLine (Audit.line request) (Audit.line request')

namespace Job

variable {α β : Type} {documents written middle : List Document}
  {R : α → α → List Document → Prop} {R' : β → β → List Document → Prop}

/-- **Two endings agree**: the first of a job that read the documents and left them, the second of
one that may have written. `R` is what the two results have to do with the documents that the second
job left. -/
structure Agree (documents : List Document) (R : α → α → List Document → Prop)
    (reading writing : Ending α) : Prop where
  /-- The lines agree one by one. -/
  lines : List.Forall₂ Audit.SameLine (Event.lines reading.trace) (Event.lines writing.trace)
  /-- Nothing is written by the first job. -/
  readOnly : ∀ request, Call.update request ∉ Event.calls reading.trace
  kept : reading.site.documents = documents
  outcome :
    (∃ a b, reading.result = .ok a ∧ writing.result = .ok b ∧ R a b writing.site.documents) ∨
    ∃ failure : Failure, failure.Malformed ∧ reading.result = .error failure ∧
      writing.result = .error failure

/-- **Two jobs are in step**: performed on some documents and on what was written of them, they come
to endings that agree. -/
def Lockstep (documents written : List Document) (R : α → α → List Document → Prop)
    (reading writing : Job α) : Prop :=
  ∀ site site' : Site, site.documents = documents → site'.documents = written →
    Agree documents R (perform .quiet reading site) (perform .quiet writing site')

namespace Lockstep

theorem done {a b : α} (h : R a b written) :
    Lockstep documents written R (.done a) (.done b) := by
  rintro site site' hd rfl
  exact ⟨.nil, by simp [perform, Event.calls], hd, Or.inl ⟨a, b, rfl, rfl, h⟩⟩

theorem fail {failure : Failure} (h : failure.Malformed) :
    Lockstep documents written R (.fail failure) (.fail failure) := by
  intro site site' hd _
  exact ⟨.nil, by simp [perform, Event.calls], hd, Or.inr ⟨failure, h, rfl, rfl⟩⟩

theorem echo {line line' : String} {next next' : Job α} (hl : Audit.SameLine line line')
    (h : Lockstep documents written R next next') :
    Lockstep documents written R (.echo line next) (.echo line' next') := by
  intro site site' hd hw
  obtain ⟨hlines, hread, hkept, hout⟩ := h site site' hd hw
  exact ⟨.cons hl hlines, hread, hkept, hout⟩

theorem log {record record' : Record} {next next' : Job α}
    (h : Lockstep documents written R next next') :
    Lockstep documents written R (.log record next) (.log record' next') := by
  intro site site' hd hw
  obtain ⟨hlines, hread, hkept, hout⟩ := h site site' hd hw
  exact ⟨hlines, hread, hkept, hout⟩

/-- Both jobs find what the request selects where they are. -/
theorem find {request : FindRequest} {next next' : List Document → Job α}
    (h : Lockstep documents written R
      (next (Collection.select request.filter request.projection request.limit documents))
      (next' (Collection.select request.filter request.projection request.limit written))) :
    Lockstep documents written R (.find request next) (.find request next') := by
  rintro site site' rfl rfl
  obtain ⟨hlines, hread, hkept, hout⟩ := h ⟨site.documents, site.finds + 1, site.updates⟩
    ⟨site'.documents, site'.finds + 1, site'.updates⟩ rfl rfl
  simp only [perform, Site.find_undisturbed]
  refine ⟨hlines, fun asked hm => ?_, hkept, hout⟩
  rcases List.mem_cons.1 hm with he | hm
  · cases he
  · exact hread asked hm

/-- **Only the second job writes.** -/
theorem update {request : UpdateRequest} {reading : Job α} {next : Bool → Job α} {selected : Bool}
    (hu : Collection.updateFirst request.filter request.path (.text request.new) written =
      (selected, middle))
    (h : Lockstep documents middle R reading (next selected)) :
    Lockstep documents written R reading (.update request next) := by
  rintro site site' hd rfl
  obtain ⟨hlines, hread, hkept, hout⟩ := h site ⟨middle, site'.finds, site'.updates + 1⟩ hd rfl
  simp only [perform, Site.update_undisturbed hu]
  exact ⟨hlines, hread, hkept, hout⟩

/-- **One job after another**, both times. -/
theorem bind {t t' : Job α} {f f' : α → Job β} (ht : Lockstep documents written R t t')
    (hf : ∀ a b middle, R a b middle → Lockstep documents middle R' (f a) (f' b)) :
    Lockstep documents written R' (t.bind f) (t'.bind f') := by
  intro site site' hd hw
  obtain ⟨hlines, hread, hkept, hout⟩ := ht site site' hd hw
  rw [perform_bind, perform_bind, Ending.andThen, Ending.andThen]
  rcases hout with ⟨a, b, ha, hb, hR⟩ | ⟨failure, hm, ha, hb⟩
  · obtain ⟨hlines', hread', hkept', hout'⟩ := hf a b _ hR _ _ hkept rfl
    simp only [ha, hb]
    refine ⟨?_, fun request hc => ?_, hkept', hout'⟩
    · rw [Event.lines_append, Event.lines_append]
      exact List.rel_append hlines hlines'
    · rw [Event.calls_append] at hc
      rcases List.mem_append.1 hc with hc | hc
      · exact hread request hc
      · exact hread' request hc
  · simp only [ha, hb]
    exact ⟨hlines, hread, hkept, Or.inr ⟨failure, hm, rfl, rfl⟩⟩

theorem mono {t t' : Job α} {R' : α → α → List Document → Prop}
    (h : Lockstep documents written R t t') (hR : ∀ a b middle, R a b middle → R' a b middle) :
    Lockstep documents written R' t t' := by
  intro site site' hd hw
  obtain ⟨hlines, hread, hkept, hout⟩ := h site site' hd hw
  refine ⟨hlines, hread, hkept, hout.imp_left ?_⟩
  rintro ⟨a, b, ha, hb, hr⟩
  exact ⟨a, b, ha, hb, hR a b _ hr⟩

end Lockstep

end Job

end Relink
