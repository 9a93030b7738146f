import Relink.Store.Site

/-!
# Jobs

A job is what is still to be done: it has a result, fails, or takes one step and goes on with the
answer. Its steps write a line, log a record, find documents or update one. Performing a job at a
site stops at the first failure.

* `perform_bind`: performing one job after another is performing both together.
* `bind_assoc`, `pure_bind`, `bind_pure`: jobs are put together as expected.
-/

namespace Relink

/-- What is still to be done. -/
inductive Job (α : Type) where
  /-- Nothing; this is the result. -/
  | done (result : α)
  /-- Nothing; this went wrong. -/
  | fail (failure : Failure)
  /-- Write a line of the audit trail. -/
  | echo (line : String) (next : Job α)
  | log (record : Record) (next : Job α)
  | find (request : FindRequest) (next : List Document → Job α)
  /-- Update a document, and learn whether it was as expected. -/
  | update (request : UpdateRequest) (next : Bool → Job α)

namespace Job

variable {α β γ : Type}

/-- One job after another. -/
def bind : Job α → (α → Job β) → Job β
  | done result, f => f result
  | fail failure, _ => fail failure
  | echo line next, f => echo line (bind next f)
  | log record next, f => log record (bind next f)
  | find request next, f => find request fun documents => bind (next documents) f
  | update request next, f => update request fun selected => bind (next selected) f

instance : Monad Job where
  pure := done
  bind := bind

@[simp]
theorem pure_bind (a : α) (f : α → Job β) : (done a).bind f = f a := rfl

@[simp]
theorem bind_pure (t : Job α) : t.bind done = t := by
  induction t with
  | done | fail => rfl
  | echo line next ih => simp [bind, ih]
  | log record next ih => simp [bind, ih]
  | find request next ih => simp [bind, ih]
  | update request next ih => simp [bind, ih]

theorem bind_assoc (t : Job α) (f : α → Job β) (g : β → Job γ) :
    (t.bind f).bind g = t.bind fun a => (f a).bind g := by
  induction t with
  | done | fail => rfl
  | echo line next ih => simp [bind, ih]
  | log record next ih => simp [bind, ih]
  | find request next ih => simp [bind, ih]
  | update request next ih => simp [bind, ih]

instance : LawfulMonad Job := .mk' Job bind_pure pure_bind bind_assoc

theorem bind_eq (t : Job α) (f : α → Job β) : t >>= f = t.bind f := rfl

theorem pure_eq (a : α) : (pure a : Job α) = done a := rfl

/-- Writes a line of the audit trail. -/
def say (line : String) : Job Unit := echo line (done ())

/-- Logs a record. -/
def note (level : Level) (text : String) (fields : Entries Value) : Job Unit :=
  log ⟨level, text, fields⟩ (done ())

/-- What performing a job leads to. -/
structure Ending (α : Type) where
  /-- The result, or what went wrong. -/
  result : Except Failure α
  /-- The site at the end. -/
  site : Site
  /-- What was left behind, in order. -/
  trace : List Event

/-- The ending with an event before all others. -/
def Ending.after (ending : Ending α) (event : Event) : Ending α :=
  { ending with trace := event :: ending.trace }

/-- Performs a job at a site on a schedule. -/
def perform (schedule : Schedule) : Job α → Site → Ending α
  | done result, site => ⟨.ok result, site, []⟩
  | fail failure, site => ⟨.error failure, site, []⟩
  | echo line next, site => (perform schedule next site).after (.line line)
  | log record next, site => (perform schedule next site).after (.record record)
  | find request next, site =>
    match site.find schedule request with
    | (.ok documents, site, call) => (perform schedule (next documents) site).after (.call call)
    | (.error failure, site, call) => ⟨.error (request.failure failure), site, [.call call]⟩
  | update request next, site =>
    match site.update schedule request with
    | (.ok selected, site) =>
      (perform schedule (next selected) site).after (.call (.update request))
    | (.error failure, site) =>
      ⟨.error (request.failure failure), site, [.call (.update request)]⟩

/-- Goes on from an ending with what `f` makes of its result. -/
def Ending.andThen (ending : Ending α) (f : α → Site → Ending β) : Ending β :=
  match ending.result with
  | .ok result =>
    let rest := f result ending.site
    { rest with trace := ending.trace ++ rest.trace }
  | .error failure => ⟨.error failure, ending.site, ending.trace⟩

theorem Ending.after_andThen (ending : Ending α) (event : Event) (f : α → Site → Ending β) :
    (ending.after event).andThen f = (ending.andThen f).after event := by
  obtain ⟨result, site, trace⟩ := ending
  cases result <;> rfl

/-- **Performing one job after another.** -/
theorem perform_bind (schedule : Schedule) (t : Job α) (f : α → Job β) (site : Site) :
    perform schedule (t.bind f) site =
      (perform schedule t site).andThen fun a s => perform schedule (f a) s := by
  induction t generalizing site with
  | done result => simp [bind, perform, Ending.andThen]
  | fail failure => rfl
  | echo line next ih => simp [bind, perform, ih, Ending.after_andThen]
  | log record next ih => simp [bind, perform, ih, Ending.after_andThen]
  | find request next ih =>
    simp only [bind, perform]
    split
    · rw [ih, Ending.after_andThen]
    · rfl
  | update request next ih =>
    simp only [bind, perform]
    split
    · rw [ih, Ending.after_andThen]
    · rfl

end Job

end Relink
