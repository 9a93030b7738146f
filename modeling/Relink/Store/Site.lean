import Relink.Store.Call

/-!
# The collection among other writers

A site is the collection together with the number of calls made so far. A schedule says for each
call what other writers do just before it and how the call itself goes.

* `find_undisturbed`, `update_undisturbed`: without interference a call does what it asks for.
-/

namespace Relink

/-- What another writer does. -/
inductive Edit where
  /-- Sets a field of the document with an id. -/
  | write (id : Value) (path : String) (value : Value)
  /-- Deletes the document with an id. -/
  | delete (id : Value)

/-- The documents after an edit. -/
def Edit.apply : Edit → List Document → List Document
  | write id path value => Collection.write id path value
  | delete id => Collection.delete id

/-- How a call goes. -/
inductive Course where
  /-- It is carried out. -/
  | served
  /-- It fails at once. -/
  | refused (failure : Failure)
  /-- A find fails just before it yields the document at this place, if there is one. -/
  | interrupted (place : Nat) (failure : Failure)
  /-- A find yields these documents instead. -/
  | supplied (documents : List Document)

/-- What happens at a call: edits just before it, and how it goes. -/
structure Interference where
  /-- The edits, in order. -/
  edits : List Edit := []
  /-- The course of the call. -/
  course : Course := .served

/-- The kinds of calls, counted separately. -/
inductive CallKind where
  | find
  | update
  deriving DecidableEq, Repr

/-- What happens at each call, by its kind and its number. -/
abbrev Schedule := CallKind → Nat → Interference

/-- The schedule on which nothing happens. -/
def Schedule.quiet : Schedule := fun _ _ => {}

/-- A collection, with the number of calls made so far. -/
structure Site where
  /-- The documents, in order of insertion. -/
  documents : List Document
  finds : Nat := 0
  updates : Nat := 0

namespace Site

/-- The site after edits. -/
def edited (site : Site) (edits : List Edit) : Site :=
  { site with documents := edits.foldl (fun documents edit => edit.apply documents) site.documents }

/-- Carries out a find: the outcome, the site after it, and the call as it is recorded. -/
def find (schedule : Schedule) (request : FindRequest) (site : Site) :
    Except Failure (List Document) × Site × Call :=
  let interference := schedule .find site.finds
  let site := { site.edited interference.edits with finds := site.finds + 1 }
  let yielded := Collection.select request.filter request.projection request.limit site.documents
  let made := fun outcome cap => (outcome, site, Call.find request cap)
  match interference.course with
  | .served => made (.ok yielded) request.cap
  | .refused failure => made (.error failure) none
  | .interrupted place failure =>
    made (if place < yielded.length then .error failure else .ok yielded) request.cap
  | .supplied documents => made (.ok documents) request.cap

/-- Carries out an update: whether a document was selected, and the site after it. -/
def update (schedule : Schedule) (request : UpdateRequest) (site : Site) :
    Except Failure Bool × Site :=
  let interference := schedule .update site.updates
  let site := { site.edited interference.edits with updates := site.updates + 1 }
  match interference.course with
  | .refused failure => (.error failure, site)
  | _ =>
    let (selected, documents) :=
      Collection.updateFirst request.filter request.path (.text request.new) site.documents
    (.ok selected, { site with documents := documents })

/-- **Without interference** a find yields what the request selects, and leaves the documents. -/
theorem find_undisturbed (request : FindRequest) (site : Site) :
    site.find .quiet request =
      (.ok (Collection.select request.filter request.projection request.limit site.documents),
        ⟨site.documents, site.finds + 1, site.updates⟩, .find request request.cap) := by
  simp [find, Schedule.quiet, edited]

/-- **Without interference** an update does to the documents what it asks for. -/
theorem update_undisturbed {request : UpdateRequest} {site : Site} {selected : Bool}
    {documents : List Document}
    (hu : Collection.updateFirst request.filter request.path (.text request.new) site.documents =
      (selected, documents)) :
    site.update .quiet request = (.ok selected, ⟨documents, site.finds, site.updates + 1⟩) := by
  simp [update, Schedule.quiet, edited, hu]

end Site

end Relink
