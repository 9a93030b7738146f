import Relink.Document.Projection
import Relink.Store.Filter

/-!
# Collections

A collection is a list of documents in the order of insertion. Documents are found by a filter,
cut down by a projection and capped in number; an update sets one field of the first document
that a filter selects.

* `updateFirst_none`: an update that selects nothing changes nothing.
* `length_updateFirst`: an update neither adds nor removes documents.
-/

namespace Relink.Collection

/-- The documents that a filter selects, in order. A cap of zero is none. -/
def select (filter : Filter) (projection : Option String) (limit : Int)
    (documents : List Document) : List Document :=
  let selected := documents.filter filter.holds
  let capped := if limit = 0 then selected else selected.take limit.toNat
  capped.map fun document => match projection with
    | some path => document.project path
    | none => document

/-- The documents with one field of the first selected one set, and whether there was one. -/
def updateFirst (filter : Filter) (path : String) (value : Value) :
    List Document → Bool × List Document
  | [] => (false, [])
  | document :: rest =>
    if filter.holds document then (true, document.assign value path :: rest)
    else
      let (found, rest) := updateFirst filter path value rest
      (found, document :: rest)

theorem updateFirst_none {filter : Filter} {path : String} {value : Value}
    {documents : List Document} (h : (updateFirst filter path value documents).1 = false) :
    (updateFirst filter path value documents).2 = documents := by
  induction documents with
  | nil => rfl
  | cons document rest ih =>
    by_cases hd : filter.holds document = true
    · simp [updateFirst, hd] at h
    · simp only [updateFirst, hd, Bool.false_eq_true, if_false] at h ⊢
      simp [ih h]

theorem length_updateFirst (filter : Filter) (path : String) (value : Value)
    (documents : List Document) :
    (updateFirst filter path value documents).2.length = documents.length := by
  induction documents with
  | nil => rfl
  | cons document rest ih => by_cases h : filter.holds document <;> simp [updateFirst, h, ih]

/-- Whether a document has an id. -/
def hasId (id : Value) (document : Document) : Bool := document.id?.any id.same

/-- The documents without those with an id. -/
def delete (id : Value) (documents : List Document) : List Document :=
  documents.filter fun document => !hasId id document

/-- The documents with one field of the document with an id set. -/
def write (id : Value) (path : String) (value : Value) (documents : List Document) :
    List Document :=
  (updateFirst [("_id", .equals id)] path value documents).2

end Relink.Collection
