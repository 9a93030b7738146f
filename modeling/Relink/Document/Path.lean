import Relink.Document.Value
import Relink.Text.CharClass
import Relink.Text.Pieces

/-!
# Paths into a document

A path is a text whose pieces between dots lead into nested values. Reading a path walks maps
only. A filter looks further: through a list it follows the element that a number names, or else
every map among the elements.

* `reach?_nil`, `candidates_nil`: the empty list of steps leads to the value itself.
* `reach?_assign`: what is assigned is what is reached.
-/

namespace Relink

/-- The steps of a dotted path. -/
def Path.steps (path : String) : List String := Text.split '.' path

namespace Value

/-- The fields of a map. -/
def fields? : Value → Option (Entries Value)
  | map fields => some fields
  | _ => none

/-- The child of a map under a key. -/
def child? (key : String) (v : Value) : Option Value := v.fields?.bind (Entries.get? key)

/-- The value that the steps reach through maps. -/
def reach? : List String → Value → Option Value
  | [], v => some v
  | key :: rest, v => (v.child? key).bind (reach? rest)

@[simp]
theorem reach?_nil (v : Value) : reach? [] v = some v := rfl

/-- The position that a step names in a list. -/
def position? (step : String) : Option Nat :=
  let digits := step.toList.map Text.digitValue?
  if digits.isEmpty || digits.any Option.isNone then none
  else some (digits.reduceOption.foldl (fun acc digit => acc * 10 + digit) 0)

/-- The values that a filter finds along the steps. -/
def candidates : List String → Value → List Value
  | [], v => [v]
  | step :: rest, map fields => (Entries.get? step fields).toList.flatMap (candidates rest)
  | step :: rest, list items =>
    match position? step with
    | some i => items[i]?.toList.flatMap (candidates rest)
    | none => items.flatMap fun item => (item.child? step).toList.flatMap (candidates rest)
  | _ :: _, _ => []

@[simp]
theorem candidates_nil (v : Value) : candidates [] v = [v] := by simp [candidates]

/-- The value with `new` at the end of the steps. Maps that are missing on the way are made; a
value that is neither a map nor a list with that position is left as it is. -/
def assign (new : Value) : List String → Value → Value
  | [], _ => new
  | step :: rest, map fields =>
    map (Entries.put step (assign new rest ((Entries.get? step fields).getD (map []))) fields)
  | step :: rest, list items =>
    match position? step with
    | some i => list (items.modify i (assign new rest))
    | none => list items
  | _ :: _, v => v

/-- **What is assigned is what is reached**, if maps lead to the last step. -/
theorem reach?_assign {new : Value} {steps : List String} {v : Value}
    (h : ∀ front last, steps = front ++ [last] → ∃ fields, reach? front v = some (map fields)) :
    reach? steps (assign new steps v) = some new := by
  induction steps generalizing v with
  | nil => simp [assign]
  | cons step rest ih =>
    obtain ⟨fields, rfl⟩ : ∃ fields, v = map fields := by
      rcases List.eq_nil_or_concat rest with rfl | ⟨front, last, rfl⟩
      · simpa using h [] step (by simp)
      · obtain ⟨_, hr⟩ := h (step :: front) last (by simp)
        cases v <;> simp_all [reach?, child?, fields?]
    simp only [assign, reach?, child?, fields?, Option.bind_some, Entries.get?_put_self]
    apply ih
    rintro front last rfl
    obtain ⟨inner, hr⟩ := h (step :: front) last (by simp)
    simp only [reach?, child?, fields?, Option.bind_some] at hr
    cases hc : Entries.get? step fields with
    | none => simp [hc] at hr
    | some w => exact ⟨inner, by simpa [hc] using hr⟩

end Value

namespace Document

/-- The document with `new` at a path. -/
def assign (new : Value) (path : String) (document : Document) : Document :=
  ((Value.assign new (Path.steps path) (.map document)).fields?).getD document

/-- The values that a filter finds at a path. -/
def candidates (path : String) (document : Document) : List Value :=
  Value.candidates (Path.steps path) (.map document)

/-- The id of a document. -/
def id? (document : Document) : Option Value := Entries.get? "_id" document

end Document

end Relink
