import Relink.Document.Path

/-!
# Cutting a document down to a path

A projection keeps the id and what lies along one path. Maps are cut down to the next key and
the elements of a list are each cut down the same way; what lies at the end is kept whole.

* `cutFields_of_get?_none`: a map without the next key is cut down to the empty map.
-/

namespace Relink

namespace Value

mutual

/-- What is left of a value below a step, with `rest` the steps after it; `none` if nothing is. -/
def cut (step : String) (rest : List String) : Value → Option Value
  | map fields => some (map (cutFields step rest fields))
  | list items => some (list (cutItems step rest items))
  | _ => none

/-- What is left of the fields of a map. -/
def cutFields (step : String) (rest : List String) :
    List (String × Value) → List (String × Value)
  | [] => []
  | (key, v) :: more =>
    if key == step then
      match rest with
      | [] => [(key, v)]
      | next :: after => match cut next after v with
        | some kept => [(key, kept)]
        | none => []
    else cutFields step rest more

/-- What is left of the elements of a list. -/
def cutItems (step : String) (rest : List String) : List Value → List Value
  | [] => []
  | v :: more => match cut step rest v with
    | some kept => kept :: cutItems step rest more
    | none => cutItems step rest more

end

theorem cutFields_of_get?_none {step : String} {rest : List String} {fields : Entries Value}
    (h : Entries.get? step fields = none) : cutFields step rest fields = [] := by
  induction fields with
  | nil => simp [cutFields]
  | cons field more ih =>
    obtain ⟨key, v⟩ := field
    by_cases hk : key = step
    · simp [Entries.get?, hk] at h
    · simp only [Entries.get?, hk, beq_iff_eq, if_false] at h
      simp [cutFields, hk, ih h]

end Value

/-- A document cut down to its id and a path. -/
def Document.project (path : String) (document : Document) : Document :=
  let kept := match Path.steps path with
    | [] => []
    | step :: rest => Value.cutFields step rest document
  (document.id?.map fun id => ("_id", id)).toList ++ kept

end Relink
