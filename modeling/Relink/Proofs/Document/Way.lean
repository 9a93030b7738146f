import Relink.Document.Projection

/-!
# Ways through a document

What a filter finds along some steps, what is reached through maps, and what is left after cutting
down, agree as long as no list is met. Setting a value at the end of a way that leads through maps
changes nothing else.

* `Direct.candidates_eq`: without a list on the way a filter finds what is reached.
* `assign_setAt`: where something is reached, assigning sets that and nothing else (`SetAt`).
* `SetAt.reach?_of_apart`, `SetAt.candidates_of_apart`: what is reached, or found, along other steps
  stays.
* `reach?_project`: cutting a document down to a path keeps what is reached along it.
-/

namespace Relink

namespace Entries

variable {α : Type} {key other : String} {x y : α} {entries : Entries α}

theorem get?_append_cons {front back : Entries α} (h : key ∉ keys front) :
    get? key (front ++ (key, x) :: back) = some x := by
  induction front with
  | nil => simp [get?]
  | cons entry rest ih =>
    simp only [keys, List.map_cons, List.mem_cons, not_or] at h
    simp [get?, Ne.symm h.1, ih h.2]

/-- A key other than the one whose value differs has the same value. -/
theorem get?_append_cons_of_ne {front back : Entries α} (h : other ≠ key) :
    get? other (front ++ (key, x) :: back) = get? other (front ++ (key, y) :: back) := by
  induction front with
  | nil => simp [get?, h.symm]
  | cons entry rest ih => simp [get?, ih]

/-- **The place of a key**: what stands before it has other keys, and putting keeps the place. -/
theorem exists_place (h : get? key entries = some x) :
    ∃ front back, entries = front ++ (key, x) :: back ∧ key ∉ keys front ∧
      ∀ y, put key y entries = front ++ (key, y) :: back := by
  induction entries with
  | nil => simp [get?] at h
  | cons entry rest ih =>
    obtain ⟨k, v⟩ := entry
    by_cases hk : k = key
    · subst hk
      simp only [get?, beq_self_eq_true, if_true, Option.some.injEq] at h
      subst h
      exact ⟨[], rest, rfl, by simp [keys], fun y => by simp [put]⟩
    · simp only [get?, hk, beq_iff_eq, if_false] at h
      obtain ⟨front, back, rfl, hf, hp⟩ := ih h
      refine ⟨(k, v) :: front, back, rfl, ?_, fun y => ?_⟩
      · simp only [keys, List.map_cons, List.mem_cons, not_or]
        exact ⟨Ne.symm hk, hf⟩
      · simp [put, hk, hp y]

end Entries

namespace Value

variable {v w new : Value} {step last : String} {steps other : List String}

@[simp]
theorem child?_map (key : String) (fields : Entries Value) :
    child? key (map fields) = Entries.get? key fields := rfl

theorem child?_eq_some {key : String} (h : v.child? key = some w) :
    ∃ fields, v = map fields ∧ Entries.get? key fields = some w := by
  cases v <;> simp_all [child?, fields?]

/-- **What is reached through maps is all that a filter finds.** -/
theorem candidates_of_reach? (h : reach? steps v = some w) : candidates steps v = [w] := by
  induction steps generalizing v with
  | nil => simp_all
  | cons step rest ih =>
    simp only [reach?, Option.bind_eq_some_iff] at h
    obtain ⟨u, hu, hr⟩ := h
    obtain ⟨fields, rfl, hg⟩ := child?_eq_some hu
    simp [candidates, hg, ih hr]

/-- No list is met along the steps before their end. -/
def Direct : List String → Value → Prop
  | [], _ => True
  | step :: rest, v => (∀ items, v ≠ list items) ∧ ∀ w, v.child? step = some w → Direct rest w

/-- **Without a list on the way a filter finds what is reached.** -/
theorem Direct.candidates_eq (h : Direct steps v) :
    candidates steps v = (reach? steps v).toList := by
  induction steps generalizing v with
  | nil => simp
  | cons step rest ih =>
    cases v with
    | map fields =>
      cases hg : Entries.get? step fields with
      | none => simp [candidates, reach?, hg]
      | some u => simp [candidates, reach?, hg, ih (h.2 u hg)]
    | list items => exact absurd rfl (h.1 items)
    | _ => simp [candidates, reach?, child?, fields?]

/-- No list is met along the steps or at their end. -/
def NoList : List String → Value → Prop
  | [], v => ∀ items, v ≠ list items
  | step :: rest, v => (∀ items, v ≠ list items) ∧ ∀ w, v.child? step = some w → NoList rest w

theorem NoList.direct (h : NoList steps v) : Direct steps v := by
  induction steps generalizing v with
  | nil => trivial
  | cons step rest ih => exact ⟨h.1, fun w hw => ih (h.2 w hw)⟩

theorem NoList.ne_list (h : NoList steps v) (hr : reach? steps v = some w) (items : List Value) :
    w ≠ list items := by
  induction steps generalizing v with
  | nil => simp_all [NoList]
  | cons step rest ih =>
    simp only [reach?, Option.bind_eq_some_iff] at hr
    obtain ⟨u, hu, hr⟩ := hr
    exact ih (h.2 u hu) hr

/-- The value itself and what stands along the steps are maps, where they are present. -/
def MapsAlong : List String → Value → Prop
  | [], v => ∃ fields, v = map fields
  | step :: rest, v => (∃ fields, v = map fields) ∧ ∀ w, v.child? step = some w → MapsAlong rest w

theorem MapsAlong.direct (h : MapsAlong steps v) : Direct (steps ++ [last]) v := by
  induction steps generalizing v with
  | nil =>
    obtain ⟨fields, rfl⟩ := h
    exact ⟨by simp, fun w _ => trivial⟩
  | cons step rest ih =>
    obtain ⟨fields, rfl⟩ := h.1
    exact ⟨by simp, fun w hw => ih (h.2 w hw)⟩

/-- A way on which something is reached leads through maps. -/
theorem MapsAlong.of_reach? (h : reach? (steps ++ [last]) v = some w) : MapsAlong steps v := by
  induction steps generalizing v with
  | nil =>
    simp only [List.nil_append, reach?, Option.bind_eq_some_iff] at h
    obtain ⟨u, hu, -⟩ := h
    obtain ⟨fields, rfl, -⟩ := child?_eq_some hu
    exact ⟨fields, rfl⟩
  | cons step rest ih =>
    simp only [List.cons_append, reach?, Option.bind_eq_some_iff] at h
    obtain ⟨u, hu, hr⟩ := h
    obtain ⟨fields, rfl, -⟩ := child?_eq_some hu
    refine ⟨⟨fields, rfl⟩, fun w' hw' => ?_⟩
    obtain rfl : u = w' := Option.some.inj (hu.symm.trans hw')
    exact ih hr

theorem mapsAlong_empty : MapsAlong steps (map []) := by
  cases steps with
  | nil => exact ⟨[], rfl⟩
  | cons step rest => exact ⟨⟨[], rfl⟩, fun w hw => by simp [Entries.get?] at hw⟩

/-- Assigning below maps leaves them maps. -/
theorem mapsAlong_assign (h : MapsAlong steps v) :
    MapsAlong steps (assign new (steps ++ [last]) v) := by
  induction steps generalizing v with
  | nil =>
    obtain ⟨fields, rfl⟩ := h
    exact ⟨_, rfl⟩
  | cons step rest ih =>
    obtain ⟨fields, rfl⟩ := h.1
    refine ⟨⟨_, rfl⟩, fun w hw => ?_⟩
    simp only [List.cons_append, assign, child?_map, Entries.get?_put_self, Option.some.injEq] at hw
    subst hw
    apply ih
    -- a step that is missing is made, as an empty map
    cases hg : Entries.get? step fields with
    | none => exact mapsAlong_empty
    | some u => exact h.2 u hg

/-- **Two values that differ at the end of some steps only**, where the second has `new`. The steps
lead through maps, whose keys stay in place. -/
def SetAt (new : Value) : List String → Value → Value → Prop
  | [], _, after => after = new
  | step :: rest, before, after => ∃ front old now back,
      before = map (front ++ (step, old) :: back) ∧ after = map (front ++ (step, now) :: back) ∧
        step ∉ Entries.keys front ∧ SetAt new rest old now

/-- **Where something is reached, assigning sets that and nothing else.** -/
theorem assign_setAt (h : reach? steps v = some w) : SetAt new steps v (assign new steps v) := by
  induction steps generalizing v with
  | nil => simp [SetAt, assign]
  | cons step rest ih =>
    simp only [reach?, Option.bind_eq_some_iff] at h
    obtain ⟨u, hu, hr⟩ := h
    obtain ⟨fields, rfl, hg⟩ := child?_eq_some hu
    obtain ⟨front, back, hf, hk, hp⟩ := Entries.exists_place hg
    refine ⟨front, u, assign new rest u, back, by rw [hf], ?_, hk, ih hr⟩
    simp [assign, hg, hp]

/-- Assigning what is reached already changes nothing. -/
theorem assign_same (h : reach? steps v = some w) : assign w steps v = v := by
  induction steps generalizing v with
  | nil => simp_all [assign]
  | cons step rest ih =>
    simp only [reach?, Option.bind_eq_some_iff] at h
    obtain ⟨u, hu, hr⟩ := h
    obtain ⟨fields, rfl, hg⟩ := child?_eq_some hu
    obtain ⟨front, back, hf, -, hp⟩ := Entries.exists_place hg
    simp [assign, hg, hp, ih hr, ← hf]

theorem SetAt.reach? {after : Value} (h : SetAt new steps v after) :
    reach? steps after = some new := by
  induction steps generalizing v after with
  | nil => simp_all [SetAt]
  | cons step rest ih =>
    obtain ⟨front, old, now, back, rfl, rfl, hk, hs⟩ := h
    simp [Value.reach?, Entries.get?_append_cons hk, ih hs]

/-- **What is reached along other steps stays**, if neither way leads along the other. -/
theorem SetAt.reach?_of_apart {after : Value} (h : SetAt new steps v after)
    (hs : ¬ steps <+: other) (ho : ¬ other <+: steps) :
    Value.reach? other after = Value.reach? other v := by
  induction steps generalizing v after other with
  | nil => exact absurd List.nil_prefix hs
  | cons step rest ih =>
    obtain ⟨front, old, now, back, rfl, rfl, hk, hset⟩ := h
    cases other with
    | nil => exact absurd List.nil_prefix ho
    | cons key more =>
      by_cases hkey : key = step
      · subst hkey
        simp only [List.cons_prefix_cons, true_and] at hs ho
        simp [Value.reach?, Entries.get?_append_cons hk, ih hset hs ho]
      · simp only [Value.reach?, child?_map]
        rw [Entries.get?_append_cons_of_ne hkey]

/-- **What a filter finds along other steps stays**, if neither way leads along the other. -/
theorem SetAt.candidates_of_apart {after : Value} (h : SetAt new steps v after)
    (hs : ¬ steps <+: other) (ho : ¬ other <+: steps) :
    candidates other after = candidates other v := by
  induction steps generalizing v after other with
  | nil => exact absurd List.nil_prefix hs
  | cons step rest ih =>
    obtain ⟨front, old, now, back, rfl, rfl, hk, hset⟩ := h
    cases other with
    | nil => exact absurd List.nil_prefix ho
    | cons key more =>
      by_cases hkey : key = step
      · subst hkey
        simp only [List.cons_prefix_cons, true_and] at hs ho
        simp [candidates, Entries.get?_append_cons hk, ih hset hs ho]
      · simp only [candidates]
        rw [Entries.get?_append_cons_of_ne hkey]

/-- Setting a text brings no list onto any way. -/
theorem SetAt.noList {after : Value} {s : String} (h : SetAt (text s) steps v after)
    (ho : NoList other v) : NoList other after := by
  induction steps generalizing v after other with
  | nil =>
    -- nothing stands below a text
    obtain rfl : after = text s := h
    cases other with
    | nil => simp [NoList]
    | cons key more => exact ⟨by simp, fun w hw => by simp [child?, fields?] at hw⟩
  | cons step rest ih =>
    obtain ⟨front, old, now, back, rfl, rfl, hk, hset⟩ := h
    cases other with
    | nil => simp [NoList]
    | cons key more =>
      refine ⟨by simp, fun w hw => ?_⟩
      by_cases hkey : key = step
      · subst hkey
        simp only [child?_map, Entries.get?_append_cons hk, Option.some.injEq] at hw
        subst hw
        exact ih hset (ho.2 old (by simp [Entries.get?_append_cons hk]))
      · rw [child?_map, Entries.get?_append_cons_of_ne (y := old) hkey] at hw
        exact ho.2 w hw

/-- Cutting fields down to a step and what follows keeps what is reached there. -/
theorem reach?_cutFields (step : String) (rest : List String)
    (h : ∀ next after, rest = next :: after →
      ∀ u, (cut next after u).bind (reach? rest) = reach? rest u) (fields : Entries Value) :
    (Entries.get? step (cutFields step rest fields)).bind (reach? rest) =
      (Entries.get? step fields).bind (reach? rest) := by
  induction fields with
  | nil => simp [cutFields]
  | cons field more ih =>
    obtain ⟨key, u⟩ := field
    by_cases hk : key = step
    · subst hk
      cases rest with
      | nil => simp [cutFields, Entries.get?]
      | cons next after =>
        have hu := h next after rfl u
        cases hc : cut next after u with
        | none =>
          -- nothing is left of the field, so nothing was reached in it
          rw [hc] at hu
          simp only [cutFields, beq_self_eq_true, if_true, hc, Entries.get?, Option.bind_some]
          exact hu
        | some kept =>
          rw [hc] at hu
          simpa [cutFields, hc, Entries.get?] using hu
    · simp only [cutFields, Entries.get?, hk, beq_iff_eq, if_false]
      exact ih

theorem reach?_cut (steps : List String) (step : String) (v : Value) :
    (cut step steps v).bind (reach? (step :: steps)) = reach? (step :: steps) v := by
  induction steps generalizing step v with
  | nil =>
    cases v with
    | map fields =>
      simp only [cut, Option.bind_some, reach?, child?_map]
      exact reach?_cutFields step [] (by simp) fields
    | _ => simp [cut, reach?, child?, fields?]
  | cons next after ih =>
    cases v with
    | map fields =>
      simp only [cut, Option.bind_some, reach?, child?_map]
      refine reach?_cutFields step (next :: after) ?_ fields
      rintro _ _ ⟨⟩ u
      exact ih next u
    | _ => simp [cut, reach?, child?, fields?]

end Value

namespace Document

variable {path step : String} {rest : List String} {document : Document}

theorem steps_ne_nil (path : String) : Path.steps path ≠ [] := by
  simp [Path.steps, Text.split]

theorem map_assign (new : Value) (path : String) (document : Document) :
    Value.map (document.assign new path) = Value.assign new (Path.steps path) (.map document) := by
  cases hs : Path.steps path with
  | nil => exact absurd hs (steps_ne_nil path)
  | cons step rest => simp [assign, hs, Value.assign, Value.fields?]

/-- Assigning anywhere but at the id leaves the id. -/
theorem id?_assign {new : Value} (h : (Path.steps path).head? ≠ some "_id") :
    (document.assign new path).id? = document.id? := by
  cases hs : Path.steps path with
  | nil => exact absurd hs (steps_ne_nil path)
  | cons step rest =>
    have hne : "_id" ≠ step := by rintro rfl; simp [hs] at h
    have hm := map_assign new path document
    simp only [hs, Value.assign, Value.map.injEq] at hm
    rw [hm]
    exact Entries.get?_put_of_ne hne _ _

theorem get?_cutFields_of_ne {key : String} (h : key ≠ step) (fields : Entries Value) :
    Entries.get? key (Value.cutFields step rest fields) = none := by
  induction fields with
  | nil => simp [Value.cutFields, Entries.get?]
  | cons field more ih =>
    obtain ⟨k, v⟩ := field
    by_cases hk : k = step
    · subst hk
      cases rest with
      | nil => simp [Value.cutFields, Entries.get?, h.symm]
      | cons next after =>
        cases hc : Value.cut next after v <;>
          simp [Value.cutFields, hc, Entries.get?, h.symm]
    · simp [Value.cutFields, hk, ih]

/-- **Cutting a document down to a path keeps what is reached along it.** -/
theorem reach?_project (hs : Path.steps path = step :: rest) (hid : step ≠ "_id") :
    Value.reach? (step :: rest) (.map (document.project path)) =
      Value.reach? (step :: rest) (.map document) := by
  have hcut := Value.reach?_cut rest step (.map document)
  simp only [Value.cut, Option.bind_some] at hcut
  rw [← hcut]
  simp only [project, hs, Value.reach?, Value.child?_map]
  cases document.id? with
  | none => rfl
  | some id => simp [Entries.get?, hid.symm]

/-- Cutting a document down to a path keeps its id. -/
theorem id?_project (hs : Path.steps path = step :: rest) (hid : step ≠ "_id") :
    (document.project path).id? = document.id? := by
  cases h : document.id? with
  | none =>
    unfold id? at h ⊢
    simpa [project, hs, id?, h] using get?_cutFields_of_ne hid.symm document
  | some id =>
    unfold id? at h ⊢
    simp [project, hs, id?, h, Entries.get?]

end Document

end Relink
