import Relink.Proofs.Document.Way

/-!
# Assigning twice

Of two assignments along the same steps the later one counts. Assignments along two ways that do not
lead along one another can be made in either order, without moving a key, if something stands at the
end of both.

* `Value.assign_assign`, `Value.assign_comm`: the two laws for values.
* `Document.assign_assign`, `Document.assign_comm`: the same for documents.
-/

namespace Relink

namespace Entries

variable {α : Type} {key other : String} {x y : α} {entries : Entries α}

theorem put_put (key : String) (x y : α) (entries : Entries α) :
    put key x (put key y entries) = put key x entries := by
  induction entries with
  | nil => simp [put]
  | cons entry rest ih =>
    by_cases h : entry.1 = key
    · simp [put, h]
    · simp [put, h, ih]

/-- Two keys can be put in either order if one of them is there. -/
theorem put_comm (h : key ≠ other) (x y : α) (hk : (get? key entries).isSome = true) :
    put key x (put other y entries) = put other y (put key x entries) := by
  induction entries with
  | nil => cases hk
  | cons entry rest ih =>
    obtain ⟨k, v⟩ := entry
    by_cases h1 : k = key
    · subst h1
      simp [put, h]
    · by_cases h2 : k = other
      · subst h2
        simp [put, h1]
      · have hrest : (get? key rest).isSome = true := by simpa [get?, h1] using hk
        simp [put, h1, h2, ih hrest]

end Entries

namespace Value

variable {v w w' x y : Value} {steps other : List String}

/-- **The later of two assignments along the same steps counts.** -/
theorem assign_assign (h : reach? steps v = some w) (x y : Value) :
    assign x steps (assign y steps v) = assign x steps v := by
  induction steps generalizing v with
  | nil => simp [assign]
  | cons step rest ih =>
    simp only [reach?, Option.bind_eq_some_iff] at h
    obtain ⟨u, hu, hr⟩ := h
    obtain ⟨fields, rfl, hg⟩ := child?_eq_some hu
    simp only [assign, hg, Option.getD_some, Entries.get?_put_self, ih hr, Entries.put_put]

/-- **Assignments along two ways apart** can be made in either order. -/
theorem assign_comm (h : reach? steps v = some w) (h' : reach? other v = some w')
    (hs : ¬ steps <+: other) (ho : ¬ other <+: steps) (x y : Value) :
    assign x steps (assign y other v) = assign y other (assign x steps v) := by
  induction steps generalizing v other with
  | nil => exact absurd List.nil_prefix hs
  | cons step rest ih =>
    cases other with
    | nil => exact absurd List.nil_prefix ho
    | cons key more =>
      simp only [reach?, Option.bind_eq_some_iff] at h h'
      obtain ⟨u, hu, hr⟩ := h
      obtain ⟨u', hu', hr'⟩ := h'
      obtain ⟨fields, rfl, hg⟩ := child?_eq_some hu
      rw [child?_map] at hu'
      by_cases hkey : key = step
      · -- the ways part below the key
        subst hkey
        obtain rfl : u = u' := Option.some.inj (hg.symm.trans hu')
        simp only [List.cons_prefix_cons, true_and] at hs ho
        simp only [assign, hg, Option.getD_some, Entries.get?_put_self, Entries.put_put,
          ih hr hr' hs ho]
      · have hne : step ≠ key := Ne.symm hkey
        simp only [assign, hg, hu', Option.getD_some, Entries.get?_put_of_ne hne,
          Entries.get?_put_of_ne hkey]
        rw [Entries.put_comm hne _ _ (by rw [hg]; rfl)]

end Value

namespace Document

variable {document : Document} {path other : String} {w w' : Value}

theorem assign_assign (h : Value.reach? (Path.steps path) (.map document) = some w)
    (x y : Value) : (document.assign y path).assign x path = document.assign x path := by
  have hv := Value.assign_assign h x y
  rw [← map_assign, ← map_assign, ← map_assign] at hv
  exact Value.map.inj hv

theorem assign_comm (h : Value.reach? (Path.steps path) (.map document) = some w)
    (h' : Value.reach? (Path.steps other) (.map document) = some w')
    (hs : ¬ Path.steps path <+: Path.steps other) (ho : ¬ Path.steps other <+: Path.steps path)
    (x y : Value) :
    (document.assign y other).assign x path = (document.assign x path).assign y other := by
  have hv := Value.assign_comm h h' hs ho x y
  rw [← map_assign, ← map_assign, ← map_assign, ← map_assign] at hv
  exact Value.map.inj hv

end Document

end Relink
