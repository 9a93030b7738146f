/-!
# Occurrences of one text in another

Finding a text in another, cutting at it, and replacing its leftmost occurrence.

* `occurs_iff_infix`: `occurs` is exactly the infix relation.
* `replaceFirst_of_not_occurs`: without an occurrence nothing is replaced.
* `cut?_eq_some`: a cut gives the two sides of an occurrence.
-/

namespace Relink.Text

/-- Whether `part` occurs in a text. -/
def occurs (part : List Char) : List Char → Bool
  | [] => part.isEmpty
  | c :: rest => part.isPrefixOf (c :: rest) || occurs part rest

/-- **Occurring is being an infix.** -/
theorem occurs_iff_infix {part cs : List Char} : occurs part cs = true ↔ part <:+: cs := by
  induction cs with
  | nil => simp [occurs]
  | cons c rest ih => simp [occurs, ih, List.infix_cons_iff]

/-- A text with the leftmost occurrence of `old` replaced by `new`. -/
def replaceFirst (old new : List Char) : List Char → List Char
  | [] => if old.isEmpty then new else []
  | c :: rest =>
    if old.isPrefixOf (c :: rest) then new ++ (c :: rest).drop old.length
    else c :: replaceFirst old new rest

theorem replaceFirst_of_not_occurs {old new cs : List Char} (h : occurs old cs = false) :
    replaceFirst old new cs = cs := by
  induction cs with
  | nil => simp_all [occurs, replaceFirst]
  | cons c rest ih =>
    simp only [occurs, Bool.or_eq_false_iff] at h
    simp [replaceFirst, h.1, ih h.2]

/-- The two sides of the leftmost occurrence of `mark`. -/
def cut? (mark : List Char) : List Char → Option (List Char × List Char)
  | [] => if mark.isEmpty then some ([], []) else none
  | c :: rest =>
    if mark.isPrefixOf (c :: rest) then some ([], (c :: rest).drop mark.length)
    else (cut? mark rest).map fun sides => (c :: sides.1, sides.2)

theorem cut?_eq_some {mark cs before after : List Char} (h : cut? mark cs = some (before, after)) :
    cs = before ++ mark ++ after := by
  induction cs generalizing before after with
  | nil =>
    by_cases hm : mark = []
    · subst hm; simp [cut?] at h; simp [h]
    · simp [cut?, hm] at h
  | cons c rest ih =>
    by_cases hp : mark.isPrefixOf (c :: rest)
    · obtain ⟨tail, ht⟩ := List.isPrefixOf_iff_prefix.1 hp
      simp only [cut?, hp, if_true, Option.some.injEq, Prod.mk.injEq] at h
      obtain ⟨rfl, rfl⟩ := h
      simp [← ht]
    · simp only [cut?, hp, Bool.false_eq_true, if_false, Option.map_eq_some_iff] at h
      obtain ⟨⟨b, a⟩, hba, hc⟩ := h
      simp only [Prod.mk.injEq] at hc
      obtain ⟨rfl, rfl⟩ := hc
      simp [ih hba]

theorem cut?_eq_none {mark cs : List Char} : cut? mark cs = none ↔ occurs mark cs = false := by
  induction cs with
  | nil => simp [cut?, occurs]
  | cons c rest ih => by_cases hp : mark.isPrefixOf (c :: rest) <;> simp [cut?, occurs, hp, ih]

end Relink.Text
