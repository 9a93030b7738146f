import Mathlib.Tactic.ByContra
import Relink.Proofs.Text.Overlap
import Relink.Rule

/-!
# Leftmost occurrences

The text that a rule replaces may overlap itself, so that a value holds more occurrences of it than
fit side by side. Of all of them the one that begins first is replaced, and nothing else of the
value is touched. So a value stays exactly if the text does not occur in it, or is replaced by
itself.

* `Text.cut?_eq_some_iff`: a text is cut at its leftmost occurrence.
* `Rule.apply_eq_of_leftmost`: what a rule makes of a value.
* `Rule.apply_ne_iff`: of which values a rule makes other ones.
-/

namespace Relink

namespace Text

variable {part cs rest front front' back back' : List Char} {c : Char}

/-- **The leftmost occurrence** of a part in a text stands between a front and a back: no occurrence
begins at an earlier place. -/
structure Leftmost (part cs front back : List Char) : Prop where
  split : cs = front ++ part ++ back
  first : ∀ n < front.length, ¬ part <+: cs.drop n

/-- No occurrence begins earlier than the leftmost one. -/
theorem Leftmost.length_le (h : Leftmost part cs front back) (hs : cs = front' ++ part ++ back') :
    front.length ≤ front'.length := by
  by_contra hlt
  have hdrop : cs.drop front'.length = part ++ back' := by
    rw [hs, List.append_assoc, List.drop_left]
  exact h.first front'.length (by omega) (hdrop ▸ List.prefix_append part back')

/-- **There is one leftmost occurrence.** -/
theorem Leftmost.unique (h : Leftmost part cs front back) (h' : Leftmost part cs front' back') :
    front = front' ∧ back = back' := by
  have hle := h.length_le h'.split
  have hge := h'.length_le h.split
  have hsame : front ++ (part ++ back) = front' ++ (part ++ back') := by
    rw [← List.append_assoc, ← List.append_assoc, ← h.split, ← h'.split]
  obtain ⟨hfront, hrest⟩ := List.append_inj hsame (by omega)
  exact ⟨hfront, List.append_cancel_left hrest⟩

theorem leftmost_of_cut? (h : cut? part cs = some (front, back)) :
    Leftmost part cs front back := by
  refine ⟨cut?_eq_some h, ?_⟩
  induction cs generalizing front with
  | nil =>
    have hfront : front = [] := by
      have hsplit := cut?_eq_some h
      simp_all
    simp [hfront]
  | cons c rest ih =>
    by_cases hp : part.isPrefixOf (c :: rest)
    · simp only [cut?, hp, if_true, Option.some.injEq, Prod.mk.injEq] at h
      simp [← h.1]
    · -- nothing begins at the first place, so the occurrence is that of the rest
      simp only [cut?, hp, Bool.false_eq_true, if_false, Option.map_eq_some_iff] at h
      obtain ⟨⟨before, after⟩, hrest, hsides⟩ := h
      obtain ⟨rfl, rfl⟩ := Prod.mk.inj hsides
      intro n hn
      cases n with
      | zero => exact mt List.isPrefixOf_iff_prefix.2 hp
      | succ n => exact ih hrest n (by simpa using hn)

/-- **A text is cut at its leftmost occurrence.** -/
theorem cut?_eq_some_iff : cut? part cs = some (front, back) ↔ Leftmost part cs front back := by
  refine ⟨leftmost_of_cut?, fun h => ?_⟩
  cases hcut : cut? part cs with
  | none =>
    have hinfix : part <:+: cs := ⟨front, back, h.split.symm⟩
    have hnone := cut?_eq_none.1 hcut
    rw [Text.occurs_iff_infix.2 hinfix] at hnone
    cases hnone
  | some sides =>
    obtain ⟨rfl, rfl⟩ := (leftmost_of_cut? hcut).unique h
    rfl

end Text

namespace Rule

variable {rule : Rule} {value before after : String}

/-- **The leftmost occurrence of the text to replace** in a value. -/
def Leftmost (old value before after : String) : Prop :=
  value = before ++ old ++ after ∧
    ∀ n < before.toList.length, ¬ old.toList <+: value.toList.drop n

theorem leftmost_iff {old : String} : Leftmost old value before after ↔
    Text.Leftmost old.toList value.toList before.toList after.toList := by
  have hsplit : value = before ++ old ++ after ↔
      value.toList = before.toList ++ old.toList ++ after.toList := by
    rw [← String.toList_inj, String.toList_append, String.toList_append]
  rw [Leftmost, hsplit]
  exact ⟨fun h => ⟨h.1, h.2⟩, fun h => ⟨h.split, h.first⟩⟩

/-- A rule applies exactly to the values in which its text stands somewhere. -/
theorem applies_iff : rule.applies value = true ↔
    ∃ before after, value = before ++ rule.old ++ after := by
  rw [applies, Text.occurs_iff_infix]
  constructor
  · rintro ⟨front, back, h⟩
    refine ⟨String.ofList front, String.ofList back, String.toList_inj.1 ?_⟩
    simp [← h]
  · rintro ⟨before, after, rfl⟩
    exact ⟨before.toList, after.toList, by simp⟩

/-- Where a rule applies there is a leftmost occurrence. -/
theorem exists_leftmost (h : rule.applies value = true) :
    ∃ before after, Leftmost rule.old value before after := by
  cases hcut : Text.cut? rule.old.toList value.toList with
  | none =>
    rw [applies, Text.cut?_eq_none.1 hcut] at h
    cases h
  | some sides =>
    refine ⟨String.ofList sides.1, String.ofList sides.2, leftmost_iff.2 ?_⟩
    rw [String.toList_ofList, String.toList_ofList]
    exact Text.leftmost_of_cut? hcut

/-- **A rule replaces the leftmost occurrence**, and nothing else. -/
theorem apply_eq_of_leftmost (h : Leftmost rule.old value before after) :
    rule.apply value = before ++ rule.new ++ after := by
  have hcut := Text.cut?_eq_some_iff.2 (leftmost_iff.1 h)
  rw [← String.toList_inj, apply, Text.replaceFirst_of_cut? hcut]
  simp

/-- **A rule makes another value** of exactly those to which it applies, unless its two texts are
the same. -/
theorem apply_ne_iff :
    rule.apply value ≠ value ↔ rule.applies value = true ∧ rule.old ≠ rule.new := by
  cases ha : rule.applies value with
  | false => simp [apply_of_not_applies ha]
  | true =>
    obtain ⟨before, after, h⟩ := exists_leftmost ha
    have hsame : before ++ rule.new ++ after = value ↔ rule.new = rule.old := by
      conv_lhs => rw [h.1]
      simp [String.append_right_inj, String.append_left_inj]
    rw [apply_eq_of_leftmost h, ne_eq, hsame, eq_comm]
    simp

end Rule

end Relink
