import Relink.Proofs.Text.Overlap

/-!
# Replacing two texts in either order

Replacing the leftmost occurrences of two texts, one after the other, gives the same text in either
order if the two cannot disturb each other (`Commuting`): no occurrence of one can tell the other
from what replaces it, and an occurrence of the second begins in the first at most with a last
character that all of them keep.

* `replaceFirst_append`: without an occurrence that begins in the front, the front stays.
* `replaceFirst_comm`: the two replacements commute.
-/

namespace Relink.Text

variable {part old new other another front shared : List Char}

/-- Two texts differ at a place that both have. -/
def Differ (xs ys : List Char) : Prop := ¬ xs <+: ys ∧ ¬ ys <+: xs

instance (xs ys : List Char) : Decidable (Differ xs ys) := inferInstanceAs (Decidable (_ ∧ _))

theorem Differ.not_prefix_append {xs ys : List Char} (h : Differ xs ys) (more : List Char) :
    ¬ xs <+: ys ++ more := by
  rw [prefix_append_iff]
  rintro (hp | ⟨hp, -⟩)
  · exact h.1 hp
  · exact h.2 hp

theorem replaceFirst_prefix (hne : old ≠ []) (new more : List Char) :
    replaceFirst old new (old ++ more) = new ++ more := by
  obtain ⟨c, rest, rfl⟩ := List.exists_cons_of_ne_nil hne
  have hp : (c :: rest).isPrefixOf (c :: (rest ++ more)) = true :=
    List.isPrefixOf_iff_prefix.2 (List.prefix_append (c :: rest) more)
  simp [replaceFirst, hp]

theorem replaceFirst_cons {c : Char} {cs : List Char} (h : ¬ old <+: c :: cs) (new : List Char) :
    replaceFirst old new (c :: cs) = c :: replaceFirst old new cs := by
  rw [← List.isPrefixOf_iff_prefix] at h
  simp [replaceFirst, h]

/-- **Without an occurrence that begins in the front**, replacing goes on behind it. -/
theorem replaceFirst_append {back : List Char}
    (h : ∀ n < front.length, ¬ old <+: front.drop n ++ back) (new : List Char) :
    replaceFirst old new (front ++ back) = front ++ replaceFirst old new back := by
  induction front with
  | nil => rfl
  | cons c rest ih =>
    have hc : ¬ old <+: c :: (rest ++ back) := h 0 (by simp)
    have hrest : ∀ n < rest.length, ¬ old <+: rest.drop n ++ back := by
      intro n hn
      exact h (n + 1) (by simp; omega)
    rw [List.cons_append, replaceFirst_cons hc, ih hrest, List.cons_append]

/-- Replacing `old` behind a character keeps whether `part` stands at that character. -/
theorem EdgesKept.prefix_cons_iff (h : EdgesKept part old new) (c : Char) (cs : List Char) :
    part <+: c :: replaceFirst old new cs ↔ part <+: c :: cs := by
  cases ho : occurs old cs with
  | false => rw [replaceFirst_of_not_occurs ho]
  | true =>
    obtain ⟨front, back, rfl, hr⟩ := replaceFirst_of_occurs new ho
    rw [hr, List.append_assoc, List.append_assoc, ← List.cons_append, ← List.cons_append,
      prefix_append_iff part (c :: front) (new ++ back),
      prefix_append_iff part (c :: front) (old ++ back)]
    -- what is missing of `part` behind the front begins either text or neither
    have hmissing : (c :: front).length < part.length →
        (part.drop (c :: front).length <+: new ++ back ↔
          part.drop (c :: front).length <+: old ++ back) := by
      intro hlt
      exact ((h.1 _ hlt (by simp)).prefix_iff back).symm
    constructor
    · rintro (hp | ⟨hf, hlt, hm⟩)
      · exact Or.inl hp
      · exact Or.inr ⟨hf, hlt, (hmissing hlt).1 hm⟩
    · rintro (hp | ⟨hf, hlt, hm⟩)
      · exact Or.inl hp
      · exact Or.inr ⟨hf, hlt, (hmissing hlt).2 hm⟩

/-- A single character with which both texts begin stays where it stands. -/
theorem exists_replaceFirst_shared (hs : shared.length ≤ 1) (ho : shared <+: other)
    (ha : shared <+: another) (back : List Char) :
    ∃ rest, replaceFirst other another (shared ++ back) = shared ++ rest := by
  match shared, hs with
  | [], _ => exact ⟨_, rfl⟩
  | [c], _ =>
    obtain ⟨more, rfl⟩ := ha
    by_cases hp : other <+: c :: back
    · obtain ⟨tail, ht⟩ := hp
      have hne : other ≠ [] := by
        rintro rfl
        simpa using ho.length_le
      refine ⟨more ++ tail, ?_⟩
      show replaceFirst other ([c] ++ more) (c :: back) = [c] ++ (more ++ tail)
      rw [← ht, replaceFirst_prefix hne, List.append_assoc]
    · exact ⟨replaceFirst other ([c] ++ more) back, replaceFirst_cons hp _⟩

/-- **Two replacements that do not disturb each other**: of `front ++ shared` by `front' ++ shared`,
and of `other` by `another`. -/
def Commuting (shared front front' other another : List Char) : Prop :=
  (shared.length ≤ 1 ∧ shared <+: other ∧ shared <+: another) ∧
    (front ++ shared ≠ [] ∧ other ≠ []) ∧
    EdgesKept (front ++ shared) other another ∧
    EdgesKept other (front ++ shared) (front' ++ shared) ∧
    (∀ n < front.length, Differ other (front.drop n ++ shared)) ∧
    (∀ n < front'.length, Differ other (front'.drop n ++ shared)) ∧
    (∀ n < other.length, Differ (front ++ shared) (other.drop n)) ∧
    ∀ n < another.length, Differ (front ++ shared) (another.drop n)

instance (shared front front' other another : List Char) :
    Decidable (Commuting shared front front' other another) :=
  inferInstanceAs (Decidable ((_ ∧ _ ∧ _) ∧ _))

/-- **Two replacements that do not disturb each other commute.** -/
theorem replaceFirst_comm {front' : List Char} (h : Commuting shared front front' other another)
    (cs : List Char) :
    replaceFirst (front ++ shared) (front' ++ shared) (replaceFirst other another cs) =
      replaceFirst other another (replaceFirst (front ++ shared) (front' ++ shared) cs) := by
  obtain ⟨⟨hs, hso, hsa⟩, ⟨hne, hne'⟩, hold, hother, hf, hf', ho, ha⟩ := h
  -- the induction goes to the first place at which one of the two texts stands
  induction cs with
  | nil => simp [replaceFirst, hne, hne']
  | cons c rest ih =>
    by_cases h1 : front ++ shared <+: c :: rest
    · obtain ⟨back, hb⟩ := h1
      obtain ⟨more, hm⟩ := exists_replaceFirst_shared hs hso hsa back
      have hold' : ∀ n < front.length, ¬ other <+: front.drop n ++ (shared ++ back) := by
        intro n hn
        rw [← List.append_assoc]
        exact (hf n hn).not_prefix_append back
      have hnew : ∀ n < front'.length, ¬ other <+: front'.drop n ++ (shared ++ back) := by
        intro n hn
        rw [← List.append_assoc]
        exact (hf' n hn).not_prefix_append back
      rw [← hb, replaceFirst_prefix hne, List.append_assoc front, List.append_assoc front',
        replaceFirst_append hold', replaceFirst_append hnew, hm, ← List.append_assoc front,
        replaceFirst_prefix hne, List.append_assoc front']
    · by_cases h2 : other <+: c :: rest
      · obtain ⟨back, hb⟩ := h2
        have hold' : ∀ n < other.length, ¬ front ++ shared <+: other.drop n ++ back := by
          intro n hn
          exact (ho n hn).not_prefix_append back
        have hnew : ∀ n < another.length, ¬ front ++ shared <+: another.drop n ++ back := by
          intro n hn
          exact (ha n hn).not_prefix_append back
        rw [← hb, replaceFirst_prefix hne', replaceFirst_append hold', replaceFirst_append hnew,
          replaceFirst_prefix hne']
      · have h1' := fun h => h1 ((hold.prefix_cons_iff c rest).1 h)
        have h2' := fun h => h2 ((hother.prefix_cons_iff c rest).1 h)
        rw [replaceFirst_cons h1, replaceFirst_cons h2, replaceFirst_cons h1',
          replaceFirst_cons h2', ih]

end Relink.Text
