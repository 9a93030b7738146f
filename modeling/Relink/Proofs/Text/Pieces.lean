import Mathlib.Data.List.DropRight
import Relink.Text.Blank
import Relink.Text.Pieces

/-!
# Splitting and trimming

The two steps in which a list is read from a text, told without the way in which they are carried
out. Splitting finds the pieces without a separator that give the text when they are joined. Trimming
finds the core of a text: what stands between blanks and neither begins nor ends with one.

* `pieces_eq_iff`, `split_eq_iff`: splitting and joining undo each other.
* `trimWhere_eq_iff`, `trim_eq_iff`: a text is trimmed to its core.
-/

namespace Relink.Text

variable {separator : Char} {front cs core : List Char} {parts : List (List Char)}
  {drop : Char → Bool}

theorem pieces_eq_splitOn (separator : Char) (cs : List Char) :
    pieces separator cs = cs.splitOn separator := by
  induction cs with
  | nil => rfl
  | cons c rest ih => rw [pieces, ih, List.splitOn_cons_eq_if_modifyHead]

theorem pieces_of_not_mem (h : separator ∉ front) : pieces separator front = [front] := by
  rw [pieces_eq_splitOn, List.splitOn_eq_singleton h]

/-- **The pieces of two texts** with a separator between them. -/
theorem pieces_append_pieces (front back : List Char) :
    pieces separator (front ++ separator :: back) =
      pieces separator front ++ pieces separator back := by
  simp only [pieces_eq_splitOn, List.splitOn_append_cons_self]

/-- A piece ends at the first separator. -/
theorem pieces_append (h : separator ∉ front) (back : List Char) :
    pieces separator (front ++ separator :: back) = front :: pieces separator back := by
  rw [pieces_append_pieces, pieces_of_not_mem h, List.singleton_append]

theorem not_mem_of_mem_pieces {piece : List Char} (h : piece ∈ pieces separator cs) :
    separator ∉ piece := by
  induction cs generalizing piece with
  | nil =>
    obtain rfl : piece = [] := by simpa [pieces] using h
    exact List.not_mem_nil
  | cons c rest ih =>
    by_cases hc : c = separator
    · rw [pieces, if_pos (beq_iff_eq.2 hc)] at h
      rcases List.mem_cons.1 h with rfl | hrest
      · exact List.not_mem_nil
      · exact ih hrest
    · -- the character goes to the first piece of the rest, which has no separator either
      obtain ⟨first, more, hp⟩ := List.exists_cons_of_ne_nil (pieces_ne_nil separator rest)
      rw [pieces, if_neg (by simpa using hc), hp] at h
      rw [hp] at ih
      rcases List.mem_cons.1 h with rfl | hmore
      · have hfirst : separator ∉ first := ih List.mem_cons_self
        simp [hfirst, Ne.symm hc]
      · exact ih (List.mem_cons_of_mem _ hmore)

/-- **The pieces of a text** are those without a separator that give it when they are joined. -/
theorem pieces_eq_iff : pieces separator cs = parts ↔
    parts ≠ [] ∧ (∀ part ∈ parts, separator ∉ part) ∧ [separator].intercalate parts = cs := by
  constructor
  · rintro rfl
    refine ⟨pieces_ne_nil separator cs, fun part => not_mem_of_mem_pieces, ?_⟩
    rw [pieces_eq_splitOn, List.intercalate_splitOn]
  · rintro ⟨hne, hfree, rfl⟩
    rw [pieces_eq_splitOn, List.splitOn_intercalate separator hfree hne]

/-- **Splitting and joining undo each other.** -/
theorem split_eq_iff {text : String} {parts : List String} : split ',' text = parts ↔
    parts ≠ [] ∧ (∀ part ∈ parts, ',' ∉ part.toList) ∧ ",".intercalate parts = text := by
  have hlists : split ',' text = parts ↔ pieces ',' text.toList = parts.map String.toList := by
    constructor
    · rintro rfl
      simp [split, Function.comp_def]
    · intro h
      simp [split, h, Function.comp_def]
  have hjoined : ",".intercalate parts = text ↔
      [','].intercalate (parts.map String.toList) = text.toList := by
    rw [← String.toList_inj, String.toList_intercalate]
    rfl
  rw [hlists, pieces_eq_iff, hjoined, ne_eq, List.map_eq_nil_iff, List.forall_mem_map]

/-- Trimming takes away what is dropped from the front, and then from the back. -/
theorem exists_trimWhere (drop : Char → Bool) (cs : List Char) :
    ∃ before after, (∀ c ∈ before, drop c = true) ∧ (∀ c ∈ after, drop c = true) ∧
      cs = before ++ trimWhere drop cs ++ after := by
  have hfront : cs.takeWhile drop ++ cs.dropWhile drop = cs := List.takeWhile_append_dropWhile
  have hback : (cs.dropWhile drop).rdropWhile drop ++ (cs.dropWhile drop).rtakeWhile drop =
      cs.dropWhile drop := List.rdropWhile_append_rtakeWhile
  refine ⟨cs.takeWhile drop, (cs.dropWhile drop).rtakeWhile drop,
    fun c => List.mem_takeWhile_imp, fun c => List.mem_rtakeWhile_imp, ?_⟩
  have htrim : trimWhere drop cs = (cs.dropWhile drop).rdropWhile drop := rfl
  rw [htrim, List.append_assoc, hback, hfront]

/-- What is left does not begin with what is dropped. -/
theorem head?_trimWhere {c : Char} (h : (trimWhere drop cs).head? = some c) :
    drop c = false := by
  have hprefix : trimWhere drop cs <+: cs.dropWhile drop := List.rdropWhile_prefix drop _
  obtain ⟨after, hafter⟩ := hprefix
  have hhead : (cs.dropWhile drop).head? = some c := by
    rw [← hafter, List.head?_append, h]
    rfl
  have hnot := List.head?_dropWhile_not drop cs
  rwa [hhead] at hnot

/-- What is left does not end with what is dropped. -/
theorem getLast?_trimWhere {c : Char} (h : (trimWhere drop cs).getLast? = some c) :
    drop c = false := by
  rw [trimWhere, List.getLast?_reverse] at h
  have hnot := List.head?_dropWhile_not drop (cs.dropWhile drop).reverse
  rwa [h] at hnot

/-- What is dropped around a text is trimmed away with that of the text. -/
theorem trimWhere_around {before after : List Char} (hbefore : ∀ c ∈ before, drop c = true)
    (hafter : ∀ c ∈ after, drop c = true) (core : List Char) :
    trimWhere drop (before ++ core ++ after) = trimWhere drop core := by
  have hafter' : ∀ c ∈ after.reverse, drop c = true := fun c hc => hafter c (List.mem_reverse.1 hc)
  unfold trimWhere
  rw [List.append_assoc, List.dropWhile_append_of_pos hbefore, List.dropWhile_append]
  split
  · next hnothing =>
    rw [List.isEmpty_iff.1 hnothing, List.dropWhile_eq_nil_iff.2 hafter]
  · rw [List.reverse_append, List.dropWhile_append_of_pos hafter']

/-- **The core of a text** is what is left when it is trimmed: it neither begins nor ends with what
is dropped, and only such characters stand around it. -/
theorem trimWhere_eq_iff : trimWhere drop cs = core ↔
    ((∀ c, core.head? = some c → drop c = false) ∧ ∀ c, core.getLast? = some c → drop c = false) ∧
      ∃ before after, (∀ c ∈ before, drop c = true) ∧ (∀ c ∈ after, drop c = true) ∧
        cs = before ++ core ++ after := by
  constructor
  · rintro rfl
    exact ⟨⟨fun c => head?_trimWhere, fun c => getLast?_trimWhere⟩, exists_trimWhere drop cs⟩
  · rintro ⟨⟨hhead, hlast⟩, before, after, hbefore, hafter, rfl⟩
    rw [trimWhere_around hbefore hafter, trimWhere_eq_self hhead hlast]

/-- Only blanks stand in a text. -/
def Blank (s : String) : Prop := ∀ c ∈ s.toList, isBlank c = true

/-- **A text has no blanks around it**: it neither begins nor ends with one. -/
def Unpadded (s : String) : Prop :=
  (∀ c, s.toList.head? = some c → isBlank c = false) ∧
    ∀ c, s.toList.getLast? = some c → isBlank c = false

/-- **The core of a text** stands between blanks, and has none around it. -/
def Core (s core : String) : Prop :=
  Unpadded core ∧ ∃ before after, Blank before ∧ Blank after ∧ s = before ++ core ++ after

/-- A text without blanks around it is its own core. -/
theorem Unpadded.core_self {s : String} (h : Unpadded s) : Core s s := by
  have hblank : Blank "" := by simp [Blank]
  exact ⟨h, "", "", hblank, hblank, by simp⟩

/-- **A text is trimmed to its core.** -/
theorem trim_eq_iff {s core : String} : trim s = core ↔ Core s core := by
  have hlists : trim s = core ↔ trimWhere isBlank s.toList = core.toList := by
    rw [trim, ← String.toList_inj, String.toList_ofList]
  rw [hlists, trimWhere_eq_iff, Core, Unpadded]
  refine and_congr_right fun _ => ?_
  constructor
  · rintro ⟨before, after, hbefore, hafter, hs⟩
    refine ⟨String.ofList before, String.ofList after, by simpa [Blank] using hbefore,
      by simpa [Blank] using hafter, String.toList_inj.1 ?_⟩
    simp [hs]
  · rintro ⟨before, after, hbefore, hafter, rfl⟩
    exact ⟨before.toList, after.toList, hbefore, hafter, by simp⟩

end Relink.Text
