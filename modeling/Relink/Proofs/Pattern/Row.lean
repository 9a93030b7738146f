import Relink.Pattern.Basic

/-!
# Rows of single characters

A pattern that is a row of trees, each of which takes one character, is found exactly where some
part of the text agrees with the row character by character. So it is found in all that a text with
it is part of.

* `run_row`: what a row takes at a cursor.
* `foundFrom_row`: where a row is found.
* `foundFrom_row_of_infix`: a row found in a part is found in the whole.
* `foundFrom_row_around`: around a text that a row cannot touch, the row is found in the front or in
  the back.
-/

namespace Relink.Pattern.Node

variable {nodes : List Node} {cs part before before' : List Char}

/-- Whether a tree takes exactly one character. -/
def isNarrow : Node → Bool
  | char _ _ | any _ => true
  | _ => false

/-- Whether a tree takes a character. -/
def takes : Node → Char → Bool
  | char scope set, c => set.holds scope c
  | any lineEnds, c => lineEnds || c != '\n'
  | _, _ => false

/-- Whether a row agrees with the beginning of a text, character by character. -/
def agrees : List Node → List Char → Bool
  | [], _ => true
  | _ :: _, [] => false
  | node :: rest, c :: cs => node.takes c && agrees rest cs

theorem run_narrow {node : Node} (h : node.isNarrow = true) (s : Cursor) (next : Next) :
    run node s next = if agrees [node] s.after then next (s.forward 1) else none := by
  obtain ⟨before, after, marks⟩ := s
  cases node <;> cases after <;> simp_all [isNarrow, run, agrees, takes]

/-- **What a row takes** at a cursor, if each of its trees takes one character. -/
theorem run_row (h : ∀ node ∈ nodes, node.isNarrow = true) (s : Cursor) (next : Next) :
    run (row nodes) s next =
      if agrees nodes s.after then next (s.forward nodes.length) else none := by
  induction nodes generalizing s with
  | nil => simp [row, run, agrees, Cursor.forward]
  | cons node rest ih =>
    obtain ⟨h1, h2⟩ := List.forall_mem_cons.1 h
    rw [run_row_cons, run_narrow h1]
    obtain ⟨before, after, marks⟩ := s
    cases after with
    | nil => simp [agrees]
    | cons c more =>
      have hrest := ih h2 ⟨c :: before, more, marks⟩
      cases ht : node.takes c <;> simp [agrees, ht, Cursor.forward, hrest]

theorem agrees_append (h : agrees nodes cs = true) (more : List Char) :
    agrees nodes (cs ++ more) = true := by
  induction nodes generalizing cs with
  | nil => rfl
  | cons node rest ih =>
    cases cs with
    | nil => cases h
    | cons c cs =>
      simp only [agrees, List.cons_append, Bool.and_eq_true] at h ⊢
      exact ⟨h.1, ih h.2⟩

/-- **Where a row is found.** -/
theorem foundFrom_row (h : ∀ node ∈ nodes, node.isNarrow = true) :
    foundFrom (row nodes) before cs = true ↔ ∃ back, back <:+ cs ∧ agrees nodes back = true := by
  -- at a cursor the search does nothing but run the row
  have hhere : ∀ s : Cursor, (run (row nodes) s some).isSome = agrees nodes s.after := by
    intro s
    rw [run_row h]
    split <;> simp_all
  induction cs generalizing before with
  | nil => simp [foundFrom, hhere]
  | cons c rest ih =>
    simp only [foundFrom, Bool.or_eq_true, hhere, ih, List.suffix_cons_iff]
    constructor
    · rintro (ha | ⟨back, hb, ha⟩)
      · exact ⟨_, Or.inl rfl, ha⟩
      · exact ⟨back, Or.inr hb, ha⟩
    · rintro ⟨back, rfl | hb, ha⟩
      · exact Or.inl ha
      · exact Or.inr ⟨back, hb, ha⟩

/-- **A row found in a part is found in the whole.** -/
theorem foundFrom_row_of_infix (h : ∀ node ∈ nodes, node.isNarrow = true)
    (hf : foundFrom (row nodes) before part = true) (hi : part <:+: cs) :
    foundFrom (row nodes) before' cs = true := by
  obtain ⟨front, more, rfl⟩ := hi
  rw [foundFrom_row h] at hf ⊢
  obtain ⟨back, hb, ha⟩ := hf
  refine ⟨back ++ more, ?_, agrees_append ha more⟩
  obtain ⟨start, rfl⟩ := hb
  exact ⟨front ++ start, by simp⟩

/-- The members of a row. -/
def members : Node → List Node
  | empty => []
  | seq first second => first :: members second
  | node => [node]

/-- Whether a row and a text differ at a place that both have. -/
def clashes : List Node → List Char → Bool
  | node :: rest, c :: cs => !node.takes c || clashes rest cs
  | _, _ => false

theorem agrees_of_clashes (h : clashes nodes cs = true) (more : List Char) :
    agrees nodes (cs ++ more) = false := by
  induction nodes generalizing cs with
  | nil => cases h
  | cons node rest ih =>
    cases cs with
    | nil => cases h
    | cons c cs =>
      simp only [clashes, Bool.or_eq_true, Bool.not_eq_true'] at h
      rw [List.cons_append, agrees]
      rcases h with ht | hr
      · rw [ht, Bool.false_and]
      · rw [ih hr, Bool.and_false]

/-- **A row cannot touch a text**: wherever the row begins, before the text or in it, the two differ
where they meet. -/
def Avoids (nodes : List Node) (middle : List Char) : Prop :=
  (∀ n < nodes.length, clashes (nodes.drop n) middle = true) ∧
    ∀ n < middle.length, clashes nodes (middle.drop n) = true

instance (nodes : List Node) (middle : List Char) : Decidable (Avoids nodes middle) :=
  inferInstanceAs (Decidable (_ ∧ _))

/-- A row that cannot touch the middle agrees with the front alone, or not at all. -/
theorem agrees_append_of_clashes {middle : List Char}
    (h : ∀ n < nodes.length, clashes (nodes.drop n) middle = true) (front back : List Char) :
    agrees nodes (front ++ (middle ++ back)) = agrees nodes front := by
  induction nodes generalizing front with
  | nil => rfl
  | cons node rest ih =>
    have hrest : ∀ n < rest.length, clashes (rest.drop n) middle = true := by
      intro n hn
      exact h (n + 1) (by simp; omega)
    cases front with
    | nil => exact agrees_of_clashes (h 0 (by simp)) back
    | cons c front =>
      rw [List.cons_append, agrees, agrees, ih hrest]

/-- The search for a row, place by place. -/
theorem foundFrom_row_cons (h : ∀ node ∈ nodes, node.isNarrow = true) (c : Char) :
    foundFrom (row nodes) before (c :: cs) =
      (agrees nodes (c :: cs) || foundFrom (row nodes) (c :: before) cs) := by
  rw [foundFrom, run_row h]
  cases agrees nodes (c :: cs) <;> simp

/-- Where a row is found does not depend on what stands before. -/
theorem foundFrom_row_before (h : ∀ node ∈ nodes, node.isNarrow = true) :
    foundFrom (row nodes) before cs = foundFrom (row nodes) before' cs := by
  rw [Bool.eq_iff_iff, foundFrom_row h, foundFrom_row h]

/-- Past a text in which a row cannot begin the search goes on behind it. -/
theorem foundFrom_row_past {middle : List Char} (h : ∀ node ∈ nodes, node.isNarrow = true)
    (hm : ∀ n < middle.length, clashes nodes (middle.drop n) = true) (back : List Char) :
    foundFrom (row nodes) before (middle ++ back) = foundFrom (row nodes) before back := by
  induction middle generalizing before with
  | nil => rfl
  | cons c rest ih =>
    have hfirst : agrees nodes (c :: (rest ++ back)) = false :=
      agrees_of_clashes (hm 0 (by simp)) back
    have hrest : ∀ n < rest.length, clashes nodes (rest.drop n) = true := by
      intro n hn
      exact hm (n + 1) (by simp; omega)
    rw [List.cons_append, foundFrom_row_cons h, hfirst, Bool.false_or, ih hrest,
      foundFrom_row_before h]

/-- **Around a text that a row cannot touch** the row is found in the front or in the back. -/
theorem foundFrom_row_around {middle : List Char} (h : ∀ node ∈ nodes, node.isNarrow = true)
    (hne : nodes ≠ []) (ha : Avoids nodes middle) (front back : List Char) :
    foundFrom (row nodes) before (front ++ (middle ++ back)) =
      (foundFrom (row nodes) before front || foundFrom (row nodes) before back) := by
  induction front generalizing before with
  | nil =>
    have hempty : foundFrom (row nodes) before [] = false := by
      obtain ⟨node, rest, rfl⟩ := List.exists_cons_of_ne_nil hne
      rw [foundFrom, run_row h]
      rfl
    rw [List.nil_append, foundFrom_row_past h ha.2, hempty, Bool.false_or]
  | cons c rest ih =>
    have hagrees : agrees nodes (c :: (rest ++ (middle ++ back))) = agrees nodes (c :: rest) :=
      agrees_append_of_clashes ha.1 (c :: rest) back
    have hback : foundFrom (row nodes) (c :: before) back = foundFrom (row nodes) before back :=
      foundFrom_row_before h
    rw [List.cons_append, foundFrom_row_cons h, foundFrom_row_cons h, hagrees, ih, hback,
      Bool.or_assoc]

end Relink.Pattern.Node
