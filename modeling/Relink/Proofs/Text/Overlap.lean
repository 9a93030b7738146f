import Relink.Text.Occurrence

/-!
# Counting occurrences with overlaps

How often a text stands in another, overlaps counted, and what replacing the leftmost occurrence
of `old` by `new` does to that number.

* `positions_eq_countP`: the number of occurrences, told by the places at which they begin.
* `positions_append`: the occurrences in a joined text are those in the two parts and those that
  reach from the first into the second.
* `positions_replaceFirst`: if no occurrence of `part` across an edge of the replaced text can
  tell `old` from `new` (`EdgesKept`), then replacing changes the number of occurrences of `part`
  by exactly the difference between `new` and `old` alone.
-/

namespace Relink.Text

variable {part old new : List Char}

/-- **The number of positions at which `part` stands in a text**, overlaps counted. -/
def positions (part : List Char) : List Char → Nat
  | [] => if part = [] then 1 else 0
  | c :: rest => (if part <+: c :: rest then 1 else 0) + positions part rest

/-- What is missing of `part` behind a text, for each position of the text at which `part` begins
and does not end. -/
def dangling (part : List Char) : List Char → List (List Char)
  | [] => []
  | c :: rest =>
    if c :: rest <+: part ∧ (c :: rest).length < part.length then
      part.drop (c :: rest).length :: dangling part rest
    else dangling part rest

/-- The number of occurrences of `part` that begin in `front` and end in `back`. -/
def spanning (part front back : List Char) : Nat :=
  (dangling part front).countP fun missing => decide (missing <+: back)

theorem mem_dangling {missing front : List Char} (h : missing ∈ dangling part front) :
    ∃ n, 0 < n ∧ n < part.length ∧ missing = part.drop n := by
  induction front with
  | nil => simp [dangling] at h
  | cons c rest ih =>
    rw [dangling] at h
    split at h
    · next hd =>
      rcases List.mem_cons.1 h with rfl | h
      · exact ⟨(c :: rest).length, by simp, hd.2, rfl⟩
      · exact ih h
    · exact ih h

/-- A text begins with `part` across an edge exactly if it dangles there and goes on as missing. -/
theorem prefix_append_iff (part front back : List Char) :
    part <+: front ++ back ↔
      part <+: front ∨ front <+: part ∧ front.length < part.length ∧
        part.drop front.length <+: back := by
  constructor
  · intro h
    rcases Nat.lt_or_ge front.length part.length with hlt | hge
    · have hf : front <+: part :=
        List.prefix_of_prefix_length_le (List.prefix_append _ _) h (by omega)
      obtain ⟨missing, rfl⟩ := hf
      exact Or.inr ⟨List.prefix_append _ _, hlt, by
        rw [List.drop_left]; exact (List.prefix_append_right_inj _).1 h⟩
    · exact Or.inl (List.prefix_of_prefix_length_le h (List.prefix_append _ _) hge)
  · rintro (h | ⟨⟨missing, rfl⟩, -, hm⟩)
    · exact h.trans (List.prefix_append _ _)
    · rw [List.drop_left] at hm
      exact (List.prefix_append_right_inj _).2 hm

theorem not_prefix_of_short {front : List Char} (h : front.length < part.length) :
    ¬ part <+: front := by
  intro hp
  have := hp.length_le
  omega

/-- **Occurrences in a joined text.** -/
theorem positions_append (hp : part ≠ []) (front back : List Char) :
    positions part (front ++ back) =
      positions part front + spanning part front back + positions part back := by
  induction front with
  | nil => simp [positions, spanning, dangling, hp]
  | cons c rest ih =>
    have hedge := prefix_append_iff part (c :: rest) back
    simp only [spanning] at ih ⊢
    rw [List.cons_append] at hedge ⊢
    simp only [positions, dangling, ih]
    -- what dangles is too short to hold `part`, so no position counts twice
    by_cases hd : c :: rest <+: part ∧ (c :: rest).length < part.length
    · have hn := not_prefix_of_short hd.2
      simp only [hd, hn, true_and, false_or, and_self, if_true, if_false] at hedge ⊢
      rw [List.countP_cons]
      by_cases hb : part.drop (c :: rest).length <+: back
      · simp only [hedge.2 hb, hb, if_true, decide_true]
        omega
      · have hn' : ¬ part <+: c :: (rest ++ back) := fun h => hb (hedge.1 h)
        simp only [hn', hb, if_false, decide_false, Bool.false_eq_true]
        omega
    · have hsame : part <+: c :: (rest ++ back) ↔ part <+: c :: rest := by
        rw [hedge]
        refine ⟨fun h => h.resolve_right fun h' => hd ⟨h'.1, h'.2.1⟩, Or.inl⟩
      simp only [hd, hsame, if_false]
      omega

/-- Whatever follows, a text that goes on with `old` begins with `missing` exactly if one that
goes on with `new` does. -/
def StartsAlike (missing old new : List Char) : Prop :=
  missing <+: old ∧ missing <+: new ∨
    (¬ missing <+: old ∧ ¬ old <+: missing) ∧ ¬ missing <+: new ∧ ¬ new <+: missing

instance (missing old new : List Char) : Decidable (StartsAlike missing old new) :=
  inferInstanceAs (Decidable (_ ∨ _))

/-- **No occurrence of `part` across an edge can tell `old` from `new`**, in whatever text they
stand. -/
def EdgesKept (part old new : List Char) : Prop :=
  (∀ n < part.length, 0 < n → StartsAlike (part.drop n) old new) ∧
    dangling part old = dangling part new

instance (part old new : List Char) : Decidable (EdgesKept part old new) :=
  inferInstanceAs (Decidable (_ ∧ _))

theorem StartsAlike.prefix_iff {missing : List Char} (h : StartsAlike missing old new)
    (back : List Char) : missing <+: old ++ back ↔ missing <+: new ++ back := by
  rcases h with ⟨ho, hn⟩ | ⟨⟨ho, ho'⟩, hn, hn'⟩
  · exact ⟨fun _ => hn.trans (List.prefix_append _ _), fun _ => ho.trans (List.prefix_append _ _)⟩
  · -- the two differ before `old` or `new` ends, whatever follows
    rw [prefix_append_iff, prefix_append_iff]
    simp [ho, ho', hn, hn']

theorem EdgesKept.spanning_left (h : EdgesKept part old new) (front back : List Char) :
    spanning part front (old ++ back) = spanning part front (new ++ back) := by
  unfold spanning
  apply List.countP_congr
  intro missing hm
  obtain ⟨n, h0, hn, rfl⟩ := mem_dangling hm
  simp only [decide_eq_true_eq]
  exact (h.1 n hn h0).prefix_iff back

theorem EdgesKept.spanning_right (h : EdgesKept part old new) (back : List Char) :
    spanning part old back = spanning part new back := by
  unfold spanning
  rw [h.2]

/-- **One text in place of another between a front and a back.** -/
theorem EdgesKept.positions_between (h : EdgesKept part old new) (hp : part ≠ [])
    (front back : List Char) :
    positions part (front ++ new ++ back) + positions part old =
      positions part (front ++ old ++ back) + positions part new := by
  rw [List.append_assoc, List.append_assoc, positions_append hp, positions_append hp,
    positions_append hp front, positions_append hp old, h.spanning_left, h.spanning_right]
  omega

theorem replaceFirst_of_cut? {cs before after : List Char}
    (h : cut? old cs = some (before, after)) :
    replaceFirst old new cs = before ++ new ++ after := by
  induction cs generalizing before after with
  | nil =>
    by_cases ho : old = []
    · subst ho
      simp only [cut?, List.isEmpty_nil, if_true, Option.some.injEq, Prod.mk.injEq] at h
      obtain ⟨rfl, rfl⟩ := h
      simp [replaceFirst]
    · simp [cut?, ho] at h
  | cons c rest ih =>
    by_cases hp : old.isPrefixOf (c :: rest)
    · simp only [cut?, hp, if_true, Option.some.injEq, Prod.mk.injEq] at h
      obtain ⟨rfl, rfl⟩ := h
      simp [replaceFirst, hp]
    · simp only [cut?, hp, Bool.false_eq_true, if_false, Option.map_eq_some_iff] at h
      obtain ⟨⟨b, a⟩, hba, hc⟩ := h
      simp only [Prod.mk.injEq] at hc
      obtain ⟨rfl, rfl⟩ := hc
      simp [replaceFirst, hp, ih hba]

/-- **Where `old` occurs, its leftmost occurrence is what is replaced.** -/
theorem replaceFirst_of_occurs (new : List Char) {cs : List Char} (h : occurs old cs = true) :
    ∃ front back, cs = front ++ old ++ back ∧ replaceFirst old new cs = front ++ new ++ back := by
  cases hc : cut? old cs with
  | none => rw [cut?_eq_none.1 hc] at h; cases h
  | some sides => exact ⟨sides.1, sides.2, cut?_eq_some hc, replaceFirst_of_cut? hc⟩

/-- **Replacing the leftmost occurrence** changes the number of occurrences of `part` by what
`old` and `new` hold of it. -/
theorem positions_replaceFirst (h : EdgesKept part old new) (hp : part ≠ []) {cs : List Char}
    (ho : occurs old cs = true) :
    positions part (replaceFirst old new cs) + positions part old =
      positions part cs + positions part new := by
  obtain ⟨front, back, rfl, hr⟩ := replaceFirst_of_occurs new ho
  rw [hr]
  exact h.positions_between hp front back

/-- **The number of positions** is the number of places in a text at which `part` begins. -/
theorem positions_eq_countP (hp : part ≠ []) (cs : List Char) :
    positions part cs =
      (List.range cs.length).countP fun n => decide (part <+: cs.drop n) := by
  induction cs with
  | nil => simp [positions, hp]
  | cons c rest ih =>
    have hplaces : List.range (c :: rest).length = 0 :: (List.range rest.length).map (· + 1) :=
      List.range_succ_eq_map
    rw [positions, ih, hplaces, List.countP_cons, List.countP_map, Nat.add_comm]
    simp only [Function.comp_def, List.drop_succ_cons, List.drop_zero, decide_eq_true_eq]

theorem positions_pos_iff (hp : part ≠ []) {cs : List Char} :
    0 < positions part cs ↔ occurs part cs = true := by
  induction cs with
  | nil => simp [positions, occurs, hp]
  | cons c rest ih =>
    rw [positions, occurs, Bool.or_eq_true, ← ih, List.isPrefixOf_iff_prefix]
    by_cases h : part <+: c :: rest
    · simp only [h, if_true, true_or, iff_true]
      omega
    · simp [h]

end Relink.Text
