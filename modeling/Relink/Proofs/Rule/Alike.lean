import Relink.Proofs.Document.Assign
import Relink.Proofs.Rule.Effect
import Relink.Proofs.Rule.Relink

/-!
# What one default rule leaves to another

Rewriting a link changes the text that another rule for the same link field reads. For the default
rules the two texts are alike all the same: the pattern of the other rule is found in both or in
neither, and so is the text that it replaces. So for every format and every default rule but the one
that was applied, the rewritten document stands for the one before.

* `Defaults.alike_relink`: the rewritten document is alike to the other formats and rules.
* `Defaults.relink_comm`: rewriting for two formats and rules commutes.
-/

namespace Relink

namespace Rule

variable {rule other : Rule} {format format' s : String} {d d' d'' document : Document}

/-- Two values that are read are alike to a rule: they are the same, or texts that it treats the
same way. -/
def AlikeValues (rule : Rule) (v v' : Option Value) : Prop :=
  v' = v ∨ ∃ s s', v = some (.text s) ∧ v' = some (.text s') ∧
    rule.pattern.found s' = rule.pattern.found s ∧ rule.applies s' = rule.applies s

/-- **Two documents are alike to a rule for a format**: they have the same id, both or neither are
selected, and what is read of them is alike. -/
structure Alike (rule : Rule) (format : String) (d d' : Document) : Prop where
  id : d'.id? = d.id?
  holds : (rule.query format).holds d' = (rule.query format).holds d
  values : rule.AlikeValues (Value.reach? (rule.way format) (.map d))
    (Value.reach? (rule.way format) (.map d'))

theorem Alike.refl (rule : Rule) (format : String) (d : Document) : rule.Alike format d d :=
  ⟨rfl, rfl, Or.inl rfl⟩

theorem AlikeValues.trans {v v' v'' : Option Value} (h : rule.AlikeValues v v')
    (h' : rule.AlikeValues v' v'') : rule.AlikeValues v v'' := by
  rcases h with rfl | ⟨s, s', rfl, rfl, hf, ha⟩
  · exact h'
  · rcases h' with rfl | ⟨t, t', ht, rfl, hf', ha'⟩
    · exact Or.inr ⟨s, s', rfl, rfl, hf, ha⟩
    · obtain rfl : s' = t := by simpa using ht
      exact Or.inr ⟨s, t', rfl, rfl, hf'.trans hf, ha'.trans ha⟩

theorem Alike.trans (h : rule.Alike format d d') (h' : rule.Alike format d' d'') :
    rule.Alike format d d'' :=
  ⟨h'.id.trans h.id, h'.holds.trans h.holds, h.values.trans h'.values⟩

/-- Alike documents hold texts that a rule treats the same way, or neither holds a text. -/
theorem Alike.text?_eq_some (h : rule.Alike format d d') (hs : rule.text? format d = some s) :
    ∃ s', rule.text? format d' = some s' ∧ rule.pattern.found s' = rule.pattern.found s ∧
      rule.applies s' = rule.applies s := by
  rw [Rule.text?_eq_some] at hs
  rcases h.values with he | ⟨t, t', ht, ht', hf, ha⟩
  · exact ⟨s, Rule.text?_eq_some.2 (he.trans hs), rfl, rfl⟩
  · obtain rfl : s = t := by simpa using hs.symm.trans ht
    exact ⟨t', Rule.text?_eq_some.2 ht', hf, ha⟩

theorem Alike.text?_eq_none (h : rule.Alike format d d') (hs : rule.text? format d = none) :
    rule.text? format d' = none := by
  rcases h.values with he | ⟨t, t', ht, -⟩
  · rw [text?, he]
    exact hs
  · rw [Rule.text?_eq_some.2 ht] at hs
    cases hs

theorem Alike.selects_eq (h : rule.Alike format d d') :
    rule.selects format d' = rule.selects format d := by
  cases hs : rule.text? format d with
  | none => rw [selects, selects, hs, h.text?_eq_none hs]
  | some s =>
    obtain ⟨s', hs', hf, -⟩ := h.text?_eq_some hs
    rw [selects, selects, hs, hs', Option.any_some, Option.any_some, hf]

/-- **What is read of alike documents**: texts that the rule treats the same way, or the same
fault. -/
theorem Alike.textAt (h : rule.Alike format d d') (hf : '.' ∉ format.toList) :
    (∃ s s', d.textAt (rule.path format) = .ok s ∧ d'.textAt (rule.path format) = .ok s' ∧
        rule.pattern.found s' = rule.pattern.found s ∧ rule.applies s' = rule.applies s) ∨
      ∃ failure : Failure, failure.Malformed ∧ d.textAt (rule.path format) = .error failure ∧
        d'.textAt (rule.path format) = .error failure := by
  rcases h.values with he | ⟨s, s', hs, hs', hfound, ha⟩
  · have hsame : d'.textAt (rule.path format) = d.textAt (rule.path format) := by
      unfold Document.textAt
      rw [steps_path hf, he, h.id]
    cases ht : d.textAt (rule.path format) with
    | ok s => exact Or.inl ⟨s, s, rfl, hsame.trans ht, rfl, rfl⟩
    | error failure =>
      exact Or.inr ⟨failure, Document.malformed_of_textAt ht, rfl, hsame.trans ht⟩
  · exact Or.inl ⟨s, s', (textAt_eq_ok_iff hf).2 hs, (textAt_eq_ok_iff hf).2 hs', hfound, ha⟩

end Rule

namespace Defaults

variable {rule other : Rule} {format format' s : String} {document : Document}

/-- **The rewritten document is alike to the other formats and rules.** -/
theorem alike_relink (hr : rule ∈ rules) (ho : other ∈ rules) (hf : '.' ∉ format.toList)
    (hf' : '.' ∉ format'.toList) (hne : ¬ (format' = format ∧ other.name = rule.name))
    (document : Document) : other.Alike format' document (rule.relink format document) := by
  cases hs : rule.text? format document with
  | none =>
    rw [Rule.relink, hs]
    exact Rule.Alike.refl _ _ _
  | some s =>
    have hset := Rule.relink_setAt hf hs
    by_cases hsame : format' = format ∧ other.field = rule.field
    · -- the other rule reads the rewritten text
      obtain ⟨rfl, hfield⟩ := hsame
      have hname : other.name ≠ rule.name := fun hn => hne ⟨rfl, hn⟩
      have hway : other.way format' = rule.way format' := Rule.way_inj.2 ⟨rfl, hfield⟩
      have hbefore := Rule.text?_eq_some.1 hs
      have hafter := hset.reach?
      have hfound := found_apply hr ho hfield hname s
      refine ⟨Rule.id?_relink hf, ?_, Or.inr ⟨s, rule.apply s, ?_, ?_, hfound, ?_⟩⟩
      · rw [Rule.holds_query, Rule.holds_query, Rule.candidates_path hf, Rule.candidates_path hf,
          hway, Value.candidates_of_reach? hbefore, Value.candidates_of_reach? hafter]
        simp [Condition.metBy, Condition.metBySingle, hfound]
      · rw [hway, hbefore]
      · rw [hway, hafter]
      · exact applies_apply hr ho hfield hname s
    · obtain ⟨h1, h2⟩ := Rule.way_apart hsame
      refine ⟨Rule.id?_relink hf, ?_, Or.inl (hset.reach?_of_apart h1 h2)⟩
      rw [Rule.holds_query, Rule.holds_query, Rule.candidates_path hf', Rule.candidates_path hf',
        hset.candidates_of_apart h1 h2]

/-- Two rules for one link field rewrite the same text. -/
theorem relink_comm_of_same (hr : rule ∈ rules) (ho : other ∈ rules) (hf : '.' ∉ format.toList)
    (hfield : other.field = rule.field) (document : Document) :
    rule.relink format (other.relink format document) =
      other.relink format (rule.relink format document) := by
  have hway : other.way format = rule.way format := Rule.way_inj.2 ⟨rfl, hfield⟩
  have hpath : other.path format = rule.path format := by rw [Rule.path, Rule.path, hfield]
  have htext : other.text? format document = rule.text? format document := by
    rw [Rule.text?, Rule.text?, hway]
  cases hs : rule.text? format document with
  | none =>
    have ht := htext.trans hs
    rw [Rule.relink_of_no_text ht, Rule.relink_of_no_text hs, Rule.relink_of_no_text ht]
  | some s =>
    have ht := htext.trans hs
    have hreach : Value.reach? (Path.steps (rule.path format)) (.map document) =
        some (.text s) := by
      rw [Rule.steps_path hf]
      exact Rule.text?_eq_some.1 hs
    have h1 := Rule.text?_relink hf hfield hs
    have h2 := Rule.text?_relink hf hfield.symm ht
    rw [Rule.relink_of_text h1, Rule.relink_of_text h2, Rule.relink_of_text hs,
      Rule.relink_of_text ht, hpath, Document.assign_assign hreach,
      Document.assign_assign hreach, apply_comm hr ho hfield]

/-- **Rewriting for two formats and rules commutes.** -/
theorem relink_comm (hr : rule ∈ rules) (ho : other ∈ rules) (hf : '.' ∉ format.toList)
    (hf' : '.' ∉ format'.toList) (document : Document) :
    rule.relink format (other.relink format' document) =
      other.relink format' (rule.relink format document) := by
  by_cases hsame : format' = format ∧ other.field = rule.field
  · obtain ⟨rfl, hfield⟩ := hsame
    exact relink_comm_of_same hr ho hf hfield document
  · obtain ⟨h1, h2⟩ := Rule.way_apart hsame
    have hsame' : ¬ (format = format' ∧ rule.field = other.field) :=
      fun h => hsame ⟨h.1.symm, h.2.symm⟩
    -- neither rewriting touches the text that the other reads
    have hkept : rule.text? format (other.relink format' document) = rule.text? format document :=
      Rule.text?_relink_of_ne hf' hsame'
    have hkept' : other.text? format' (rule.relink format document) =
        other.text? format' document := Rule.text?_relink_of_ne hf hsame
    cases hs : rule.text? format document with
    | none =>
      rw [Rule.relink_of_no_text hs, Rule.relink_of_no_text (hkept.trans hs)]
    | some s =>
      cases ht : other.text? format' document with
      | none =>
        rw [Rule.relink_of_no_text ht, Rule.relink_of_no_text (hkept'.trans ht)]
      | some t =>
        have hsteps : Path.steps (rule.path format) = rule.way format := Rule.steps_path hf
        have hsteps' : Path.steps (other.path format') = other.way format' := Rule.steps_path hf'
        have hreach := Rule.text?_eq_some.1 hs
        have hreach' := Rule.text?_eq_some.1 ht
        rw [← hsteps] at h1 h2 hreach
        rw [← hsteps'] at h1 h2 hreach'
        rw [Rule.relink_of_text (hkept.trans hs), Rule.relink_of_text (hkept'.trans ht),
          Rule.relink_of_text hs, Rule.relink_of_text ht]
        exact Document.assign_comm hreach hreach' h1 h2 _ _

end Defaults

end Relink
