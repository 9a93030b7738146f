import Relink.Proofs.Fix.Counters

/-!
# What is counted as changed

A stage tells a change by comparing the value that it writes with the value that it has read. That
is the same as asking whether the rule applies to what was read, unless the two texts of the rule are
the same: then nothing is ever changed. So every rewrite that is counted as a change has replaced the
leftmost occurrence of the text in its value.

* `Outcome.Due.changing_eq`: which outcomes are changes.
* `Told.changed_eq`: what a stage counts as changed.
* `rewrites_leftmost`: every rule rewrites leftmost occurrences, and its stages count those.
* `leftmost_rewritten`: the same of the rules that are accepted, told by the texts they are made of.
-/

namespace Relink.Fix

open Job

variable {plan : Plan} {rule : Rule} {format path : String} {outcome : Outcome}
  {outcomes : List Outcome} {result : RuleResult} {trace : List Event}

namespace Outcome

/-- Whether a rewrite was made of a value in which the text to replace occurs. -/
def replaced (rule : Rule) (outcome : Outcome) : Bool := outcome.made && rule.applies outcome.old

/-- **Which outcomes are changes**: those with a text replaced by another. -/
theorem Due.changing_eq (h : outcome.Due plan rule path) :
    outcome.changing = (outcome.replaced rule && rule.old != rule.new) := by
  cases outcome with
  | skipped id old => rfl
  | asked request selected =>
    obtain ⟨-, hnew, -, -⟩ := h
    have hne : (request.new != request.old) =
        (rule.applies request.old && rule.old != rule.new) := by
      rw [hnew, Bool.eq_iff_iff, bne_iff_ne, Rule.apply_ne_iff, Bool.and_eq_true, bne_iff_ne]
    rw [changing, replaced, made, hne, Outcome.old, Bool.and_assoc]

end Outcome

/-- **What a stage counts as changed** are the rewrites of values to which the rule applies, if its
two texts differ, and else nothing. -/
theorem Told.changed_eq (h : Told plan format rule outcomes result trace) :
    result.changed =
      if rule.old = rule.new then 0 else (outcomes.countP (Outcome.replaced rule) : Int) := by
  have hcount : result.changed = outcomes.countP Outcome.changing := by
    rw [h.result_eq, resultOf]
  have heach : outcomes.countP Outcome.changing =
      outcomes.countP fun o => o.replaced rule && rule.old != rule.new := by
    refine List.countP_congr fun outcome hm => ?_
    rw [(h.due outcome hm).changing_eq]
  rw [hcount, heach]
  by_cases hsame : rule.old = rule.new
  · simp [hsame]
  · have hdiffer : (rule.old != rule.new) = true := bne_iff_ne.2 hsame
    simp [hsame, hdiffer]

/-- **Rules rewrite leftmost occurrences**, be they accepted or not. Nothing is asked of the text to
replace: the empty one stands first of all at the front of a value. -/
theorem rewrites_leftmost (rule : Rule) :
    (∀ value,
      (rule.applies value = true ↔ ∃ before after, value = before ++ rule.old ++ after) ∧
        (rule.applies value = true → ∃ before after, Rule.Leftmost rule.old value before after) ∧
        (∀ before after, Rule.Leftmost rule.old value before after →
          rule.apply value = before ++ rule.new ++ after) ∧
        (rule.applies value = false → rule.apply value = value) ∧
        (rule.apply value ≠ value ↔ rule.applies value = true ∧ rule.old ≠ rule.new)) ∧
      ∀ plan format schedule, (fixRule plan format rule).Leaves schedule fun result trace =>
        ∃ outcomes, Told plan format rule outcomes result trace ∧
          result.changed =
            if rule.old = rule.new then 0
            else (outcomes.countP (Outcome.replaced rule) : Int) := by
  refine ⟨fun value => ⟨Rule.applies_iff, Rule.exists_leftmost,
    fun _ _ => Rule.apply_eq_of_leftmost, Rule.apply_of_not_applies, Rule.apply_ne_iff⟩, ?_⟩
  intro plan format schedule
  refine (fixRule_told plan format rule).mono ?_
  rintro result trace ⟨outcomes, htold, -⟩
  exact ⟨outcomes, htold, htold.changed_eq⟩

/-- **Accepted rules rewrite leftmost occurrences.** A rule applies to the values in which its text
stands somewhere, and then replaces the occurrence that begins first; every other value stays. So a
value is changed exactly if the text occurs in it and is replaced by another; and these are the
values that a stage counts as changed, whatever other writers do. -/
theorem leftmost_rewritten {name field pattern old new : String}
    (h : Rule.make name field pattern old new = .ok rule) :
    (∀ value,
      (rule.applies value = true ↔ ∃ before after, value = before ++ old ++ after) ∧
        (rule.applies value = true → ∃ before after, Rule.Leftmost old value before after) ∧
        (∀ before after, Rule.Leftmost old value before after →
          rule.apply value = before ++ new ++ after) ∧
        (rule.applies value = false → rule.apply value = value) ∧
        (rule.apply value ≠ value ↔ rule.applies value = true ∧ old ≠ new)) ∧
      ∀ plan format schedule, (fixRule plan format rule).Leaves schedule fun result trace =>
        ∃ outcomes, Told plan format rule outcomes result trace ∧
          result.changed =
            if old = new then 0 else (outcomes.countP (Outcome.replaced rule) : Int) := by
  obtain ⟨-, -, -, -, rfl, rfl⟩ := Rule.make_ok h
  exact rewrites_leftmost rule

/-- Three slashes hold two occurrences of two slashes, and the first one is replaced. -/
theorem leftmost_rewritten_slashes :
    ∃ rule, Rule.make "slashes" "href" "onsdigital" "//" "/-/" = .ok rule ∧
      rule.apply "http:///a.csv" = "http:/-//a.csv" ∧
      rule.apply "http:///a.csv" ≠ "http:///a.csv" ∧ rule.apply "a.csv" = "a.csv" := by
  have hread := Defaults.read_defaultPatterns Defaults.commandPattern List.mem_cons_self
  have hmake : Rule.make "slashes" "href" "onsdigital" "//" "/-/" =
      .ok ⟨"slashes", .href, Defaults.commandPattern, "//", "/-/"⟩ := by
    have hfield : LinkField.ofKey? "href" = some .href := LinkField.ofKey?_key .href
    have hold : "//".isEmpty = false := by decide
    simp only [Rule.make, hfield, hold, Bool.false_eq_true, if_false]
    rw [show Pattern.read "onsdigital" = .ok Defaults.commandPattern from hread]
  obtain ⟨hvalues, -⟩ := leftmost_rewritten hmake
  obtain ⟨happlies, -, hreplaced, -, hchanged⟩ := hvalues "http:///a.csv"
  obtain ⟨-, -, -, hkept, -⟩ := hvalues "a.csv"
  have hsplit : "http:///a.csv" = "http:" ++ "//" ++ "/a.csv" := by decide
  have hfirst : Rule.Leftmost "//" "http:///a.csv" "http:" "/a.csv" := ⟨hsplit, by decide⟩
  exact ⟨_, hmake, (hreplaced "http:" "/a.csv" hfirst).trans (by decide),
    hchanged.2 ⟨happlies.2 ⟨"http:", "/a.csv", hsplit⟩, by decide⟩, hkept (by decide)⟩

end Relink.Fix
