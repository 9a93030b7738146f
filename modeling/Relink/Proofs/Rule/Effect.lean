import Relink.Defaults
import Relink.Proofs.Pattern.Row
import Relink.Proofs.Rule.Leftmost
import Relink.Proofs.Text.Commute

/-!
# What a rule does to the occurrences of stale texts

A rule counts the positions of a value at which the text that it replaces stands, overlaps
counted. A default rule that applies takes away one such position of its own, and none of the
other rules for the same link field, although their texts share a slash at which occurrences
overlap. Nor does it hide or bring about the pattern of another rule, so that two default rules can
be applied in either order.

* `Defaults.positions_apply`: the effect of one default rule on the count of another.
* `Defaults.found_of_applies`: where a default rule applies its pattern is found.
* `Defaults.apply_ne_iff`: a default rule changes exactly the values to which it applies.
* `Defaults.applies_apply`, `Defaults.found_apply`: what one default rule leaves to another.
* `Defaults.apply_comm`: default rules for the same link field commute.
* `Defaults.apply_effects`: all that the default rules do to a text.
-/

namespace Relink

variable {rule other : Rule} {value : String}

namespace Rule

/-- **The positions of a value at which the text to replace stands**, overlaps counted. -/
def positions (rule : Rule) (value : String) : Nat :=
  Text.positions rule.old.toList value.toList

theorem positions_pos_iff (h : rule.old ≠ "") :
    0 < rule.positions value ↔ rule.applies value = true :=
  Text.positions_pos_iff fun he => h (String.toList_eq_nil_iff.1 he)

/-- Rewriting one rule's text changes the count of another by what the old and the new text hold of
it, if no occurrence across their edges can tell them apart. -/
theorem positions_apply (h : Text.EdgesKept other.old.toList rule.old.toList rule.new.toList)
    (ho : other.old ≠ "") (ha : rule.applies value = true) :
    other.positions (rule.apply value) + other.positions rule.old =
      other.positions value + other.positions rule.new := by
  have hp : other.old.toList ≠ [] := fun he => ho (String.toList_eq_nil_iff.1 he)
  unfold positions apply
  rw [String.toList_ofList]
  exact Text.positions_replaceFirst h hp ha

end Rule

namespace Defaults

theorem old_ne_empty : ∀ rule ∈ rules, rule.old ≠ "" := by decide

theorem field_of_name : ∀ rule ∈ rules, ∀ other ∈ rules, other.name = rule.name →
    other.field = rule.field := by
  decide

/-- The texts of the default rules overlap with one another, and with what replaces them, at most
at slashes that stay. -/
theorem edgesKept : ∀ rule ∈ rules, ∀ other ∈ rules, other.field = rule.field →
    Text.EdgesKept other.old.toList rule.old.toList rule.new.toList := by
  decide +kernel

theorem positions_old : ∀ rule ∈ rules, ∀ other ∈ rules, other.field = rule.field →
    other.positions rule.old =
      other.positions rule.new + if other.name = rule.name then 1 else 0 := by
  decide +kernel

/-- **The effect of one default rule on the count of another**: one position less of its own, and
none of another rule for the same link field. -/
theorem positions_apply (hr : rule ∈ rules) (ho : other ∈ rules) (hf : other.field = rule.field)
    (ha : rule.applies value = true) :
    other.positions (rule.apply value) + (if other.name = rule.name then 1 else 0) =
      other.positions value := by
  have h := Rule.positions_apply (edgesKept rule hr other ho hf) (old_ne_empty other ho) ha
  rw [positions_old rule hr other ho hf] at h
  omega

/-- The patterns of the default rules are rows of single characters. -/
theorem pattern_row : ∀ rule ∈ rules,
    rule.pattern.tree = Pattern.Node.row rule.pattern.tree.members ∧
      rule.pattern.tree.members ≠ [] ∧
      ∀ node ∈ rule.pattern.tree.members, node.isNarrow = true := by
  decide

theorem found_old : ∀ rule ∈ rules, rule.pattern.found rule.old = true := by decide +kernel

/-- **Where a default rule applies its pattern is found.** -/
theorem found_of_applies (hr : rule ∈ rules) (ha : rule.applies value = true) :
    rule.pattern.found value = true := by
  obtain ⟨ht, -, hn⟩ := pattern_row rule hr
  have hold := found_old rule hr
  unfold Pattern.found at hold ⊢
  rw [ht] at hold ⊢
  exact Pattern.Node.foundFrom_row_of_infix hn hold (Text.occurs_iff_infix.1 ha)

theorem old_ne_new : ∀ rule ∈ rules, rule.old ≠ rule.new := by decide

/-- **A default rule changes exactly the values to which it applies.** -/
theorem apply_ne_iff (hr : rule ∈ rules) :
    rule.apply value ≠ value ↔ rule.applies value = true := by
  rw [Rule.apply_ne_iff, and_iff_left (old_ne_new rule hr)]

/-- **A default rule leaves to another** all positions of its text. -/
theorem positions_apply_other (hr : rule ∈ rules) (ho : other ∈ rules)
    (hf : other.field = rule.field) (hn : other.name ≠ rule.name) (value : String) :
    other.positions (rule.apply value) = other.positions value := by
  cases ha : rule.applies value with
  | false => rw [Rule.apply_of_not_applies ha]
  | true =>
    have h := positions_apply hr ho hf ha
    rwa [if_neg hn, Nat.add_zero] at h

/-- **A default rule leaves to another** whether it applies. -/
theorem applies_apply (hr : rule ∈ rules) (ho : other ∈ rules) (hf : other.field = rule.field)
    (hn : other.name ≠ rule.name) (value : String) :
    other.applies (rule.apply value) = other.applies value := by
  have h := positions_apply_other hr ho hf hn value
  rw [Bool.eq_iff_iff, ← Rule.positions_pos_iff (old_ne_empty other ho),
    ← Rule.positions_pos_iff (old_ne_empty other ho), h]

/-- No pattern of a default rule can touch what another replaces, nor what replaces it. -/
theorem avoids : ∀ rule ∈ rules, ∀ other ∈ rules, other.field = rule.field →
    other.name ≠ rule.name →
      Pattern.Node.Avoids other.pattern.tree.members rule.old.toList ∧
        Pattern.Node.Avoids other.pattern.tree.members rule.new.toList := by
  decide +kernel

/-- **A default rule leaves to another** whether its pattern is found. -/
theorem found_apply (hr : rule ∈ rules) (ho : other ∈ rules) (hf : other.field = rule.field)
    (hn : other.name ≠ rule.name) (value : String) :
    other.pattern.found (rule.apply value) = other.pattern.found value := by
  cases ha : rule.applies value with
  | false => rw [Rule.apply_of_not_applies ha]
  | true =>
    obtain ⟨front, back, hfirst⟩ := Rule.exists_leftmost ha
    have hv : value.toList = front.toList ++ rule.old.toList ++ back.toList :=
      (Rule.leftmost_iff.1 hfirst).split
    have hv' : (rule.apply value).toList = front.toList ++ rule.new.toList ++ back.toList := by
      rw [Rule.apply_eq_of_leftmost hfirst, String.toList_append, String.toList_append]
    obtain ⟨htree, hne, hnarrow⟩ := pattern_row other ho
    obtain ⟨hold, hnew⟩ := avoids rule hr other ho hf hn
    -- before and after, the pattern is found in the front or in the back
    rw [Pattern.found, Pattern.found, hv, hv', htree, List.append_assoc, List.append_assoc,
      Pattern.Node.foundFrom_row_around hnarrow hne hold,
      Pattern.Node.foundFrom_row_around hnarrow hne hnew]

/-- The texts of the two default rules for one link field do not disturb each other: the first ends
with the slash with which the second begins. -/
theorem commuting :
    command.old.toList = "//download.cmd.onsdigital.co.uk".toList ++ ['/'] ∧
      command.new.toList = "//download.ons.gov.uk".toList ++ ['/'] ∧
      Text.Commuting ['/'] "//download.cmd.onsdigital.co.uk".toList
        "//download.ons.gov.uk".toList beta.old.toList beta.new.toList := by
  decide +kernel

theorem apply_command_beta (value : String) :
    command.apply (beta.apply value) = beta.apply (command.apply value) := by
  obtain ⟨hold, hnew, hc⟩ := commuting
  have h := Text.replaceFirst_comm hc value.toList
  rw [← hold, ← hnew] at h
  simp only [Rule.apply, String.toList_ofList, h]

/-- **Default rules for the same link field commute.** -/
theorem apply_comm (hr : rule ∈ rules) (ho : other ∈ rules) (hf : other.field = rule.field)
    (value : String) : rule.apply (other.apply value) = other.apply (rule.apply value) := by
  simp only [rules, List.mem_cons, List.not_mem_nil, or_false] at hr ho
  rcases hr with rfl | rfl | rfl
  · rcases ho with rfl | rfl | rfl
    · rfl
    · exact apply_command_beta value
    · cases hf
  · rcases ho with rfl | rfl | rfl
    · exact (apply_command_beta value).symm
    · rfl
    · cases hf
  · rcases ho with rfl | rfl | rfl
    · cases hf
    · cases hf
    · rfl

/-- **What the default rules do to a text**, overlaps counted. A rule that applies takes away exactly
one of the positions at which the text that it replaces begins. Whether it applies or not, each of
the two rules for one link field leaves to the other all positions of its text, and whether its
pattern is found; and the two can be applied in either order. -/
theorem apply_effects (value : String) :
    (∀ rule ∈ rules, rule.positions value = (List.range value.toList.length).countP fun n =>
        decide (rule.old.toList <+: value.toList.drop n)) ∧
      (∀ rule ∈ rules, rule.applies value = true →
        rule.positions (rule.apply value) + 1 = rule.positions value) ∧
      (beta.positions (command.apply value) = beta.positions value ∧
        beta.pattern.found (command.apply value) = beta.pattern.found value) ∧
      (command.positions (beta.apply value) = command.positions value ∧
        command.pattern.found (beta.apply value) = command.pattern.found value) ∧
      command.apply (beta.apply value) = beta.apply (command.apply value) := by
  have hcommand : command ∈ rules := List.mem_cons_self
  have hbeta : beta ∈ rules := List.mem_cons_of_mem _ List.mem_cons_self
  have hname : beta.name ≠ command.name := by decide
  refine ⟨fun rule hr => ?_, fun rule hr ha => ?_, ⟨?_, ?_⟩, ⟨?_, ?_⟩, apply_command_beta value⟩
  · have hold : rule.old.toList ≠ [] := fun he =>
      old_ne_empty rule hr (String.toList_eq_nil_iff.1 he)
    exact Text.positions_eq_countP hold value.toList
  · have h := positions_apply hr hr rfl ha
    rwa [if_pos rfl] at h
  · exact positions_apply_other hcommand hbeta rfl hname value
  · exact found_apply hcommand hbeta rfl hname value
  · exact positions_apply_other hbeta hcommand rfl hname.symm value
  · exact found_apply hbeta hcommand rfl hname.symm value

/-- A link with two stale texts that share a slash: each rule takes away its own text only. -/
theorem apply_effects_shared_slash :
    let link := "http://download.cmd.onsdigital.co.uk//download.beta.ons.gov.uk/a.csv"
    command.applies link = true ∧ command.positions link = 1 ∧
      command.positions (command.apply link) = 0 ∧ beta.positions (command.apply link) = 1 ∧
      command.apply (beta.apply link) = "http://download.ons.gov.uk//download.ons.gov.uk/a.csv" ∧
      beta.apply (command.apply link) = "http://download.ons.gov.uk//download.ons.gov.uk/a.csv" := by
  intro link
  have ha : command.applies link = true := by decide +kernel
  have hone : command.positions link = 1 := by decide +kernel
  have hother : beta.positions link = 1 := by decide +kernel
  have hboth : command.apply (beta.apply link) =
      "http://download.ons.gov.uk//download.ons.gov.uk/a.csv" := by decide +kernel
  obtain ⟨-, hown, ⟨hkept, -⟩, -, hcomm⟩ := apply_effects link
  have hless := hown command List.mem_cons_self ha
  refine ⟨ha, hone, by omega, hkept.trans hother, hboth, hcomm ▸ hboth⟩

end Defaults

end Relink
