import Relink.Fix.Pass

/-!
# Fixers

A fixer holds a plan and the rules that it applies, of which there is at least one. Rules are made
from texts, and both rules and fixers that are refused end in a failure. Whoever gives no rules gets
the default ones.

* `Rule.text_failure`: a refused rule fails with the wording of its fault.
* `Fixer.make_eq_ok`: which fixers are made.
* `Fixer.one_le_maxRewrites`: a fixer with an accepted plan can rewrite something in each pass.
* `fixLinks_eq`: fixing the links is never refused, and is a run with the rules that were chosen.
-/

namespace Relink

variable {plan : Plan} {rules : List Rule} {rule : Rule} {name field pattern old new : String}

namespace Rule

/-- The failure that a refused rule is: of a number where a count or a code in its pattern is out of
range, else of a value. -/
def Fault.failure (fault : Fault) : Failure :=
  match fault with
  | .pattern _ .countTooLarge | .pattern _ .codeTooLarge => .raised .overflow fault.message
  | _ => .value fault.message

/-- **A refused rule fails with the wording of its fault**, whatever its failure is of. -/
theorem text_failure (fault : Fault) : fault.failure.text = fault.message := by
  unfold Fault.failure
  split <;> rfl

/-- The rule with these parts, or the failure that it is refused with. -/
def build (name field pattern old new : String) : Except Failure Rule :=
  match make name field pattern old new with
  | .ok rule => .ok rule
  | .error fault => .error fault.failure

theorem build_eq_ok :
    build name field pattern old new = .ok rule ↔ make name field pattern old new = .ok rule := by
  unfold build
  cases make name field pattern old new with
  | ok made => simp only [Except.ok.injEq]
  | error fault => simp only [reduceCtorEq]

end Rule

/-- **A fixer**: a plan, and rules to apply. -/
structure Fixer where
  plan : Plan
  /-- The rules, in the order in which they are applied. -/
  rules : List Rule
  rules_ne : rules ≠ []

namespace Fixer

variable {fixer : Fixer}

/-- The fixer with a plan and rules, refused without any rule. -/
def make (plan : Plan) (rules : List Rule) : Except Failure Fixer :=
  if h : rules = [] then .error Fix.noRules else .ok ⟨plan, rules, h⟩

/-- **The fixers that are made** have the plan and the rules that were given. -/
theorem make_eq_ok : make plan rules = .ok fixer ↔ fixer.plan = plan ∧ fixer.rules = rules := by
  obtain ⟨plan', rules', hne⟩ := fixer
  unfold make
  split
  · next hnil =>
    refine ⟨fun h => (nomatch h), ?_⟩
    rintro ⟨-, rfl⟩
    exact absurd hnil hne
  · simp only [Except.ok.injEq, Fixer.mk.injEq]
    exact and_congr eq_comm eq_comm

/-- A run of a fixer. -/
def run (fixer : Fixer) : Job Report := Fix.run fixer.plan fixer.rules

/-- The greatest number of rewrites of a pass. -/
def maxRewrites (fixer : Fixer) : Int := Fix.maxRewrites fixer.plan fixer.rules

/-- **A fixer with an accepted plan can rewrite something** in each pass. -/
theorem one_le_maxRewrites (h : fixer.plan.check = .ok ()) : 1 ≤ fixer.maxRewrites := by
  obtain ⟨hformats, -, hlimit, -⟩ := Plan.check_ok.1 h
  have hrules : 0 < fixer.rules.length := List.length_pos_iff.2 fixer.rules_ne
  have hcount : 0 < fixer.plan.formats.length := List.length_pos_iff.2 hformats
  have hpos : 0 < fixer.plan.limit * fixer.rules.length * fixer.plan.formats.length :=
    Int.mul_pos (Int.mul_pos (by omega) (by omega)) (by omega)
  exact hpos

end Fixer

/-- The rules to apply: those that are given, or the default ones if none is. -/
def rulesOr (given : Option (List Rule)) : List Rule :=
  match given with
  | some (rule :: rest) => rule :: rest
  | _ => Defaults.rules

theorem rulesOr_ne_nil (given : Option (List Rule)) : rulesOr given ≠ [] := by
  unfold rulesOr
  split
  · exact List.cons_ne_nil _ _
  · exact List.cons_ne_nil _ _

/-- Fixes the links with the rules that are given, or with the default ones. -/
def fixLinks (plan : Plan) (given : Option (List Rule)) : Job Report := do
  let fixer ← Job.ofExcept (Fixer.make plan (rulesOr given))
  fixer.run

/-- **Fixing the links is never refused**: it is a run with the rules that were chosen. -/
theorem fixLinks_eq (plan : Plan) (given : Option (List Rule)) :
    fixLinks plan given = Fix.run plan (rulesOr given) := by
  have hmake : Fixer.make plan (rulesOr given) = .ok ⟨plan, rulesOr given, rulesOr_ne_nil given⟩ :=
    Fixer.make_eq_ok.2 ⟨rfl, rfl⟩
  rw [fixLinks, hmake]
  rfl

end Relink
