import Relink.Defaults
import Relink.Settings.Environment

/-!
# The plan of a run

Which download formats are processed, how many documents of each at most, and in which way.

* `nodup_distinct`, `mem_distinct`: formats are kept once each, and none is lost.
* `check_ok`: what an accepted plan satisfies.
-/

namespace Relink

/-- The texts of a list, each where it stands first. -/
def distinct : List String → List String
  | [] => []
  | x :: rest => x :: (distinct rest).filter (· != x)

theorem mem_distinct {x : String} {xs : List String} : x ∈ distinct xs ↔ x ∈ xs := by
  induction xs with
  | nil => rfl
  | cons y rest ih => by_cases h : x = y <;> simp [distinct, h, ih]

theorem nodup_distinct (xs : List String) : (distinct xs).Nodup := by
  induction xs with
  | nil => exact List.nodup_nil
  | cons y rest ih => exact List.nodup_cons.2 ⟨by simp, ih.filter _⟩

/-- The plan of a run. -/
structure Plan where
  /-- The download formats, in order. -/
  formats : List String
  /-- The cap on the documents of a format and rule. -/
  limit : Int
  /-- Whether nothing is to be written. -/
  dryRun : Bool
  /-- Whether values without the text to replace are skipped. -/
  skipUnchanged : Bool
  /-- Whether passes are repeated. -/
  repeated : Bool
  /-- The greatest number of passes. -/
  maxPasses : Int
  deriving DecidableEq, Repr

namespace Plan

open Settings

/-- The parts of a plan that are given; the others come from the environment. -/
structure Given where
  /-- The download formats. -/
  formats : Option (List String) := none
  /-- The cap on the documents of a format and rule. -/
  limit : Option Int := none
  /-- Whether nothing is to be written. -/
  dryRun : Option Bool := none
  /-- Whether values without the text to replace are skipped. -/
  skipUnchanged : Option Bool := none
  /-- Whether passes are repeated. -/
  repeated : Option Bool := none
  /-- The greatest number of passes. -/
  maxPasses : Option Int := none

/-- The plan with the parts given put in place. -/
def revised (plan : Plan) (parts : Given) : Plan where
  formats := parts.formats.getD plan.formats
  limit := parts.limit.getD plan.limit
  dryRun := parts.dryRun.getD plan.dryRun
  skipUnchanged := parts.skipUnchanged.getD plan.skipUnchanged
  repeated := parts.repeated.getD plan.repeated
  maxPasses := parts.maxPasses.getD plan.maxPasses

/-- Whether a format can be a step of a path. -/
def isFormat (format : String) : Bool :=
  format != "" && !format.toList.contains '.' && format.toList.head? != some '$'

/-- The plan with its formats kept once each. -/
def normalised (plan : Plan) : Plan := { plan with formats := distinct plan.formats }

/-- The conditions against a plan, in the order in which they are looked at. -/
def objections (plan : Plan) : List (Bool × Refusal) :=
  [(plan.formats.isEmpty, .noFormats), (!plan.formats.all isFormat, .badFormat plan.formats),
    (decide (plan.limit < 1), .limit), (decide (plan.maxPasses < 1), .maxPasses)]

/-- Refuses a plan that cannot be carried out. -/
def check (plan : Plan) : Except Refusal Unit := refuseFirst plan.objections

/-- **An accepted plan.** -/
theorem check_ok {plan : Plan} :
    plan.check = .ok () ↔
      plan.formats ≠ [] ∧ (∀ format ∈ plan.formats, isFormat format = true) ∧ 1 ≤ plan.limit ∧
        1 ≤ plan.maxPasses := by
  simp [check, refuseFirst_eq_ok, objections]

/-- The download formats that the environment names, the default ones if it names none. -/
def formatsOf (env : Environment) : List String :=
  match env .formats with
  | none => Defaults.formats
  | some text => if text == "" then Defaults.formats else readList text

/-- The plan with the parts given, the others from the environment. -/
def build (env : Environment) (parts : Given) : Except Refusal Plan := do
  let limit ← given parts.limit (numberOf env .limit 10)
  let dryRun ← given parts.dryRun (flagOf env .dryRun true)
  let skipUnchanged ← given parts.skipUnchanged (flagOf env .skipUnchanged false)
  let repeated ← given parts.repeated (flagOf env .repeated false)
  let maxPasses ← given parts.maxPasses (numberOf env .maxPasses 100)
  let plan := normalised
    { formats := parts.formats.getD (formatsOf env), limit, dryRun, skipUnchanged, repeated,
      maxPasses }
  plan.check
  return plan

end Plan

end Relink
