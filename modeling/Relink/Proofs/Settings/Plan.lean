import Relink.Settings.Plan

/-!
# Accepted plans

A plan is accepted if it passes the conditions against it and names each format once. These are
the plans that can be built.

* `accepted_iff_build`: the accepted plans are those that building gives.
* `Accepted.no_dot`: a format of an accepted plan is one step of a path.
-/

namespace Relink

theorem distinct_of_nodup {xs : List String} (h : xs.Nodup) : distinct xs = xs := by
  induction xs with
  | nil => rfl
  | cons x rest ih =>
    obtain ⟨hx, hr⟩ := List.nodup_cons.1 h
    rw [distinct, ih hr, List.filter_eq_self.2]
    intro y hy
    simpa using fun he : y = x => hx (he ▸ hy)

/-- A computation that is not refused goes through its parts. -/
theorem Settings.exists_of_bind {α β : Type} {first : Except Refusal α}
    {next : α → Except Refusal β} {b : β} (h : (first >>= next) = .ok b) :
    ∃ a, first = .ok a ∧ next a = .ok b := by
  cases first with
  | error refusal => cases h
  | ok a => exact ⟨a, rfl, h⟩

namespace Plan

open Settings

variable {plan : Plan}

/-- **An accepted plan**: it passes the conditions against it, and names each format once. -/
structure Accepted (plan : Plan) : Prop where
  check : plan.check = .ok ()
  nodup : plan.formats.Nodup

theorem accepted_of_build {env : Environment} {parts : Given} (h : build env parts = .ok plan) :
    plan.Accepted := by
  unfold build at h
  obtain ⟨limit, -, h⟩ := exists_of_bind h
  obtain ⟨dryRun, -, h⟩ := exists_of_bind h
  obtain ⟨skipUnchanged, -, h⟩ := exists_of_bind h
  obtain ⟨repeated, -, h⟩ := exists_of_bind h
  obtain ⟨maxPasses, -, h⟩ := exists_of_bind h
  obtain ⟨⟨⟩, hcheck, h⟩ := exists_of_bind h
  cases h
  exact ⟨hcheck, nodup_distinct _⟩

/-- **The accepted plans are those that building gives.** -/
theorem accepted_iff_build : plan.Accepted ↔ ∃ env parts, build env parts = .ok plan := by
  constructor
  · rintro ⟨hcheck, hnodup⟩
    -- every part is given, so the environment is not read
    refine ⟨fun _ => none, ⟨some plan.formats, some plan.limit, some plan.dryRun,
      some plan.skipUnchanged, some plan.repeated, some plan.maxPasses⟩, ?_⟩
    have hn : normalised plan = plan := by rw [normalised, distinct_of_nodup hnodup]
    simp only [build, given, Option.getD_some, bind, Except.bind, hn, hcheck]
    rfl
  · rintro ⟨env, parts, h⟩
    exact accepted_of_build h

/-- A format that can be a step of a path holds no dot. -/
theorem no_dot_of_isFormat {format : String} (h : isFormat format = true) :
    '.' ∉ format.toList := by
  simp only [isFormat, Bool.and_eq_true, Bool.not_eq_true', List.contains_eq_mem,
    decide_eq_false_iff_not] at h
  exact h.1.2

namespace Accepted

/-- A format of an accepted plan holds no dot. -/
theorem no_dot (h : plan.Accepted) : ∀ format ∈ plan.formats, '.' ∉ format.toList :=
  fun format hm => no_dot_of_isFormat ((check_ok.1 h.check).2.1 format hm)

theorem limit_pos (h : plan.Accepted) : 1 ≤ plan.limit := (check_ok.1 h.check).2.2.1

theorem maxPasses_pos (h : plan.Accepted) : 1 ≤ plan.maxPasses := (check_ok.1 h.check).2.2.2

end Accepted

end Plan

end Relink
