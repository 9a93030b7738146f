import Relink.Proofs.Command.Session
import Relink.Proofs.Fix.ReadOnly

/-!
# Writes are asked for

The command writes only if it is told to: by a switch, or, where no switch says anything, by a
variable that spells no. Otherwise it asks for no update, whatever the server answers and whatever
other writers do, and the collection is left to them.

* `OptedIn`: how a command is told to write.
* `dryRun_of_create`: settings that are created write only if they are told to.
* `write_needs_opt_in`: a command that is not told to write leaves the collection to others.
-/

namespace Relink

namespace Settings

variable {environment : Environment} {overrides : Overrides} {s : Settings}

theorem flagOf_dryRun_of_environment (h : ofEnvironment environment = .ok s) :
    flagOf environment .dryRun true = .ok s.plan.dryRun := by
  unfold ofEnvironment at h
  obtain ⟨connection, -, h⟩ := exists_of_bind h
  obtain ⟨plan, hplan, h⟩ := exists_of_bind h
  obtain ⟨log, -, h⟩ := exists_of_bind h
  cases h
  unfold Plan.build at hplan
  obtain ⟨limit, -, hplan⟩ := exists_of_bind hplan
  obtain ⟨dryRun, hdry, hplan⟩ := exists_of_bind hplan
  obtain ⟨skipUnchanged, -, hplan⟩ := exists_of_bind hplan
  obtain ⟨repeated, -, hplan⟩ := exists_of_bind hplan
  obtain ⟨maxPasses, -, hplan⟩ := exists_of_bind hplan
  obtain ⟨⟨⟩, -, hplan⟩ := exists_of_bind hplan
  cases hplan
  exact hdry

/-- The checks leave the mode of a plan as it is. -/
theorem dryRun_validate (s : Settings) : s.validate.1.plan.dryRun = s.plan.dryRun := by
  simp only [validate]
  split
  · rfl
  · split
    · rfl
    · split <;> rfl

/-- **The mode of settings that are created**: what overrides the environment, or else what the
variable spells, and not to write if it is not set. -/
theorem dryRun_of_create (h : (create environment overrides).1 = .ok s) :
    ∃ usual, flagOf environment .dryRun true = .ok usual ∧
      s.plan.dryRun = overrides.dryRun.getD usual := by
  unfold create at h
  split at h
  · cases h
  · next given hread =>
    obtain ⟨usual, hu, hover⟩ := exists_of_bind hread
    cases hover
    refine ⟨usual.plan.dryRun, flagOf_dryRun_of_environment hu, ?_⟩
    have hmode := dryRun_validate (override overrides usual)
    rcases hv : (override overrides usual).validate with ⟨checked, outcome⟩
    rw [hv] at h hmode
    cases outcome with
    | error refusal => cases h
    | ok passed =>
      cases h
      exact hmode

end Settings

namespace Command

open Job

variable {world : World} {options : Options} {settings : Settings}

/-- **How a command is told to write**: by `--apply` without `--dry-run`, or, with neither of them,
by a variable that spells no. -/
def OptedIn (environment : Environment) (options : Options) : Prop :=
  (options.apply = true ∧ options.dryRun = false) ∨
    (options.apply = false ∧ options.dryRun = false ∧ ∃ text,
      environment .dryRun = some text ∧ Text.lower (Text.trim text) ∈ ["false", "0", "no"])

/-- **Settings that write were told to.** -/
theorem optedIn_of_create (hmode : (options.apply && options.dryRun) = false)
    (h : (Settings.create world.environment options.overrides).1 = .ok settings)
    (hlive : settings.plan.dryRun = false) : OptedIn world.environment options := by
  obtain ⟨usual, hflag, hdry⟩ := Settings.dryRun_of_create h
  rw [hlive] at hdry
  cases ha : options.apply with
  | true =>
    rw [ha, Bool.true_and] at hmode
    exact .inl ⟨ha, hmode⟩
  | false =>
    cases hd : options.dryRun with
    | true => simp [Options.overrides, Options.mode, ha, hd] at hdry
    | false =>
      -- no switch is given, so the variable decides
      have hno : usual = false := by simpa [Options.overrides, Options.mode, ha, hd] using hdry.symm
      subst hno
      unfold Settings.flagOf at hflag
      cases hv : world.environment .dryRun with
      | none => simp [hv] at hflag
      | some text =>
        rw [hv] at hflag
        exact .inr ⟨ha, hd, text, hv, Settings.readFlag_eq_ok.1 hflag⟩

/-- **A command leaves the collection to others**: it asks for no update, and the collection is left
as the others made it before each find that was made. -/
structure Untouched (world : World) (outcome : Outcome) : Prop where
  no_update : ∀ request, .call (.update request) ∉ outcome.trace
  left : outcome.site.documents = (world.site.edited (world.schedule.editsAtFinds world.site.finds
    (Event.calls outcome.trace).length)).documents

/-- Events by which no collection is called. -/
theorem untouched_of_no_calls {outcome : Outcome} (hsite : outcome.site = world.site)
    (hcalls : Event.calls outcome.trace = []) : Untouched world outcome where
  no_update := by
    intro request hm
    have hcall : Call.update request ∈ Event.calls outcome.trace :=
      List.mem_filterMap.2 ⟨_, hm, rfl⟩
    rw [hcalls] at hcall
    cases hcall
  left := by
    rw [hsite, hcalls]
    rfl

theorem untouched_stopped (world : World) (exit : Exit) (records : List Record) :
    Untouched world (stopped world exit (keepRecords firstLevel (records.map .record))) :=
  untouched_of_no_calls rfl (by rw [stopped, calls_keepRecords, calls_records])

/-- Neither connecting nor disconnecting is a call to the collection. -/
theorem no_calls_connect (store : Store) (server : Server) :
    Event.calls (store.connect server).trace = [] ∧ Event.calls store.disconnect.2 = [] := by
  constructor
  · unfold Store.connect
    split
    · rfl
    · split
      · rfl
      · split
        · rfl
        · split <;> rfl
  · unfold Store.disconnect
    split <;> rfl

theorem not_mem_calls_filter (events : List Event) :
    Event.calls (events.filter (!isCall ·)) = [] := by
  induction events with
  | nil => rfl
  | cons event rest ih =>
    cases event with
    | call c => exact ih
    | line | record | server => exact ih

/-- **A session that only reads.** The calls it leaves behind are finds, and the collection is left
with what the others did before them. -/
theorem session_reads (world : World) (hdry : settings.plan.dryRun = true) :
    (∀ request, Call.update request ∉ Event.calls (session world settings).2.2) ∧
      (session world settings).2.1.documents =
        (world.site.edited (world.schedule.editsAtFinds world.site.finds
          (Event.calls (session world settings).2.2).length)).documents := by
  have hjob := Fix.run_reads hdry Defaults.rules
  have hconnect := fun store => no_calls_connect store world.server
  unfold session
  simp only
  split
  · rw [(hconnect _).1]
    exact ⟨fun _ => List.not_mem_nil, rfl⟩
  · simp only [Event.calls_append, (hconnect _).1, (hconnect _).2, List.nil_append, List.append_nil]
    unfold fix
    simp only
    split
    · refine ⟨calls_of_reads hjob world.site, ?_⟩
      rw [calls_trace, List.length_map]
      exact documents_of_reads hjob world.site
    · -- of another collection no call is kept
      simp only [not_mem_calls_filter]
      exact ⟨fun _ => List.not_mem_nil, rfl⟩

theorem not_mem_trace {outcome : Outcome} {request : UpdateRequest}
    (h : Call.update request ∉ Event.calls outcome.trace) :
    Event.call (.update request) ∉ outcome.trace :=
  fun hm => h (List.mem_filterMap.2 ⟨_, hm, rfl⟩)

/-- **With its options read**, a command that is not told to write leaves the collection to
others. -/
theorem untouched_runOptions (h : ¬ OptedIn world.environment options) :
    Untouched world (runOptions world options) := by
  unfold runOptions
  split
  · exact untouched_of_no_calls rfl rfl
  · next hmode =>
    simp only [Bool.not_eq_true] at hmode
    rcases hc : Settings.create world.environment options.overrides with ⟨created, records⟩
    cases created with
    | error refusal => exact untouched_stopped world _ records
    | ok settings =>
      have hcreated : (Settings.create world.environment options.overrides).1 = .ok settings := by
        rw [hc]
      have hdry : settings.plan.dryRun = true := by
        by_contra hlive
        exact h (optedIn_of_create hmode hcreated (by simpa using hlive))
      obtain ⟨hno, hleft⟩ := session_reads world hdry
      simp only
      cases Log.setUp settings.log with
      | error failure => exact untouched_stopped world _ records
      | ok log =>
        -- the records before the session, and those dropped from it, are no calls
        have hcalls : Event.calls (keepRecords firstLevel (records.map .record) ++
            keepRecords log.rootLevel (settings.summary.map .record ++
              (session world settings).2.2)) = Event.calls (session world settings).2.2 := by
          simp only [Event.calls_append, calls_keepRecords, calls_records, List.nil_append]
        rcases hs : session world settings with ⟨result, site, events⟩
        rw [hs] at hno hleft hcalls
        cases result with
        | error failure =>
          exact ⟨fun request => not_mem_trace (by rw [hcalls]; exact hno request),
            by rw [hcalls]; exact hleft⟩
        | ok report =>
          exact ⟨fun request => not_mem_trace (by rw [hcalls]; exact hno request),
            by rw [hcalls]; exact hleft⟩

/-- **Writes need to be asked for.** In every environment, over every collection, whatever other
writers do, however the server answers and whichever calls fail: a command that is not told to write
asks for no update, and the collection is left exactly as the other writers left it. -/
theorem write_needs_opt_in (world : World) :
    (∀ options, ¬ OptedIn world.environment options →
      Untouched world (runOptions world options)) ∧
    ∀ arguments, (∀ options, Options.read arguments = .ok options →
      ¬ OptedIn world.environment options) → Untouched world (run world arguments) := by
  refine ⟨fun options h => untouched_runOptions h, fun arguments h => ?_⟩
  unfold run
  split
  · exact untouched_of_no_calls rfl rfl
  · next options hread => exact untouched_runOptions (h options hread)

/-- The outside of a command whose variable spells no, with blanks around it. -/
def spelledWorld : World where
  environment := fun
    | .dryRun => some " No\n"
    | _ => none
  site := Fix.twoStale
  schedule := .quiet
  server := {}
  place := ("datasets", "instances")

/-- A switch keeps a command from writing that its variable alone would tell to. -/
theorem write_needs_opt_in_spelled :
    OptedIn spelledWorld.environment {} ∧
      Untouched spelledWorld (run spelledWorld ["--dry-run"]) := by
  have hread : Options.read ["--dry-run"] = .ok { dryRun := true } :=
    ok_of_toOption (by decide +kernel)
  refine ⟨.inr ⟨rfl, rfl, " No\n", rfl, by decide +kernel⟩,
    (write_needs_opt_in spelledWorld).2 _ fun options h => ?_⟩
  obtain rfl : { dryRun := true } = options := Except.ok.inj (hread.symm.trans h)
  rintro (⟨ha, -⟩ | ⟨-, hd, -⟩)
  · cases ha
  · cases hd

end Command

end Relink
