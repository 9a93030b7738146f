import Relink.Proofs.Settings.Sections
import Relink.Settings.EnvFile

/-!
# Which settings are created

A file of variables is laid under the environment: what is exported stays, be it empty. Of the
environment that results, and of what overrides it, settings are created exactly when the
environment alone gives valid settings and the overridden ones are valid too. Each setting is then
the first that is present of what overrides it, what its variable spells, and the usual value.

What overrides is put in place unseen, on settings that were normalised before: formats are kept
once each and the level is in upper case. Both survive being normalised again.

* `Drawn`, `Valid`: where settings come from, and what is asked of them.
* `Drawn.connection_iff`, `Drawn.plan_iff`, `Drawn.log_iff`: to override what the environment gives
  is to draw the settings anew.
* `create_follows_precedence`: the settings that are created.
-/

namespace Relink

namespace Settings

variable {env : Environment} {overrides : Overrides} {alone s checked : Settings}

/-- **Variables laid under an environment.** -/
structure Laid (pairs : List (String × Option String)) (env loaded : Environment) : Prop where
  /-- What is exported stays. -/
  kept : ∀ v value, env v = some value → loaded v = some value
  /-- What is given to a name counts only if the name is not exported. -/
  taken : ∀ v, env v = none → loaded v = (pairs.lookup v.name).join

theorem laid_lay (pairs : List (String × Option String)) (env : Environment) :
    Laid pairs env (EnvFile.lay pairs env) where
  kept := by
    intro v value h
    rw [EnvFile.lay, h, Option.some_or]
  taken := by
    intro v h
    rw [EnvFile.lay, h, Option.none_or]

/-- The parts of the connection that are overridden. -/
def Overrides.connectionParts (overrides : Overrides) : Connection.Given where
  uri := Option.guard (· ≠ "") overrides.uri
  database := Option.guard (· ≠ "") overrides.database
  collection := Option.guard (· ≠ "") overrides.collection

/-- The parts of the log settings that are overridden. -/
def Overrides.logParts (overrides : Overrides) : LogSettings.Given where
  level := Option.guard (· ≠ "") overrides.level

/-- **Where settings come from.** -/
structure Drawn (env : Environment) (overrides : Overrides) (s : Settings) : Prop where
  connection : s.connection.Drawn env overrides.connectionParts
  plan : s.plan.Drawn env overrides.planParts
  log : s.log.Drawn env overrides.logParts

/-- **Valid settings.** -/
structure Valid (s : Settings) : Prop where
  connection : s.connection.Valid
  plan : s.plan.Valid
  log : s.log.Valid

/-- **Settings that are admitted**: drawn and valid, where the environment alone gives valid ones
as well. -/
structure Admitted (env : Environment) (overrides : Overrides) (s : Settings) : Prop where
  drawn : Drawn env overrides s
  valid : Valid s
  alone : ∃ alone, Drawn env {} alone ∧ Valid alone

/-- What the environment alone gives. -/
theorem ofEnvironment_iff : ofEnvironment env = .ok alone ↔ Drawn env {} alone ∧ Valid alone := by
  constructor
  · intro h
    obtain ⟨connection, hc, h⟩ := exists_of_bind h
    obtain ⟨plan, hp, h⟩ := exists_of_bind h
    obtain ⟨log, hl, h⟩ := exists_of_bind h
    cases h
    obtain ⟨hcd, hcv⟩ := Connection.build_iff.1 hc
    obtain ⟨hpd, hpv⟩ := Plan.build_iff.1 hp
    obtain ⟨hld, hlv⟩ := LogSettings.build_iff.1 hl
    exact ⟨⟨hcd, hpd, hld⟩, ⟨hcv, hpv, hlv⟩⟩
  · rintro ⟨hd, hv⟩
    have hc : Connection.build env {} = .ok alone.connection :=
      Connection.build_iff.2 ⟨hd.connection, hv.connection⟩
    have hp : Plan.build env {} = .ok alone.plan := Plan.build_iff.2 ⟨hd.plan, hv.plan⟩
    have hl : LogSettings.build env {} = .ok alone.log := LogSettings.build_iff.2 ⟨hd.log, hv.log⟩
    rw [ofEnvironment, hc, hp, hl]
    rfl

theorem overridden_eq (text current : String) :
    overridden text current = (Option.guard (· ≠ "") text).getD current := by
  by_cases h : text = "" <;> simp [overridden, Option.guard, h]

namespace Drawn

/-- **To override a connection** is to draw it anew. -/
theorem connection_iff (h : Drawn env {} alone) {c : Connection} :
    c.Drawn env overrides.connectionParts ↔ c = (override overrides alone).connection := by
  have ha := h.connection
  obtain ⟨uri, database, collection, username, password, encrypted, connectTimeout,
    queryTimeout⟩ := c
  simp only [override, overridden_eq, Connection.mk.injEq]
  constructor
  · intro hc
    exact ⟨ha.uri.given_iff.1 hc.uri, ha.database.given_iff.1 hc.database,
      ha.collection.given_iff.1 hc.collection, ha.username.given_iff.1 hc.username,
      ha.password.given_iff.1 hc.password, ha.encrypted.given_iff.1 hc.encrypted,
      ha.connectTimeout.given_iff.1 hc.connectTimeout, ha.queryTimeout.given_iff.1 hc.queryTimeout⟩
  · rintro ⟨hu, hd, hc, rfl, rfl, rfl, rfl, rfl⟩
    exact ⟨ha.uri.given_iff.2 hu, ha.database.given_iff.2 hd, ha.collection.given_iff.2 hc,
      ha.username, ha.password, ha.encrypted, ha.connectTimeout, ha.queryTimeout⟩

/-- **To override a plan** is to draw it anew. -/
theorem plan_iff (h : Drawn env {} alone) {plan : Plan} :
    plan.Drawn env overrides.planParts ↔ plan = (override overrides alone).plan.normalised := by
  have ha := h.plan
  obtain ⟨usual, husual, halone⟩ := ha.formats
  -- formats that are not overridden are kept once each already
  have hformats : distinct (overrides.planParts.formats.getD alone.plan.formats) =
      distinct (overrides.planParts.formats.getD usual) := by
    cases overrides.planParts.formats with
    | some formats => rfl
    | none =>
      rw [Option.getD_none, Option.getD_none, halone, distinct_of_nodup (nodup_distinct usual)]
  obtain ⟨kept, limit, dryRun, skipUnchanged, repeated, maxPasses⟩ := plan
  simp only [override, Plan.revised, Plan.normalised, Plan.mk.injEq, hformats]
  constructor
  · intro hp
    obtain ⟨formats, hf, hk⟩ := hp.formats
    obtain rfl := husual.given_iff.1 hf
    exact ⟨hk, ha.limit.given_iff.1 hp.limit, ha.dryRun.given_iff.1 hp.dryRun,
      ha.skipUnchanged.given_iff.1 hp.skipUnchanged, ha.repeated.given_iff.1 hp.repeated,
      ha.maxPasses.given_iff.1 hp.maxPasses⟩
  · rintro ⟨hk, hl, hd, hs, hr, hm⟩
    exact ⟨⟨_, husual.given_iff.2 rfl, hk⟩, ha.limit.given_iff.2 hl, ha.dryRun.given_iff.2 hd,
      ha.skipUnchanged.given_iff.2 hs, ha.repeated.given_iff.2 hr, ha.maxPasses.given_iff.2 hm⟩

/-- The names of the levels are in upper case. -/
theorem upper_of_mem_levelNames : ∀ name ∈ levelNames, Text.upper name = name := by decide

/-- **To override settings of the log** is to draw them anew. -/
theorem log_iff (h : Drawn env {} alone) (hv : Valid alone) {log : LogSettings} :
    log.Drawn env overrides.logParts ↔ log = (override overrides alone).log.normalised := by
  have ha := h.log
  obtain ⟨usual, husual, halone⟩ := ha.level
  -- a level that is not overridden is in upper case already
  have hlevel : Text.upper (overridden overrides.level alone.log.level) =
      Text.upper (overrides.logParts.level.getD usual) := by
    rw [overridden_eq, Overrides.logParts]
    cases Option.guard (· ≠ "") overrides.level with
    | some level => rfl
    | none =>
      rw [Option.getD_none, Option.getD_none, upper_of_mem_levelNames _ hv.log.level, halone]
  obtain ⟨upper, format, file⟩ := log
  simp only [override, LogSettings.normalised, LogSettings.mk.injEq, hlevel]
  constructor
  · intro hl
    obtain ⟨level, hf, hu⟩ := hl.level
    obtain rfl := husual.given_iff.1 hf
    exact ⟨hu, ha.format.given_iff.1 hl.format, ha.file.given_iff.1 hl.file⟩
  · rintro ⟨hu, rfl, rfl⟩
    exact ⟨⟨_, husual.given_iff.2 rfl, hu⟩, ha.format, ha.file⟩

end Drawn

/-- **The checks** pass valid settings, and normalise them. -/
theorem validate_iff : s.validate = (checked, .ok ()) ↔
    checked = ⟨s.connection, s.plan.normalised, s.log.normalised⟩ ∧ checked.Valid := by
  have hc : s.connection.check = .ok () ↔ s.connection.Valid := Connection.check_iff
  have hp : s.plan.normalised.check = .ok () ↔ s.plan.normalised.Valid :=
    Plan.check_iff (nodup_distinct _)
  have hl : s.log.check = .ok () ↔ s.log.normalised.Valid := LogSettings.check_iff
  unfold validate
  constructor
  · intro h
    split at h
    · cases h
    · next hcheck =>
      simp only at h
      split at h
      · cases h
      · next hplan =>
        split at h
        · cases h
        · next hlog =>
          cases h
          exact ⟨rfl, hc.1 hcheck, hp.1 hplan, hl.1 hlog⟩
  · rintro ⟨rfl, hv⟩
    simp only [hc.2 hv.connection, hp.2 hv.plan, hl.2 hv.log]

/-- Settings are created of what the environment gives alone, overridden and checked. -/
theorem create_iff_validate : (create env overrides).1 = .ok s ↔
    ∃ alone, ofEnvironment env = .ok alone ∧ (override overrides alone).validate = (s, .ok ()) := by
  simp only [create, read]
  cases ofEnvironment env with
  | error refusal =>
    constructor
    · intro h
      cases h
    · rintro ⟨alone, h, -⟩
      cases h
  | ok alone =>
    simp only [bind, Except.bind, pure, Except.pure, Except.ok.injEq, exists_eq_left']
    rcases (override overrides alone).validate with ⟨checked, refusal | passed⟩
    · constructor <;> intro h <;> cases h
    · simp [Except.map]

/-- **The settings that are created** are those that are admitted. -/
theorem create_iff_admitted : (create env overrides).1 = .ok s ↔ Admitted env overrides s := by
  rw [create_iff_validate]
  constructor
  · rintro ⟨alone, ho, hs⟩
    obtain ⟨hd, hv⟩ := ofEnvironment_iff.1 ho
    obtain ⟨rfl, hvalid⟩ := validate_iff.1 hs
    exact ⟨⟨hd.connection_iff.2 rfl, hd.plan_iff.2 rfl, (hd.log_iff hv).2 rfl⟩, hvalid,
      alone, hd, hv⟩
  · rintro ⟨hdrawn, hvalid, alone, hd, hv⟩
    refine ⟨alone, ofEnvironment_iff.2 ⟨hd, hv⟩, validate_iff.2 ⟨?_, hvalid⟩⟩
    rw [← hd.connection_iff.1 hdrawn.connection, ← hd.plan_iff.1 hdrawn.plan,
      ← (hd.log_iff hv).1 hdrawn.log]

theorem refusesValues_ofEnvironment (env : Environment) : RefusesValues (ofEnvironment env) := by
  refine (Connection.refusesValues_build env {}).bind fun connection => ?_
  refine (Plan.refusesValues_build env {}).bind fun plan => ?_
  exact (LogSettings.refusesValues_build env {}).bind fun log => refusesValues_ok _

theorem refusesValues_validate (s : Settings) : RefusesValues s.validate.2 := by
  have hc := Connection.refusesValues_check s.connection
  have hp := Plan.refusesValues_check s.plan.normalised
  have hl := LogSettings.refusesValues_check s.log
  unfold validate
  split
  · next refusal hr => exact refusesValues_error (hc refusal hr)
  · simp only
    split
    · next refusal hr => exact refusesValues_error (hp refusal hr)
    · split
      · next refusal hr => exact refusesValues_error (hl refusal hr)
      · exact refusesValues_ok ()

/-- **What is refused** is a wrong value. -/
theorem refusesValues_create (env : Environment) (overrides : Overrides) :
    RefusesValues (create env overrides).1 := by
  have hread : RefusesValues (read env overrides) :=
    (refusesValues_ofEnvironment env).bind fun _ => refusesValues_ok _
  unfold create
  cases hr : read env overrides with
  | error refusal => exact refusesValues_error (hread refusal hr)
  | ok s =>
    have hchecked := refusesValues_validate s
    simp only
    exact hchecked.map _

/-- **Precedence.** For every environment, whatever a file of variables gives to its names, and
whatever overrides them: what is exported stays and the file gives the rest; the settings that are
created are those that are admitted; and where none are, the refusal is of a wrong value. -/
theorem create_follows_precedence (pairs : List (String × Option String)) (env : Environment)
    (overrides : Overrides) :
    Laid pairs env (EnvFile.lay pairs env) ∧
      (∀ s, (create (EnvFile.lay pairs env) overrides).1 = .ok s ↔
        Admitted (EnvFile.lay pairs env) overrides s) ∧
      ((∃ s, Admitted (EnvFile.lay pairs env) overrides s) ∨
        ∃ refusal, (create (EnvFile.lay pairs env) overrides).1 = .error refusal ∧
          refusal.failure = .value refusal.message) := by
  refine ⟨laid_lay pairs env, fun s => create_iff_admitted, ?_⟩
  cases h : (create (EnvFile.lay pairs env) overrides).1 with
  | error refusal => exact .inr ⟨refusal, rfl, refusesValues_create _ _ refusal h⟩
  | ok s => exact .inl ⟨s, create_iff_admitted.1 h⟩

/-- An exported name is not given back its value by a file, be it empty. -/
example : (create (EnvFile.lay [("MONGODB_DATABASE", some "datasets")]
    fun v => if v = .database then some "" else none) {}).1 = .error .noDatabase := by
  rfl

end Settings

end Relink
