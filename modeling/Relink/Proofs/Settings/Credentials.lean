import Relink.Proofs.Uri
import Relink.Settings.Basic
import Relink.Store.Lifecycle

/-!
# Settings with different credentials

Two environments are twins if they differ at most in the credentials of the address and in the
password. The settings made from them are refused for the same reason, or are twins again: the same
but for the address and the password, and shown alike.

* `Both`: two computations that end alike.
* `Connection.Twins`: connections that differ at most in their credentials.
* `Settings.create_twins`: twins are accepted or refused together, with the same records.
-/

namespace Relink

/-- **Two computations that end alike**: both fail for the same reason, or their results are
related. -/
inductive Both {ε α : Type} (R : α → α → Prop) : Except ε α → Except ε α → Prop
  | failed (fault : ε) : Both R (.error fault) (.error fault)
  | ended {a b : α} (h : R a b) : Both R (.ok a) (.ok b)

namespace Both

variable {ε α β : Type} {R : α → α → Prop} {S : β → β → Prop} {x y : Except ε α}
  {f g : α → Except ε β}

theorem bind (hx : Both R x y) (hf : ∀ a b, R a b → Both S (f a) (g b)) :
    Both S (x >>= f) (y >>= g) := by
  cases hx with
  | failed fault => exact .failed fault
  | ended h => exact hf _ _ h

theorem map {f : α → β} {g : α → β} (hx : Both R x y) (hf : ∀ a b, R a b → S (f a) (g b)) :
    Both S (x.map f) (y.map g) := by
  cases hx with
  | failed fault => exact .failed fault
  | ended h => exact .ended (hf _ _ h)

theorem eq {x y : Except ε α} (h : Both (· = ·) x y) : x = y := by
  cases h with
  | failed fault => rfl
  | ended h => rw [h]

theorem bind_same (hf : ∀ a, Both S (f a) (g a)) : Both S (x >>= f) (x >>= g) := by
  cases x with
  | error fault => exact .failed fault
  | ok a => exact hf a

end Both

theorem rel_getD {α : Type} {R : α → α → Prop} {x y : Option α} (h : Option.Rel R x y) {usual : α}
    (hu : R usual usual) : R (x.getD usual) (y.getD usual) := by
  cases h with
  | none => exact hu
  | some hxy => exact hxy

/-- **Twin environments** differ at most in the credentials of the address and in the password. -/
structure Environment.Twins (env env' : Environment) : Prop where
  uri : Option.Rel Uri.Twins (env .uri) (env' .uri)
  password : Option.Rel (fun p p' => p = "" ↔ p' = "") (env .password) (env' .password)
  others : ∀ v, v ≠ .uri → v ≠ .password → env v = env' v

/-- **Twin connections** differ at most in the credentials of the address and in the password. -/
structure Connection.Twins (c c' : Connection) : Prop where
  uri : Uri.Twins c.uri c'.uri
  password : c.password = "" ↔ c'.password = ""
  database : c.database = c'.database
  collection : c.collection = c'.collection
  username : c.username = c'.username
  encrypted : c.encrypted = c'.encrypted
  connectTimeout : c.connectTimeout = c'.connectTimeout
  queryTimeout : c.queryTimeout = c'.queryTimeout

namespace Connection.Twins

variable {c c' : Connection}

/-- Twins meet the same objections. -/
theorem check_eq (h : c.Twins c') : c.check = c'.check := by
  have hpassword : (c.password != "") = (c'.password != "") := by
    rw [Bool.eq_iff_iff, bne_iff_ne, bne_iff_ne, ne_eq, ne_eq, h.password]
  rw [check, check, objections, objections, h.uri.blank_eq, h.uri.hasScheme_eq, h.database,
    h.collection, h.username, h.connectTimeout, h.queryTimeout, hpassword]

/-- **Twins are shown alike** in the log. -/
theorem shown_eq (h : c.Twins c') : c.shown = c'.shown := by
  rw [shown, shown, h.uri.logged_eq, h.database, h.collection, h.username]

/-- **Twins are shown alike** in failures. -/
theorem failure_eq (h : c.Twins c') (cause : Failure) : c.failure cause = c'.failure cause := by
  have hentries : Fault.connectionEntries c.uri = Fault.connectionEntries c'.uri := by
    have hempty : (c.uri != "") = (c'.uri != "") := congrArg (!·) h.uri.empty_eq
    simp only [Fault.connectionEntries, Fault.nonEmpty, Option.filter_some, hempty]
    split
    · simp only [Option.map_some, h.uri.bare_eq]
    · rfl
  rw [failure, failure, hentries, h.database]

end Connection.Twins

namespace Environment.Twins

open Settings

variable {env env' : Environment}

theorem flagOf_eq (h : env.Twins env') (v : Variable) (usual : Bool)
    (hv : v ≠ .uri ∧ v ≠ .password) : flagOf env v usual = flagOf env' v usual := by
  rw [flagOf, flagOf, h.others v hv.1 hv.2]

theorem numberOf_eq (h : env.Twins env') (v : Variable) (usual : Int)
    (hv : v ≠ .uri ∧ v ≠ .password) : numberOf env v usual = numberOf env' v usual := by
  rw [numberOf, numberOf, h.others v hv.1 hv.2]

theorem textOf_eq (h : env.Twins env') (v : Variable) (usual : String)
    (hv : v ≠ .uri ∧ v ≠ .password) : textOf env v usual = textOf env' v usual := by
  rw [textOf, textOf, h.others v hv.1 hv.2]

/-- **The connections of twins** are twins. -/
theorem connection (h : env.Twins env') :
    Both Connection.Twins (Connection.build env {}) (Connection.build env' {}) := by
  simp only [Connection.build, given, Option.getD_none]
  rw [h.flagOf_eq .encrypted false (by decide), h.numberOf_eq .connectTimeout 5 (by decide),
    h.numberOf_eq .queryTimeout 15 (by decide)]
  refine Both.bind_same fun encrypted => Both.bind_same fun connectTimeout =>
    Both.bind_same fun queryTimeout => ?_
  have htwins : Connection.Twins
      ⟨textOf env .uri "mongodb://localhost:27017", textOf env .database "datasets",
        textOf env .collection "instances", textOf env .username "", textOf env .password "",
        encrypted, connectTimeout, queryTimeout⟩
      ⟨textOf env' .uri "mongodb://localhost:27017", textOf env' .database "datasets",
        textOf env' .collection "instances", textOf env' .username "", textOf env' .password "",
        encrypted, connectTimeout, queryTimeout⟩ :=
    ⟨rel_getD h.uri (.same _), rel_getD h.password Iff.rfl, h.textOf_eq .database _ (by decide),
      h.textOf_eq .collection _ (by decide), h.textOf_eq .username _ (by decide), rfl, rfl, rfl⟩
  rw [htwins.check_eq]
  exact Both.bind_same fun _ => .ended htwins

/-- The plans of twins are the same. -/
theorem plan_eq (h : env.Twins env') : Plan.build env {} = Plan.build env' {} := by
  have hformats : Plan.formatsOf env = Plan.formatsOf env' := by
    rw [Plan.formatsOf, Plan.formatsOf, h.others .formats (by decide) (by decide)]
  simp (disch := decide) only [Plan.build, given, hformats, h.numberOf_eq, h.flagOf_eq]

/-- The log settings of twins are the same. -/
theorem log_eq (h : env.Twins env') : LogSettings.build env {} = LogSettings.build env' {} := by
  simp (disch := decide) only [LogSettings.build, h.textOf_eq, h.others]

end Environment.Twins

namespace Settings

variable {env env' : Environment} {overrides : Overrides} {s s' : Settings} {u u' : String}

/-- **Twin settings** differ at most in the credentials of the connection. -/
structure Twins (s s' : Settings) : Prop where
  connection : s.connection.Twins s'.connection
  plan : s.plan = s'.plan
  log : s.log = s'.log

theorem ofEnvironment_twins (h : env.Twins env') :
    Both Twins (ofEnvironment env) (ofEnvironment env') := by
  unfold ofEnvironment
  rw [h.plan_eq, h.log_eq]
  exact h.connection.bind fun c c' hc => Both.bind_same fun plan => Both.bind_same fun log =>
    .ended ⟨hc, rfl, rfl⟩

/-- An address that overrides another gives twins again. -/
theorem override_twins (h : s.Twins s') (overrides : Overrides) (hu : Uri.Twins u u') :
    (override { overrides with uri := u } s).Twins (override { overrides with uri := u' } s') := by
  have huri : Uri.Twins (overridden u s.connection.uri) (overridden u' s'.connection.uri) := by
    unfold overridden
    rw [hu.empty_eq]
    split
    · exact h.connection.uri
    · exact hu
  obtain ⟨hc, hplan, hlog⟩ := h
  refine ⟨⟨huri, hc.password, ?_, ?_, hc.username, hc.encrypted, hc.connectTimeout,
    hc.queryTimeout⟩, ?_, ?_⟩
  · simp only [override, hc.database]
  · simp only [override, hc.collection]
  · simp only [override, hplan, Overrides.planParts]
  · simp only [override, hlog]

/-- **Twins pass the same checks**, or the same check refuses them. -/
theorem validate_twins (h : s.Twins s') :
    s.validate.1.Twins s'.validate.1 ∧ s.validate.2 = s'.validate.2 := by
  obtain ⟨hc, hplan, hlog⟩ := h
  unfold validate
  rw [hc.check_eq, hplan, hlog]
  split
  · exact ⟨⟨hc, hplan, hlog⟩, rfl⟩
  · simp only
    split
    · exact ⟨⟨hc, rfl, rfl⟩, rfl⟩
    · split
      · exact ⟨⟨hc, rfl, rfl⟩, rfl⟩
      · exact ⟨⟨hc, rfl, rfl⟩, rfl⟩

/-- **Twins are accepted or refused together**, with the same records. -/
theorem create_twins (h : env.Twins env') (overrides : Overrides) (hu : Uri.Twins u u') :
    Both Twins (create env { overrides with uri := u }).1
        (create env' { overrides with uri := u' }).1 ∧
      (create env { overrides with uri := u }).2 =
        (create env' { overrides with uri := u' }).2 := by
  have hread : Both Twins (read env { overrides with uri := u })
      (read env' { overrides with uri := u' }) :=
    (ofEnvironment_twins h).bind fun s s' hs => .ended (override_twins hs overrides hu)
  unfold create
  generalize read env { overrides with uri := u } = x at hread ⊢
  generalize read env' { overrides with uri := u' } = y at hread ⊢
  cases hread with
  | failed refusal => exact ⟨.failed refusal, rfl⟩
  | @ended s s' hs =>
    obtain ⟨hchecked, houtcome⟩ := validate_twins hs
    simp only [houtcome, and_true]
    cases s'.validate.2 with
    | error refusal => exact .failed refusal
    | ok _ => exact .ended hchecked

end Settings

end Relink
