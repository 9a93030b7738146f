import Relink.Proofs.Settings.Plan
import Relink.Proofs.Uri
import Relink.Settings.Basic

/-!
# The sections of the settings

A setting is what is given for it; if nothing is given, what its variable spells; if the variable
is not set either, the usual value. A section is built exactly when every setting that is read can
be read, and the settings together are valid. It is refused as a wrong value.

* `FirstPresent`: which value a setting takes.
* `Connection.build_iff`, `Plan.build_iff`, `LogSettings.build_iff`: what building a section gives.
* `Connection.refusesValues_build` and the like: building refuses wrong values only.
-/

namespace Relink

namespace Settings

variable {α β : Type} {spells : String → Except Refusal α} {usual a b : α} {text : Option String}
  {given? : Option α} {env : Environment} {v : Variable}

/-- **The first that is present** of a value that is given, the value that a text spells, and the
usual one. -/
inductive FirstPresent (spells : String → Except Refusal α) (usual : α) :
    Option α → Option String → α → Prop
  | given (a : α) (text : Option String) : FirstPresent spells usual (some a) text a
  | spelled {text : String} {a : α} (h : spells text = .ok a) :
    FirstPresent spells usual none (some text) a
  | usual : FirstPresent spells usual none none usual

theorem firstPresent_iff :
    FirstPresent spells usual given? text a ↔
      given given? (text.elim (.ok usual) spells) = .ok a := by
  constructor
  · intro h
    cases h with
    | given => rfl
    | spelled h => exact h
    | usual => rfl
  · intro h
    cases given? with
    | some b =>
      cases h
      exact .given a text
    | none =>
      cases text with
      | some written => exact .spelled h
      | none =>
        cases h
        exact .usual

/-- What is given takes the place of what is present without it. -/
theorem FirstPresent.given_iff (h : FirstPresent spells usual none text a) :
    FirstPresent spells usual given? text b ↔ b = given?.getD a := by
  have hread : text.elim (.ok usual) spells = .ok a := firstPresent_iff.1 h
  rw [firstPresent_iff, hread]
  cases given? with
  | none => rw [Settings.given, Except.ok.injEq, Option.getD_none, eq_comm]
  | some c => rw [Settings.given, Except.ok.injEq, Option.getD_some, eq_comm]

theorem given_flagOf_iff {given? : Option Bool} {usual b : Bool} :
    given given? (flagOf env v usual) = .ok b ↔
      FirstPresent (readFlag v) usual given? (env v) b := by
  have hread : flagOf env v usual = (env v).elim (.ok usual) (readFlag v) := by
    unfold flagOf
    cases env v <;> simp only [Option.elim]
  rw [firstPresent_iff, hread]

theorem given_numberOf_iff {given? : Option Int} {usual n : Int} :
    given given? (numberOf env v usual) = .ok n ↔
      FirstPresent readNumber usual given? (env v) n := by
  have hread : numberOf env v usual = (env v).elim (.ok usual) readNumber := by
    unfold numberOf
    cases env v <;> simp only [Option.elim]
  rw [firstPresent_iff, hread]

/-- Where every text spells a value, there is one. -/
theorem getD_elim_iff {spelled : String → α} :
    given?.getD (text.elim usual spelled) = a ↔
      FirstPresent (fun written => .ok (spelled written)) usual given? text a := by
  rw [firstPresent_iff, ← Except.ok.injEq (ε := Refusal)]
  cases given? <;> cases text <;> rfl

theorem getD_textOf_iff {given? : Option String} {usual a : String} :
    given?.getD (textOf env v usual) = a ↔ FirstPresent .ok usual given? (env v) a := by
  have hread : textOf env v usual = (env v).elim usual id := by
    unfold textOf
    cases env v <;> rfl
  rw [hread, getD_elim_iff]
  rfl

/-- **Wrong values only** are refused. -/
def RefusesValues (result : Except Refusal α) : Prop :=
  ∀ refusal, result = .error refusal → refusal.failure = .value refusal.message

theorem refusesValues_ok (a : α) : RefusesValues (.ok a) := by
  intro refusal h
  cases h

theorem refusesValues_error {refusal : Refusal} (h : refusal.failure = .value refusal.message) :
    RefusesValues (.error refusal : Except Refusal α) := by
  intro other he
  cases he
  exact h

namespace RefusesValues

variable {result : Except Refusal α}

theorem bind {next : α → Except Refusal β} (h : RefusesValues result)
    (hn : ∀ a, RefusesValues (next a)) : RefusesValues (result >>= next) := by
  cases result with
  | error refusal => exact refusesValues_error (h refusal rfl)
  | ok a => exact hn a

theorem map (h : RefusesValues result) (f : α → β) : RefusesValues (result.map f) := by
  cases result with
  | error refusal => exact refusesValues_error (h refusal rfl)
  | ok a => exact refusesValues_ok (f a)

theorem given (h : RefusesValues result) (given? : Option α) :
    RefusesValues (given given? result) := by
  cases given? with
  | none => exact h
  | some a => exact refusesValues_ok a

end RefusesValues

theorem refusesValues_flagOf (env : Environment) (v : Variable) (usual : Bool) :
    RefusesValues (flagOf env v usual) := by
  unfold flagOf
  split
  · simp only [readFlag]
    split
    · exact refusesValues_ok true
    · split
      · exact refusesValues_ok false
      · exact refusesValues_error rfl
  · exact refusesValues_ok usual

theorem refusesValues_numberOf (env : Environment) (v : Variable) (usual : Int) :
    RefusesValues (numberOf env v usual) := by
  unfold numberOf
  split
  · next text _ =>
    unfold readNumber
    cases Number.whole text with
    | ok n => exact refusesValues_ok n
    | error fault => exact refusesValues_error rfl
  · exact refusesValues_ok usual

theorem refusesValues_refuseFirst {conditions : List (Bool × Refusal)}
    (h : ∀ condition ∈ conditions, condition.2.failure = .value condition.2.message) :
    RefusesValues (refuseFirst conditions) := by
  induction conditions with
  | nil => exact refusesValues_ok ()
  | cons condition rest ih =>
    obtain ⟨hc, hrest⟩ := List.forall_mem_cons.1 h
    unfold refuseFirst
    split
    · exact refusesValues_error hc
    · exact ih hrest

end Settings

open Settings

variable {env : Environment}

namespace Connection

variable {c : Connection} {parts : Given}

/-- **Where the settings of a connection come from.** -/
structure Drawn (env : Environment) (parts : Given) (c : Connection) : Prop where
  uri : FirstPresent .ok "mongodb://localhost:27017" parts.uri (env .uri) c.uri
  database : FirstPresent .ok "datasets" parts.database (env .database) c.database
  collection : FirstPresent .ok "instances" parts.collection (env .collection) c.collection
  username : FirstPresent .ok "" parts.username (env .username) c.username
  password : FirstPresent .ok "" parts.password (env .password) c.password
  encrypted : FirstPresent (readFlag .encrypted) false parts.encrypted (env .encrypted) c.encrypted
  connectTimeout :
    FirstPresent readNumber 5 parts.connectTimeout (env .connectTimeout) c.connectTimeout
  queryTimeout : FirstPresent readNumber 15 parts.queryTimeout (env .queryTimeout) c.queryTimeout

/-- **A valid connection.** -/
structure Valid (c : Connection) : Prop where
  scheme : "mongodb://".toList <+: c.uri.toList ∨ "mongodb+srv://".toList <+: c.uri.toList
  database : c.database ≠ ""
  collection : c.collection ≠ ""
  username : c.password ≠ "" → c.username ≠ ""
  connectTimeout : 1 ≤ c.connectTimeout
  queryTimeout : 1 ≤ c.queryTimeout

/-- An address with a scheme is not blank. -/
theorem trim_ne_empty_of_scheme {uri : String}
    (h : "mongodb://".toList <+: uri.toList ∨ "mongodb+srv://".toList <+: uri.toList) :
    Text.trim uri ≠ "" := by
  have hhead : uri.toList.head? = some 'm' := by
    rcases h with ⟨rest, hr⟩ | ⟨rest, hr⟩ <;> rw [← hr] <;> rfl
  exact Text.trim_ne_empty hhead (by decide)

theorem check_iff : c.check = .ok () ↔ c.Valid := by
  simp only [check, refuseFirst_eq_ok, objections, hasScheme, List.forall_mem_cons,
    beq_eq_false_iff_ne, Bool.not_eq_false', Bool.or_eq_true, List.isPrefixOf_iff_prefix,
    Bool.and_eq_false_iff, bne_eq_false_iff_eq, decide_eq_false_iff_not, Int.not_lt]
  constructor
  · rintro ⟨-, hs, hd, hc, hu, ht, hq, -⟩
    exact ⟨hs, hd, hc, fun hp => hu.resolve_left hp, ht, hq⟩
  · intro h
    refine ⟨trim_ne_empty_of_scheme h.scheme, h.scheme, h.database, h.collection, ?_,
      h.connectTimeout, h.queryTimeout, fun _ hm => absurd hm List.not_mem_nil⟩
    exact Decidable.or_iff_not_imp_left.2 h.username

/-- **A connection is built** as its settings are drawn, if it is valid. -/
theorem build_iff : build env parts = .ok c ↔ c.Drawn env parts ∧ c.Valid := by
  constructor
  · intro h
    unfold build at h
    obtain ⟨encrypted, he, h⟩ := exists_of_bind h
    obtain ⟨connectTimeout, ht, h⟩ := exists_of_bind h
    obtain ⟨queryTimeout, hq, h⟩ := exists_of_bind h
    obtain ⟨⟨⟩, hcheck, h⟩ := exists_of_bind h
    cases h
    refine ⟨⟨?_, ?_, ?_, ?_, ?_, given_flagOf_iff.1 he, given_numberOf_iff.1 ht,
      given_numberOf_iff.1 hq⟩, check_iff.1 hcheck⟩
    all_goals exact getD_textOf_iff.1 rfl
  · rintro ⟨hd, hv⟩
    have hcheck := check_iff.2 hv
    obtain ⟨uri, database, collection, username, password, encrypted, connectTimeout,
      queryTimeout⟩ := c
    simp only [build, given_flagOf_iff.2 hd.encrypted, given_numberOf_iff.2 hd.connectTimeout,
      given_numberOf_iff.2 hd.queryTimeout, getD_textOf_iff.2 hd.uri,
      getD_textOf_iff.2 hd.database, getD_textOf_iff.2 hd.collection,
      getD_textOf_iff.2 hd.username, getD_textOf_iff.2 hd.password, bind, Except.bind, hcheck]
    rfl

theorem refusesValues_check (c : Connection) : RefusesValues c.check :=
  refusesValues_refuseFirst (by simp [objections, Refusal.failure])

theorem refusesValues_build (env : Environment) (parts : Given) :
    RefusesValues (build env parts) := by
  refine ((refusesValues_flagOf _ _ _).given _).bind fun encrypted => ?_
  refine ((refusesValues_numberOf _ _ _).given _).bind fun connectTimeout => ?_
  refine ((refusesValues_numberOf _ _ _).given _).bind fun queryTimeout => ?_
  exact (refusesValues_check _).bind fun _ => refusesValues_ok _

end Connection

namespace Plan

variable {plan : Plan} {parts : Given}

/-- **Where the settings of a plan come from.** -/
structure Drawn (env : Environment) (parts : Given) (plan : Plan) : Prop where
  formats : ∃ formats, FirstPresent (fun text => .ok (readList text)) Defaults.formats
    parts.formats ((env .formats).filter (· ≠ "")) formats ∧ plan.formats = distinct formats
  limit : FirstPresent readNumber 10 parts.limit (env .limit) plan.limit
  dryRun : FirstPresent (readFlag .dryRun) true parts.dryRun (env .dryRun) plan.dryRun
  skipUnchanged : FirstPresent (readFlag .skipUnchanged) false parts.skipUnchanged
    (env .skipUnchanged) plan.skipUnchanged
  repeated : FirstPresent (readFlag .repeated) false parts.repeated (env .repeated) plan.repeated
  maxPasses : FirstPresent readNumber 100 parts.maxPasses (env .maxPasses) plan.maxPasses

/-- **A valid plan.** -/
structure Valid (plan : Plan) : Prop where
  formats_ne : plan.formats ≠ []
  formats : ∀ format ∈ plan.formats,
    format ≠ "" ∧ '.' ∉ format.toList ∧ format.toList.head? ≠ some '$'
  nodup : plan.formats.Nodup
  limit : 1 ≤ plan.limit
  maxPasses : 1 ≤ plan.maxPasses

theorem isFormat_iff {format : String} : isFormat format = true ↔
    format ≠ "" ∧ '.' ∉ format.toList ∧ format.toList.head? ≠ some '$' := by
  simp [isFormat, and_assoc]

theorem check_iff (hn : plan.formats.Nodup) : plan.check = .ok () ↔ plan.Valid := by
  rw [check_ok]
  constructor
  · rintro ⟨hne, hf, hl, hm⟩
    exact ⟨hne, fun format h => isFormat_iff.1 (hf format h), hn, hl, hm⟩
  · intro h
    exact ⟨h.formats_ne, fun format hf => isFormat_iff.2 (h.formats format hf), h.limit,
      h.maxPasses⟩

theorem getD_formatsOf_iff {given? : Option (List String)} {formats : List String} :
    given?.getD (formatsOf env) = formats ↔
      FirstPresent (fun text => .ok (readList text)) Defaults.formats given?
        ((env .formats).filter (· ≠ "")) formats := by
  have hread : formatsOf env =
      ((env .formats).filter (· ≠ "")).elim Defaults.formats readList := by
    unfold formatsOf
    cases env .formats with
    | none => rfl
    | some text => by_cases he : text = "" <;> simp [Option.filter, he]
  rw [hread, getD_elim_iff]

/-- **A plan is built** as its settings are drawn, if it is valid. -/
theorem build_iff : build env parts = .ok plan ↔ plan.Drawn env parts ∧ plan.Valid := by
  constructor
  · intro h
    unfold build at h
    obtain ⟨limit, hl, h⟩ := exists_of_bind h
    obtain ⟨dryRun, hd, h⟩ := exists_of_bind h
    obtain ⟨skipUnchanged, hs, h⟩ := exists_of_bind h
    obtain ⟨repeated, hr, h⟩ := exists_of_bind h
    obtain ⟨maxPasses, hm, h⟩ := exists_of_bind h
    obtain ⟨⟨⟩, hcheck, h⟩ := exists_of_bind h
    cases h
    exact ⟨⟨⟨_, getD_formatsOf_iff.1 rfl, rfl⟩, given_numberOf_iff.1 hl, given_flagOf_iff.1 hd,
      given_flagOf_iff.1 hs, given_flagOf_iff.1 hr, given_numberOf_iff.1 hm⟩,
      (check_iff (nodup_distinct _)).1 hcheck⟩
  · rintro ⟨hd, hv⟩
    have hcheck := (check_iff hv.nodup).2 hv
    obtain ⟨formats, hf, hdistinct⟩ := hd.formats
    obtain ⟨kept, limit, dryRun, skipUnchanged, repeated, maxPasses⟩ := plan
    obtain rfl : kept = distinct formats := hdistinct
    simp only [build, given_numberOf_iff.2 hd.limit, given_flagOf_iff.2 hd.dryRun,
      given_flagOf_iff.2 hd.skipUnchanged, given_flagOf_iff.2 hd.repeated,
      given_numberOf_iff.2 hd.maxPasses, getD_formatsOf_iff.2 hf, normalised, bind, Except.bind,
      hcheck]
    rfl

theorem refusesValues_check (plan : Plan) : RefusesValues plan.check :=
  refusesValues_refuseFirst (by simp [objections, Refusal.failure])

theorem refusesValues_build (env : Environment) (parts : Given) :
    RefusesValues (build env parts) := by
  refine ((refusesValues_numberOf _ _ _).given _).bind fun limit => ?_
  refine ((refusesValues_flagOf _ _ _).given _).bind fun dryRun => ?_
  refine ((refusesValues_flagOf _ _ _).given _).bind fun skipUnchanged => ?_
  refine ((refusesValues_flagOf _ _ _).given _).bind fun repeated => ?_
  refine ((refusesValues_numberOf _ _ _).given _).bind fun maxPasses => ?_
  exact (refusesValues_check _).bind fun _ => refusesValues_ok _

end Plan

namespace LogSettings

variable {s : LogSettings} {parts : Given}

/-- **Where the settings of the log come from.** -/
structure Drawn (env : Environment) (parts : Given) (s : LogSettings) : Prop where
  level : ∃ level, FirstPresent .ok "INFO" parts.level (env .logLevel) level ∧
    s.level = Text.upper level
  format : FirstPresent .ok usualFormat parts.format (env .logFormat) s.format
  file : FirstPresent (fun text => .ok (some text)) none parts.file (env .logFile) s.file

/-- **Valid settings of the log.** -/
structure Valid (s : LogSettings) : Prop where
  level : s.level ∈ levelNames

theorem check_iff : s.check = .ok () ↔ s.normalised.Valid := by
  have hcheck : s.check = .ok () ↔ Text.upper s.level ∈ levelNames := by
    unfold check
    split <;> simp_all
  rw [hcheck]
  exact ⟨fun h => ⟨h⟩, fun h => h.level⟩

/-- **Settings of the log are built** as they are drawn, if they are valid. -/
theorem build_iff : build env parts = .ok s ↔ s.Drawn env parts ∧ s.Valid := by
  have hfile : ∀ {file}, parts.file.getD (env .logFile) = file ↔
      FirstPresent (fun text => .ok (some text)) none parts.file (env .logFile) file := by
    intro file
    rw [← getD_elim_iff]
    cases env .logFile <;> rfl
  constructor
  · intro h
    unfold build at h
    obtain ⟨⟨⟩, hcheck, h⟩ := exists_of_bind h
    cases h
    exact ⟨⟨⟨_, getD_textOf_iff.1 rfl, rfl⟩, getD_textOf_iff.1 rfl, hfile.1 rfl⟩,
      check_iff.1 hcheck⟩
  · rintro ⟨hd, hv⟩
    obtain ⟨level, hl, hupper⟩ := hd.level
    obtain ⟨upper, format, file⟩ := s
    obtain rfl : upper = Text.upper level := hupper
    have hcheck : check ⟨level, format, file⟩ = .ok () := check_iff.2 hv
    simp only [build, getD_textOf_iff.2 hl, getD_textOf_iff.2 hd.format, hfile.2 hd.file, bind,
      Except.bind, hcheck]
    rfl

theorem refusesValues_check (s : LogSettings) : RefusesValues s.check := by
  unfold check
  split
  · exact refusesValues_ok ()
  · exact refusesValues_error rfl

theorem refusesValues_build (env : Environment) (parts : Given) :
    RefusesValues (build env parts) :=
  (refusesValues_check _).bind fun _ => refusesValues_ok _

end LogSettings

end Relink
