import Relink.Command.Run
import Relink.Proofs.Command.Arguments
import Relink.Proofs.Settings.Credentials
import Relink.Proofs.Store.Linked

/-!
# Credentials stay concealed

Two runs of the command whose addresses and passwords are different, but nothing else, end in the
same way, print the same, log the same, call the collection in the same way and leave it the same.
What they differ in is handed to the client, and to nothing else.

* `Concealed`: outcomes that differ only in what a client is made with.
* `session_twins`: the sessions of twins.
* `credentials_concealed`: the command keeps credentials to itself.
-/

namespace Relink

/-- An event without the address and the password that a client is made with. -/
def Event.veiled : Event → Event
  | .server (.opened client _ options) => .server (.opened client ""
      { options with credentials := options.credentials.map fun user => (user.1, "") })
  | event => event

namespace Event

variable {events events' : List Event}

/-- **What is read off events** that is not read off the opening of a client can be read off the
veiled events. -/
theorem filterMap_of_veiled {α : Type} {f : Event → Option α}
    (hf : ∀ client uri options, f (.server (.opened client uri options)) = none)
    (h : events.map veiled = events'.map veiled) : events.filterMap f = events'.filterMap f := by
  have hevent : ∀ event : Event, f event.veiled = f event := by
    intro event
    unfold veiled
    split
    · rw [hf, hf]
    · rfl
  have hveil : ∀ events : List Event, (events.map veiled).filterMap f = events.filterMap f := by
    intro events
    rw [List.filterMap_map]
    exact congrArg (List.filterMap · events) (funext hevent)
  rw [← hveil events, h, hveil events']

end Event

namespace Connection.Twins

variable {c c' : Connection}

/-- Twins open a client in the same way, but for what is veiled. -/
theorem opened_eq (h : c.Twins c') (client : Nat) :
    Event.veiled (.server (.opened client c.uri c.clientOptions)) =
      Event.veiled (.server (.opened client c'.uri c'.clientOptions)) := by
  simp only [Event.veiled, clientOptions, h.username, h.encrypted, h.connectTimeout,
    h.queryTimeout]
  split <;> rfl

/-- **Twins connect alike.** -/
theorem connect (h : c.Twins c') (server : Server) :
    (Store.connect ⟨some c, none, false⟩ server).outcome =
        (Store.connect ⟨some c', none, false⟩ server).outcome ∧
      (Store.connect ⟨some c, none, false⟩ server).store.disconnect.2 =
        (Store.connect ⟨some c', none, false⟩ server).store.disconnect.2 ∧
      (Store.connect ⟨some c, none, false⟩ server).trace.map Event.veiled =
        (Store.connect ⟨some c', none, false⟩ server).trace.map Event.veiled := by
  simp only [Store.connect, Bool.false_eq_true, if_false, h.shown_eq, h.failure_eq, h.database,
    h.collection]
  rcases server.opening with ⟨_ | cause, opened⟩
  · rcases hping : opened.ping with ⟨_ | cause, answered⟩
    · simp only [hping, List.map_cons, List.map_nil, h.opened_eq, and_self, Store.disconnect]
    · simp only [hping, List.map_cons, List.map_nil, h.opened_eq, and_self, Store.disconnect]
  · simp only [List.map_cons, List.map_nil, h.opened_eq, and_self, Store.disconnect]

end Connection.Twins

namespace Command

variable {world : World} {env env' : Environment} {s s' : Settings} {options options' : Options}

/-- **Outcomes that conceal a difference**: they end in the same way and print the same, and what
they leave behind differs at most in the address and the password that a client is made with. -/
structure Concealed (a b : Outcome) : Prop where
  exit : a.exit = b.exit
  summary : a.summary = b.summary
  log : a.log = b.log
  site : a.site = b.site
  lines : Event.lines a.trace = Event.lines b.trace
  records : Event.records a.trace = Event.records b.trace
  calls : Event.calls a.trace = Event.calls b.trace
  trace : a.trace.map Event.veiled = b.trace.map Event.veiled

theorem Concealed.of_trace {a b : Outcome} (hexit : a.exit = b.exit)
    (hsummary : a.summary = b.summary) (hlog : a.log = b.log) (hsite : a.site = b.site)
    (htrace : a.trace.map Event.veiled = b.trace.map Event.veiled) : Concealed a b := by
  refine ⟨hexit, hsummary, hlog, hsite, ?_, ?_, ?_, htrace⟩
  · exact Event.filterMap_of_veiled (fun _ _ _ => rfl) htrace
  · exact Event.filterMap_of_veiled (fun _ _ _ => rfl) htrace
  · exact Event.filterMap_of_veiled (fun _ _ _ => rfl) htrace

theorem veiled_keepRecords (level : Int) (events : List Event) :
    (keepRecords level events).map Event.veiled = keepRecords level (events.map Event.veiled) := by
  rw [keepRecords, keepRecords, List.filter_map]
  congr 1
  apply List.filter_congr
  intro event _
  cases event with
  | server event => cases event <;> rfl
  | line | record | call => rfl

/-- The settings of twins are summed up alike. -/
theorem summary_eq (h : s.Twins s') : s.summary = s'.summary := by
  rw [Settings.summary, Settings.summary, Settings.summaryLines, Settings.summaryLines,
    h.connection.shown_eq, h.plan, h.log]

/-- Twins fix the links of the same collection in the same way. -/
theorem fix_eq (h : s.Twins s') (world : World) : fix world s = fix world s' := by
  rw [fix, fix, h.plan, h.connection.database, h.connection.collection]

/-- A session does not look at the environment. -/
theorem session_environment (world : World) (environment : Environment) (settings : Settings) :
    session { world with environment } settings = session world settings := rfl

/-- **The sessions of twins** come to the same, and conceal what differs. -/
theorem session_twins (h : s.Twins s') (world : World) :
    (session world s).1 = (session world s').1 ∧ (session world s).2.1 = (session world s').2.1 ∧
      (session world s).2.2.map Event.veiled = (session world s').2.2.map Event.veiled := by
  obtain ⟨houtcome, hclose, htrace⟩ := h.connection.connect world.server
  simp only [session, houtcome, fix_eq h]
  split
  · exact ⟨rfl, rfl, htrace⟩
  · simp only [List.map_append, htrace, hclose, and_self]

/-- **With its options read**, the command conceals credentials. -/
theorem runOptions_twins (henv : env.Twins env') (hoptions : options.Twins options')
    (world : World) :
    Concealed (runOptions { world with environment := env } options)
      (runOptions { world with environment := env' } options') := by
  cases hoptions with
  | @mk options u u' hu =>
    have hoverrides : ∀ uri : String, Options.overrides { options with uri := uri } =
        { options.overrides with uri := uri } := fun _ => rfl
    obtain ⟨hcreated, hrecords⟩ := Settings.create_twins henv options.overrides hu
    rw [← hoverrides, ← hoverrides] at hcreated hrecords
    unfold runOptions
    split
    · exact .of_trace rfl rfl rfl rfl rfl
    · generalize Settings.create env (Options.overrides { options with uri := u }) = created at *
      generalize Settings.create env' (Options.overrides { options with uri := u' }) = created' at *
      obtain ⟨x, records⟩ := created
      obtain ⟨y, records'⟩ := created'
      simp only at hcreated hrecords
      subst hrecords
      cases hcreated with
      | failed refusal => exact .of_trace rfl rfl rfl rfl rfl
      | @ended s s' hs =>
        obtain ⟨hresult, hsite, htrace⟩ := session_twins hs world
        simp only [hs.log, summary_eq hs, session_environment]
        cases Log.setUp s'.log with
        | error failure => exact .of_trace rfl rfl rfl rfl rfl
        | ok log =>
          generalize session world s = ended at *
          generalize session world s' = ended' at *
          obtain ⟨result, site, events⟩ := ended
          obtain ⟨result', site', events'⟩ := ended'
          simp only at hresult hsite htrace
          subst hresult hsite
          have hkept : (keepRecords firstLevel (records.map .record) ++ keepRecords log.rootLevel
                (s'.summary.map .record ++ events)).map Event.veiled =
              (keepRecords firstLevel (records.map .record) ++ keepRecords log.rootLevel
                (s'.summary.map .record ++ events')).map Event.veiled := by
            rw [List.map_append, List.map_append, veiled_keepRecords log.rootLevel,
              veiled_keepRecords log.rootLevel, List.map_append, List.map_append, htrace]
          cases result with
          | error failure => exact .of_trace rfl rfl rfl rfl hkept
          | ok report => exact .of_trace rfl rfl rfl rfl hkept

/-- What setting up the log says of itself, if the settings are accepted. -/
def announced (environment : Environment) (options : Options) :
    Except Settings.Refusal Log.Entry :=
  (Settings.create environment options.overrides).1.map fun settings =>
    Log.announcement settings.log

theorem announced_twins (henv : env.Twins env') (hoptions : options.Twins options') :
    announced env options = announced env' options' := by
  obtain ⟨options, hu⟩ := hoptions
  have hcreated := (Settings.create_twins henv options.overrides hu).1
  have hannounced := hcreated.map fun s s' (hs : s.Twins s') =>
    show Log.announcement s.log = Log.announcement s'.log by rw [hs.log]
  exact hannounced.eq

/-- **Credentials do not flow into what is shown.** Two runs of the command whose environments and
options differ at most in the credentials of the addresses and in a password end alike, print alike
and log alike at every level, make the same calls and leave the same collection, whatever the server
answers and whichever calls fail. Only what a client is made with can differ. -/
theorem credentials_concealed (henv : env.Twins env') (world : World) :
    (∀ options options' : Options, options.Twins options' →
      Concealed (runOptions { world with environment := env } options)
          (runOptions { world with environment := env' } options') ∧
        announced env options = announced env' options') ∧
    ∀ arguments arguments', TwinArguments none arguments arguments' →
      Concealed (run { world with environment := env } arguments)
        (run { world with environment := env' } arguments') := by
  refine ⟨fun options options' h => ⟨runOptions_twins henv h world, announced_twins henv h⟩,
    fun arguments arguments' h => ?_⟩
  have hread := read_twins h
  unfold run
  generalize Options.read arguments = asked at hread ⊢
  generalize Options.read arguments' = asked' at hread ⊢
  cases hread with
  | failed fault => exact .of_trace rfl rfl rfl rfl rfl
  | ended hoptions => exact runOptions_twins henv hoptions world

/-- An environment with an address and a password, and with the lowest level. -/
def secretEnvironment (credentials password : String) : Environment
  | .uri => some (Uri.withCredentials "mongodb" credentials "db.example.net:27017/?tls=true")
  | .username => some "fixer"
  | .password => some password
  | .logLevel => some "debug"
  | _ => none

theorem twins_secretEnvironment {password password' : String} (hp : password ≠ "")
    (hp' : password' ≠ "") (credentials credentials' : String) :
    Environment.Twins (secretEnvironment credentials password)
      (secretEnvironment credentials' password') where
  uri := .some (.apart (by decide) (by decide) credentials credentials')
  password := .some (iff_of_false hp hp')
  others := by
    intro v hu hp
    cases v <;> first | rfl | contradiction

/-- The outside of a command whose server does not answer. -/
def silentWorld : World where
  environment := fun _ => none
  site := Fix.twoStale
  schedule := .quiet
  server := { pings := [some (.raised (.driver .serverSelectionTimeout) "timed out")] }
  place := ("datasets", "instances")

/-- The arguments of a command with an address of its own. -/
def secretArguments (credentials : String) : List String :=
  ["--apply", "--mongo-uri", Uri.withCredentials "mongodb+srv" credentials "replica"]

/-- Neither a secret with marks of its own nor a plain one is shown when the server does not answer,
although the clients are made with them. -/
theorem credentials_concealed_silent :
    Concealed
        (run { silentWorld with environment := secretEnvironment "fixer:a@b://c" "a@b://c" }
          (secretArguments "fixer:x@y://z"))
        (run { silentWorld with environment := secretEnvironment "fixer:plain" "plain" }
          (secretArguments "fixer:simple")) ∧
      Event.servers (run { silentWorld with
          environment := secretEnvironment "fixer:a@b://c" "a@b://c" }
        (secretArguments "fixer:x@y://z")).trace ≠
      Event.servers (run { silentWorld with
          environment := secretEnvironment "fixer:plain" "plain" }
        (secretArguments "fixer:simple")).trace := by
  have hswitch : awaits "--apply" = none := by decide +kernel
  have haddress : awaits "--mongo-uri" = some (.uri, "--mongo-uri") := by decide +kernel
  have hvalue : TwinArguments (awaits "--mongo-uri")
      [Uri.withCredentials "mongodb+srv" "fixer:x@y://z" "replica"]
      [Uri.withCredentials "mongodb+srv" "fixer:simple" "replica"] := by
    rw [haddress]
    exact .address _ (.apart (by decide) (by decide) _ _) (.nil none)
  have harguments : TwinArguments none (secretArguments "fixer:x@y://z")
      (secretArguments "fixer:simple") := by
    refine .same (by decide) ?_
    rw [hswitch]
    exact .same (by decide) hvalue
  exact ⟨(credentials_concealed (twins_secretEnvironment (by decide) (by decide) _ _)
    silentWorld).2 _ _ harguments, by decide +kernel⟩

end Command

end Relink
