import Relink.Command.Run
import Relink.Proofs.Fix.Failed

/-!
# The session of the command

Once its options and settings are accepted and the database answers, the command fixes the links and
closes the client that it made. A call that fails on the way ends the command, but not before the
client is closed.

* `Store.connect_ok`: what a store leaves behind when it connects.
* `session_eq`: a session is a run between the opening and the closing of a client.
* `run_of_failed`: what the command comes to if its session fails.
* `failed_call_stops`: a failed call stops the run and the command.
-/

namespace Relink

/-- **A store that connects** has made a client. -/
theorem Store.connect_ok {connection : Connection} {server : Server}
    (h : (Store.connect ⟨some connection, none, false⟩ server).outcome = .ok ()) :
    (Store.connect ⟨some connection, none, false⟩ server).store.client = some server.clients ∧
      (Store.connect ⟨some connection, none, false⟩ server).trace =
        [.record ⟨.debug, "Connecting to MongoDB", [("uri", .text connection.shown)]⟩,
          .server (.opened server.clients connection.uri connection.clientOptions),
          .server (.pinged server.clients),
          .server (.selected server.clients connection.database connection.collection),
          .record ⟨.info, "Connected to MongoDB",
            [("database", .text connection.database),
              ("collection", .text connection.collection)]⟩] := by
  simp only [Store.connect, Bool.false_eq_true, if_false] at h ⊢
  rcases hopening : server.opening with ⟨_ | cause, opened⟩
  · rcases hping : opened.ping with ⟨_ | cause, answered⟩
    · simp only [hping, and_self]
    · simp [hopening, hping] at h
  · simp [hopening] at h

namespace Command

open Job

variable {world : World} {arguments : List String} {settings : Settings} {log : Log.Setup}
  {failure : Failure}

/-- **The command comes to its session**: its options are read and agree with each other, the
settings are accepted, the log is set up, and the store connects to the collection outside. -/
structure Begun (world : World) (arguments : List String) (settings : Settings) (log : Log.Setup) :
    Prop where
  options : ∃ options, Options.read arguments = .ok options ∧
    (options.apply && options.dryRun) = false ∧
    (Settings.create world.environment options.overrides).1 = .ok settings
  log : Log.setUp settings.log = .ok log
  connected : (Store.connect ⟨some settings.connection, none, false⟩ world.server).outcome = .ok ()
  place : (settings.connection.database, settings.connection.collection) = world.place

/-- What a session does before its run: a client is made, and a collection chosen. -/
def opening (server : Server) (connection : Connection) : List Event :=
  (Store.connect ⟨some connection, none, false⟩ server).trace

/-- What a session does after its run: the client is closed. -/
def closing (server : Server) : List Event :=
  [.server (.closed server.clients), .record ⟨.debug, "MongoDB connection closed", []⟩]

/-- **A session is a run** between the opening and the closing of a client. -/
theorem session_eq (h : Begun world arguments settings log) :
    session world settings =
      ((perform world.schedule (Fix.run settings.plan Defaults.rules) world.site).result,
        (perform world.schedule (Fix.run settings.plan Defaults.rules) world.site).site,
        opening world.server settings.connection ++
          (perform world.schedule (Fix.run settings.plan Defaults.rules) world.site).trace ++
            closing world.server) := by
  obtain ⟨hclient, -⟩ := Store.connect_ok h.connected
  simp only [session, h.connected, fix, h.place, if_true, Store.disconnect, hclient]
  rfl

theorem keepRecords_append (level : Int) (first rest : List Event) :
    keepRecords level (first ++ rest) = keepRecords level first ++ keepRecords level rest :=
  List.filter_append ..

/-- Dropping records drops no call. -/
theorem calls_keepRecords (level : Int) (events : List Event) :
    Event.calls (keepRecords level events) = Event.calls events := by
  induction events with
  | nil => rfl
  | cons event rest ih =>
    cases event with
    | record r =>
      by_cases hl : level ≤ r.level.number
      · simpa [keepRecords, Event.calls, hl] using ih
      · simpa [keepRecords, Event.calls, hl] using ih
    | call c => simpa [keepRecords, Event.calls] using ih
    | line | server => simpa [keepRecords, Event.calls] using ih

theorem calls_records (records : List Record) : Event.calls (records.map .record) = [] := by
  induction records with
  | nil => rfl
  | cons _ _ ih => exact ih

/-- **What the command comes to** if its session fails. Before it there are only records. -/
theorem run_of_failed (h : Begun world arguments settings log)
    (hr : (session world settings).1 = .error failure) :
    (run world arguments).exit = exitOf failure ∧ (run world arguments).summary = none ∧
      (run world arguments).site = (session world settings).2.1 ∧
      ∃ records : List Record, (run world arguments).trace =
        keepRecords firstLevel (records.map .record) ++
          keepRecords log.rootLevel (settings.summary.map .record ++
            (session world settings).2.2) := by
  obtain ⟨options, hread, hmode, hcreate⟩ := h.options
  rcases hc : Settings.create world.environment options.overrides with ⟨created, records⟩
  rw [hc] at hcreate
  simp only at hcreate
  subst hcreate
  rcases hs : session world settings with ⟨result, site, events⟩
  rw [hs] at hr
  simp only at hr
  subst hr
  simp only [run, hread, runOptions, hmode, hc, h.log, hs]
  exact ⟨rfl, rfl, rfl, records, rfl⟩

/-- **What the command ends with** after a failed call of its run. -/
structure Ended (world : World) (arguments : List String) (settings : Settings) (moment : Moment)
    (cause : Failure) : Prop where
  /-- An error of the driver is reported. -/
  reported : cause.isDriver = true →
    (run world arguments).exit = .code 1 (some (moment.reported cause).text) ∧
      (run world arguments).exit.complaint = some ("Error: " ++ (moment.reported cause).text)
  /-- Any other failure from outside escapes as it is. -/
  escaped : ∀ kind message, cause = .raised kind message → cause.isDriver = false →
    (run world arguments).exit = .escaped cause
  summary : (run world arguments).summary = none
  left : (run world arguments).site.documents = moment.met
  /-- The calls are those of the run. -/
  calls : Event.calls (run world arguments).trace =
    (moments world.schedule (Fix.run settings.plan Defaults.rules) world.site).map Moment.call
  /-- The client that was made is closed after the last call. -/
  closed : ∃ front back,
    (run world arguments).trace = front ++ .server (.closed world.server.clients) :: back ∧
      (∃ uri options, .server (.opened world.server.clients uri options) ∈ front) ∧
        Event.calls back = []

/-- **A failed call of its run ends the command**, once the client is closed. -/
theorem run_ended (h : Begun world arguments settings log) {moment : Moment} {cause : Failure}
    (hm : moment ∈ moments world.schedule (Fix.run settings.plan Defaults.rules) world.site)
    (hf : moment.failure? = some cause) : Ended world arguments settings moment cause := by
  have hstops := moments_failed (Fix.run settings.plan Defaults.rules) world.site hm hf
  have hsession := session_eq h
  have hr : (session world settings).1 = .error (moment.reported cause) := by
    rw [hsession]
    exact hstops.result
  obtain ⟨hexit, hsummary, hsite, records, htrace⟩ := run_of_failed h hr
  obtain ⟨-, hopening⟩ := Store.connect_ok h.connected
  refine ⟨fun hd => ?_, ?_, hsummary, ?_, ?_, ?_⟩
  · have hfault : ∃ fault, moment.reported cause = .reported fault (some cause) := by
      cases cause with
      | reported => cases hd
      | raised kind message =>
        cases kind with
        | driver kind =>
          obtain ⟨context, he, -⟩ := moment.reported_driver kind message
          obtain ⟨fault, hw, -⟩ := Fault.wrap_driver kind message context
          exact ⟨fault, he.trans hw⟩
        | _ => cases hd
    obtain ⟨fault, he⟩ := hfault
    rw [hexit, he]
    exact ⟨rfl, rfl⟩
  · rintro kind message rfl hd
    rw [hexit, moment.reported_other hd]
    rfl
  · rw [hsite, hsession]
    exact hstops.left
  · -- neither the records nor the opening and the closing are calls
    have hfront : Event.calls (opening world.server settings.connection) = [] := by
      rw [opening, hopening]
      rfl
    have hback : Event.calls (closing world.server) = [] := rfl
    simp only [htrace, hsession, Event.calls_append, calls_keepRecords, calls_records, hfront,
      hback, List.nil_append, List.append_nil, calls_trace]
  · have hclosing : keepRecords log.rootLevel (closing world.server) =
        .server (.closed world.server.clients) ::
          keepRecords log.rootLevel [.record ⟨.debug, "MongoDB connection closed", []⟩] := rfl
    rw [htrace, hsession]
    simp only [keepRecords_append, hclosing, ← List.append_assoc]
    refine ⟨_, _, rfl, ⟨settings.connection.uri, settings.connection.clientOptions, ?_⟩, ?_⟩
    · have hopened : Event.server (.opened world.server.clients settings.connection.uri
          settings.connection.clientOptions) ∈
            keepRecords log.rootLevel (opening world.server settings.connection) := by
        rw [opening, hopening]
        exact List.mem_filter.2 ⟨by simp, rfl⟩
      simp [hopened]
    · rw [calls_keepRecords]
      rfl

/-- **A failed call stops the run cleanly**, and with it the command. An error of the driver is
wrapped as a fault of its family, with the error as its cause and the operation in its context; any
other failure is passed on as it is. -/
theorem failed_call_stops {plan : Plan} {rules : List Rule} {schedule : Schedule} {site : Site}
    {moment : Moment} {cause : Failure} (hm : moment ∈ moments schedule (Fix.run plan rules) site)
    (hf : moment.failure? = some cause) :
    Fix.Stopped plan rules schedule site moment cause ∧
      (∀ kind message, cause = .raised (.driver kind) message →
        ∃ context fault, (perform schedule (Fix.run plan rules) site).result =
            .error (Fault.wrap cause context) ∧
          Fault.wrap cause context = .reported fault (some cause) ∧
          fault.kind = (match kind.family with
            | .connection => .connection
            | .operation => .query
            | .other => .store) ∧
          fault.context = context ∧ ("operation", .text moment.operation) ∈ context) ∧
      (cause.isDriver = false →
        (perform schedule (Fix.run plan rules) site).result = .error cause) ∧
      ∀ world arguments settings log, Begun world arguments settings log →
        settings.plan = plan → Defaults.rules = rules → world.schedule = schedule →
          world.site = site → Ended world arguments settings moment cause := by
  have hstopped := Fix.run_stopped hm hf
  have hresult := hstopped.stops.result
  refine ⟨hstopped, ?_, fun hd => ?_, ?_⟩
  · rintro kind message rfl
    obtain ⟨context, he, hoperation⟩ := moment.reported_driver kind message
    obtain ⟨fault, hw, hkind, hcontext⟩ := Fault.wrap_driver kind message context
    exact ⟨context, fault, he ▸ hresult, hw, hkind, hcontext, hoperation⟩
  · rw [hresult, moment.reported_other hd]
  · rintro world arguments settings log hbegun rfl rfl rfl rfl
    exact run_ended hbegun hm hf

/-- The settings that an empty environment and `--apply` give. -/
def usualSettings : Settings where
  connection := ⟨"mongodb://localhost:27017", "datasets", "instances", "", "", false, 5, 15⟩
  plan := ⟨["xlsx", "xls", "csv", "csvw"], 10, false, false, false, 100⟩
  log := ⟨"INFO", LogSettings.usualFormat, none⟩

/-- The outside of a command that loses the connection at its second update. -/
def cutOffWorld : World where
  environment := fun _ => none
  site := Fix.twoStale
  schedule := Fix.cutOff
  server := {}
  place := ("datasets", "instances")

theorem ok_of_toOption {ε α : Type} {e : Except ε α} {a : α} (h : e.toOption = some a) :
    e = .ok a := by
  cases e with
  | error _ => cases h
  | ok b => exact congrArg _ (Option.some.inj h)

theorem begun_cutOffWorld :
    Begun cutOffWorld ["--apply"] usualSettings ⟨20, 30, LogSettings.usualFormat, false⟩ where
  options := ⟨{ apply := true }, ok_of_toOption (by decide +kernel), rfl,
    ok_of_toOption (by decide +kernel)⟩
  log := ok_of_toOption (by decide +kernel)
  connected := rfl
  place := rfl

/-- The command ends with the error of the second update. -/
theorem failed_call_stops_cutOff :
    ∃ moment cause, cause.isDriver = true ∧
      Fix.Stopped usualSettings.plan Defaults.rules cutOffWorld.schedule cutOffWorld.site moment
        cause ∧
      Ended cutOffWorld ["--apply"] usualSettings moment cause := by
  have hany : (moments cutOffWorld.schedule (Fix.run usualSettings.plan Defaults.rules)
      cutOffWorld.site).any (fun moment => moment.failure?.any Failure.isDriver) = true := by
    decide +kernel
  obtain ⟨moment, hm, hfailed⟩ := List.any_eq_true.1 hany
  obtain ⟨cause, hf, hd⟩ := (Option.any_eq_true _ _).1 hfailed
  obtain ⟨hstopped, -, -, hcommand⟩ := failed_call_stops hm hf
  exact ⟨moment, cause, hd, hstopped,
    hcommand cutOffWorld ["--apply"] usualSettings _ begun_cutOffWorld rfl rfl rfl rfl⟩

end Command

end Relink
