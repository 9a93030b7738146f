import Relink.Proofs.Command.OptIn
import Relink.Proofs.Store.Life

/-!
# The client of the command

Whatever the command is told and whatever goes wrong, it makes at most one client. If the server
answers that client, the command closes it, once, and asks nothing of the server afterwards: a run
that fails on the way is no exception. A client that is not answered is given up without being
closed.

* `sent_session`: what a session sends.
* `sent_run`: a command sends what its session sends, if it comes to one.
* `client_released`: the client that the server answers is closed, and no other one.
* `left_open`: a client that is not answered stays open.
-/

namespace Relink

namespace Event

/-- Whether something is sent to the server. -/
def isSent : Event → Bool
  | call _ | server _ => true
  | _ => false

/-- What is sent to the server among some events, in order. -/
def sent (events : List Event) : List Event := events.filter isSent

theorem sent_append (first rest : List Event) : sent (first ++ rest) = sent first ++ sent rest :=
  List.filter_append ..

theorem sent_records (records : List Record) : sent (records.map .record) = [] := by
  rw [sent, List.filter_eq_nil_iff]
  intro event h
  obtain ⟨r, -, rfl⟩ := List.mem_map.1 h
  exact Bool.false_ne_true

theorem mem_servers {event : ServerEvent} {events : List Event} :
    event ∈ servers events ↔ .server event ∈ events := by
  constructor
  · intro h
    obtain ⟨e, he, hs⟩ := List.mem_filterMap.1 h
    cases e with
    | server other =>
      cases hs
      exact he
    | line | record | call => cases hs
  · intro h
    exact List.mem_filterMap.2 ⟨_, h, rfl⟩

/-- What the server is asked for is sent. -/
theorem servers_sent (events : List Event) : servers (sent events) = servers events := by
  rw [sent, servers, List.filterMap_filter]
  congr 1
  funext event
  cases event <;> rfl

theorem closings_sent (client : Nat) (events : List Event) :
    closings client (sent events) = closings client events := by
  rw [closings, closings, servers_sent]

/-- Of some events that end with the only one of its kind, nothing stands behind it. -/
theorem eq_nil_of_append_cons {events front back : List Event} {event : Event}
    (hn : event ∉ events) (h : events ++ [event] = front ++ event :: back) : back = [] := by
  rcases List.eq_nil_or_concat back with rfl | ⟨middle, last, rfl⟩
  · rfl
  · rw [List.concat_eq_append, ← List.cons_append, ← List.append_assoc] at h
    obtain ⟨rfl, -⟩ := List.append_inj' h rfl
    exact absurd (List.mem_append_right front List.mem_cons_self) hn

end Event

/-- A job sends nothing but its calls. -/
theorem Job.sent_perform {α : Type} (schedule : Schedule) (job : Job α) (site : Site) :
    ∀ event ∈ Event.sent (job.perform schedule site).trace, ∃ call, event = .call call := by
  intro event h
  obtain ⟨hm, hs⟩ := List.mem_filter.1 h
  cases event with
  | call call => exact ⟨call, rfl⟩
  | line | record => cases hs
  | server e =>
    have hserver := Event.mem_servers.2 hm
    rw [Job.servers_perform] at hserver
    cases hserver

namespace Command

variable {world : World} {arguments : List String} {settings : Settings} {client : Nat}

theorem sent_keepRecords (level : Int) (events : List Event) :
    Event.sent (keepRecords level events) = Event.sent events := by
  rw [Event.sent, keepRecords, List.filter_filter]
  congr 1
  funext event
  cases event <;> simp [Event.isSent]

/-- What the run of a session sends. -/
theorem sent_fix (world : World) (settings : Settings) :
    ∀ event ∈ Event.sent (fix world settings).trace, ∃ call, event = .call call := by
  unfold fix
  simp only
  split
  · exact Job.sent_perform _ _ _
  · intro event h
    obtain ⟨hm, hs⟩ := List.mem_filter.1 h
    exact Job.sent_perform _ _ _ event (List.mem_filter.2 ⟨(List.mem_filter.1 hm).1, hs⟩)

/-- **What a session sends**, as the server lets a client be made and answers it. -/
inductive Sends (server : Server) : List Event → Prop
  | unmade (ho : server.opening.1 ≠ none) (uri : String) (options : ClientOptions) :
    Sends server [.server (.opened server.clients uri options)]
  | unanswered (hp : server.ping.1 ≠ none) (uri : String) (options : ClientOptions) :
    Sends server [.server (.opened server.clients uri options), .server (.pinged server.clients)]
  | finished (hp : server.ping.1 = none) (uri : String) (options : ClientOptions)
    (database collection : String) (calls : List Event)
    (hc : ∀ event ∈ calls, ∃ call, event = .call call) :
    Sends server ([.server (.opened server.clients uri options), .server (.pinged server.clients),
      .server (.selected server.clients database collection)] ++ calls ++
        [.server (.closed server.clients)])

/-- A run stands between the opening and the closing of its client. -/
theorem sends_session (world : World) (settings : Settings) :
    Sends world.server (Event.sent (session world settings).2.2) := by
  have hopening : world.server.opening.1 = world.server.openings.head?.join := rfl
  have hping : world.server.ping.1 = world.server.pings.head?.join := rfl
  simp only [session, Store.connect, Bool.false_eq_true, if_false, Server.opening, Server.ping]
  cases ho : world.server.openings.head?.join with
  | some cause =>
    rw [ho] at hopening
    exact .unmade (by simp [hopening]) settings.connection.uri settings.connection.clientOptions
  | none =>
    dsimp only
    cases hp : world.server.pings.head?.join with
    | some cause =>
      rw [hp] at hping
      exact .unanswered (by simp [hping]) settings.connection.uri
        settings.connection.clientOptions
    | none =>
      rw [hp] at hping
      dsimp only [Store.disconnect]
      rw [Event.sent_append, Event.sent_append]
      exact .finished hping settings.connection.uri settings.connection.clientOptions
        settings.connection.database settings.connection.collection _ (sent_fix world settings)

/-- **A command sends** what its session sends, if it comes to one. -/
theorem sent_run (world : World) (arguments : List String) :
    Event.sent (run world arguments).trace = [] ∨
      Sends world.server (Event.sent (run world arguments).trace) := by
  unfold run
  split
  · exact .inl rfl
  · next options _ =>
    unfold runOptions
    split
    · exact .inl rfl
    · rcases Settings.create world.environment options.overrides with ⟨created, records⟩
      have hbegun : Event.sent (keepRecords firstLevel (records.map .record)) = [] := by
        rw [sent_keepRecords, Event.sent_records]
      cases created with
      | error refusal => exact .inl hbegun
      | ok settings =>
        simp only
        cases Log.setUp settings.log with
        | error failure => exact .inl hbegun
        | ok log =>
          -- records come before the session, and some are dropped from it
          have hsent : Event.sent (keepRecords firstLevel (records.map .record) ++
              keepRecords log.rootLevel (settings.summary.map .record ++
                (session world settings).2.2)) = Event.sent (session world settings).2.2 := by
            rw [Event.sent_append, hbegun, sent_keepRecords, Event.sent_append,
              Event.sent_records, List.nil_append, List.nil_append]
          have hsession := sends_session world settings
          rw [← hsent] at hsession
          rcases hs : session world settings with ⟨result, site, events⟩
          rw [hs] at hsession
          cases result with
          | error failure => exact .inr hsession
          | ok report => exact .inr hsession

/-- **A client is made**: the command asks for it, and the server lets it be made. -/
def Made (world : World) (events : List Event) (client : Nat) : Prop :=
  (∃ uri options, .server (.opened client uri options) ∈ events) ∧
    (world.server.openings[client - world.server.clients]?).join = none

/-- **A client is released**: it is closed once, and nothing is sent afterwards. -/
structure Released (events : List Event) (client : Nat) : Prop where
  closed_once : Event.closings client events = 1
  closed_last : ∀ front back, events = front ++ .server (.closed client) :: back →
    Event.sent back = []

theorem closings_of_calls (client : Nat) {calls : List Event}
    (h : ∀ event ∈ calls, ∃ call, event = .call call) : Event.closings client calls = 0 := by
  rw [Event.closings, List.count_eq_zero]
  intro hm
  obtain ⟨call, hcall⟩ := h _ (Event.mem_servers.1 hm)
  cases hcall

/-- The client that is made is the next one that was to be made. -/
theorem client_of_sends {events : List Event} (hs : Sends world.server (Event.sent events))
    (h : Made world events client) :
    client = world.server.clients ∧ world.server.opening.1 = none := by
  obtain ⟨⟨uri, options, hm⟩, hmade⟩ := h
  have hopened : .server (.opened client uri options) ∈ Event.sent events :=
    List.mem_filter.2 ⟨hm, rfl⟩
  have heq : client = world.server.clients := by
    generalize Event.sent events = sent at hs hopened
    cases hs with
    | unmade | unanswered =>
      simp only [List.mem_cons, List.not_mem_nil, Event.server.injEq, reduceCtorEq, or_false,
        ServerEvent.opened.injEq] at hopened
      exact hopened.1
    | finished _ _ _ _ _ calls hc =>
      have hcalls : .server (.opened client uri options) ∉ calls := by
        intro hin
        obtain ⟨call, he⟩ := hc _ hin
        cases he
      simp only [List.mem_append, List.mem_cons, List.not_mem_nil, hcalls, Event.server.injEq,
        reduceCtorEq, or_false, ServerEvent.opened.injEq] at hopened
      exact hopened.1
  subst heq
  rw [Nat.sub_self, ← List.head?_eq_getElem?] at hmade
  exact ⟨rfl, hmade⟩

theorem released_of_sends {events : List Event} (hs : Sends world.server (Event.sent events))
    (h : Made world events client) :
    (world.server.ping.1 = none → Released events client) ∧
      (world.server.ping.1 ≠ none → Event.closings client events = 0) := by
  obtain ⟨rfl, hopening⟩ := client_of_sends hs h
  have hclosings := Event.closings_sent world.server.clients events
  generalize hlist : Event.sent events = sent at hs hclosings
  cases hs with
  | unmade ho => exact absurd hopening ho
  | unanswered hp => exact ⟨fun hnone => absurd hnone hp, fun _ => hclosings.symm⟩
  | finished hp uri options database collection calls hc =>
    have hfront : Event.closings world.server.clients
        ([.server (.opened world.server.clients uri options),
          .server (.pinged world.server.clients),
          .server (.selected world.server.clients database collection)] ++ calls) = 0 := by
      rw [Event.closings_append, closings_of_calls _ hc]
      rfl
    have hone : Event.closings world.server.clients
        [.server (.closed world.server.clients)] = 1 := by
      simp [Event.closings, Event.servers]
    refine ⟨fun _ => ⟨?_, ?_⟩, fun hn => absurd hp hn⟩
    · rw [← hclosings, Event.closings_append, hfront, hone]
    · rintro front back rfl
      -- the closing is the last event that is sent, and the only one of its kind
      rw [Event.sent_append] at hlist
      refine Event.eq_nil_of_append_cons (fun hm => ?_) hlist.symm
      have hpos := List.count_pos_iff.2 (Event.mem_servers.2 hm)
      exact absurd hfront (Nat.ne_of_gt hpos)

/-- **The client of the command.** In every environment, with all arguments, over every collection,
whatever other writers do, whichever calls fail and whatever the server answers: a client that is
made is closed once, and nothing is sent after it was closed, if the server answers it. If not, it
is not closed. -/
theorem client_released (world : World) (arguments : List String)
    (h : Made world (run world arguments).trace client) :
    (world.server.ping.1 = none → Released (run world arguments).trace client) ∧
      (world.server.ping.1 ≠ none → Event.closings client (run world arguments).trace = 0) := by
  rcases sent_run world arguments with hnone | hs
  · obtain ⟨⟨uri, options, hm⟩, -⟩ := h
    have hopened : .server (.opened client uri options) ∈ Event.sent (run world arguments).trace :=
      List.mem_filter.2 ⟨hm, rfl⟩
    rw [hnone] at hopened
    cases hopened
  · exact released_of_sends hs h

/-- A command that loses the connection at its second update closes its client all the same. -/
theorem client_released_cutOff :
    Made cutOffWorld (run cutOffWorld ["--apply"]).trace 0 ∧
      Released (run cutOffWorld ["--apply"]).trace 0 := by
  have hopened : .opened 0 "mongodb://localhost:27017" ⟨5000, 15000, false, none⟩ ∈
      Event.servers (run cutOffWorld ["--apply"]).trace := by
    decide +kernel
  have hmade : Made cutOffWorld (run cutOffWorld ["--apply"]).trace 0 :=
    ⟨⟨_, _, Event.mem_servers.1 hopened⟩, rfl⟩
  exact ⟨hmade, (client_released cutOffWorld ["--apply"] hmade).1 rfl⟩

/-- The outside of a command whose client is made but not answered. -/
def unansweredWorld : World where
  environment := fun _ => none
  site := { documents := [] }
  schedule := .quiet
  server := { pings := [some (.raised (.driver .serverSelectionTimeout) "no servers")] }
  place := ("datasets", "instances")

/-- **A client can be left open**: it is made, and not closed once. -/
theorem left_open :
    Made unansweredWorld (run unansweredWorld []).trace 0 ∧
      ¬ Released (run unansweredWorld []).trace 0 := by
  have hend : .opened 0 "mongodb://localhost:27017" ⟨5000, 15000, false, none⟩ ∈
        Event.servers (run unansweredWorld []).trace ∧
      Event.closings 0 (run unansweredWorld []).trace = 0 := by
    decide +kernel
  refine ⟨⟨⟨_, _, Event.mem_servers.1 hend.1⟩, rfl⟩, fun h => ?_⟩
  have hnever := hend.2
  rw [h.closed_once] at hnever
  cases hnever

end Command

end Relink
