import Relink.Store.Lifecycle

/-!
# The life of a store

A store is connected and disconnected, entered and left as a block, and asked to find or to update
documents, in any order. What one use can do is told here once, whatever the server answers to the
clients of the store.

* `Life.step`, `Life.run`: a store is put to one use, and to some.
* `Life.turn`: what one use can do.
* `step_of_attached`, `step_of_no_client`, `step_of_detached`: the uses that do nothing.
-/

namespace Relink

namespace Event

/-- The number of times that a client is closed among some events. -/
def closings (client : Nat) (events : List Event) : Nat :=
  (servers events).count (.closed client)

theorem servers_append (first rest : List Event) :
    servers (first ++ rest) = servers first ++ servers rest := List.filterMap_append ..

theorem closings_append (client : Nat) (first rest : List Event) :
    closings client (first ++ rest) = closings client first + closings client rest := by
  rw [closings, servers_append, List.count_append, closings, closings]

end Event

/-- A job asks nothing of the server but its calls. -/
theorem Job.servers_perform {α : Type} (schedule : Schedule) (job : Job α) (site : Site) :
    Event.servers (job.perform schedule site).trace = [] := by
  induction job generalizing site with
  | done | fail => rfl
  | echo line next ih => exact ih site
  | log record next ih => exact ih site
  | find request next ih =>
    simp only [perform]
    split
    · next documents after call _ => exact ih documents after
    · rfl
  | update request next ih =>
    simp only [perform]
    split
    · next selected after _ => exact ih selected after
    · rfl

namespace Store

/-- **What comes of connecting**: nothing on a store that holds a collection; on any other one a
failure that leaves the store, or a client. No client is closed. -/
theorem connect_cases (store : Store) (server : Server) :
    (store.attached = true ∧ store.connect server = ⟨.ok (), store, server, []⟩) ∨
    (store.attached = false ∧ ∃ failure later trace,
      store.connect server = ⟨.error failure, store, later, trace⟩ ∧
        server.clients ≤ later.clients ∧ ∀ client, Event.closings client trace = 0) ∨
    (store.attached = false ∧ ∃ later trace,
      store.connect server =
          ⟨.ok (), { store with client := some server.clients, attached := true }, later, trace⟩ ∧
        later.clients = server.clients + 1 ∧ ∀ client, Event.closings client trace = 0) := by
  obtain ⟨connection, client, attached⟩ := store
  cases attached with
  | true => exact .inl ⟨rfl, rfl⟩
  | false =>
    right
    cases connection with
    | none => exact .inl ⟨rfl, _, server, [], rfl, Nat.le_refl _, fun _ => rfl⟩
    | some c =>
      simp only [connect, Bool.false_eq_true, if_false, Server.opening, Server.ping]
      -- the server may fail to make a client, or to answer it
      cases server.openings.head?.join with
      | some cause => exact .inl ⟨trivial, _, _, _, rfl, Nat.le_succ _, fun _ => rfl⟩
      | none =>
        dsimp only
        cases server.pings.head?.join with
        | some cause => exact .inl ⟨trivial, _, _, _, rfl, Nat.le_succ _, fun _ => rfl⟩
        | none => exact .inr ⟨trivial, _, _, rfl, rfl, fun _ => rfl⟩

/-- What a store is put to. A find is read to its end. -/
inductive Use where
  | connect
  | disconnect
  | enter
  | leave
  | find (request : FindRequest)
  | update (request : UpdateRequest)

namespace Use

/-- Whether a use connects the store. -/
def connects : Use → Bool
  | connect | enter => true
  | _ => false

/-- Whether a use disconnects the store. -/
def disconnects : Use → Bool
  | disconnect | leave => true
  | _ => false

end Use

/-- A use as it went. -/
structure Deed where
  use : Use
  outcome : Except Failure Unit
  /-- What it left behind, in order. -/
  trace : List Event

/-- A store, with the server and the collection that it meets. -/
structure Life where
  store : Store
  server : Server
  site : Site

namespace Life

/-- Puts the store to a use. -/
def step (schedule : Schedule) (life : Life) (use : Use) : Life × Deed :=
  match use with
  | .connect | .enter =>
    let contact := life.store.connect life.server
    ({ life with store := contact.store, server := contact.server },
      ⟨use, contact.outcome, contact.trace⟩)
  | .disconnect | .leave =>
    let (store, trace) := life.store.disconnect
    ({ life with store := store }, ⟨use, .ok (), trace⟩)
  | .find request =>
    let ending := (life.store.find request).perform schedule life.site
    ({ life with site := ending.site }, ⟨use, ending.result.map fun _ => (), ending.trace⟩)
  | .update request =>
    let ending := (life.store.update request).perform schedule life.site
    ({ life with site := ending.site }, ⟨use, ending.result.map fun _ => (), ending.trace⟩)

/-- Puts the store to some uses, one after another: what is left, and how each of them went. -/
def run (schedule : Schedule) : List Use → Life → Life × List Deed
  | [], life => (life, [])
  | use :: rest, life =>
    let (next, deed) := life.step schedule use
    let (last, deeds) := run schedule rest next
    (last, deed :: deeds)

end Life

variable {life next : Life} {use : Use} {deed : Deed}

theorem Use.not_disconnects (h : use.connects = true) : use.disconnects = false := by
  cases use <;> simp_all [connects, disconnects]

theorem Use.not_connects (h : use.disconnects = true) : use.connects = false := by
  cases use <;> simp_all [connects, disconnects]

theorem step_of_connects (schedule : Schedule) (life : Life) (hc : use.connects = true) :
    life.step schedule use =
      ({ life with
          store := (life.store.connect life.server).store
          server := (life.store.connect life.server).server },
        ⟨use, (life.store.connect life.server).outcome,
          (life.store.connect life.server).trace⟩) := by
  cases use with
  | connect | enter => rfl
  | disconnect | leave | find | update => cases hc

theorem step_of_disconnects (schedule : Schedule) (life : Life) (hd : use.disconnects = true) :
    life.step schedule use =
      ({ life with store := life.store.disconnect.1 }, ⟨use, .ok (), life.store.disconnect.2⟩) := by
  cases use with
  | disconnect | leave => rfl
  | connect | enter | find | update => cases hd

/-- **A store that holds a collection** has nothing to do to connect. -/
theorem step_of_attached (schedule : Schedule) (hc : use.connects = true)
    (ha : life.store.attached = true) : life.step schedule use = (life, ⟨use, .ok (), []⟩) := by
  rw [step_of_connects schedule life hc, connect_of_attached ha]

/-- **A store without a client of its own** has nothing to do to disconnect. -/
theorem step_of_no_client (schedule : Schedule) (hd : use.disconnects = true)
    (hn : life.store.client = none) : life.step schedule use = (life, ⟨use, .ok (), []⟩) := by
  rw [step_of_disconnects schedule life hd, disconnect_idle hn]

theorem step_of_client (schedule : Schedule) (hd : use.disconnects = true) {client : Nat}
    (hs : life.store.client = some client) :
    life.step schedule use =
      ({ life with store := { life.store with client := none, attached := false } },
        ⟨use, .ok (), [.server (.closed client),
          .record ⟨.debug, "MongoDB connection closed", []⟩]⟩) := by
  rw [step_of_disconnects schedule life hd]
  simp only [disconnect, hs]

theorem client_of_disconnects (schedule : Schedule) (life : Life) (hd : use.disconnects = true) :
    (life.step schedule use).1.store.client = none := by
  cases hs : life.store.client with
  | none => rw [step_of_no_client schedule hd hs, hs]
  | some client => rw [step_of_client schedule hd hs]

/-- A store that holds no collection refuses every call, and nothing is asked of the driver. -/
theorem step_of_detached (schedule : Schedule) (ha : life.store.attached = false)
    (hc : use.connects = false) (hd : use.disconnects = false) :
    life.step schedule use = (life, ⟨use, .error (detached "Not connected to MongoDB"), []⟩) := by
  have hcollection : life.store.collection = .error (detached "Not connected to MongoDB") := by
    rw [collection, ha, if_neg Bool.false_ne_true]
  cases use with
  | connect | enter => cases hc
  | disconnect | leave => cases hd
  | find request =>
    simp only [Life.step, find, hcollection, Job.perform]
    rfl
  | update request =>
    simp only [Life.step, update, hcollection, Job.perform]
    rfl

/-- **What a use can do**, seen from the store. -/
inductive Turn (life : Life) (use : Use) : Life → Deed → Prop
  | kept (hc : use.connects = true) (ha : life.store.attached = true) :
    Turn life use life ⟨use, .ok (), []⟩
  | refused (hc : use.connects = true) (ha : life.store.attached = false) (server : Server)
    (failure : Failure) (trace : List Event) (hs : life.server.clients ≤ server.clients)
    (ht : ∀ client, Event.closings client trace = 0) :
    Turn life use { life with server := server } ⟨use, .error failure, trace⟩
  | connected (hc : use.connects = true) (ha : life.store.attached = false) (server : Server)
    (trace : List Event) (hs : server.clients = life.server.clients + 1)
    (ht : ∀ client, Event.closings client trace = 0) :
    Turn life use
      { life with
        store := { life.store with client := some life.server.clients, attached := true }
        server := server }
      ⟨use, .ok (), trace⟩
  | idle (hd : use.disconnects = true) (hn : life.store.client = none) :
    Turn life use life ⟨use, .ok (), []⟩
  | closed (hd : use.disconnects = true) (client : Nat) (hs : life.store.client = some client)
    (trace : List Event) (ht : Event.servers trace = [.closed client]) :
    Turn life use
      { life with store := { life.store with client := none, attached := false } }
      ⟨use, .ok (), trace⟩
  | called (hc : use.connects = false) (hd : use.disconnects = false) (site : Site)
    (outcome : Except Failure Unit) (trace : List Event) (ht : Event.servers trace = []) :
    Turn life use { life with site := site } ⟨use, outcome, trace⟩

theorem turn_of_connects (schedule : Schedule) (life : Life) (hc : use.connects = true) :
    Turn life use (life.step schedule use).1 (life.step schedule use).2 := by
  rw [step_of_connects schedule life hc]
  obtain ⟨ha, he⟩ | ⟨ha, failure, server, trace, he, hs, ht⟩ | ⟨ha, server, trace, he, hs, ht⟩ :=
    connect_cases life.store life.server
  · rw [he]
    exact .kept hc ha
  · rw [he]
    exact .refused hc ha server failure trace hs ht
  · rw [he]
    exact .connected hc ha server trace hs ht

theorem turn_of_disconnects (schedule : Schedule) (life : Life) (hd : use.disconnects = true) :
    Turn life use (life.step schedule use).1 (life.step schedule use).2 := by
  cases hs : life.store.client with
  | none =>
    rw [step_of_no_client schedule hd hs]
    exact .idle hd hs
  | some client =>
    rw [step_of_client schedule hd hs]
    exact .closed hd client hs _ rfl

/-- **One use.** -/
theorem Life.turn (schedule : Schedule) (life : Life) (use : Use) :
    Turn life use (life.step schedule use).1 (life.step schedule use).2 := by
  cases use with
  | connect | enter => exact turn_of_connects schedule life rfl
  | disconnect | leave => exact turn_of_disconnects schedule life rfl
  | find request => exact .called rfl rfl _ _ _ (Job.servers_perform schedule _ life.site)
  | update request => exact .called rfl rfl _ _ _ (Job.servers_perform schedule _ life.site)

/-- A use that fails, above all one that fails to connect, leaves the store as it was. -/
theorem Turn.store_of_failed (h : Turn life use next deed) {failure : Failure}
    (hf : deed.outcome = .error failure) : next.store = life.store := by
  cases h with
  | refused | called => rfl
  | kept | connected | idle | closed => cases hf

end Store

end Relink
