import Relink.Proofs.Store.Life

/-!
# The promises of a store

Two parts of a store say what it is about: whether it holds a collection, and whether it has a
client of its own to close. Both can be told from how the store was used so far. So can the clients
that were closed, none of them twice.

* `Accounted.turn`, `Tended.turn`: one use keeps what is known of a store and its past.
* `Tended.run`: so do any number of uses.
* `keeps_promises`: what a store promises at every point of its life.
-/

namespace Relink.Store

variable {schedule : Schedule} {life next : Life} {use : Use} {deed : Deed} {past : List Deed}
  {given : Bool}

/-- All that some uses left behind, in order. -/
def traces (past : List Deed) : List Event := past.flatMap Deed.trace

theorem closings_snoc (client : Nat) (past : List Deed) (deed : Deed) :
    Event.closings client (traces (past ++ [deed])) =
      Event.closings client (traces past) + Event.closings client deed.trace := by
  rw [traces, List.flatMap_append, List.flatMap_singleton, Event.closings_append, traces]

/-- A use that has connected the store. -/
def Deed.Connected (deed : Deed) : Prop := deed.use.connects = true ∧ deed.outcome = .ok ()

/-- **Some use has connected the store**, and none after it disconnects. -/
def Open (past : List Deed) : Prop :=
  ∃ before deed after, past = before ++ deed :: after ∧ deed.Connected ∧
    ∀ later ∈ after, later.use.disconnects = false

theorem not_open_nil : ¬ Open [] := by
  rintro ⟨before, deed, after, he, -⟩
  simp at he

theorem open_snoc : Open (past ++ [deed]) ↔
    deed.Connected ∨ deed.use.disconnects = false ∧ Open past := by
  constructor
  · rintro ⟨before, first, after, he, hc, hnone⟩
    -- the use that connected is the last one, or stands before it
    rcases List.eq_nil_or_concat after with rfl | ⟨middle, last, rfl⟩
    · obtain ⟨-, hlast⟩ := List.append_inj' he rfl
      obtain rfl : deed = first := by simpa using hlast
      exact .inl hc
    · rw [List.concat_eq_append, ← List.cons_append, ← List.append_assoc] at he
      obtain ⟨hpast, hlast⟩ := List.append_inj' he rfl
      obtain rfl : deed = last := by simpa using hlast
      have hd : deed.use.disconnects = false := hnone deed (by simp)
      exact .inr ⟨hd, before, first, middle, hpast, hc, fun later hm => hnone later (by simp [hm])⟩
  · rintro (hc | ⟨hd, before, first, after, rfl, hc, hnone⟩)
    · exact ⟨past, deed, [], rfl, hc, by simp⟩
    · refine ⟨before, first, after ++ [deed], by simp, hc, ?_⟩
      rw [List.forall_mem_append]
      exact ⟨hnone, by simpa using hd⟩

/-- A use that fails to connect, or is about documents, does not matter to whether a store is
open. -/
theorem open_snoc_of_passing (hc : ¬ deed.Connected) (hd : deed.use.disconnects = false) :
    Open (past ++ [deed]) ↔ Open past := by
  rw [open_snoc, or_iff_right hc, and_iff_right hd]

theorem not_open_snoc (hd : deed.use.disconnects = true) : ¬ Open (past ++ [deed]) := by
  rw [open_snoc, Deed.Connected, Use.not_connects hd, hd]
  simp

/-- **The clients of a store**: the one that it holds was not closed, no other one was closed twice,
and those yet to be made were not closed at all. -/
structure Accounted (past : List Deed) (life : Life) : Prop where
  held : ∀ client, life.store.client = some client →
    client < life.server.clients ∧ Event.closings client (traces past) = 0
  once : ∀ client, Event.closings client (traces past) ≤ 1
  new : ∀ client, life.server.clients ≤ client → Event.closings client (traces past) = 0

/-- A use that closes no client keeps the accounts. -/
theorem Accounted.snoc (h : Accounted past life) (hs : life.server.clients ≤ next.server.clients)
    (hclient : next.store.client = life.store.client)
    (ht : ∀ client, Event.closings client deed.trace = 0) :
    Accounted (past ++ [deed]) next := by
  have hsame : ∀ client, Event.closings client (traces (past ++ [deed])) =
      Event.closings client (traces past) := by
    intro client
    rw [closings_snoc, ht, Nat.add_zero]
  refine ⟨fun client hc => ?_, fun client => ?_, fun client hn => ?_⟩
  · obtain ⟨hlt, hzero⟩ := h.held client (hclient ▸ hc)
    exact ⟨Nat.lt_of_lt_of_le hlt hs, (hsame client).trans hzero⟩
  · rw [hsame]
    exact h.once client
  · rw [hsame]
    exact h.new client (Nat.le_trans hs hn)

/-- **One use** keeps the accounts. -/
theorem Accounted.turn (h : Accounted past life) (ht : Turn life use next deed) :
    Accounted (past ++ [deed]) next := by
  cases ht with
  | kept | idle => exact h.snoc (Nat.le_refl _) rfl fun _ => rfl
  | refused hc ha server failure trace hs htrace => exact h.snoc hs rfl htrace
  | called hc hd site outcome trace htrace =>
    refine h.snoc (Nat.le_refl _) rfl fun client => ?_
    rw [Event.closings, htrace, List.count_nil]
  | connected hc ha server trace hs htrace =>
    have hsame : ∀ client, Event.closings client (traces (past ++ [⟨use, .ok (), trace⟩])) =
        Event.closings client (traces past) := by
      intro client
      rw [closings_snoc, htrace, Nat.add_zero]
    refine ⟨fun client hclient => ?_, fun client => ?_, fun client hn => ?_⟩
    · -- the client is the next one that was to be made
      obtain rfl := Option.some.inj hclient
      refine ⟨?_, ?_⟩
      · show life.server.clients < server.clients
        omega
      · rw [hsame]
        exact h.new _ (Nat.le_refl _)
    · rw [hsame]
      exact h.once client
    · rw [hsame]
      refine h.new client ?_
      have hle : server.clients ≤ client := hn
      omega
  | closed hd client hs trace htrace =>
    obtain ⟨hlt, hzero⟩ := h.held client hs
    have hcount : ∀ other, Event.closings other (traces (past ++ [⟨use, .ok (), trace⟩])) =
        Event.closings other (traces past) + if client = other then 1 else 0 := by
      intro other
      have hone : Event.closings other trace = if client = other then 1 else 0 := by
        simp [Event.closings, htrace, List.count_singleton]
      rw [closings_snoc, hone]
    refine ⟨fun other hother => (by cases hother), fun other => ?_, fun other hn => ?_⟩
    · rw [hcount]
      by_cases he : client = other
      · subst he
        simp [hzero]
      · rw [if_neg he]
        exact h.once other
    · have hle : life.server.clients ≤ other := hn
      rw [hcount, h.new other hle, if_neg (by omega)]

/-- **What is known of a store and its past**, the collection having been handed to it or not. -/
structure Tended (given : Bool) (past : List Deed) (life : Life) : Prop where
  client_iff : life.store.client.isSome = true ↔ life.store.attached = true ∧ given = false
  attached_iff : life.store.attached = true ↔ given = true ∨ Open past
  accounted : Accounted past life

/-- **One use** keeps what is known. -/
theorem Tended.turn (h : Tended given past life) (ht : Turn life use next deed) :
    Tended given (past ++ [deed]) next := by
  have haccounted := h.accounted.turn ht
  cases ht with
  | kept hc ha =>
    have hopen : Open (past ++ [⟨use, .ok (), []⟩]) := open_snoc.2 (.inl ⟨hc, rfl⟩)
    exact ⟨h.client_iff, iff_of_true ha (.inr hopen), haccounted⟩
  | refused hc ha server failure trace =>
    have hnot : ¬ Deed.Connected ⟨use, .error failure, trace⟩ := by
      rintro ⟨-, he⟩
      cases he
    refine ⟨h.client_iff, ?_, haccounted⟩
    rw [open_snoc_of_passing hnot (Use.not_disconnects hc)]
    exact h.attached_iff
  | connected hc ha server trace =>
    have hopen : Open (past ++ [⟨use, .ok (), trace⟩]) := open_snoc.2 (.inl ⟨hc, rfl⟩)
    have hgiven : given = false := by
      cases given with
      | false => rfl
      | true => exact absurd (h.attached_iff.2 (.inl rfl)) (by simp [ha])
    exact ⟨iff_of_true rfl ⟨rfl, hgiven⟩, iff_of_true rfl (.inr hopen), haccounted⟩
  | idle hd hn =>
    have hclosed : ¬ Open (past ++ [⟨use, .ok (), []⟩]) := not_open_snoc hd
    refine ⟨h.client_iff, ?_, haccounted⟩
    rw [or_iff_left hclosed]
    constructor
    · intro ha
      cases given with
      | true => rfl
      | false => exact absurd (h.client_iff.2 ⟨ha, rfl⟩) (by simp [hn])
    · intro hg
      exact h.attached_iff.2 (.inl hg)
  | closed hd client hs trace =>
    obtain ⟨-, hgiven⟩ := h.client_iff.1 (by rw [hs]; rfl)
    have hclosed : ¬ Open (past ++ [⟨use, .ok (), trace⟩]) := not_open_snoc hd
    refine ⟨iff_of_false Bool.false_ne_true fun hc => Bool.false_ne_true hc.1, ?_, haccounted⟩
    refine iff_of_false Bool.false_ne_true ?_
    rintro (hg | hopen)
    · rw [hgiven] at hg
      cases hg
    · exact hclosed hopen
  | called hc hd site outcome trace =>
    have hnot : ¬ Deed.Connected ⟨use, outcome, trace⟩ := by
      rintro ⟨hconnects, -⟩
      rw [hc] at hconnects
      cases hconnects
    refine ⟨h.client_iff, ?_, haccounted⟩
    rw [open_snoc_of_passing hnot hd]
    exact h.attached_iff

/-- **Any number of uses** keep what is known. -/
theorem Tended.run (h : Tended given past life) (schedule : Schedule) (uses : List Use) :
    Tended given (past ++ (life.run schedule uses).2) (life.run schedule uses).1 := by
  induction uses generalizing past life with
  | nil =>
    rw [Life.run, List.append_nil]
    exact h
  | cons use rest ih =>
    have hrest := ih (h.turn (life.turn schedule use))
    rw [List.append_assoc, List.singleton_append] at hrest
    exact hrest

/-- **What a store promises** at a point of its life, with its past and whether the collection was
handed to it. -/
structure Promised (schedule : Schedule) (given : Bool) (past : List Deed) (life : Life) :
    Prop where
  held : life.store.client.isSome = true → life.store.attached = true
  attached_iff : life.store.attached = true ↔ given = true ∨ Open past
  /-- A store that holds a collection contacts no server. -/
  connect_attached : life.store.attached = true → ∀ use : Use, use.connects = true →
    life.step schedule use = (life, ⟨use, .ok (), []⟩)
  /-- Above all a use that fails to connect. -/
  failed : ∀ (use : Use) (failure : Failure),
    (life.step schedule use).2.outcome = .error failure →
      (life.step schedule use).1.store = life.store
  /-- The client that a store holds was not closed yet, and now is. -/
  disconnect_client : ∀ (use : Use) (client : Nat), use.disconnects = true →
    life.store.client = some client →
      Event.closings client (traces past) = 0 ∧
      (life.step schedule use).2.outcome = .ok () ∧
      Event.servers (life.step schedule use).2.trace = [.closed client] ∧
      (life.step schedule use).1.store.attached = false
  closed_once : ∀ client, Event.closings client (traces past) ≤ 1
  disconnect_again : ∀ use again : Use, use.disconnects = true → again.disconnects = true →
    (life.step schedule use).1.step schedule again =
      ((life.step schedule use).1, ⟨again, .ok (), []⟩)
  /-- A collection that was handed to the store stays. -/
  disconnect_given : given = true → ∀ use : Use, use.disconnects = true →
    life.step schedule use = (life, ⟨use, .ok (), []⟩)
  /-- A call is refused, and nothing is asked of the driver. -/
  call_detached : life.store.attached = false → ∀ use : Use, use.connects = false →
    use.disconnects = false → ∃ fault : Fault, fault.kind = .connection ∧
      life.step schedule use = (life, ⟨use, .error (.reported fault none), []⟩)

theorem Tended.promised (h : Tended given past life) (schedule : Schedule) :
    Promised schedule given past life where
  held := fun hs => (h.client_iff.1 hs).1
  attached_iff := h.attached_iff
  connect_attached := fun ha _ hc => step_of_attached schedule hc ha
  failed := fun use _ hf => (life.turn schedule use).store_of_failed hf
  disconnect_client := by
    intro use client hd hs
    rw [step_of_client schedule hd hs]
    exact ⟨(h.accounted.held client hs).2, rfl, rfl, rfl⟩
  closed_once := h.accounted.once
  disconnect_again := fun _ _ hd ha =>
    step_of_no_client schedule ha (client_of_disconnects schedule life hd)
  disconnect_given := by
    intro hg use hd
    -- a store that was given its collection has no client
    have hnone : life.store.client = none := by
      cases hs : life.store.client with
      | none => rfl
      | some client =>
        obtain ⟨-, hn⟩ := h.client_iff.1 (by rw [hs]; rfl)
        rw [hg] at hn
        cases hn
    exact step_of_no_client schedule hd hnone
  call_detached := fun ha _ hc hd => ⟨_, rfl, step_of_detached schedule ha hc hd⟩

/-- **The life of a store.** A store is made from settings, from a collection that is handed to it,
or from both. However it is used then, whatever the server answers to its clients, whatever other
writers do and whichever calls fail, it keeps its promises. -/
theorem keeps_promises (connection : Option Connection) (given : Bool)
    (h : connection.isSome = true ∨ given = true) :
    ∃ store, make connection given = .ok store ∧
      ∀ (schedule : Schedule) (server : Server) (site : Site) (uses : List Use),
        Promised schedule given (Life.run schedule uses ⟨store, server, site⟩).2
          (Life.run schedule uses ⟨store, server, site⟩).1 := by
  have hmake : make connection given = .ok { connection, attached := given } := by
    rw [make, if_neg]
    cases connection <;> cases given <;> simp_all
  refine ⟨_, hmake, fun schedule server site uses => ?_⟩
  have hstart : Tended given [] ⟨{ connection, attached := given }, server, site⟩ := by
    refine ⟨?_, ?_, ?_⟩
    · cases given <;> simp
    · exact (or_iff_left not_open_nil).symm
    · refine ⟨fun client hs => ?_, fun _ => Nat.zero_le _, fun _ _ => rfl⟩
      cases hs
  have htended := hstart.run schedule uses
  rw [List.nil_append] at htended
  exact htended.promised schedule

/-- A connection to the usual place. -/
def usualConnection : Connection :=
  ⟨"mongodb://localhost:27017", "datasets", "instances", "", "", false, 5, 15⟩

/-- A store whose first client is not answered: the second one is held, and closed once. -/
theorem keeps_promises_unanswered :
    ∃ store, make (some usualConnection) false = .ok store ∧
      let life : Life :=
        ⟨store, { pings := [some (.raised (.driver .networkTimeout) "no answer")] }, ⟨[], 0, 0⟩⟩
      let after := life.run .quiet [.connect, .enter, .connect, .leave, .disconnect]
      after.1.store = store ∧ Event.closings 1 (traces after.2) = 1 ∧
        Promised .quiet false after.2 after.1 := by
  obtain ⟨store, hmake, hpromised⟩ := keeps_promises (some usualConnection) false (.inl rfl)
  obtain rfl := Except.ok.inj hmake
  exact ⟨_, rfl, rfl, by decide, hpromised _ _ _ _⟩

end Relink.Store
