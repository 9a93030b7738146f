import Relink.Failure.Report

/-!
# Building a fault

A fault of the document store or of a document is told what it is about, and makes entries of its
own from that. Whoever builds it may give a context, a code and a suggestion as well. The context
of the fault is the given one with the own entries put into it. It is always built, unless the
caller says that there is no context although the fault has entries to put.

* `Fault.Subject`: what a fault is about, by its kind.
* `Fault.Merged`: entries put into a map, told by its keys and by what is found under them.
* `Fault.report_merges`: a fault is built as it should be, or refused.
* `Fault.none_refused`: a failed connection to an address, said to have no context.
-/

namespace Relink.Fault

/-- **What a fault is about**, as far as it is known: the address of a connection, the operation and
the path of a call, or the id and the path of a document. -/
inductive Subject where
  | connection (uri : Option String)
  | query (operation path : Option String)
  | malformed (id : Value) (path : Option String)

namespace Subject

/-- The kind of fault that is about a subject. -/
def kind : Subject → Kind
  | connection _ => .connection
  | query _ _ => .query
  | malformed _ _ => .malformed

/-- **What is told of a subject**, in order: a key, and the text under it if there is one. An address
is told without credentials and an id as its text; what is missing or empty is not told. -/
def told : Subject → List (String × Option String)
  | connection uri => [("uri", (uri.filter (· != "")).map Uri.bare)]
  | query operation path =>
    [("operation", operation.filter (· != "")), ("field_path", path.filter (· != ""))]
  | malformed .null path => [("document_id", none), ("field_path", path.filter (· != ""))]
  | malformed id path => [("document_id", some id.printed), ("field_path", path.filter (· != ""))]

/-- The entries that a fault makes of its subject. -/
def own : Subject → Entries Value
  | connection uri => connectionEntries uri
  | query operation path => queryEntries operation path
  | malformed id path => malformedEntries id path

/-- The entry of what is told, if it is. -/
def entryOf (part : String × Option String) : Option (String × Value) :=
  part.2.map fun s => (part.1, .text s)

/-- **The own entries of a fault** are what is told of its subject. -/
theorem own_eq (subject : Subject) : subject.own = subject.told.filterMap entryOf := by
  have htext : ∀ key s, textEntry key s = [(key, s.filter (· != ""))].filterMap entryOf := by
    intro key s
    cases h : nonEmpty s <;> simp only [textEntry, nonEmpty] at h ⊢ <;> simp [entryOf, h]
  cases subject with
  | connection uri =>
    cases h : nonEmpty uri <;> simp only [own, told, connectionEntries, nonEmpty] at h ⊢ <;>
      simp [entryOf, h]
  | query operation path =>
    rw [own, queryEntries, htext, htext, ← List.filterMap_append]
    rfl
  | malformed id path =>
    have hown : (malformed id path).own = malformedEntries id path := rfl
    rw [hown, malformedEntries.eq_def, htext]
    cases id <;> rfl

/-- No subject makes two entries of one key. -/
theorem nodup_keys_own (subject : Subject) : subject.own.keys.Nodup := by
  have htold : (subject.told.map Prod.fst).Nodup := by
    cases subject with
    | connection uri => simp [told]
    | query operation path => simp [told]
    | malformed id path => cases id <;> simp [told]
  have hkeys : ∀ parts : List (String × Option String),
      (Entries.keys (parts.filterMap entryOf)).Sublist (parts.map Prod.fst) := by
    intro parts
    induction parts with
    | nil => exact .slnil
    | cons part rest ih =>
      obtain ⟨key, text⟩ := part
      cases text with
      | none => exact ih.cons key
      | some s => exact ih.cons_cons key
  rw [own_eq]
  exact (hkeys _).nodup htold

end Subject

/-- **Entries put into a map**: its keys stay in place and the new ones go last, under each key that
was put stands what was put, and all else is as it was. -/
structure Merged (given own context : Entries Value) : Prop where
  keys_eq : context.keys = given.keys ++ own.keys.filter fun key => key ∉ given.keys
  set : ∀ key value, (key, value) ∈ own → Entries.get? key context = some value
  kept : ∀ key, key ∉ own.keys → Entries.get? key context = Entries.get? key given

theorem merged_putAll {given own : Entries Value} (hn : own.keys.Nodup) :
    Merged given own (given.putAll own) where
  keys_eq := Entries.keys_putAll hn given
  set := fun _ _ hm => Entries.get?_putAll_of_mem hn hm given
  kept := fun _ hm => Entries.get?_putAll_of_not_mem hm given

/-- **A fault as it is to be built**: with its message, the merged context, and the code and the
suggestion that are given, be it none, or else those of its kind. -/
structure Built (subject : Subject) (message : String) (given : Given) (fault : Fault) : Prop where
  kind_eq : fault.kind = subject.kind
  message_eq : fault.message = message
  merged : Merged given.context.entries subject.own fault.context
  code_given : ∀ code, given.code = some code → fault.code = code
  code_absent : given.code = none → fault.code = subject.kind.code
  suggestion_given : ∀ suggestion, given.suggestion = some suggestion →
    fault.suggestion = suggestion
  suggestion_absent : given.suggestion = none → fault.suggestion = subject.kind.suggestion

theorem built_mk (subject : Subject) (message : String) (given : Given) {context : Entries Value}
    (h : Merged given.context.entries subject.own context) :
    Built subject message given ⟨subject.kind, message, given.code.getD subject.kind.code, context,
      given.suggestion.getD subject.kind.suggestion⟩ where
  kind_eq := rfl
  message_eq := rfl
  merged := h
  code_given := fun code hc => by rw [hc, Option.getD_some]
  code_absent := fun hc => by rw [hc, Option.getD_none]
  suggestion_given := fun suggestion hs => by rw [hs, Option.getD_some]
  suggestion_absent := fun hs => by rw [hs, Option.getD_none]

/-- There is no map to put the own entries into: the caller says that there is no context. -/
def Blocked (subject : Subject) (given : Given) : Prop :=
  given.context = .none ∧ subject.own ≠ []

/-- **A fault is built** with what is told of its subject merged into the given context, whatever is
given with it, unless there is no map to put it into. Then another failure takes its place. -/
theorem report_merges (subject : Subject) (message : String) (given : Given) :
    subject.own = subject.told.filterMap Subject.entryOf ∧
    ((¬ Blocked subject given ∧ ∃ fault,
        report subject.kind message subject.own given = .ok fault ∧
        Built subject message given fault) ∨
      (Blocked subject given ∧ report subject.kind message subject.own given =
        .error (.raised .type "'NoneType' object does not support item assignment"))) := by
  refine ⟨subject.own_eq, ?_⟩
  have hmerged : Merged given.context.entries subject.own
      (given.context.entries.putAll subject.own) := merged_putAll subject.nodup_keys_own
  cases hc : given.context with
  | none =>
    by_cases hown : subject.own = []
    · refine .inl ⟨fun h => h.2 hown, _, ?_, built_mk subject message given hmerged⟩
      simp [report, hc, hown, GivenContext.entries, Entries.putAll]
    · exact .inr ⟨⟨hc, hown⟩, by simp [report, hc, hown]⟩
  | absent | map =>
    refine .inl ⟨fun h => absurd (hc.symm.trans h.1) (by simp), _, ?_,
      built_mk subject message given hmerged⟩
    simp [report, hc]

/-- **A failed connection is not always reported as one**: told of an address, and that there is no
context, building the fault fails with another failure. -/
theorem none_refused :
    Blocked (.connection (some "mongodb://mongo:27017")) { context := .none } ∧
      ∀ fault, report .connection "Failed" (connectionEntries (some "mongodb://mongo:27017"))
        { context := .none } ≠ .ok fault := by
  have hown : connectionEntries (some "mongodb://mongo:27017") ≠ [] := by
    simp [connectionEntries, nonEmpty, Option.filter]
  refine ⟨⟨rfl, hown⟩, fun fault h => ?_⟩
  exact hown ((report_none_own rfl).1 ⟨fault, h⟩)

end Relink.Fault
