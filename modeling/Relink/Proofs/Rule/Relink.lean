import Relink.Proofs.Store.Keyed

/-!
# What a rule does to a collection

The effect of a rule on a format in a few words: of the documents whose link holds a text with the
pattern, the first few have it rewritten. Nothing else of a document changes, and where no list is
met these are the documents that a find gives.

* `text?_relink`, `text?_relink_of_ne`: the links of a document after one of them is rewritten.
* `relinkFirst`: the first few documents rewritten.
* `select_query`: what a find gives.
-/

namespace Relink

namespace Rule

variable {rule other : Rule} {format format' : String} {document : Document} {s : String} {n : Nat}
  {documents front back : List Document}

/-- Whether a rule is about a document: its link holds a text in which the pattern is found. -/
def selects (rule : Rule) (format : String) (document : Document) : Bool :=
  (rule.text? format document).any rule.pattern.found

/-- The document with the text in its link rewritten. -/
def relink (rule : Rule) (format : String) (document : Document) : Document :=
  match rule.text? format document with
  | some s => document.assign (.text (rule.apply s)) (rule.path format)
  | none => document

theorem relink_of_text (hs : rule.text? format document = some s) :
    rule.relink format document = document.assign (.text (rule.apply s)) (rule.path format) := by
  rw [relink, hs]

theorem relink_of_no_text (hs : rule.text? format document = none) :
    rule.relink format document = document := by
  rw [relink, hs]

/-- **The collection with the first few links rewritten** of those that a rule is about. -/
def relinkFirst (rule : Rule) (format : String) : Nat → List Document → List Document
  | 0, documents => documents
  | _ + 1, [] => []
  | n + 1, document :: rest =>
    if rule.selects format document then
      rule.relink format document :: relinkFirst rule format n rest
    else document :: relinkFirst rule format (n + 1) rest

/-- The texts of the first few links that a rule is about. -/
def taken (rule : Rule) (format : String) (n : Nat) (documents : List Document) : List String :=
  ((documents.filterMap (rule.text? format)).filter rule.pattern.found).take n

/-- A document that holds a text in its link is set there, and nowhere else. -/
theorem relink_setAt (h : '.' ∉ format.toList) (hs : rule.text? format document = some s) :
    Value.SetAt (.text (rule.apply s)) (rule.way format) (.map document)
      (.map (rule.relink format document)) := by
  simp only [relink, hs]
  rw [Document.map_assign, steps_path h]
  exact Value.assign_setAt (text?_eq_some.1 hs)

/-- **The rewritten link** holds the rewritten text. -/
theorem text?_relink (h : '.' ∉ format.toList) (hf : other.field = rule.field)
    (hs : rule.text? format document = some s) :
    other.text? format (rule.relink format document) = some (rule.apply s) := by
  rw [text?_eq_some, way_inj.2 ⟨rfl, hf⟩]
  exact (relink_setAt h hs).reach?

/-- **The other links** hold what they held. -/
theorem text?_relink_of_ne (h : '.' ∉ format.toList)
    (hne : ¬ (format' = format ∧ other.field = rule.field)) :
    other.text? format' (rule.relink format document) = other.text? format' document := by
  cases hs : rule.text? format document with
  | none => rw [relink, hs]
  | some s =>
    obtain ⟨h1, h2⟩ := way_apart hne
    unfold text?
    rw [(relink_setAt h hs).reach?_of_apart h1 h2]

theorem id?_relink (h : '.' ∉ format.toList) :
    (rule.relink format document).id? = document.id? := by
  unfold relink
  split
  · apply Document.id?_assign
    rw [steps_path h]
    exact head_way rule format
  · rfl

/-- Rewriting brings no list onto any way. -/
theorem noList_relink (h : '.' ∉ format.toList) {steps : List String}
    (hn : Value.NoList steps (.map document)) :
    Value.NoList steps (.map (rule.relink format document)) := by
  cases hs : rule.text? format document with
  | none => rwa [relink, hs]
  | some s => exact (relink_setAt h hs).noList hn

/-- A document whose text stays is not changed. -/
theorem relink_of_fixed (h : '.' ∉ format.toList) (hs : rule.text? format document = some s)
    (ha : rule.apply s = s) : rule.relink format document = document := by
  have hm := Document.map_assign (.text (rule.apply s)) (rule.path format) document
  rw [steps_path h, ha, Value.assign_same (text?_eq_some.1 hs), Value.map.injEq] at hm
  rw [relink, hs]
  simpa [ha] using hm

/-- What rewriting keeps of a single document it keeps of all. -/
theorem relinkFirst_forall {p : Document → Prop} (hp : ∀ document ∈ documents, p document)
    (hr : ∀ document, p document → p (rule.relink format document)) (n : Nat) :
    ∀ document ∈ rule.relinkFirst format n documents, p document := by
  induction documents generalizing n with
  | nil => cases n <;> simp [relinkFirst]
  | cons first rest ih =>
    obtain ⟨h1, h2⟩ := List.forall_mem_cons.1 hp
    cases n with
    | zero => exact hp
    | succ n =>
      rw [relinkFirst]
      split
      · exact List.forall_mem_cons.2 ⟨hr first h1, ih h2 n⟩
      · exact List.forall_mem_cons.2 ⟨h1, ih h2 (n + 1)⟩

/-- Rewriting leaves the ids and their order. -/
theorem ids_relinkFirst (h : '.' ∉ format.toList) (n : Nat) (documents : List Document) :
    (rule.relinkFirst format n documents).map Document.id? = documents.map Document.id? := by
  induction documents generalizing n with
  | nil => cases n <;> rfl
  | cons first rest ih =>
    cases n with
    | zero => rfl
    | succ n =>
      rw [relinkFirst]
      split <;> simp [ih, id?_relink h]

theorem taken_cons_of_selects (hs : rule.text? format document = some s)
    (hf : rule.pattern.found s = true) :
    rule.taken format (n + 1) (document :: documents) = s :: rule.taken format n documents := by
  simp [taken, hs, hf]

theorem taken_cons_of_not_selects (h : rule.selects format document = false) :
    rule.taken format n (document :: documents) = rule.taken format n documents := by
  cases hs : rule.text? format document with
  | none => simp [taken, hs]
  | some s => simp_all [taken, selects]

theorem selects_iff :
    rule.selects format document = true ↔
      ∃ s, rule.text? format document = some s ∧ rule.pattern.found s = true := by
  simp [selects, Option.any_eq_true]

/-- The texts taken are those in the links of the first few documents that a rule is about. -/
theorem map_some_taken (rule : Rule) (format : String) (n : Nat) (documents : List Document) :
    (rule.taken format n documents).map some =
      ((documents.filter (rule.selects format)).take n).map (rule.text? format) := by
  induction documents generalizing n with
  | nil => simp [taken]
  | cons document rest ih =>
    cases hsel : rule.selects format document with
    | false => rw [taken_cons_of_not_selects hsel, List.filter_cons_of_neg (by simp [hsel]), ih]
    | true =>
      obtain ⟨s, hs, hf⟩ := selects_iff.1 hsel
      rw [List.filter_cons_of_pos hsel]
      cases n with
      | zero => simp [taken]
      | succ n => simp [taken_cons_of_selects hs hf, ih, hs]

/-- Where the texts taken stay, the collection stays. -/
theorem relinkFirst_of_fixed (h : '.' ∉ format.toList)
    (ha : ∀ s ∈ rule.taken format n documents, rule.apply s = s) :
    rule.relinkFirst format n documents = documents := by
  induction documents generalizing n with
  | nil => cases n <;> rfl
  | cons document rest ih =>
    cases n with
    | zero => rfl
    | succ n =>
      rw [relinkFirst]
      split
      · next hsel =>
        obtain ⟨s, hs, hf⟩ := selects_iff.1 hsel
        rw [taken_cons_of_selects hs hf] at ha
        obtain ⟨h1, h2⟩ := List.forall_mem_cons.1 ha
        rw [relink_of_fixed h hs h1, ih h2]
      · next hsel =>
        rw [taken_cons_of_not_selects (by simpa using hsel)] at ha
        rw [ih ha]

/-- **Where no list is met** the query of a rule selects the documents that it is about. -/
theorem holds_query_eq (h : '.' ∉ format.toList)
    (hn : Value.NoList (rule.way format) (.map document)) :
    (rule.query format).holds document = rule.selects format document := by
  rw [holds_query, candidates_path h, hn.direct.candidates_eq, selects, text?]
  cases hr : Value.reach? (rule.way format) (.map document) with
  | none => rfl
  | some v =>
    have hv := hn.ne_list hr
    cases v <;> simp_all [Condition.metBy, Condition.metBySingle]

/-- **What a find gives** for a rule and a format where no list is met. -/
theorem select_query (h : '.' ∉ format.toList) {limit : Int} (hl : 1 ≤ limit)
    (hn : ∀ document ∈ documents, Value.NoList (rule.way format) (.map document)) :
    Collection.select (rule.query format) (rule.path format) limit documents =
      ((documents.filter (rule.selects format)).take limit.toNat).map
        (Document.project (rule.path format)) := by
  have hfilter : documents.filter (rule.query format).holds =
      documents.filter (rule.selects format) :=
    List.filter_congr fun document hd => holds_query_eq h (hn document hd)
  rw [Collection.select_capped hl, hfilter]

end Rule

end Relink
