import Relink.Fix.Pass
import Relink.Proofs.Document.Way
import Relink.Proofs.Text.Pieces

/-!
# The link field of a rule in a document

A rule and a download format name one field of a document. The path to it falls into exactly three
steps, and its query, the projection on it, and reading it agree on what stands there.

* `Rule.steps_path`: the steps of the path of an accepted format.
* `Rule.path_inj`, `Rule.way_apart`: two paths are the same only for the same field of the same
  format, and otherwise neither leads along the other.
* `Document.textAt_eq_ok`: reading a path gives the text that is reached along it.
* `Rule.found_of_query`: what is read of a selected document is a text in which the pattern is
  found.
-/

namespace Relink

namespace Rule

variable {rule : Rule} {format : String} {document : Document} {s : String}

/-- The steps to the entry of a download format. -/
def entry (format : String) : List String := [downloadsKey, format]

/-- The steps to the link field of a download format. -/
def way (rule : Rule) (format : String) : List String := entry format ++ [rule.field.key]

/-- **The path of an accepted format falls into three steps.** -/
theorem steps_path (h : '.' ∉ format.toList) : Path.steps (rule.path format) = rule.way format := by
  have hd : '.' ∉ downloadsKey.toList := by decide
  have hk : '.' ∉ rule.field.key.toList := by cases rule.field <;> decide
  have hp : (rule.path format).toList =
      downloadsKey.toList ++ '.' :: (format.toList ++ '.' :: rule.field.key.toList) := by
    simp [path]
  rw [Path.steps, Text.split, hp, Text.pieces_append hd, Text.pieces_append h,
    Text.pieces_of_not_mem hk]
  simp [way, entry]

/-- The text in the link field of a download format. -/
def text? (rule : Rule) (format : String) (document : Document) : Option String :=
  match Value.reach? (rule.way format) (.map document) with
  | some (.text s) => some s
  | _ => none

theorem text?_eq_some :
    rule.text? format document = some s ↔
      Value.reach? (rule.way format) (.map document) = some (.text s) := by
  unfold text?
  split <;> simp_all

theorem head_way (rule : Rule) (format : String) : (rule.way format).head? ≠ some "_id" := by
  simp [way, entry, downloadsKey]

theorem path_ne_id (h : '.' ∉ format.toList) : rule.path format ≠ "_id" := by
  intro he
  have hs := head_way rule format
  rw [← steps_path h, he] at hs
  exact hs (by decide)

/-- Two link fields with the same steps are the same field of the same format. -/
theorem way_inj {other : Rule} {format' : String} :
    rule.way format = other.way format' ↔ format = format' ∧ rule.field = other.field := by
  have hk : rule.field.key = other.field.key ↔ rule.field = other.field := by
    cases rule.field <;> cases other.field <;> decide
  simp [way, entry, hk]

/-- **Neither of two link fields lies within the other**, unless they are the same field of the same
format. -/
theorem way_apart {other : Rule} {format' : String}
    (h : ¬ (format' = format ∧ other.field = rule.field)) :
    ¬ rule.way format <+: other.way format' ∧ ¬ other.way format' <+: rule.way format := by
  -- the two ways are as long, so one leads along the other only if they are the same
  have hlen : (rule.way format).length = (other.way format').length := rfl
  have hne : rule.way format ≠ other.way format' := by
    intro he
    obtain ⟨h1, h2⟩ := way_inj.1 he
    exact h ⟨h1.symm, h2.symm⟩
  exact ⟨fun hp => hne (hp.eq_of_length hlen), fun hp => hne (hp.eq_of_length hlen.symm).symm⟩

/-- **The path tells the format and the link field**, if the formats are accepted. -/
theorem path_inj {other : Rule} {format' : String} (h : '.' ∉ format.toList)
    (h' : '.' ∉ format'.toList) :
    other.path format' = rule.path format ↔ format' = format ∧ other.field = rule.field := by
  constructor
  · intro he
    have hway : other.way format' = rule.way format := by rw [← steps_path h', he, steps_path h]
    exact way_inj.1 hway
  · rintro ⟨rfl, hfield⟩
    rw [path, path, hfield]

end Rule

/-- A malformed document is reported, and nothing else is to blame. -/
def Failure.Malformed (failure : Failure) : Prop :=
  ∃ fault : Fault, fault.kind = .malformed ∧ failure = .reported fault none

namespace Document

variable {path s : String} {document : Document}

/-- **Reading a path gives the text that is reached along it.** -/
theorem textAt_eq_ok :
    document.textAt path = .ok s ↔
      Value.reach? (Path.steps path) (.map document) = some (.text s) := by
  unfold textAt
  cases Value.reach? (Path.steps path) (.map document) with
  | none => simp
  | some v => cases v <;> simp

/-- **Where no text is read** a malformed document is reported. -/
theorem malformed_of_textAt {failure : Failure} (h : document.textAt path = .error failure) :
    failure.Malformed := by
  unfold textAt at h
  simp only at h
  split at h
  · cases h
  · cases h
    exact ⟨_, rfl, rfl⟩
  · cases h
    exact ⟨_, rfl, rfl⟩

theorem id_eq_ok {id : Value} : document.id = .ok id ↔ document.id? = some id := by
  unfold Document.id
  cases document.id? <;> simp

end Document

namespace Rule

variable {rule : Rule} {format : String} {document : Document} {s : String}

theorem candidates_path (h : '.' ∉ format.toList) :
    document.candidates (rule.path format) =
      Value.candidates (rule.way format) (.map document) := by
  rw [Document.candidates, steps_path h]

theorem holds_query :
    (rule.query format).holds document =
      (document.candidates (rule.path format)).any (Condition.found rule.pattern).metBy := by
  simp [query, Filter.holds]

theorem id?_project (h : '.' ∉ format.toList) :
    (document.project (rule.path format)).id? = document.id? := by
  have hs : Path.steps (rule.path format) = downloadsKey :: [format, rule.field.key] :=
    steps_path h
  exact Document.id?_project hs (by decide)

/-- **Cutting a document down to the link field** keeps what is read there, be it a text or a
fault. -/
theorem textAt_project_eq (h : '.' ∉ format.toList) (document : Document) :
    (document.project (rule.path format)).textAt (rule.path format) =
      document.textAt (rule.path format) := by
  have hs : Path.steps (rule.path format) = downloadsKey :: [format, rule.field.key] :=
    steps_path h
  unfold Document.textAt
  rw [hs, Document.reach?_project hs (by decide), id?_project h]

theorem textAt_eq_ok_iff (h : '.' ∉ format.toList) :
    document.textAt (rule.path format) = .ok s ↔
      Value.reach? (rule.way format) (.map document) = some (.text s) := by
  rw [Document.textAt_eq_ok, steps_path h]

theorem textAt_project (h : '.' ∉ format.toList) :
    (document.project (rule.path format)).textAt (rule.path format) = .ok s ↔
      Value.reach? (rule.way format) (.map document) = some (.text s) := by
  rw [textAt_project_eq h, textAt_eq_ok_iff h]

/-- **What is read of a selected document** is a text in which the pattern is found. -/
theorem found_of_query (h : '.' ∉ format.toList) (hq : (rule.query format).holds document = true)
    (hr : Value.reach? (rule.way format) (.map document) = some (.text s)) :
    rule.pattern.found s = true := by
  rw [holds_query, candidates_path h, Value.candidates_of_reach? hr] at hq
  simpa [Condition.metBy, Condition.metBySingle] using hq

end Rule

end Relink
