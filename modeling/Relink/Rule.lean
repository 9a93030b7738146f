import Relink.Pattern.Basic
import Relink.Text.Occurrence

/-!
# Rewrite rules

A rule corrects one stale part of a download link: a pattern selects documents by the value of a
link field, and the leftmost occurrence of a text in that value is replaced by another.

* `make_ok`: what an accepted rule satisfies.
* `apply_of_not_applies`: without an occurrence the value stays.
-/

namespace Relink

/-- The link fields of a download. -/
inductive LinkField where
  /-- The address for download. -/
  | href
  /-- The public address. -/
  | publicLink
  deriving DecidableEq, Repr

namespace LinkField

/-- The key of a link field. -/
def key : LinkField → String
  | href => "href"
  | publicLink => "public"

/-- The link field with a key. -/
def ofKey? (key : String) : Option LinkField := [href, publicLink].find? (·.key == key)

theorem ofKey?_key (field : LinkField) : ofKey? field.key = some field := by
  cases field <;> rfl

end LinkField

/-- A rewrite rule. -/
structure Rule where
  name : String
  /-- The link field it is about. -/
  field : LinkField
  /-- The pattern that selects documents. -/
  pattern : Pattern
  /-- The text that is replaced. -/
  old : String
  /-- The text it is replaced by. -/
  new : String

namespace Rule

/-- Why a rule is refused. -/
inductive Fault where
  /-- There is no such link field. -/
  | unsupportedField (field : String)
  /-- The text to replace is empty. -/
  | emptyOld
  /-- The pattern cannot be read. -/
  | pattern (source : String) (fault : Pattern.Fault)
  deriving DecidableEq, Repr

/-- The wording of a fault. Only a malformed pattern is quoted. -/
def Fault.message : Fault → String
  | unsupportedField field => "Unsupported download field: " ++ field
  | emptyOld => "Rule substring to replace must not be empty"
  | pattern source (.malformed complaint position) =>
    "Invalid rule pattern " ++ Text.quoted source ++ ": " ++
      (Pattern.Fault.malformed complaint position).message source
  | pattern source fault => fault.message source

/-- The rule with these parts. Of the patterns that name a character, only those with a name that is
listed (`Text.characterNames`) can be read. -/
def make (name field pattern old new : String) : Except Fault Rule :=
  match LinkField.ofKey? field with
  | none => .error (.unsupportedField field)
  | some link =>
    if old.isEmpty then .error .emptyOld
    else match Pattern.read pattern with
      | .error fault => .error (.pattern pattern fault)
      | .ok read => .ok ⟨name, link, read, old, new⟩

/-- **An accepted rule** has a link field, a text to replace, and its pattern read. -/
theorem make_ok {name field pattern old new : String} {rule : Rule}
    (h : make name field pattern old new = .ok rule) :
    LinkField.ofKey? field = some rule.field ∧ old ≠ "" ∧ Pattern.read pattern = .ok rule.pattern ∧
      rule.name = name ∧ rule.old = old ∧ rule.new = new := by
  unfold make at h
  split at h
  · cases h
  · next link hl =>
    split at h
    · cases h
    · next ho =>
      split at h
      · cases h
      · next read hr =>
        cases h
        refine ⟨hl, ?_, hr, rfl, rfl, rfl⟩
        rintro rfl
        exact ho rfl

/-- The key of a document under which its downloads stand. -/
def downloadsKey : String := "downloads"

/-- The path of the link field of a download format. -/
def path (rule : Rule) (format : String) : String :=
  downloadsKey ++ "." ++ format ++ "." ++ rule.field.key

/-- Whether the text to replace occurs in a value. -/
def applies (rule : Rule) (value : String) : Bool := Text.occurs rule.old.toList value.toList

/-- A value with the leftmost occurrence replaced. -/
def apply (rule : Rule) (value : String) : String :=
  String.ofList (Text.replaceFirst rule.old.toList rule.new.toList value.toList)

theorem apply_of_not_applies {rule : Rule} {value : String} (h : rule.applies value = false) :
    rule.apply value = value := by
  rw [apply, Text.replaceFirst_of_not_occurs h, String.ofList_toList]

end Rule

end Relink
