import Relink.Document.Path
import Relink.Pattern.Basic
import Relink.Rule

/-!
# Filters

A filter asks for documents in which each of some paths meets a condition. A list meets it also
if one of its members does.

* `holds_nil`: without conditions every document is selected.
-/

namespace Relink

/-- What a path has to meet. -/
inductive Condition where
  /-- A text in which a pattern is found. -/
  | found (pattern : Pattern)
  /-- A value the same as this one. -/
  | equals (value : Value)

/-- Conditions on paths, in order. -/
abbrev Filter := Entries Condition

namespace Condition

/-- Whether a value other than a list meets a condition. -/
def metBySingle (condition : Condition) (v : Value) : Bool :=
  match condition, v with
  | found pattern, .text s => pattern.found s
  | found _, _ => false
  | equals value, v => value.same v

/-- Whether a value meets a condition, be it by one of its members. -/
def metBy (condition : Condition) (v : Value) : Bool :=
  condition.metBySingle v ||
    match v with
    | .list items => items.any condition.metBySingle
    | _ => false

/-- A condition as a value. -/
def toValue : Condition → Value
  | found pattern => .map [("$regex", .text pattern.source)]
  | equals value => value

end Condition

namespace Filter

/-- Whether a filter selects a document. -/
def holds (filter : Filter) (document : Document) : Bool :=
  filter.all fun entry => (document.candidates entry.1).any entry.2.metBy

@[simp]
theorem holds_nil (document : Document) : holds [] document = true := rfl

/-- A filter as the fields of a map. -/
def fields (filter : Filter) : Entries Value := filter.map fun entry => (entry.1, entry.2.toValue)

/-- The filter for the document with an id that holds `value` at a path. -/
def expecting (id : Value) (path : String) (value : String) : Filter :=
  Entries.put path (.equals (.text value)) [("_id", .equals id)]

end Filter

/-- The filter for the documents that a rule is about. -/
def Rule.query (rule : Rule) (format : String) : Filter := [(rule.path format, .found rule.pattern)]

end Relink
