import Relink.Pattern.Grammar
import Relink.Pattern.Match

/-!
# Patterns

A pattern is a text together with the tree that it was read into. It is found in a text if the
tree takes some part of it.

* `read_source`: a pattern keeps the text it was read from.
-/

namespace Relink

/-- A pattern. -/
structure Pattern where
  /-- The text of the pattern. -/
  source : String
  tree : Pattern.Node
  deriving DecidableEq, Repr

namespace Pattern

/-- The tree of a whole pattern, and the reader at its end. -/
def readTree (source : List Char) : Except Fault (Node × Reader) := do
  let start ← Reader.start source
  (choices (3 * source.length + 5) {} true).run start

/-- Refuses what can only be seen of a whole pattern. -/
def checkWhole (tree : Node) (r : Reader) : Except Fault Unit := do
  if r.flags.contains .ascii && r.flags.contains .unicode then throw .conflictingFlags
  match r.rest with
  | placed :: _ => throw (.malformed .unbalanced (some placed.position))
  | [] => pure ()
  match r.references.find? fun reference => r.groups.length ≤ reference.1 with
  | some (group, position) => throw (.malformed (.invalidReference group) (some position))
  | none => pure ()
  match tree.complaint? (r.flags.contains .template) r.widthOf with
  | some complaint => throw (.malformed complaint none)
  | none => pure ()

/-- The pattern that a text writes. -/
def read (source : String) : Except Fault Pattern := do
  let (tree, r) ← readTree source.toList
  checkWhole tree r
  return ⟨source, tree⟩

theorem read_source {source : String} {p : Pattern} (h : read source = .ok p) :
    p.source = source := by
  simp only [read, bind, Except.bind] at h
  split at h
  · cases h
  · split at h
    · cases h
    · cases h; rfl

/-- Whether a pattern is found in a text. -/
def found (p : Pattern) (text : String) : Bool := p.tree.foundFrom [] text.toList

end Pattern

end Relink
