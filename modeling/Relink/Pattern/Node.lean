import Relink.Pattern.CharSet
import Relink.Pattern.Fault

/-!
# Patterns as trees

The tree of a pattern, in which every leaf carries the flags in force at its place, and the width
of the texts that a tree can take.

* `width_literal`: a row of characters takes a text of its length.
-/

namespace Relink.Pattern

/-- A place in a text. -/
inductive Place where
  /-- The start of the text. -/
  | textStart
  /-- The start of the text or of a line. -/
  | lineStart
  /-- The end of the text. -/
  | textEnd
  /-- The end of the text, or before a line end that ends it. -/
  | finalEnd
  /-- The end of the text or of a line. -/
  | lineEnd
  /-- Between a character of a word and one that is none, or the contrary if `negated`. -/
  | boundary (negated ascii : Bool)
  deriving DecidableEq, Repr

/-- The tree of a pattern. -/
inductive Node where
  /-- The empty text. -/
  | empty
  /-- One character of a set. -/
  | char (scope : Scope) (set : CharSet)
  /-- One character, a line end only if `lineEnds`. -/
  | any (lineEnds : Bool)
  /-- A place. -/
  | place (place : Place)
  /-- The text that a group took. -/
  | reference (scope : Scope) (number : Nat)
  /-- One tree after another. -/
  | seq (first second : Node)
  /-- One tree or else another. -/
  | alt (first second : Node)
  /-- A tree in brackets, with the number under which the text it takes is kept. -/
  | group (number : Option Nat) (body : Node)
  /-- A tree whose first way is the only one. -/
  | atomic (body : Node)
  /-- One tree if a group took a text, else another. -/
  | condition (number : Nat) (yes no : Node)
  /-- Whether a tree takes a text ahead, or does not if `negated`. -/
  | ahead (negated : Bool) (body : Node)
  /-- Whether a tree takes the text just behind, or does not if `negated`. -/
  | behind (negated : Bool) (width : Nat) (body : Node)
  /-- A tree again and again, without upper bound if `most` is `none`. -/
  | repeated (greed : Greed) (least : Nat) (most : Option Nat) (body : Node)
  deriving DecidableEq, Repr

namespace Node

/-- One tree after another, the empty ones left out. -/
def row : List Node → Node
  | [] => empty
  | [node] => node
  | node :: rest => seq node (row rest)

/-- A first choice and others. -/
def choice : Node → List Node → Node
  | node, [] => node
  | node, next :: rest => alt node (choice next rest)

/-- A width beyond all that is told apart. -/
def unboundedWidth : Nat := 0x10000000000000000

/-- The least and the greatest length of the texts that a tree takes, where `ofGroup` gives those
of the groups. -/
def width (ofGroup : Nat → Nat × Nat) : Node → Nat × Nat
  | empty | place _ | ahead _ _ | behind _ _ _ => (0, 0)
  | char _ _ | any _ => (1, 1)
  | reference _ number => ofGroup number
  | seq first second =>
    let (l, h) := width ofGroup first
    let (l', h') := width ofGroup second
    (min (l + l') unboundedWidth, min (h + h') unboundedWidth)
  | alt first second =>
    let (l, h) := width ofGroup first
    let (l', h') := width ofGroup second
    (min l l', max h h')
  | group _ body | atomic body => width ofGroup body
  | condition _ yes no =>
    let (l, h) := width ofGroup yes
    let (l', h') := width ofGroup no
    (min l l', max h h')
  | repeated _ least most body =>
    let (l, h) := width ofGroup body
    (min (l * least) unboundedWidth,
      match most with
      | some most => min (h * most) unboundedWidth
      | none => if h = 0 then 0 else unboundedWidth)

/-- The greatest width of a look-behind. -/
def behindLimit : Nat := 0xffffffff

/-- The first complaint about a whole tree: a look-behind without a fixed width, or a repetition
where `template` allows none. -/
def complaint? (template : Bool) (ofGroup : Nat → Nat × Nat) : Node → Option Complaint
  | empty | place _ | char _ _ | any _ | reference _ _ => none
  | seq first second | alt first second | condition _ first second =>
    (complaint? template ofGroup first).or (complaint? template ofGroup second)
  | group _ body | atomic body | ahead _ body => complaint? template ofGroup body
  | behind _ _ body =>
    let (l, h) := width ofGroup body
    if behindLimit < l then some .wideLookbehind
    else if l ≠ h then some .variableLookbehind
    else complaint? template ofGroup body
  | repeated greed _ _ body =>
    if template then some (.templateRepeat greed) else complaint? template ofGroup body

/-- The row of the characters of a text. -/
def literal (scope : Scope) (cs : List Char) : Node :=
  row (cs.map fun c => char scope (.one c.toNat))

theorem width_literal (ofGroup : Nat → Nat × Nat) (scope : Scope) {cs : List Char}
    (h : cs.length ≤ unboundedWidth) :
    width ofGroup (literal scope cs) = (cs.length, cs.length) := by
  induction cs with
  | nil => rfl
  | cons c rest ih =>
    cases rest with
    | nil => rfl
    | cons d more =>
      have := ih (by simp only [List.length_cons] at h ⊢; omega)
      simp only [literal, List.map_cons] at this
      simp only [literal, List.map_cons, row, width, this]
      simp only [List.length_cons] at h ⊢
      simp only [Prod.mk.injEq]
      omega

end Node

end Relink.Pattern
