import Relink.Pattern.Node

/-!
# Finding a pattern in a text

A tree is tried at a cursor in a text. Each way in which it can go on is handed, in order of
preference, to what follows, and the first way that leads to the end counts.

* `run_seq`, `run_alt`: the two ways of putting trees together.
* `run_literal`: a row of characters, case minded, takes exactly its own text.
-/

namespace Relink.Pattern

/-- A place in a text, with the places where groups began and ended. -/
structure Cursor where
  /-- The characters before the place, nearest first. -/
  before : List Char
  /-- The characters after the place. -/
  after : List Char
  /-- Where groups began and ended, the latest first. -/
  marks : List ((Nat × Bool) × Nat)
  deriving Repr

/-- What follows a tree. -/
abbrev Next := Cursor → Option Cursor

namespace Cursor

/-- The number of characters before the cursor. -/
def position (s : Cursor) : Nat := s.before.length

/-- The cursor with a mark at its place, where group `number` begins or ends. -/
def mark (s : Cursor) (number : Nat) (ends : Bool) : Cursor :=
  { s with marks := ((number, ends), s.position) :: s.marks }

/-- The text that a group took. -/
def taken? (s : Cursor) (number : Nat) : Option (List Char) := do
  let first ← s.marks.lookup (number, false)
  let last ← s.marks.lookup (number, true)
  if last < first then none
  else some (((s.before.reverse ++ s.after).drop first).take (last - first))

/-- The cursor after the next `n` characters. -/
def forward (s : Cursor) (n : Nat) : Cursor :=
  { s with before := (s.after.take n).reverse ++ s.before, after := s.after.drop n }

/-- The cursor `n` characters back. -/
def back (s : Cursor) (n : Nat) : Cursor :=
  { s with before := s.before.drop n, after := (s.before.take n).reverse ++ s.after }

end Cursor

/-- Whether a character belongs to a word. -/
def inWord (ascii : Bool) (c? : Option Char) : Bool := c?.any (Category.word.holds ascii)

/-- Whether a cursor is at a place. In the empty text no place is a boundary, nor is it none. -/
def Place.holds (place : Place) (s : Cursor) : Bool :=
  match place with
  | textStart => s.before.isEmpty
  | lineStart => s.before.head?.all (· == '\n')
  | textEnd => s.after.isEmpty
  | finalEnd => s.after.isEmpty || s.after == ['\n']
  | lineEnd => s.after.head?.all (· == '\n')
  | boundary negated ascii =>
    !(s.before.isEmpty && s.after.isEmpty) &&
      negated != (inWord ascii s.before.head? != inWord ascii s.after.head?)

/-- Whether two texts are equal, case aside if it is ignored. -/
def sameText (scope : Scope) (a b : List Char) : Bool :=
  let code := fun c : Char => if scope.ignoreCase then foldCase scope.ascii c.toNat else c.toNat
  a.map code == b.map code

/-- Repetition of `step` as often as possible. A turn beyond the least number is taken only if the
text has moved on since the last such turn began, at `last`. -/
def greedyTurns (step : Cursor → Next → Option Cursor) (least : Nat) (most : Option Nat) :
    (fuel : Nat) → (count : Nat) → (last : Option Nat) → Cursor → Next → Option Cursor
  | 0, _, _, _, _ => none
  | fuel + 1, count, last, s, next =>
    if count < least then step s fun s' => greedyTurns step least most fuel (count + 1) last s' next
    else
      -- a further turn is tried before going on
      let more :=
        if most.all (count < ·) && last != some s.position then
          step s fun s' => greedyTurns step least most fuel (count + 1) (some s.position) s' next
        else none
      match more with
      | some found => some found
      | none => next s

/-- Repetition of `step` as few times as possible. -/
def lazyTurns (step : Cursor → Next → Option Cursor) (least : Nat) (most : Option Nat) :
    (fuel : Nat) → (count : Nat) → (last : Option Nat) → Cursor → Next → Option Cursor
  | 0, _, _, _, _ => none
  | fuel + 1, count, last, s, next =>
    if count < least then step s fun s' => lazyTurns step least most fuel (count + 1) last s' next
    else match next s with
      | some found => some found
      | none =>
        if most.all (count < ·) && last != some s.position then
          step s fun s' => lazyTurns step least most fuel (count + 1) (some s.position) s' next
        else none

/-- Repetition of `step` as often as possible, each turn in its first way only. -/
def possessiveTurns (step : Cursor → Next → Option Cursor) (least : Nat) (most : Option Nat) :
    (fuel : Nat) → (count : Nat) → (last : Option Nat) → Cursor → Option Cursor
  | 0, _, _, _ => none
  | fuel + 1, count, last, s =>
    if count < least then
      (step s some).bind (possessiveTurns step least most fuel (count + 1) last)
    else if most.all (count < ·) && last != some s.position then
      match step s some with
      | some s' => possessiveTurns step least most fuel (count + 1) (some s.position) s'
      | none => some s
    else some s

namespace Node

/-- The first way in which a tree, tried at a cursor, leads to the end of what follows. -/
def run : Node → Cursor → Next → Option Cursor
  | empty, s, next => next s
  | char scope set, s, next =>
    match s.after with
    | c :: _ => if set.holds scope c then next (s.forward 1) else none
    | [] => none
  | any lineEnds, s, next =>
    match s.after with
    | c :: _ => if lineEnds || c != '\n' then next (s.forward 1) else none
    | [] => none
  | .place spot, s, next => if spot.holds s then next s else none
  | reference scope number, s, next =>
    match s.taken? number with
    | some text =>
      if text.length ≤ s.after.length && sameText scope text (s.after.take text.length) then
        next (s.forward text.length)
      else none
    | none => none
  | seq first second, s, next => run first s fun s' => run second s' next
  | alt first second, s, next =>
    match run first s next with
    | some found => some found
    | none => run second s next
  | group none body, s, next => run body s next
  | group (some number) body, s, next =>
    run body (s.mark number false) fun s' => next (s'.mark number true)
  | atomic body, s, next => (run body s some).bind next
  | condition number yes no, s, next =>
    if (s.taken? number).isSome then run yes s next else run no s next
  | ahead false body, s, next => (run body s some).bind fun s' => next { s with marks := s'.marks }
  | ahead true body, s, next => if (run body s some).isSome then none else next s
  | behind false width body, s, next =>
    if width ≤ s.position then
      (run body (s.back width) some).bind fun s' => next { s with marks := s'.marks }
    else none
  | behind true width body, s, next =>
    if width ≤ s.position && (run body (s.back width) some).isSome then none else next s
  | repeated greed least most body, s, next =>
    let fuel := least + s.after.length + 2
    match greed with
    | .greedy => greedyTurns (run body) least most fuel 0 none s next
    | .lazy => lazyTurns (run body) least most fuel 0 none s next
    | .possessive => (possessiveTurns (run body) least most fuel 0 none s).bind next

@[simp]
theorem run_seq (a b : Node) (s : Cursor) (next : Next) :
    run (seq a b) s next = run a s fun s' => run b s' next := by simp [run]

theorem run_alt (a b : Node) (s : Cursor) (next : Next) :
    run (alt a b) s next = (run a s next).or (run b s next) := by
  rw [run]
  cases run a s next <;> rfl

theorem run_row_cons (a : Node) (rest : List Node) (s : Cursor) (next : Next) :
    run (row (a :: rest)) s next = run a s fun s' => run (row rest) s' next := by
  cases rest <;> simp [row, run]

/-- **A row of characters takes its own text.** -/
theorem run_literal {scope : Scope} (h : scope.ignoreCase = false) (cs : List Char) (s : Cursor)
    (next : Next) :
    run (literal scope cs) s next =
      if cs.isPrefixOf s.after then next (s.forward cs.length) else none := by
  induction cs generalizing s with
  | nil => simp [literal, row, run, Cursor.forward]
  | cons c rest ih =>
    simp only [literal, List.map_cons, run_row_cons]
    obtain ⟨before, after, marks⟩ := s
    cases after with
    | nil => simp [run]
    | cons d more =>
      have hrest := ih ⟨d :: before, more, marks⟩
      simp only [literal] at hrest
      by_cases hd : d = c
      · subst hd
        simp [run, CharSet.holds_one h, Cursor.forward, hrest]
      · have hne : ¬ d.toNat = c.toNat := fun he => hd (Char.toNat_inj.1 he)
        simp [run, CharSet.holds_one h, hne, Ne.symm hd]

/-- Whether a tree is found at some place of a text, tried from left to right. -/
def foundFrom (node : Node) (before : List Char) : List Char → Bool
  | [] => (run node ⟨before, [], []⟩ some).isSome
  | c :: rest =>
    (run node ⟨before, c :: rest, []⟩ some).isSome || foundFrom node (c :: before) rest

end Node

end Relink.Pattern
