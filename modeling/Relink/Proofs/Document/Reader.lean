import Mathlib.Data.List.Forall2
import Relink.Document.Value
import Relink.Text.CharClass

/-!
# Reading JSON

A reader of JSON texts, by the grammar of JSON alone. Of the numbers it reads the whole ones; half
a surrogate pair stands for no character and is refused; and of two fields with one key the later
one counts.

* `read`: the value of a JSON text.
* `whole?_toString`: a whole number is read back.
* `members?_of_reads`: the members of a list or a map are read back, if each of them is.
-/

namespace Relink.Json

variable {α : Type}

/-- Whether a character is a blank between the parts of a JSON text. -/
def isBlank (c : Char) : Bool := c == ' ' || c == '\t' || c == '\n' || c == '\r'

/-- What follows the blanks at the head of a text. -/
def skipBlanks (cs : List Char) : List Char := cs.dropWhile isBlank

@[simp]
theorem skipBlanks_blank (cs : List Char) : skipBlanks (' ' :: cs) = skipBlanks cs := rfl

@[simp]
theorem skipBlanks_comma (cs : List Char) : skipBlanks (',' :: cs) = ',' :: cs := rfl

@[simp]
theorem skipBlanks_colon (cs : List Char) : skipBlanks (':' :: cs) = ':' :: cs := rfl

/-- The unit that four hexadecimal digits stand for, and what follows them. -/
def unit? : List Char → Option (Nat × List Char)
  | a :: b :: c :: d :: rest => do
    let a ← Text.hexValue? a
    let b ← Text.hexValue? b
    let c ← Text.hexValue? c
    let d ← Text.hexValue? d
    some (((a * 16 + b) * 16 + c) * 16 + d, rest)
  | _ => none

/-- The character of an escaped unit, and what follows it. The first half of a surrogate pair needs
the second half right after it. -/
def escaped? (unit : Nat) (rest : List Char) : Option (Char × List Char) :=
  if 0xd800 ≤ unit && unit < 0xdc00 then
    match rest with
    | '\\' :: 'u' :: rest => do
      let (low, rest) ← unit? rest
      if 0xdc00 ≤ low && low < 0xe000 then
        some (Char.ofNat (0x10000 + (unit - 0xd800) * 0x400 + (low - 0xdc00)), rest)
      else none
    | _ => none
  else if 0xdc00 ≤ unit && unit < 0xe000 then none
  else some (Char.ofNat unit, rest)

/-- The escapes of one character. -/
def escapes : List (Char × Char) :=
  [('"', '"'), ('\\', '\\'), ('/', '/'), ('b', '\x08'), ('f', '\x0c'), ('n', '\n'), ('r', '\r'),
    ('t', '\t')]

/-- The first character of what stands in quotes, and what follows it. -/
def char? : List Char → Option (Char × List Char)
  | '\\' :: 'u' :: rest => do
    let (unit, rest) ← unit? rest
    escaped? unit rest
  | '\\' :: c :: rest => (escapes.lookup c).map fun meant => (meant, rest)
  | c :: rest => if c == '"' || c == '\\' || c.toNat < 0x20 then none else some (c, rest)
  | [] => none

/-- What stands before the closing quote, and what follows it. -/
def body? : (fuel : Nat) → List Char → Option (List Char × List Char)
  | 0, _ => none
  | fuel + 1, cs =>
    if cs.head? == some '"' then some ([], cs.tail)
    else do
      let (c, rest) ← char? cs
      let (more, rest) ← body? fuel rest
      some (c :: more, rest)

/-- A text in quotes, and what follows it. -/
def text? (cs : List Char) : Option (String × List Char) :=
  match cs with
  | '"' :: rest => (body? cs.length rest).map fun (inner, rest) => (String.ofList inner, rest)
  | _ => none

/-- Whether a character would carry a whole number on, to another one or to a fraction. -/
def carriesOn (c : Char) : Bool := c.isDigit || c == '.' || c == 'e' || c == 'E'

/-- A whole number without a sign, and what follows it. No zero leads others. -/
def natural? (cs : List Char) : Option (Nat × List Char) :=
  let digits := cs.takeWhile Char.isDigit
  let rest := cs.dropWhile Char.isDigit
  if digits.isEmpty || (digits.head? == some '0' && 1 < digits.length) || rest.head?.any carriesOn
  then none
  else some (Nat.ofDigitChars 10 digits 0, rest)

/-- A whole number, and what follows it. -/
def whole? (cs : List Char) : Option (Int × List Char) :=
  if cs.head? == some '-' then (natural? cs.tail).map fun (n, rest) => (-n, rest)
  else (natural? cs).map fun (n, rest) => ((n : Int), rest)

/-- The members that follow one, each after a comma, and what follows the closing bracket. -/
def more? (member : List Char → Option (α × List Char)) (close : Char) :
    (fuel : Nat) → List Char → Option (List α × List Char)
  | 0, _ => none
  | fuel + 1, cs =>
    match skipBlanks cs with
    | ',' :: rest => do
      let (first, rest) ← member (skipBlanks rest)
      let (others, rest) ← more? member close fuel rest
      some (first :: others, rest)
    | c :: rest => if c == close then some ([], rest) else none
    | [] => none

/-- The members up to the closing bracket, and what follows it. -/
def members? (member : List Char → Option (α × List Char)) (close : Char) (cs : List Char) :
    Option (List α × List Char) :=
  let cs := skipBlanks cs
  if cs.head? == some close then some ([], cs.tail)
  else do
    let (first, rest) ← member cs
    let (others, rest) ← more? member close (rest.length + 1) rest
    some (first :: others, rest)

/-- A field: its key, its value, and what follows it. -/
def field? (value : List Char → Option (Value × List Char)) (cs : List Char) :
    Option ((String × Value) × List Char) := do
  let (key, rest) ← text? cs
  match skipBlanks rest with
  | ':' :: rest =>
    let (v, rest) ← value (skipBlanks rest)
    some ((key, v), rest)
  | _ => none

/-- A value, nested no deeper than the fuel allows, and what follows it. -/
def value? : (fuel : Nat) → List Char → Option (Value × List Char)
  | 0, _ => none
  | fuel + 1, cs =>
    match cs with
    | 'n' :: 'u' :: 'l' :: 'l' :: rest => some (.null, rest)
    | 't' :: 'r' :: 'u' :: 'e' :: rest => some (.bool true, rest)
    | 'f' :: 'a' :: 'l' :: 's' :: 'e' :: rest => some (.bool false, rest)
    | '"' :: _ => (text? cs).map fun (s, rest) => (.text s, rest)
    | '[' :: rest =>
      (members? (value? fuel) ']' rest).map fun (items, rest) => (.list items, rest)
    | '\x7b' :: rest =>
      (members? (field? (value? fuel)) '\x7d' rest).map fun (fields, rest) =>
        (.map (Entries.putAll [] fields), rest)
    | cs => (whole? cs).map fun (n, rest) => (.int n, rest)

/-- The value of a JSON text with nothing but blanks around it. -/
def read (s : String) : Option Value := do
  let (v, rest) ← value? (s.length + 1) (skipBlanks s.toList)
  if (skipBlanks rest).isEmpty then some v else none

/-- Blanks may stand between the parts of a text. A comma before a closing bracket, a line end in
quotes, half a surrogate pair and a leading zero are refused. -/
example : ((read " [ 1 ,\"a\" , null] \n").isSome = true) ∧
    ["[1,]", "\"\n\"", "\"\\ud83d\"", "01"].all (fun s => (read s).isNone) = true := by
  decide +kernel

/-- A text does not carry a whole number on that stands before it. -/
def Ends (rest : List Char) : Prop := rest.head?.any carriesOn = false

/-- The digits of a number other than zero do not begin with a zero. -/
theorem head?_toDigits {n : Nat} (h : n ≠ 0) : (Nat.toDigits 10 n).head? ≠ some '0' := by
  have hdigit : ∀ m < 10, m ≠ 0 → [m.digitChar].head? ≠ some '0' := by decide
  induction n using Nat.strongRecOn with
  | ind n ih =>
    by_cases hlt : n < 10
    · rw [Nat.toDigits_of_lt_base hlt]
      exact hdigit n hlt h
    · have hfront := ih (n / 10) (by omega) (by omega)
      rw [Nat.toDigits_of_base_le (by decide) (Nat.le_of_not_lt hlt), List.head?_append]
      cases hd : (Nat.toDigits 10 (n / 10)).head? with
      | none => exact absurd (List.head?_eq_none_iff.1 hd) Nat.toDigits_ne_nil
      | some d => simpa [hd] using hfront

theorem exists_digit (n : Nat) :
    ∃ c more, Nat.toDigits 10 n = c :: more ∧ c.isDigit = true := by
  have hdigits : ∀ c ∈ Nat.toDigits 10 n, c.isDigit = true :=
    fun c hc => Nat.isDigit_of_mem_toDigits (by decide) (by decide) hc
  obtain ⟨c, more, he⟩ := List.exists_cons_of_ne_nil (Nat.toDigits_ne_nil (n := n) (b := 10))
  exact ⟨c, more, he, hdigits c (he ▸ List.mem_cons_self)⟩

/-- The digits that stand before a text that does not carry them on. -/
theorem span_digits {digits rest : List Char} (hd : ∀ c ∈ digits, c.isDigit = true)
    (hr : Ends rest) : (digits ++ rest).takeWhile Char.isDigit = digits ∧
      (digits ++ rest).dropWhile Char.isDigit = rest := by
  rw [List.takeWhile_append_of_pos hd, List.dropWhile_append_of_pos hd]
  cases rest with
  | nil => simp
  | cons c rest =>
    have hc : c.isDigit = false := by
      simp only [Ends, List.head?_cons, Option.any_some, carriesOn, Bool.or_eq_false_iff] at hr
      exact hr.1.1.1
    simp [hc]

/-- **The digits of a number are read back.** -/
theorem natural?_toDigits (n : Nat) {rest : List Char} (hr : Ends rest) :
    natural? (Nat.toDigits 10 n ++ rest) = some (n, rest) := by
  have hdigits : ∀ c ∈ Nat.toDigits 10 n, c.isDigit = true :=
    fun c hc => Nat.isDigit_of_mem_toDigits (by decide) (by decide) hc
  obtain ⟨htake, hdrop⟩ := span_digits hdigits hr
  have hempty : (Nat.toDigits 10 n).isEmpty = false := by simp
  have hlead : ((Nat.toDigits 10 n).head? == some '0' &&
      1 < (Nat.toDigits 10 n).length) = false := by
    by_cases hn : n = 0
    · subst hn
      rfl
    · simp [head?_toDigits hn]
  simp only [natural?, htake, hdrop, hempty, hlead, Bool.false_or]
  rw [if_neg (by simpa [Ends] using hr), Nat.ofDigitChars_ten_toDigits]

/-- **A whole number is read back.** -/
theorem whole?_toString (n : Int) {rest : List Char} (hr : Ends rest) :
    whole? ((toString n).toList ++ rest) = some (n, rest) := by
  rw [Int.toString_eq_repr, Int.repr_eq_if]
  split
  · next hn =>
    -- a digit is no sign
    have hhead : (Nat.toDigits 10 n.toNat ++ rest).head? ≠ some '-' := by
      obtain ⟨c, more, he, hc⟩ := exists_digit n.toNat
      rw [he]
      rintro ⟨⟩
      exact absurd hc (by decide)
    rw [Nat.toList_repr, whole?, if_neg (by simpa only [beq_iff_eq] using hhead),
      natural?_toDigits n.toNat hr, Option.map_some]
    simp only [Int.toNat_of_nonneg hn]
  · next hn =>
    have htext : ("-" ++ (-n).toNat.repr).toList ++ rest =
        '-' :: (Nat.toDigits 10 (-n).toNat ++ rest) := by
      rw [String.toList_append, Nat.toList_repr]
      rfl
    rw [htext, whole?, if_pos (by rfl), List.tail_cons, natural?_toDigits (-n).toNat hr,
      Option.map_some]
    simp only [Int.toNat_of_nonneg (by omega : 0 ≤ -n), Int.neg_neg]

/-- A text begins with neither a blank nor a closing bracket. -/
def Starts (cs : List Char) : Prop :=
  ∃ c more, cs = c :: more ∧ isBlank c = false ∧ c ≠ ']' ∧ c ≠ '\x7d'

/-- **A member is read back** from its text, whatever stands behind that does not carry it on. -/
structure Reads (member : List Char → Option (α × List Char)) (shown : List Char) (a : α) :
    Prop where
  starts : Starts shown
  reads : ∀ rest, Ends rest → member (shown ++ rest) = some (a, rest)

/-- A text with a comma and a blank before it. -/
def following (shown : List Char) : List Char := ',' :: ' ' :: shown

theorem intercalate_cons (shown : List Char) (texts : List (List Char)) :
    [',', ' '].intercalate (shown :: texts) = shown ++ texts.flatMap following := by
  induction texts generalizing shown with
  | nil => simp
  | cons next rest ih =>
    have hsplit : [',', ' '].intercalate (shown :: next :: rest) =
        shown ++ ([',', ' '] ++ [',', ' '].intercalate (next :: rest)) := by
      simp [List.intercalate, List.intersperse]
    rw [hsplit, ih, List.flatMap_cons, following]
    rfl

variable {member : List Char → Option (α × List Char)} {shown : List Char} {a : α}
  {texts : List (List Char)} {items : List α} {close : Char}

theorem Reads.skipBlanks (h : Reads member shown a) (rest : List Char) :
    skipBlanks (shown ++ rest) = shown ++ rest := by
  obtain ⟨c, more, rfl, hc, -⟩ := h.starts
  simp [Json.skipBlanks, hc]

/-- What follows a member ends it. -/
theorem ends_following (hc : close = ']' ∨ close = '\x7d') (texts : List (List Char))
    (rest : List Char) : Ends (texts.flatMap following ++ close :: rest) := by
  cases texts with
  | nil => rcases hc with rfl | rfl <;> rfl
  | cons shown texts => rfl

/-- **Members that follow one are read back.** -/
theorem more?_of_reads (hc : close = ']' ∨ close = '\x7d')
    (h : List.Forall₂ (Reads member) texts items) {fuel : Nat}
    (hf : (texts.flatMap following).length < fuel) (rest : List Char) :
    more? member close fuel (texts.flatMap following ++ close :: rest) = some (items, rest) := by
  induction h generalizing fuel with
  | nil =>
    obtain ⟨fuel, rfl⟩ := Nat.exists_eq_succ_of_ne_zero (by omega : fuel ≠ 0)
    rcases hc with rfl | rfl <;> rfl
  | @cons shown a texts items hfirst _ ih =>
    obtain ⟨fuel, rfl⟩ := Nat.exists_eq_succ_of_ne_zero (by omega : fuel ≠ 0)
    rw [List.flatMap_cons, List.length_append, following, List.length_cons] at hf
    have hread := hfirst.reads _ (ends_following hc texts rest)
    rw [List.flatMap_cons, List.append_assoc]
    simp only [following, List.cons_append, more?, skipBlanks_comma, skipBlanks_blank,
      hfirst.skipBlanks, hread, Option.bind_eq_bind, Option.bind_some]
    rw [ih (by omega)]
    rfl

/-- **The members of a list or map are read back.** -/
theorem members?_of_reads (hc : close = ']' ∨ close = '\x7d')
    (h : List.Forall₂ (Reads member) texts items) (rest : List Char) :
    members? member close ([',', ' '].intercalate texts ++ close :: rest) = some (items, rest) := by
  cases h with
  | nil => rcases hc with rfl | rfl <;> rfl
  | @cons shown a texts items hfirst hmore =>
    rw [intercalate_cons, List.append_assoc]
    have hread := hfirst.reads _ (ends_following hc texts rest)
    have hopen : (shown ++ (texts.flatMap following ++ close :: rest)).head? ≠ some close := by
      obtain ⟨c, more, rfl, -, h1, h2⟩ := hfirst.starts
      rintro ⟨⟩
      exact hc.elim h1 h2
    rw [members?, hfirst.skipBlanks]
    simp only [beq_iff_eq, hopen, if_false, hread, Option.bind_eq_bind, Option.bind_some]
    rw [more?_of_reads hc hmore (by simp only [List.length_append, List.length_cons]; omega)]
    rfl

end Relink.Json
