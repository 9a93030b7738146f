import Relink.Text.CharClass

/-!
# Blank characters and trimming

The 29 white space characters of Unicode, with the four information separators, and the removal
of blanks from both ends of a text.

* `isBlank_of_isWhitespace`: every ASCII blank of the core library is one.
* `trimWhere_eq_self`: a text whose ends are not dropped is left as it is.
-/

namespace Relink.Text

/-- The blank characters. -/
def blankRanges : Ranges :=
  [(0x9, 0xd), (0x1c, 0x20), (0x85, 0x85), (0xa0, 0xa0), (0x1680, 0x1680), (0x2000, 0x200a),
   (0x2028, 0x2029), (0x202f, 0x202f), (0x205f, 0x205f), (0x3000, 0x3000)]

/-- Whether a character is blank. -/
def isBlank (c : Char) : Bool := blankRanges.covers c.toNat

theorem isBlank_of_isWhitespace {c : Char} (h : c.isWhitespace = true) : isBlank c = true := by
  simp only [Char.isWhitespace, Bool.or_eq_true, decide_eq_true_eq] at h
  rcases h with ((rfl | rfl) | rfl) | rfl <;> decide

/-- A text without the characters at its two ends that satisfy `drop`. -/
def trimWhere (drop : Char → Bool) (cs : List Char) : List Char :=
  ((cs.dropWhile drop).reverse.dropWhile drop).reverse

/-- A text without the blanks at its two ends. -/
def trim (s : String) : String := String.ofList (trimWhere isBlank s.toList)

/-- A text without the blanks at its end. -/
def trimEnd (s : String) : String :=
  String.ofList (s.toList.reverse.dropWhile isBlank).reverse

theorem trimWhere_eq_self {drop : Char → Bool} {cs : List Char}
    (hl : ∀ c, cs.head? = some c → drop c = false)
    (hr : ∀ c, cs.getLast? = some c → drop c = false) : trimWhere drop cs = cs := by
  have h1 : cs.dropWhile drop = cs := by
    cases cs with
    | nil => rfl
    | cons c r => simp [List.dropWhile, hl c rfl]
  have h2 : cs.reverse.dropWhile drop = cs.reverse := by
    cases h : cs.reverse with
    | nil => rfl
    | cons c r =>
      have : cs.getLast? = some c := by rw [List.getLast?_eq_head?_reverse, h]; rfl
      simp [List.dropWhile, hr c this]
  rw [trimWhere, h1, h2, List.reverse_reverse]

end Relink.Text
