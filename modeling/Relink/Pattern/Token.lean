/-!
# Tokens of a pattern

A pattern is read as single characters and as pairs of a backslash and the character after it,
each with its place.

* `text_tokens`: the tokens written one after another are the pattern.
-/

namespace Relink.Pattern

/-- A token of a pattern. -/
inductive Token where
  /-- A character that no backslash precedes. -/
  | plain (c : Char)
  /-- A backslash with the character after it. -/
  | escape (c : Char)
  /-- A backslash at the end of the pattern. -/
  | dangling
  deriving DecidableEq, Repr

/-- The characters of a token. -/
def Token.text : Token → List Char
  | plain c => [c]
  | escape c => ['\\', c]
  | dangling => ['\\']

/-- A token at its place. -/
structure Placed where
  /-- The position of its first character. -/
  position : Nat
  token : Token
  deriving DecidableEq, Repr

/-- The tokens of the characters from a position on. -/
def tokens (position : Nat) : List Char → List Placed
  | [] => []
  | '\\' :: c :: rest => ⟨position, .escape c⟩ :: tokens (position + 2) rest
  | ['\\'] => [⟨position, .dangling⟩]
  | c :: rest => ⟨position, .plain c⟩ :: tokens (position + 1) rest

/-- **Nothing of a pattern is lost.** -/
theorem text_tokens (position : Nat) (cs : List Char) :
    (tokens position cs).flatMap (·.token.text) = cs := by
  fun_induction tokens position cs <;> simp_all [Token.text]

end Relink.Pattern
