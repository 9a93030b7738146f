import Relink.Text.CharClass
import Relink.Text.Printable

/-!
# Quoted text

A text between quotes, as it is shown in messages and inside lists. The quote is a single one,
unless the text holds single quotes and no double one. The quote in use, the backslash and all
that is not printable are escaped.

* `escaped_of_plain`: a printable character other than the quote and the backslash stands for
  itself.
-/

namespace Relink.Text

/-- The quote in which a text is shown. -/
def quoteFor (cs : List Char) : Char :=
  if cs.contains '\'' && !cs.contains '"' then '"' else '\''

/-- A character as it is written between two `quote` characters. -/
def escaped (quote c : Char) : List Char :=
  if c == quote || c == '\\' then ['\\', c]
  else if c == '\n' then ['\\', 'n']
  else if c == '\r' then ['\\', 'r']
  else if c == '\t' then ['\\', 't']
  else if isPrintable c then [c]
  else if c.toNat < 0x100 then '\\' :: 'x' :: hex 2 c.toNat
  else if c.toNat < 0x10000 then '\\' :: 'u' :: hex 4 c.toNat
  else '\\' :: 'U' :: hex 8 c.toNat

theorem escaped_of_plain {quote c : Char} (hq : c ≠ quote) (hb : c ≠ '\\')
    (hp : isPrintable c = true) : escaped quote c = [c] := by
  have hn : c ≠ '\n' := by rintro rfl; revert hp; decide +kernel
  have hr : c ≠ '\r' := by rintro rfl; revert hp; decide +kernel
  have ht : c ≠ '\t' := by rintro rfl; revert hp; decide +kernel
  simp [escaped, hq, hb, hp, hn, hr, ht]

/-- A text in quotes. -/
def quoted (s : String) : String :=
  let quote := quoteFor s.toList
  String.ofList (quote :: s.toList.flatMap (escaped quote) ++ [quote])

/-- Texts in quotes between square brackets. -/
def quotedList (items : List String) : String :=
  "[" ++ ", ".intercalate (items.map quoted) ++ "]"

end Relink.Text
