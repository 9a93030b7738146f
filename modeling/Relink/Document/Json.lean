import Relink.Document.Value
import Relink.Number.Written
import Relink.Text.CharClass

/-!
# Values as JSON lines

JSON in ASCII on one line: members are parted by a comma and a blank, keys and values by a colon
and a blank. An id is written as the text of its hexadecimal digits.

* `escape_plain`: a printable ASCII character other than the quote and the backslash stands for
  itself.
* `units_of_lt`: below `0x10000` a character is a single unit.
-/

namespace Relink.Json

open Number Text

/-- The units in which a code point is escaped: itself, or a pair of surrogates. -/
def units (code : Nat) : List Nat :=
  if code < 0x10000 then [code]
  else [0xd800 + (code - 0x10000) / 0x400, 0xdc00 + (code - 0x10000) % 0x400]

theorem units_of_lt {code : Nat} (h : code < 0x10000) : units code = [code] := by simp [units, h]

/-- A character within a JSON text. -/
def escape (c : Char) : List Char :=
  if c == '"' then ['\\', '"']
  else if c == '\\' then ['\\', '\\']
  else if c == '\n' then ['\\', 'n']
  else if c == '\r' then ['\\', 'r']
  else if c == '\t' then ['\\', 't']
  else if c == '\x08' then ['\\', 'b']
  else if c == '\x0c' then ['\\', 'f']
  else if 0x20 ≤ c.toNat && c.toNat < 0x7f then [c]
  else (units c.toNat).flatMap fun unit => '\\' :: 'u' :: hex 4 unit

theorem escape_plain {c : Char} (lo : 0x20 ≤ c.toNat) (hi : c.toNat < 0x7f) (hq : c ≠ '"')
    (hb : c ≠ '\\') : escape c = [c] := by
  have h : ∀ d : Char, d.toNat < 0x20 → c ≠ d := by rintro d hd rfl; omega
  simp [escape, hq, hb, h '\n' (by decide), h '\r' (by decide), h '\t' (by decide),
    h '\x08' (by decide), h '\x0c' (by decide), lo, hi]

/-- A JSON text in its quotes. -/
def text (s : String) : String := String.ofList ('"' :: s.toList.flatMap escape ++ ['"'])

mutual

/-- A value in JSON. -/
def ofValue : Value → String
  | .null => "null"
  | .bool b => if b then "true" else "false"
  | .int n => toString n
  | .double x => x.written auditWords
  | .text s => text s
  | .objectId hex => text hex
  | .list items => "[" ++ ", ".intercalate (ofItems items) ++ "]"
  | .map fields => "\x7b" ++ ", ".intercalate (ofFields fields) ++ "\x7d"

/-- The members of a list. -/
def ofItems : List Value → List String
  | [] => []
  | v :: rest => ofValue v :: ofItems rest

/-- The fields of a map. -/
def ofFields : List (String × Value) → List String
  | [] => []
  | (key, v) :: rest => (text key ++ ": " ++ ofValue v) :: ofFields rest

end

end Relink.Json
