import Relink.Document.Json
import Relink.Proofs.Document.Reader

/-!
# Values written in JSON are read back

What is written of a value is plain ASCII on one line, and reading it gives the value back, with an
id as the text of its digits.

* `escape_cases`: the three ways in which a character is written.
* `char?_escape`, `text?_text`: a character and a text are read back.
* `reads_ofValue`: a value is read back at the head of a longer text.
* `read_ofValue`: a value is read back from its text.
* `plain_ofValue`: the text of a value is plain.
-/

namespace Relink.Json

theorem unit?_hex {n : Nat} (h : n < 0x10000) (rest : List Char) :
    unit? (Text.hex 4 n ++ rest) = some (n, rest) := by
  have hdigit : ∀ m, Text.hexValue? (Text.hexDigit (m % 16)) = some (m % 16) :=
    fun m => Text.hexValue?_hexDigit (Nat.mod_lt m (by decide))
  have hback : ((n / 16 / 16 / 16 % 16 * 16 + n / 16 / 16 % 16) * 16 + n / 16 % 16) * 16 +
      n % 16 = n := by omega
  simp only [Text.hex, List.nil_append, List.cons_append, unit?, hdigit, Option.bind_eq_bind,
    Option.bind_some, hback]

/-- How a character is escaped in several units. -/
def inUnits (c : Char) : List Char :=
  (units c.toNat).flatMap fun unit => '\\' :: 'u' :: Text.hex 4 unit

/-- **The three ways to write a character**: by an escape of its own, as it is, or by its units. -/
theorem escape_cases (c : Char) :
    (∃ e, escapes.lookup e = some c ∧ e ≠ 'u' ∧ 0x20 ≤ e.toNat ∧ e.toNat < 0x7f ∧
      escape c = ['\\', e]) ∨
    (0x20 ≤ c.toNat ∧ c.toNat < 0x7f ∧ c ≠ '"' ∧ c ≠ '\\' ∧ escape c = [c]) ∨
    escape c = inUnits c := by
  by_cases hshort : c ∈ ['"', '\\', '\n', '\r', '\t', '\x08', '\x0c']
  · left
    simp only [List.mem_cons, List.not_mem_nil, or_false] at hshort
    rcases hshort with rfl | rfl | rfl | rfl | rfl | rfl | rfl
    · exact ⟨'"', by decide⟩
    · exact ⟨'\\', by decide⟩
    · exact ⟨'n', by decide⟩
    · exact ⟨'r', by decide⟩
    · exact ⟨'t', by decide⟩
    · exact ⟨'b', by decide⟩
    · exact ⟨'f', by decide⟩
  · right
    simp only [List.mem_cons, List.not_mem_nil, or_false, not_or] at hshort
    obtain ⟨hq, hb, hn, hr, ht, h8, hc⟩ := hshort
    by_cases hplain : 0x20 ≤ c.toNat ∧ c.toNat < 0x7f
    · exact .inl ⟨hplain.1, hplain.2, hq, hb, escape_plain hplain.1 hplain.2 hq hb⟩
    · right
      simp only [escape, beq_iff_eq, hq, hb, hn, hr, ht, h8, hc, if_false]
      rw [if_neg (by simpa using hplain)]
      rfl

/-- Beyond `0xffff` a code point is written as a surrogate pair, from which it is computed back. -/
theorem exists_pair {code : Nat} (h : 0x10000 ≤ code) (hmax : code < 0x110000) :
    ∃ high low, units code = [high, low] ∧ 0xd800 ≤ high ∧ high < 0xdc00 ∧ 0xdc00 ≤ low ∧
      low < 0xe000 ∧ 0x10000 + (high - 0xd800) * 0x400 + (low - 0xdc00) = code := by
  refine ⟨0xd800 + (code - 0x10000) / 0x400, 0xdc00 + (code - 0x10000) % 0x400, ?_, ?_⟩
  · rw [units, if_neg (by omega)]
  · omega

/-- A unit that is no surrogate stands for itself. -/
theorem escaped?_single {unit : Nat} (h : unit < 0xd800 ∨ 0xdfff < unit) (rest : List Char) :
    escaped? unit rest = some (Char.ofNat unit, rest) := by
  unfold escaped?
  rw [if_neg, if_neg]
  · simp only [Bool.and_eq_true, decide_eq_true_eq]
    omega
  · simp only [Bool.and_eq_true, decide_eq_true_eq]
    omega

/-- Two halves of a pair stand for one character. -/
theorem escaped?_pair {high low : Nat} (h1 : 0xd800 ≤ high) (h2 : high < 0xdc00)
    (h3 : 0xdc00 ≤ low) (h4 : low < 0xe000) (rest : List Char) :
    escaped? high ('\\' :: 'u' :: (Text.hex 4 low ++ rest)) =
      some (Char.ofNat (0x10000 + (high - 0xd800) * 0x400 + (low - 0xdc00)), rest) := by
  simp [escaped?, unit?_hex (by omega : low < 0x10000), h1, h2, h3, h4]

/-- A character that is written by its units is read back. -/
theorem char?_units (c : Char) (rest : List Char) :
    char? (inUnits c ++ rest) = some (c, rest) := by
  have hvalid := c.valid
  simp only [UInt32.isValidChar, Nat.isValidChar, Char.toNat_val] at hvalid
  by_cases hlow : c.toNat < 0x10000
  · simp only [inUnits, units_of_lt hlow, List.flatMap_cons, List.flatMap_nil, List.append_nil,
      List.cons_append, char?, unit?_hex hlow, Option.bind_eq_bind, Option.bind_some]
    rw [escaped?_single (by omega), Char.ofNat_toNat]
  · obtain ⟨high, low, hunits, h1, h2, h3, h4, hback⟩ :=
      exists_pair (Nat.le_of_not_lt hlow) (by omega)
    simp only [inUnits, hunits, List.flatMap_cons, List.flatMap_nil, List.append_nil,
      List.cons_append, List.append_assoc, char?, unit?_hex (by omega : high < 0x10000),
      Option.bind_eq_bind, Option.bind_some]
    rw [escaped?_pair h1 h2 h3 h4, hback, Char.ofNat_toNat]

/-- **A character is read back** however it is written. -/
theorem char?_escape (c : Char) (rest : List Char) : char? (escape c ++ rest) = some (c, rest) := by
  rcases escape_cases c with ⟨e, hl, hu, -, -, he⟩ | ⟨hlow, -, hq, hb, he⟩ | he
  · rw [he]
    simp [char?, hl]
  · rw [he]
    simp [char?, hq, hb]
    omega
  · rw [he, char?_units]

theorem escape_ne_nil (c : Char) : escape c ≠ [] := by
  intro he
  have hread := char?_escape c []
  rw [he] at hread
  cases hread

/-- A character within quotes does not begin like the closing quote. -/
theorem head?_escape (c : Char) (rest : List Char) : (escape c ++ rest).head? ≠ some '"' := by
  rcases escape_cases c with ⟨e, -, -, -, -, he⟩ | ⟨-, -, hq, -, he⟩ | he
  · simp [he]
  · simpa [he] using hq
  · unfold inUnits units at he
    split at he <;> simp [he]

/-- **What stands in quotes is read back.** -/
theorem body?_escape {cs : List Char} {fuel : Nat} (hf : (cs.flatMap escape).length < fuel)
    (rest : List Char) : body? fuel (cs.flatMap escape ++ '"' :: rest) = some (cs, rest) := by
  induction cs generalizing fuel with
  | nil =>
    obtain ⟨fuel, rfl⟩ := Nat.exists_eq_succ_of_ne_zero (by omega : fuel ≠ 0)
    simp [body?]
  | cons c cs ih =>
    obtain ⟨fuel, rfl⟩ := Nat.exists_eq_succ_of_ne_zero (by omega : fuel ≠ 0)
    have hpos := List.length_pos_iff.2 (escape_ne_nil c)
    rw [List.flatMap_cons, List.length_append] at hf
    rw [List.flatMap_cons, List.append_assoc, body?,
      if_neg (by simpa only [beq_iff_eq] using head?_escape c _), char?_escape]
    simp only [Option.bind_eq_bind, Option.bind_some]
    rw [ih (by omega)]
    rfl

theorem toList_text (s : String) : (text s).toList = '"' :: (s.toList.flatMap escape ++ ['"']) := by
  rw [text, String.toList_ofList, List.cons_append]

/-- **A text is read back.** -/
theorem text?_text (s : String) (rest : List Char) :
    text? ((text s).toList ++ rest) = some (s, rest) := by
  have hbody : body? ((text s).toList ++ rest).length (s.toList.flatMap escape ++ '"' :: rest) =
      some (s.toList, rest) := by
    apply body?_escape
    simp only [toList_text, List.length_append, List.length_cons]
    omega
  rw [toList_text, List.cons_append, List.append_assoc] at hbody ⊢
  simp only [text?, List.cons_append, List.nil_append] at hbody ⊢
  rw [hbody, Option.map_some, String.ofList_toList]

theorem starts_text (s : String) : Starts (text s).toList :=
  ⟨'"', _, toList_text s, by decide⟩

/-- **A field is read back**, if its value is. -/
theorem reads_field {value : List Char → Option (Value × List Char)} {written : String} {v : Value}
    (h : Reads value written.toList v) (key : String) :
    Reads (field? value) (text key ++ ": " ++ written).toList (key, v) := by
  have htext : (text key ++ ": " ++ written).toList =
      (text key).toList ++ ':' :: ' ' :: written.toList := by
    simp [String.toList_append]
  rw [htext]
  refine ⟨?_, fun rest hr => ?_⟩
  · obtain ⟨c, more, he, hc⟩ := starts_text key
    exact ⟨c, _, by rw [he, List.cons_append], hc⟩
  · rw [List.append_assoc, field?, text?_text]
    simp only [List.cons_append, Option.bind_eq_bind, Option.bind_some, skipBlanks_colon,
      skipBlanks_blank, h.skipBlanks, h.reads rest hr]

/-- **A value that is read back**: it holds no double, and a map in it holds no key twice. -/
inductive Readable : Value → Prop
  | null : Readable .null
  | bool (b : Bool) : Readable (.bool b)
  | int (n : Int) : Readable (.int n)
  | text (s : String) : Readable (.text s)
  | objectId (hex : String) : Readable (.objectId hex)
  | list {items : List Value} (h : ∀ v ∈ items, Readable v) : Readable (.list items)
  | map {fields : List (String × Value)} (hk : (Entries.keys fields).Nodup)
    (h : ∀ field ∈ fields, Readable field.2) : Readable (.map fields)

mutual

/-- What is read of a value: an id is the text of its digits. -/
def asRead : Value → Value
  | .objectId hex => .text hex
  | .list items => .list (asReadItems items)
  | .map fields => .map (asReadFields fields)
  | v => v

/-- What is read of the members of a list. -/
def asReadItems : List Value → List Value
  | [] => []
  | v :: rest => asRead v :: asReadItems rest

/-- What is read of the fields of a map. -/
def asReadFields : List (String × Value) → List (String × Value)
  | [] => []
  | (key, v) :: rest => (key, asRead v) :: asReadFields rest

end

theorem asReadItems_eq_map (items : List Value) : asReadItems items = items.map asRead := by
  induction items with
  | nil => rfl
  | cons v rest ih => rw [asReadItems, ih, List.map_cons]

theorem asReadFields_eq_map (fields : List (String × Value)) :
    asReadFields fields = fields.map fun field => (field.1, asRead field.2) := by
  induction fields with
  | nil => rfl
  | cons field rest ih => rw [asReadFields, ih, List.map_cons]

theorem ofItems_eq_map (items : List Value) : ofItems items = items.map ofValue := by
  induction items with
  | nil => rfl
  | cons v rest ih => rw [ofItems, ih, List.map_cons]

theorem ofFields_eq_map (fields : List (String × Value)) :
    ofFields fields = fields.map fun field => text field.1 ++ ": " ++ ofValue field.2 := by
  induction fields with
  | nil => rfl
  | cons field rest ih => rw [ofFields, ih, List.map_cons]

/-- The text of a list or a map: its members between two brackets. -/
theorem toList_bracketed {opening closing : String} {o c : Char} (ho : opening.toList = [o])
    (hc : closing.toList = [c]) (members : List String) :
    (opening ++ ", ".intercalate members ++ closing).toList =
      o :: ([',', ' '].intercalate (members.map String.toList) ++ [c]) := by
  rw [String.toList_append, String.toList_append, String.toList_intercalate, ho, hc]
  rfl

/-- A member is no longer than the members together. -/
theorem length_le_intercalate {texts : List (List Char)} {shown : List Char} (h : shown ∈ texts) :
    shown.length ≤ ([',', ' '].intercalate texts).length := by
  cases texts with
  | nil => cases h
  | cons first rest =>
    rw [intercalate_cons, List.length_append]
    rcases List.mem_cons.1 h with rfl | h
    · exact Nat.le_add_right _ _
    · have hpart : (following shown).Sublist (rest.flatMap following) :=
        List.sublist_flatten_of_mem (List.mem_map_of_mem h)
      have hle := hpart.length_le
      simp only [following, List.length_cons] at hle
      omega

/-- The text of a whole number begins with a sign or a digit. -/
theorem toList_toString (n : Int) :
    ∃ c more, (toString n).toList = c :: more ∧ (c.isDigit = true ∨ c = '-') := by
  rw [Int.toString_eq_repr, Int.repr_eq_if]
  split
  · obtain ⟨c, more, he, hc⟩ := exists_digit n.toNat
    exact ⟨c, more, by rw [Nat.toList_repr, he], .inl hc⟩
  · exact ⟨'-', (-n).toNat.repr.toList, by rw [String.toList_append]; rfl, .inr rfl⟩

/-- A sign or a digit is no other character. -/
theorem ne_of_sign {c d : Char} (hc : c.isDigit = true ∨ c = '-') (hd : d.isDigit = false)
    (hm : d ≠ '-') : c ≠ d := by
  rintro rfl
  rcases hc with hc | hc
  · rw [hd] at hc
    cases hc
  · exact hm hc

/-- What begins with a sign or a digit is read as a whole number. -/
theorem value?_of_sign {c : Char} (hc : c.isDigit = true ∨ c = '-') (fuel : Nat)
    (rest : List Char) : value? (fuel + 1) (c :: rest) =
      (whole? (c :: rest)).map fun (n, rest) => (.int n, rest) := by
  unfold value?
  split
  · next h => exact absurd (List.cons.inj h).1 (ne_of_sign hc rfl (by decide))
  · next h => exact absurd (List.cons.inj h).1 (ne_of_sign hc rfl (by decide))
  · next h => exact absurd (List.cons.inj h).1 (ne_of_sign hc rfl (by decide))
  · next h => exact absurd (List.cons.inj h).1 (ne_of_sign hc rfl (by decide))
  · next h => exact absurd (List.cons.inj h).1 (ne_of_sign hc rfl (by decide))
  · next h => exact absurd (List.cons.inj h).1 (ne_of_sign hc rfl (by decide))
  · rfl

/-- A text is read as such. -/
theorem reads_text (s : String) (fuel : Nat) :
    Reads (value? (fuel + 1)) (text s).toList (.text s) := by
  refine ⟨starts_text s, fun rest _ => ?_⟩
  have hread := text?_text s rest
  rw [toList_text, List.cons_append] at hread ⊢
  simp only [value?, hread, Option.map_some]

theorem value?_list (fuel : Nat) (cs : List Char) : value? (fuel + 1) ('[' :: cs) =
    (members? (value? fuel) ']' cs).map fun (items, rest) => (.list items, rest) := rfl

theorem value?_map (fuel : Nat) (cs : List Char) : value? (fuel + 1) ('\x7b' :: cs) =
    (members? (field? (value? fuel)) '\x7d' cs).map fun (fields, rest) =>
      (.map (Entries.putAll [] fields), rest) := rfl

/-- The fuel for a list or a map covers one step and each of the members. -/
theorem exists_fuel {opening closing : String} {o c : Char} (ho : opening.toList = [o])
    (hc : closing.toList = [c]) {members : List String} {fuel : Nat}
    (hf : (opening ++ ", ".intercalate members ++ closing).toList.length ≤ fuel) :
    ∃ left, fuel = left + 1 ∧ ∀ member ∈ members, member.toList.length ≤ left := by
  rw [toList_bracketed ho hc, List.length_cons, List.length_append] at hf
  refine ⟨fuel - 1, by omega, fun member hm => ?_⟩
  have hle := length_le_intercalate (List.mem_map_of_mem (f := String.toList) hm)
  omega

/-- **A value is read back** at the head of a text that does not carry it on. -/
theorem reads_ofValue {v : Value} (h : Readable v) :
    ∀ fuel, (ofValue v).toList.length ≤ fuel →
      Reads (value? (fuel + 1)) (ofValue v).toList (asRead v) := by
  induction h with
  | null => exact fun fuel _ => ⟨⟨'n', _, rfl, by decide⟩, fun rest _ => rfl⟩
  | bool b =>
    cases b with
    | true => exact fun fuel _ => ⟨⟨'t', _, rfl, by decide⟩, fun rest _ => rfl⟩
    | false => exact fun fuel _ => ⟨⟨'f', _, rfl, by decide⟩, fun rest _ => rfl⟩
  | int n =>
    intro fuel _
    obtain ⟨c, more, he, hc⟩ := toList_toString n
    refine ⟨⟨c, more, he, ?_⟩, fun rest hr => ?_⟩
    · have hne := fun d => ne_of_sign hc (d := d)
      exact ⟨by simp [isBlank, hne], hne _ rfl (by decide), hne _ rfl (by decide)⟩
    · have hread := whole?_toString n hr
      rw [he, List.cons_append] at hread
      rw [ofValue, he, List.cons_append, value?_of_sign hc, hread]
      rfl
  | text s => exact fun fuel _ => reads_text s fuel
  | objectId hex => exact fun fuel _ => reads_text hex fuel
  | @list items h ih =>
    intro fuel hf
    rw [ofValue, ofItems_eq_map] at hf ⊢
    obtain ⟨left, rfl, hleft⟩ := exists_fuel (o := '[') (c := ']') rfl rfl hf
    have hitems : List.Forall₂ (Reads (value? (left + 1)))
        ((items.map ofValue).map String.toList) (items.map asRead) := by
      simp only [List.map_map, List.forall₂_map_left_iff, List.forall₂_map_right_iff,
        List.forall₂_same]
      exact fun v hv => ih v hv left (hleft _ (List.mem_map_of_mem hv))
    rw [toList_bracketed (o := '[') (c := ']') rfl rfl, asRead, asReadItems_eq_map]
    refine ⟨⟨'[', _, rfl, by decide⟩, fun rest _ => ?_⟩
    rw [List.cons_append, List.append_assoc, value?_list, List.singleton_append,
      members?_of_reads (.inl rfl) hitems rest]
    rfl
  | @map fields hk h ih =>
    intro fuel hf
    rw [ofValue, ofFields_eq_map] at hf ⊢
    obtain ⟨left, rfl, hleft⟩ := exists_fuel (o := '\x7b') (c := '\x7d') rfl rfl hf
    have hfields : List.Forall₂ (Reads (field? (value? (left + 1))))
        ((fields.map fun field => text field.1 ++ ": " ++ ofValue field.2).map String.toList)
        (fields.map fun field => (field.1, asRead field.2)) := by
      simp only [List.map_map, List.forall₂_map_left_iff, List.forall₂_map_right_iff,
        List.forall₂_same]
      refine fun field hm => reads_field (ih field hm left ?_) field.1
      have hlen := hleft _ (List.mem_map_of_mem hm)
      simp only [String.toList_append, List.length_append] at hlen
      omega
    have hput : Entries.putAll [] (fields.map fun field => (field.1, asRead field.2)) =
        fields.map fun field => (field.1, asRead field.2) := by
      refine Entries.putAll_eq_append ?_
      simpa [Entries.keys, Function.comp_def] using hk
    rw [toList_bracketed (o := '\x7b') (c := '\x7d') rfl rfl, asRead, asReadFields_eq_map]
    refine ⟨⟨'\x7b', _, rfl, by decide⟩, fun rest _ => ?_⟩
    rw [List.cons_append, List.append_assoc, value?_map, List.singleton_append,
      members?_of_reads (.inr rfl) hfields rest, Option.map_some]
    simp only [hput]

/-- **A value is read back from its text.** -/
theorem read_ofValue {v : Value} (h : Readable v) : read (ofValue v) = some (asRead v) := by
  have hreads := reads_ofValue h (ofValue v).length (Nat.le_of_eq String.length_toList)
  have hskip := hreads.skipBlanks []
  have hread := hreads.reads [] rfl
  rw [List.append_nil] at hskip hread
  rw [read, hskip, hread]
  rfl

/-- **Plain text**: printable ASCII, without line ends or other control characters. -/
def Plain (cs : List Char) : Prop := ∀ c ∈ cs, 0x20 ≤ c.toNat ∧ c.toNat < 0x7f

instance : DecidablePred Plain :=
  List.decidableBAll fun c : Char => 0x20 ≤ c.toNat ∧ c.toNat < 0x7f

theorem Plain.append {xs ys : List Char} (h : Plain xs) (h' : Plain ys) : Plain (xs ++ ys) :=
  List.forall_mem_append.2 ⟨h, h'⟩

theorem Plain.flatMap {α : Type} {f : α → List Char} (xs : List α) (h : ∀ x ∈ xs, Plain (f x)) :
    Plain (xs.flatMap f) := by
  intro c hc
  obtain ⟨x, hx, hcx⟩ := List.mem_flatMap.1 hc
  exact h x hx c hcx

theorem plain_hex (width n : Nat) : Plain (Text.hex width n) := by
  have hdigit : ∀ m < 16, 0x20 ≤ (Text.hexDigit m).toNat ∧ (Text.hexDigit m).toNat < 0x7f := by
    decide
  induction width generalizing n with
  | zero => simp [Text.hex, Plain]
  | succ width ih =>
    rw [Text.hex]
    exact (ih (n / 16)).append (List.forall_mem_singleton.2 (hdigit _ (Nat.mod_lt n (by decide))))

/-- However a character is written, it is in plain text. -/
theorem plain_escape (c : Char) : Plain (escape c) := by
  rcases escape_cases c with ⟨e, -, -, hlow, hhigh, he⟩ | ⟨hlow, hhigh, -, -, he⟩ | he
  · rw [he]
    exact List.forall_mem_cons.2 ⟨by decide, List.forall_mem_singleton.2 ⟨hlow, hhigh⟩⟩
  · rw [he]
    exact List.forall_mem_singleton.2 ⟨hlow, hhigh⟩
  · rw [he, inUnits]
    exact Plain.flatMap _ fun unit _ =>
      List.forall_mem_cons.2 ⟨by decide, List.forall_mem_cons.2 ⟨by decide, plain_hex 4 unit⟩⟩

theorem plain_text (s : String) : Plain (text s).toList := by
  rw [toList_text]
  exact List.forall_mem_cons.2 ⟨by decide, (Plain.flatMap _ fun c _ => plain_escape c).append
    (List.forall_mem_singleton.2 (by decide))⟩

theorem plain_toString (n : Int) : Plain (toString n).toList := by
  have hdigits : ∀ m : Nat, Plain m.repr.toList := by
    intro m c hc
    rw [Nat.toList_repr] at hc
    obtain ⟨hlow, hhigh⟩ := Char.isDigit_iff_toNat.1
      (Nat.isDigit_of_mem_toDigits (by decide) (by decide) hc)
    exact ⟨Nat.le_trans (by decide) hlow, Nat.lt_of_le_of_lt hhigh (by decide)⟩
  rw [Int.toString_eq_repr, Int.repr_eq_if]
  split
  · exact hdigits _
  · rw [String.toList_append]
    exact Plain.append (by decide) (hdigits _)

/-- A list or a map of plain members is plain. -/
theorem plain_bracketed {opening closing : String} {o c : Char} (ho : opening.toList = [o])
    (hc : closing.toList = [c]) (hplain : Plain [o, c]) {members : List String}
    (h : ∀ member ∈ members, Plain member.toList) :
    Plain (opening ++ ", ".intercalate members ++ closing).toList := by
  obtain ⟨hopening, hclosing⟩ := List.forall_mem_cons.1 hplain
  have hmembers : Plain ([',', ' '].intercalate (members.map String.toList)) := by
    cases members with
    | nil => simp [Plain]
    | cons first rest =>
      obtain ⟨hfirst, hrest⟩ := List.forall_mem_cons.1 h
      rw [List.map_cons, intercalate_cons, List.flatMap_map]
      have hcomma : Plain [',', ' '] := by decide
      exact hfirst.append (Plain.flatMap _ fun member hm => hcomma.append (hrest member hm))
  rw [toList_bracketed ho hc]
  exact List.forall_mem_cons.2 ⟨hopening, hmembers.append hclosing⟩

/-- **The text of a value is plain.** -/
theorem plain_ofValue {v : Value} (h : Readable v) : Plain (ofValue v).toList := by
  induction h with
  | null => decide
  | bool b => cases b <;> decide
  | int n => exact plain_toString n
  | text s => exact plain_text s
  | objectId hex => exact plain_text hex
  | @list items h ih =>
    rw [ofValue, ofItems_eq_map]
    exact plain_bracketed (o := '[') (c := ']') rfl rfl (by decide) (List.forall_mem_map.2 ih)
  | @map fields hk h ih =>
    rw [ofValue, ofFields_eq_map]
    refine plain_bracketed (o := '\x7b') (c := '\x7d') rfl rfl (by decide)
      (List.forall_mem_map.2 fun field hm => ?_)
    rw [String.toList_append, String.toList_append]
    exact ((plain_text field.1).append (by decide)).append (ih field hm)

end Relink.Json
