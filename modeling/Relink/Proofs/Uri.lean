import Mathlib.Data.List.TakeWhile
import Relink.Proofs.Rule.Link
import Relink.Settings.Connection

/-!
# Addresses with different credentials

Two addresses are twins if they differ at most in what stands before their last `@`. The secret may
itself hold an `@`, a colon, slashes, or the mark that follows a scheme: all that is shown of an
address, and all that is asked of it, is the same for twins.

* `Twins`: addresses that differ at most in their credentials.
* `bare_withCredentials`, `logged_withCredentials`: what is shown of an address with credentials.
* `Twins.bare_eq`, `Twins.logged_eq`: twins are shown alike.
-/

namespace Relink

namespace Text

variable {separator : Char}

/-- What follows the last separator. -/
theorem lastPiece_append (front : String) {back : String} (h : separator ∉ back.toList) :
    lastPiece separator (front ++ String.singleton separator ++ back) = back := by
  have hlast : pieces separator (front ++ String.singleton separator ++ back).toList =
      pieces separator front.toList ++ [back.toList] := by
    simp only [String.toList_append, String.toList_singleton, List.append_assoc,
      List.singleton_append]
    rw [pieces_append_pieces, pieces_of_not_mem h]
  simp only [lastPiece, hlast, List.getLast_concat, String.ofList_toList]

/-- Something is left of a text that does not begin with a blank. -/
theorem trim_ne_empty {s : String} {c : Char} (hhead : s.toList.head? = some c)
    (hc : isBlank c = false) : trim s ≠ "" := by
  intro he
  have hnil : trimWhere isBlank s.toList = [] := by
    have := congrArg String.toList he
    simpa [trim] using this
  cases hs : s.toList with
  | nil => simp [hs] at hhead
  | cons first rest =>
    obtain rfl : first = c := by simpa [hs] using hhead
    rw [hs, trimWhere, List.dropWhile_cons_of_neg (by simp [hc]), List.reverse_eq_nil_iff,
      List.dropWhile_eq_nil_iff] at hnil
    have hblank := hnil first (by simp)
    rw [hc] at hblank
    cases hblank

end Text

namespace Uri

/-- The schemes of the addresses that are accepted. -/
def schemes : List String := ["mongodb", "mongodb+srv"]

/-- An address with credentials. -/
def withCredentials (scheme credentials rest : String) : String :=
  scheme ++ "://" ++ credentials ++ "@" ++ rest

/-- **Twins**: two addresses that differ at most in their credentials. -/
inductive Twins : String → String → Prop
  | same (uri : String) : Twins uri uri
  | apart {scheme rest : String} (hs : scheme ∈ schemes) (hr : '@' ∉ rest.toList)
      (secret secret' : String) :
      Twins (withCredentials scheme secret rest) (withCredentials scheme secret' rest)

variable {scheme credentials rest u u' : String}

theorem toList_withCredentials :
    (withCredentials scheme credentials rest).toList =
      scheme.toList ++ (schemeMark ++ (credentials ++ "@" ++ rest).toList) := by
  simp [withCredentials, schemeMark]

/-- The first mark of an address is the one behind its scheme. -/
theorem cut?_withCredentials (hs : scheme ∈ schemes) :
    Text.cut? schemeMark (withCredentials scheme credentials rest).toList =
      some (scheme.toList, (credentials ++ "@" ++ rest).toList) := by
  rw [toList_withCredentials]
  generalize (credentials ++ "@" ++ rest).toList = tail
  simp only [schemes, List.mem_cons, List.not_mem_nil, or_false] at hs
  rcases hs with rfl | rfl <;> simp [Text.cut?, schemeMark]

theorem lastPiece_withCredentials (hr : '@' ∉ rest.toList) :
    Text.lastPiece '@' (withCredentials scheme credentials rest) = rest :=
  Text.lastPiece_append (scheme ++ "://" ++ credentials) hr

/-- **What is shown of an address in failures.** -/
theorem bare_withCredentials (hs : scheme ∈ schemes) (hr : '@' ∉ rest.toList) :
    bare (withCredentials scheme credentials rest) = scheme ++ "://" ++ rest := by
  have hat : (withCredentials scheme credentials rest).toList.contains '@' = true := by
    simp [withCredentials]
  have hlast : Text.lastPiece '@' (credentials ++ "@" ++ rest) = rest :=
    Text.lastPiece_append credentials hr
  rw [bare, if_pos hat, cut?_withCredentials hs]
  simp only [String.ofList_toList, hlast]

/-- **What is shown of an address in the log.** -/
theorem logged_withCredentials (hs : scheme ∈ schemes) (hr : '@' ∉ rest.toList) :
    logged (withCredentials scheme credentials rest) =
      if Text.occurs schemeMark rest.toList then rest else scheme ++ "://" ++ rest := by
  simp only [logged, lastPiece_withCredentials hr, cut?_withCredentials hs, String.ofList_toList]

theorem hasScheme_withCredentials (hs : scheme ∈ schemes) :
    Connection.hasScheme (withCredentials scheme credentials rest) = true := by
  rw [Connection.hasScheme, toList_withCredentials]
  generalize (credentials ++ "@" ++ rest).toList = tail
  simp only [schemes, List.mem_cons, List.not_mem_nil, or_false] at hs
  rcases hs with rfl | rfl <;> simp [schemeMark]

/-- An address with credentials does not begin with a blank. -/
theorem trim_withCredentials_ne (hs : scheme ∈ schemes) :
    Text.trim (withCredentials scheme credentials rest) ≠ "" := by
  have hhead : (withCredentials scheme credentials rest).toList.head? = some 'm' := by
    rw [toList_withCredentials]
    simp only [schemes, List.mem_cons, List.not_mem_nil, or_false] at hs
    rcases hs with rfl | rfl <;> rfl
  exact Text.trim_ne_empty hhead (by decide)

theorem withCredentials_ne (hs : scheme ∈ schemes) :
    withCredentials scheme credentials rest ≠ "" := by
  intro he
  have htrim : Text.trim (withCredentials scheme credentials rest) ≠ "" :=
    trim_withCredentials_ne hs
  rw [he] at htrim
  exact htrim rfl

namespace Twins

theorem bare_eq (h : Twins u u') : bare u = bare u' := by
  cases h with
  | same => rfl
  | apart hs hr => rw [bare_withCredentials hs hr, bare_withCredentials hs hr]

theorem logged_eq (h : Twins u u') : logged u = logged u' := by
  cases h with
  | same => rfl
  | apart hs hr => rw [logged_withCredentials hs hr, logged_withCredentials hs hr]

theorem hasScheme_eq (h : Twins u u') : Connection.hasScheme u = Connection.hasScheme u' := by
  cases h with
  | same => rfl
  | apart hs hr => rw [hasScheme_withCredentials hs, hasScheme_withCredentials hs]

theorem blank_eq (h : Twins u u') : (Text.trim u == "") = (Text.trim u' == "") := by
  cases h with
  | same => rfl
  | apart hs hr =>
    rw [beq_eq_false_iff_ne.2 (trim_withCredentials_ne hs),
      beq_eq_false_iff_ne.2 (trim_withCredentials_ne hs)]

theorem empty_eq (h : Twins u u') : (u == "") = (u' == "") := by
  cases h with
  | same => rfl
  | apart hs hr =>
    rw [beq_eq_false_iff_ne.2 (withCredentials_ne hs),
      beq_eq_false_iff_ne.2 (withCredentials_ne hs)]

end Twins

end Uri

end Relink
