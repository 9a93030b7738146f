import Mathlib.Data.List.Nodup
import Relink.Proofs.Rule.Link
import Relink.Store.Collection

/-!
# Collections with distinct ids

A keyed collection has distinct ids, each a text, a whole number or made by the database. In such a
collection the filter of an update selects at most the document with the id, and only if that
document still holds the expected text, be it as one member of a list.

* `updateFirst_cases`: an update selects nothing and changes nothing, or sets one field of the
  first document that its filter selects.
* `holds_expecting`: what the filter of an update asks for.
* `Rule.met_path`: which text a link field meets.
* `Keyed.updateFirst_at`, `Keyed.updateFirst_lost`: the update of a document that meets the filter,
  and of one that does not; `Keyed.updateFirst_link` and `Keyed.updateFirst_link_lost` where a link
  field holds a text.
-/

namespace Relink

variable {id v w : Value} {path s : String} {document : Document} {documents : List Document}

/-- Whether a value is of a kind that ids have. -/
def Value.isKey : Value → Bool
  | text _ | int _ | objectId _ => true
  | _ => false

theorem Value.same_key (hv : v.isKey = true) (hw : w.isKey = true) : same v w = true ↔ w = v := by
  cases v with
  | text s => exact same_text s w
  | int m => cases w <;> simp_all [isKey, same, sameScalar, int?, eq_comm (a := m)]
  | objectId s => cases w <;> simp_all [isKey, same, sameScalar, int?, eq_comm (a := s)]
  | _ => cases hv

namespace Condition

/-- A value meets a condition by one of its members only if it is a list. -/
theorem metBy_key (hi : id.isKey = true) (hw : w.isKey = true) :
    (equals id).metBy w = true ↔ w = id := by
  rw [← Value.same_key hi hw]
  cases w <;> simp_all [metBy, metBySingle, Value.isKey]

/-- **A value meets a text** if it is that text, or a list with that text among its members. -/
theorem metBy_text :
    (equals (.text s)).metBy w = true ↔
      w = .text s ∨ ∃ items, w = .list items ∧ .text s ∈ items := by
  cases w <;> simp [metBy, metBySingle, Value.same_text]

/-- Where a text with the pattern is met, the pattern is found. -/
theorem metBy_found {pattern : Pattern} (h : (equals (.text s)).metBy w = true)
    (hs : pattern.found s = true) : (found pattern).metBy w = true := by
  rcases metBy_text.1 h with rfl | ⟨items, rfl, hm⟩
  · simp [metBy, metBySingle, hs]
  · simp only [metBy, metBySingle, Bool.false_or, List.any_eq_true]
    exact ⟨.text s, hm, hs⟩

end Condition

namespace Document

theorem candidates_id : document.candidates "_id" = document.id?.toList := by
  have hs : Path.steps "_id" = ["_id"] := by decide
  rw [candidates, hs, id?]
  cases h : Entries.get? "_id" document <;> simp [Value.candidates, h]

end Document

/-- The filter of an update has two conditions. -/
theorem Filter.expecting_eq (hp : path ≠ "_id") (id : Value) (s : String) :
    expecting id path s = [("_id", .equals id), (path, .equals (.text s))] := by
  simp [expecting, Entries.put, hp.symm]

/-- **What the filter of an update asks for**, of a document with an id: that id, and the expected
text at the path. -/
theorem Filter.holds_expecting (hp : path ≠ "_id") (hi : id.isKey = true) {key : Value}
    (hk : key.isKey = true) (hd : document.id? = some key) :
    (expecting id path s).holds document = true ↔
      key = id ∧ ∃ w ∈ document.candidates path, (Condition.equals (.text s)).metBy w = true := by
  simp [expecting_eq hp, holds, Document.candidates_id, hd, Condition.metBy_key hi hk]

/-- **A link field that holds a text** meets that text only. -/
theorem Rule.met_path {rule : Rule} {format u : String} (hf : '.' ∉ format.toList)
    (hr : Value.reach? (rule.way format) (.map document) = some (.text s)) :
    (∃ w ∈ document.candidates (rule.path format), (Condition.equals (.text u)).metBy w = true) ↔
      u = s := by
  rw [Rule.candidates_path hf, Value.candidates_of_reach? hr]
  constructor
  · rintro ⟨w, hw, hmet⟩
    obtain rfl := List.mem_singleton.1 hw
    rcases Condition.metBy_text.1 hmet with he | ⟨items, he, -⟩
    · exact (Value.text.inj he).symm
    · cases he
  · rintro rfl
    exact ⟨_, List.mem_singleton_self _, Condition.metBy_text.2 (Or.inl rfl)⟩

namespace Collection

variable {filter : Filter} {front back : List Document}

/-- What a find gives stands among the documents and is selected. -/
theorem exists_of_mem_select {limit : Int}
    (h : document ∈ select filter (some path) limit documents) :
    ∃ source ∈ documents, filter.holds source = true ∧ source.project path = document := by
  simp only [select, List.mem_map] at h
  obtain ⟨source, hs, he⟩ := h
  have hm : source ∈ documents.filter filter.holds := by
    split at hs
    · exact hs
    · exact List.mem_of_mem_take hs
  exact ⟨source, List.mem_of_mem_filter hm, (List.mem_filter.1 hm).2, he⟩

/-- **A find with a cap** gives the first few of the selected documents. -/
theorem select_capped {limit : Int} (hl : 1 ≤ limit) (filter : Filter) (path : String)
    (documents : List Document) :
    select filter (some path) limit documents =
      ((documents.filter filter.holds).take limit.toNat).map (Document.project path) := by
  have hzero : limit ≠ 0 := by omega
  simp only [select, hzero, if_false]

/-- **An update in closed form**: nothing is selected and nothing changes, or one field of the first
selected document is set. -/
theorem updateFirst_cases (filter : Filter) (path : String) (v : Value)
    (documents : List Document) : ((∀ document ∈ documents, filter.holds document = false) ∧
        updateFirst filter path v documents = (false, documents)) ∨
      ∃ front document back, documents = front ++ document :: back ∧
        filter.holds document = true ∧
        updateFirst filter path v documents = (true, front ++ document.assign v path :: back) := by
  induction documents with
  | nil => exact Or.inl ⟨by simp, rfl⟩
  | cons first rest ih =>
    by_cases hf : filter.holds first = true
    · exact Or.inr ⟨[], first, rest, rfl, hf, by simp [updateFirst, hf]⟩
    · have hf' : filter.holds first = false := by simpa using hf
      rcases ih with ⟨hn, hu⟩ | ⟨front, document, back, rfl, hd, hu⟩
      · refine Or.inl ⟨?_, by simp [updateFirst, hf', hu]⟩
        intro document hm
        rcases List.mem_cons.1 hm with rfl | hm
        · exact hf'
        · exact hn document hm
      · exact Or.inr ⟨first :: front, document, back, rfl, hd, by simp [updateFirst, hf', hu]⟩

/-- What an update keeps of a single document it keeps of all. -/
theorem updateFirst_forall {p : Document → Prop} (hp : ∀ document ∈ documents, p document)
    (ha : ∀ document, p document → p (document.assign v path)) :
    ∀ document ∈ (updateFirst filter path v documents).2, p document := by
  rcases updateFirst_cases filter path v documents with ⟨-, hu⟩ | ⟨front, first, back, rfl, -, hu⟩
  · rwa [hu]
  · rw [hu]
    simp only [List.forall_mem_append, List.forall_mem_cons] at hp ⊢
    exact ⟨hp.1, ha first hp.2.1, hp.2.2⟩

/-- An update of anything but the id leaves the ids and their order. -/
theorem ids_updateFirst (h : (Path.steps path).head? ≠ some "_id") :
    (updateFirst filter path v documents).2.map Document.id? = documents.map Document.id? := by
  rcases updateFirst_cases filter path v documents with
    ⟨-, hu⟩ | ⟨front, document, back, rfl, -, hu⟩
  · rw [hu]
  · rw [hu]
    simp [Document.id?_assign h]

/-- **The ids of a collection are distinct**, each a text, a whole number or made by the
database. -/
structure Keyed (documents : List Document) : Prop where
  key : ∀ document ∈ documents, ∃ id, document.id? = some id ∧ id.isKey = true
  nodup : (documents.map Document.id?).Nodup

namespace Keyed

/-- Whether a collection is keyed can be seen of the ids, and of some of them. -/
theorem of_sublist (h : Keyed documents) {others : List Document}
    (hs : (others.map Document.id?).Sublist (documents.map Document.id?)) : Keyed others := by
  refine ⟨fun document hd => ?_, h.nodup.sublist hs⟩
  obtain ⟨known, hk, he⟩ := List.mem_map.1 (hs.subset (List.mem_map_of_mem hd))
  obtain ⟨id, hid, hkey⟩ := h.key known hk
  exact ⟨id, he ▸ hid, hkey⟩

/-- A document is known by its id. -/
theorem eq_of_id? (h : Keyed documents) {a b : Document} (ha : a ∈ documents) (hb : b ∈ documents)
    (he : a.id? = b.id?) : a = b :=
  List.inj_on_of_nodup_map h.nodup ha hb he

/-- The id of a document is of a kind that ids have. -/
theorem isKey_of_id? (h : Keyed documents) (hm : document ∈ documents)
    (hd : document.id? = some id) : id.isKey = true := by
  obtain ⟨key, hkey, hk⟩ := h.key document hm
  obtain rfl : key = id := Option.some.inj (hkey.symm.trans hd)
  exact hk

/-- The others have other ids. -/
theorem id?_ne (h : Keyed (front ++ document :: back)) {other : Document}
    (ho : other ∈ front ++ back) : other.id? ≠ document.id? := by
  have hn := h.nodup
  simp only [List.map_append, List.map_cons, List.nodup_append, List.nodup_cons, List.mem_map,
    List.mem_cons] at hn
  obtain ⟨-, ⟨hb, -⟩, hf⟩ := hn
  rcases List.mem_append.1 ho with hm | hm
  · exact fun he => hf _ ⟨other, hm, he⟩ _ (Or.inl rfl) rfl
  · exact fun he => hb ⟨other, hm, he⟩

/-- The filter of an update does not select a document with another id. -/
theorem not_holds (h : Keyed documents) (hp : path ≠ "_id") (hi : id.isKey = true)
    (hd : document ∈ documents) (hne : document.id? ≠ some id) :
    (Filter.expecting id path s).holds document = false := by
  obtain ⟨key, hkey, hk⟩ := h.key document hd
  by_contra hc
  have := (Filter.holds_expecting hp hi hk hkey).1 (by simpa using hc)
  exact hne (by rw [hkey, this.1])

/-- **The update of a document that holds the expected text** sets its field. -/
theorem updateFirst_at (h : Keyed (front ++ document :: back)) (hp : path ≠ "_id")
    (hd : document.id? = some id)
    (hw : ∃ w ∈ document.candidates path, (Condition.equals (.text s)).metBy w = true) :
    updateFirst (.expecting id path s) path v (front ++ document :: back) =
      (true, front ++ document.assign v path :: back) := by
  have hi : id.isKey = true := h.isKey_of_id? (by simp) hd
  have hholds := (Filter.holds_expecting hp hi hi hd).2 ⟨rfl, hw⟩
  induction front with
  | nil => simp [updateFirst, hholds]
  | cons first rest ih =>
    have hne := h.not_holds (s := s) hp hi (List.mem_append_left _ List.mem_cons_self)
      (hd ▸ h.id?_ne (by simp))
    have ih := ih (h.of_sublist ((List.sublist_cons_self _ _).map _))
    simp [updateFirst, hne, ih]

/-- **The update of a document that does not hold the expected text** is lost: nothing is selected
and nothing changes. -/
theorem updateFirst_lost (h : Keyed documents) (hp : path ≠ "_id") (hm : document ∈ documents)
    (hd : document.id? = some id)
    (hw : ¬ ∃ w ∈ document.candidates path, (Condition.equals (.text s)).metBy w = true) :
    updateFirst (.expecting id path s) path v documents = (false, documents) := by
  rcases updateFirst_cases (.expecting id path s) path v documents with
    ⟨-, hu⟩ | ⟨front, other, back, rfl, ho, -⟩
  · exact hu
  · -- what is selected has the id, so it is the document, which does not meet the text
    have hother : other ∈ front ++ other :: back := by simp
    obtain ⟨key, hkey, hk⟩ := h.key other hother
    have hi : id.isKey = true := h.isKey_of_id? hm hd
    obtain ⟨rfl, hmet⟩ := (Filter.holds_expecting hp hi hk hkey).1 ho
    obtain rfl := h.eq_of_id? hm hother (by rw [hd, hkey])
    exact absurd hmet hw

variable {rule : Rule} {format u : String}

/-- **The update of a link field that holds the expected text** sets it. -/
theorem updateFirst_link (h : Keyed (front ++ document :: back)) (hf : '.' ∉ format.toList)
    (hd : document.id? = some id)
    (hr : Value.reach? (rule.way format) (.map document) = some (.text s)) :
    updateFirst (.expecting id (rule.path format) s) (rule.path format) v
        (front ++ document :: back) =
      (true, front ++ document.assign v (rule.path format) :: back) := by
  have hmet := (Rule.met_path hf hr).2 rfl
  exact h.updateFirst_at (Rule.path_ne_id hf) hd hmet

/-- **The update of a link field that holds another text** is lost. -/
theorem updateFirst_link_lost (h : Keyed documents) (hf : '.' ∉ format.toList)
    (hm : document ∈ documents) (hd : document.id? = some id)
    (hr : Value.reach? (rule.way format) (.map document) = some (.text s)) (hne : u ≠ s) :
    updateFirst (.expecting id (rule.path format) u) (rule.path format) v documents =
      (false, documents) := by
  have hunmet := mt (Rule.met_path hf hr).1 hne
  exact h.updateFirst_lost (Rule.path_ne_id hf) hm hd hunmet

end Keyed

end Collection

end Relink
