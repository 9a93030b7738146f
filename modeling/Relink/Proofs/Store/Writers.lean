import Relink.Proofs.Store.Keyed
import Relink.Store.Site

/-!
# Other writers

What is promised of other writers and of the driver: the ids of documents stay as they are, a cursor
gives what its filter selects, and, where it is asked for, writers keep the downloads and their
formats maps.

* `Edit.keyed`: edits keep a collection keyed.
* `Edit.open_at`: edits that keep maps keep a document open to a format.
-/

namespace Relink

variable {id : Value} {path format : String} {document : Document} {documents : List Document}

/-- An edit is not one of an id. The id of a document never changes. -/
def Edit.SparesId : Edit → Prop
  | write _ path _ => (Path.steps path).head? ≠ some "_id"
  | delete _ => True

/-- **An edit keeps maps**: in a document whose downloads and whose entry of a format are maps,
where they are present, they still are afterwards. -/
def Edit.KeepsMaps (format : String) : Edit → Prop
  | write _ path value => ∀ document : Document,
      Value.MapsAlong (Rule.entry format) (.map document) →
        Value.MapsAlong (Rule.entry format) (.map (document.assign value path))
  | delete _ => True

namespace Schedule

/-- **What is promised of a schedule**: ids stay, and a cursor gives what its filter selects. Calls
may fail. -/
structure Lawful (schedule : Schedule) : Prop where
  ids : ∀ kind n, ∀ edit ∈ (schedule kind n).edits, edit.SparesId
  cursors : ∀ n documents, (schedule .find n).course ≠ .supplied documents

/-- Other writers keep the downloads and the entry of a format maps. -/
def KeepsMaps (schedule : Schedule) (format : String) : Prop :=
  ∀ kind n, ∀ edit ∈ (schedule kind n).edits, edit.KeepsMaps format

theorem lawful_quiet : Lawful .quiet :=
  ⟨by simp [quiet], by simp [quiet]⟩

end Schedule

/-- A document with an id, if there is one, leads through maps to the entry of a format. -/
def Collection.OpenAt (format : String) (id : Value) (documents : List Document) : Prop :=
  ∀ document ∈ documents, document.id? = some id →
    Value.MapsAlong (Rule.entry format) (.map document)

namespace Edit

variable {edit : Edit}

/-- The ids after an edit are some of those before it, in the same order. -/
theorem ids_sublist (h : edit.SparesId) (documents : List Document) :
    ((edit.apply documents).map Document.id?).Sublist (documents.map Document.id?) := by
  cases edit with
  | write id path value =>
    rw [apply, Collection.write, Collection.ids_updateFirst h]
  | delete id => exact (List.filter_sublist).map _

theorem keyed (h : edit.SparesId) (hk : Collection.Keyed documents) :
    Collection.Keyed (edit.apply documents) :=
  hk.of_sublist (ids_sublist h documents)

/-- **Another writer may put any value into a link field.** -/
theorem write_link (h : '.' ∉ format.toList) (rule : Rule) (id value : Value) :
    (write id (rule.path format) value).SparesId ∧
      (write id (rule.path format) value).KeepsMaps format := by
  refine ⟨?_, fun document hm => ?_⟩
  · rw [SparesId, Rule.steps_path h]
    exact Rule.head_way rule format
  · rw [Document.map_assign, Rule.steps_path h]
    exact Value.mapsAlong_assign hm

end Edit

/-- The schedule on which another writer stores a value in a link field before the first update. -/
def Schedule.storing (rule : Rule) (format : String) (id value : Value) : Schedule := fun kind n =>
  if kind = .update ∧ n = 0 then { edits := [.write id (rule.path format) value] } else {}

/-- **A writer that stores any value in a link field** does what is promised. -/
theorem Schedule.storing_spec (h : '.' ∉ format.toList) (rule : Rule) (id value : Value) :
    (storing rule format id value).Lawful ∧ (storing rule format id value).KeepsMaps format := by
  have hedit : ∀ {kind n edit}, edit ∈ (storing rule format id value kind n).edits →
      edit.SparesId ∧ edit.KeepsMaps format := by
    intro kind n edit he
    unfold storing at he
    split at he
    · obtain rfl := List.mem_singleton.1 he
      exact Edit.write_link h rule id value
    · simp at he
  exact ⟨⟨fun _ _ _ he => (hedit he).1, fun n documents hc => by simp [storing] at hc⟩,
    fun _ _ _ he => (hedit he).2⟩

namespace Edit

variable {edit : Edit}

/-- **Edits that keep maps keep a document open.** -/
theorem open_at (h : edit.SparesId) (hm : edit.KeepsMaps format)
    (ho : Collection.OpenAt format id documents) :
    Collection.OpenAt format id (edit.apply documents) := by
  cases edit with
  | write key path value =>
    apply Collection.updateFirst_forall ho
    intro document hd hid
    rw [Document.id?_assign h] at hid
    exact hm document (hd hid)
  | delete key => exact fun document hd => ho document (List.mem_of_mem_filter hd)

end Edit

/-- Setting a link field keeps a document open to its format. -/
theorem Collection.OpenAt.updateFirst (ho : OpenAt format id documents) {rule : Rule}
    (hf : '.' ∉ format.toList) (filter : Filter) (value : Value) :
    OpenAt format id (updateFirst filter (rule.path format) value documents).2 := by
  have hs : Path.steps (rule.path format) = rule.way format := Rule.steps_path hf
  apply updateFirst_forall ho
  intro document hd hid
  rw [Document.id?_assign (by rw [hs]; exact Rule.head_way rule format)] at hid
  rw [Document.map_assign, hs]
  exact Value.mapsAlong_assign (hd hid)

end Relink
