import Relink.Proofs.Fix.Sweep
import Relink.Proofs.Store.Linked
import Relink.Store.Lifecycle

/-!
# Link fields are independent

The path of an accepted format and a rule names one link field and no other. An update at it, made
on the condition that the field holds a text, sets the field of the document with the id and leaves
everything else: the other formats, the other link field, what a document has besides its downloads,
and the other documents, whatever they hold.

* `Plan.admitted_iff`: which formats are accepted.
* `Rule.sets_assign`: assigning a link field sets it and nothing else (`Rule.Sets`).
* `Store.update_yields`: what an update comes to in a store that holds a collection.
* `Store.fields_independent`: updates of link fields, where the field holds the expected text and
  where it does not.
-/

namespace Relink

/-- **An accepted format**: an accepted plan names it. -/
def Plan.Admitted (format : String) : Prop :=
  ∃ plan : Plan, plan.Accepted ∧ format ∈ plan.formats

/-- **The accepted formats** are those that can be a step of a path. -/
theorem Plan.admitted_iff {format : String} : Admitted format ↔ isFormat format = true := by
  constructor
  · rintro ⟨plan, haccepted, hm⟩
    exact (check_ok.1 haccepted.check).2.1 format hm
  · intro hf
    exact ⟨trial format 1 1, accepted_trial hf (by decide) (by decide), List.mem_singleton_self format⟩

theorem Plan.Admitted.no_dot {format : String} (h : Admitted format) : '.' ∉ format.toList :=
  no_dot_of_isFormat (admitted_iff.1 h)

namespace Rule

variable {rule other : Rule} {format format' v w : String} {before after document : Document}

/-- **A link field is set and nothing else**: it is read as the new text, whatever is read of the
other link fields stays, be it a text or a fault, and so do all other keys and their order. -/
structure Sets (rule : Rule) (format w : String) (before after : Document) : Prop where
  read : after.textAt (rule.path format) = .ok w
  others : ∀ (other : Rule) (format' : String), Plan.Admitted format' →
    other.path format' ≠ rule.path format →
    after.textAt (other.path format') = before.textAt (other.path format')
  rest : Value.SetAt (.text w) (rule.way format) (.map before) (.map after)

/-- **Assigning a link field that holds a text** sets it and nothing else. -/
theorem sets_assign (hf : '.' ∉ format.toList) (hv : document.textAt (rule.path format) = .ok v)
    (w : String) : rule.Sets format w document (document.assign (.text w) (rule.path format)) := by
  have hset : Value.SetAt (.text w) (rule.way format) (.map document)
      (.map (document.assign (.text w) (rule.path format))) := by
    rw [Document.map_assign, steps_path hf]
    exact Value.assign_setAt ((textAt_eq_ok_iff hf).1 hv)
  have hid : (document.assign (.text w) (rule.path format)).id? = document.id? := by
    apply Document.id?_assign
    rw [steps_path hf]
    exact head_way rule format
  refine ⟨(textAt_eq_ok_iff hf).2 hset.reach?, fun other format' hf' hne => ?_, hset⟩
  -- a fault names the id, so that the id stays matters too
  obtain ⟨h1, h2⟩ := way_apart fun hsame => hne ((path_inj hf hf'.no_dot).2 hsame)
  unfold Document.textAt
  rw [steps_path hf'.no_dot, hset.reach?_of_apart h1 h2, hid]

end Rule

namespace Store

variable {store : Store} {rule : Rule} {format u v w : String} {id : Value} {selected : Bool}
  {document : Document} {documents left front back : List Document}

/-- **What an update comes to** in a store that holds a collection. -/
theorem update_yields {request : UpdateRequest} (ha : store.attached = true)
    (hu : Collection.updateFirst request.filter request.path (.text request.new) documents =
      (selected, left)) : (store.update request).Yields documents selected left := by
  have hjob : store.update request = .update request .done := by simp [update, collection, ha]
  rw [hjob]
  exact Job.Yields.update hu (Job.Yields.done selected left)

/-- **The update of a link field that holds the expected text** sets it, in this document only. -/
theorem update_sets (ha : store.attached = true)
    (hk : Collection.Keyed (front ++ document :: back)) (hf : '.' ∉ format.toList)
    (hid : document.id? = some id) (hv : document.textAt (rule.path format) = .ok v) (w : String) :
    ∃ after, rule.Sets format w document after ∧
      (store.update ⟨id, rule.path format, v, w⟩).Yields (front ++ document :: back) true
        (front ++ after :: back) := by
  have hreach := (Rule.textAt_eq_ok_iff hf).1 hv
  exact ⟨_, Rule.sets_assign hf hv w, update_yields ha (hk.updateFirst_link hf hid hreach)⟩

/-- **The update of a link field that holds another text** is lost, and changes nothing. -/
theorem update_lost (ha : store.attached = true) (hk : Collection.Keyed documents)
    (hm : document ∈ documents) (hf : '.' ∉ format.toList) (hid : document.id? = some id)
    (hv : document.textAt (rule.path format) = .ok v) (hne : u ≠ v) (w : String) :
    (store.update ⟨id, rule.path format, u, w⟩).Yields documents false documents := by
  have hreach := (Rule.textAt_eq_ok_iff hf).1 hv
  exact update_yields ha (hk.updateFirst_link_lost hf hm hid hreach hne)

/-- **Link fields are independent.** The path of an accepted format falls into the downloads key, the
format and the link field, and no other format or link field has the same path. In a collection with
distinct ids, an update on the condition that a link field holds the text that is read there is made:
it sets that field of that document and nothing else, and every document keeps its place. On the
condition that the field holds another text the update is not made, and nothing changes. -/
theorem fields_independent (rule : Rule) (hf : Plan.Admitted format) :
    Path.steps (rule.path format) = [Rule.downloadsKey, format, rule.field.key] ∧
    (∀ (other : Rule) (format' : String), Plan.Admitted format' →
      (other.path format' = rule.path format ↔ format' = format ∧ other.field = rule.field)) ∧
    ∀ (store : Store) (front : List Document) (document : Document) (back : List Document)
      (id : Value) (v : String), store.attached = true →
      Collection.Keyed (front ++ document :: back) → document.id? = some id →
      document.textAt (rule.path format) = .ok v →
      (∀ w, ∃ after, rule.Sets format w document after ∧
        (store.update ⟨id, rule.path format, v, w⟩).Yields (front ++ document :: back) true
          (front ++ after :: back)) ∧
      ∀ u w, u ≠ v →
        (store.update ⟨id, rule.path format, u, w⟩).Yields (front ++ document :: back) false
          (front ++ document :: back) := by
  refine ⟨Rule.steps_path hf.no_dot, fun other format' hf' => Rule.path_inj hf.no_dot hf'.no_dot,
    fun store front document back id v ha hk hid hv => ⟨?_, ?_⟩⟩
  · exact update_sets ha hk hf.no_dot hid hv
  · intro u w hne
    exact update_lost ha hk (by simp) hf.no_dot hid hv hne w

/-- A document with a title and two formats, that holds one text wherever a text can stand. -/
def uniform (id : Value) (s : String) : Document :=
  let entry : Value := .map [("href", .text s), ("public", .text s)]
  [("_id", id), ("title", .text s), (Rule.downloadsKey, .map [("csv", entry), ("xls", entry)])]

/-- Two documents with one text in every field: one field of the first is set, and the same field of
the second, the other link field and the other format are not. -/
theorem fields_independent_uniform :
    let store : Store := { connection := none, attached := true }
    let first := uniform (.int 1) "//old/a.csv"
    let second := uniform (.objectId "5f2a6c1e9d3b4a0012345678") "//old/a.csv"
    let path := Defaults.command.path "csv"
    Plan.Admitted "csv" ∧ Plan.Admitted "xls" ∧ Collection.Keyed [first, second] ∧
      (∃ after, after.textAt path = .ok "//new/a.csv" ∧
        after.textAt (Defaults.static.path "csv") = .ok "//old/a.csv" ∧
        after.textAt (Defaults.command.path "xls") = .ok "//old/a.csv" ∧
        (store.update ⟨.int 1, path, "//old/a.csv", "//new/a.csv"⟩).Yields [first, second] true
          [after, second]) ∧
      (store.update ⟨.int 1, path, "//old/b.csv", "//new/a.csv"⟩).Yields [first, second] false
        [first, second] := by
  intro store first second path
  have hcsv : Plan.Admitted "csv" := Plan.admitted_iff.2 (by decide)
  have hxls : Plan.Admitted "xls" := Plan.admitted_iff.2 (by decide)
  have hk : Collection.Keyed [first, second] := by
    refine ⟨List.forall_mem_cons.2 ⟨⟨_, rfl, rfl⟩, List.forall_mem_singleton.2 ⟨_, rfl, rfl⟩⟩, ?_⟩
    simp [first, second, uniform, Document.id?, Entries.get?]
  have hread : first.textAt path = .ok "//old/a.csv" :=
    (Rule.textAt_eq_ok_iff hcsv.no_dot).2 rfl
  have hpublic : first.textAt (Defaults.static.path "csv") = .ok "//old/a.csv" :=
    (Rule.textAt_eq_ok_iff hcsv.no_dot).2 rfl
  have hother : first.textAt (Defaults.command.path "xls") = .ok "//old/a.csv" :=
    (Rule.textAt_eq_ok_iff hxls.no_dot).2 rfl
  obtain ⟨-, hpath, hupdate⟩ := fields_independent Defaults.command hcsv
  obtain ⟨hmade, hlost⟩ := hupdate store [] first [second] (.int 1) "//old/a.csv" rfl hk rfl hread
  obtain ⟨after, hsets, hyields⟩ := hmade "//new/a.csv"
  refine ⟨hcsv, hxls, hk, ⟨after, hsets.read, ?_, ?_, hyields⟩, hlost _ _ (by decide)⟩
  · rw [hsets.others Defaults.static "csv" hcsv fun he => absurd ((hpath _ _ hcsv).1 he) (by decide)]
    exact hpublic
  · rw [hsets.others Defaults.command "xls" hxls fun he => absurd ((hpath _ _ hxls).1 he) (by decide)]
    exact hother

end Store

end Relink
