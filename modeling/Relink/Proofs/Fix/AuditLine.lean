import Relink.Fix.Pass
import Relink.Proofs.Document.RoundTrip
import Relink.Proofs.Rule.Link
import Relink.Proofs.Settings.Plan
import Relink.Proofs.Store.Keyed

/-!
# Reading the audit trail

The audit line of an update is plain text on one line, from which the filter and the change of the
update are read back. So the line tells the update, but for an id that is the text of another.

* `readable_subject`: what an audit line is written of can be read back.
* `decodable`: the audit lines of rewrites are plain and are read back.
* `line_inj`: updates with the same line are the same.
-/

namespace Relink.Audit

variable {request other : UpdateRequest} {rule : Rule} {format : String} {id : Value}

/-- What an audit line is written of. -/
def subject (request : UpdateRequest) : Value :=
  .list [.map [("_id", request.id), (request.path, .text request.old)], request.change]

/-- What is read of an audit line. -/
def decoded (request : UpdateRequest) : Value :=
  .list [.map [("_id", Json.asRead request.id), (request.path, .text request.old)],
    .map [("$set", .map [(request.path, .text request.new)])]]

theorem asRead_subject (request : UpdateRequest) :
    Json.asRead (subject request) = decoded request := by
  simp [subject, decoded, UpdateRequest.change, Json.asRead, Json.asReadItems, Json.asReadFields]

/-- **What an audit line is written of can be read back.** -/
theorem readable_subject (hid : request.id.isKey = true) (hp : request.path ≠ "_id") :
    Json.Readable (subject request) := by
  have hkey : Json.Readable request.id := by
    cases h : request.id with
    | text s => exact .text s
    | int n => exact .int n
    | objectId hex => exact .objectId hex
    | _ => simp [h, Value.isKey] at hid
  have hfilter : Json.Readable (.map [("_id", request.id), (request.path, .text request.old)]) := by
    refine .map ?_ ?_
    · simpa [Entries.keys] using hp.symm
    · exact List.forall_mem_cons.2 ⟨hkey, List.forall_mem_singleton.2 (.text request.old)⟩
  have hchange : Json.Readable request.change :=
    .map (List.nodup_singleton _) (List.forall_mem_singleton.2
      (.map (List.nodup_singleton _) (List.forall_mem_singleton.2 (.text request.new))))
  exact .list (List.forall_mem_cons.2 ⟨hfilter, List.forall_mem_singleton.2 hchange⟩)

/-- An audit line is plain and is read back. -/
theorem plain_and_read (request : UpdateRequest) (hid : request.id.isKey = true)
    (hp : request.path ≠ "_id") :
    Json.Plain (line request).toList ∧ Json.read (line request) = some (decoded request) := by
  have hreadable := readable_subject hid hp
  rw [line_eq hp, ← asRead_subject]
  exact ⟨Json.plain_ofValue hreadable, Json.read_ofValue hreadable⟩

/-- **Updates with the same line** are the same, but for an id that is read as the other. -/
theorem line_inj (hid : request.id.isKey = true) (hp : request.path ≠ "_id")
    (hid' : other.id.isKey = true) (hp' : other.path ≠ "_id") (h : line request = line other) :
    Json.asRead request.id = Json.asRead other.id ∧ request.path = other.path ∧
      request.old = other.old ∧ request.new = other.new := by
  have hread := (plain_and_read request hid hp).2
  rw [h, (plain_and_read other hid' hp').2] at hread
  simp only [decoded, Option.some.injEq, Value.list.injEq, Value.map.injEq, Value.text.injEq,
    List.cons.injEq, Prod.mk.injEq, and_true, true_and] at hread
  obtain ⟨⟨h1, h2, h3⟩, -, h4⟩ := hread
  exact ⟨h1.symm, h2.symm, h3.symm, h4.symm⟩

/-- **The audit line of a rewrite is plain text and is read back.** Whatever the link was and
becomes, the line holds printable ASCII characters only, and its JSON is the list of the filter with
the id and the old value and of the change with the new value. An id made by the database is read
as the text of its digits. -/
theorem decodable (hid : id.isKey = true) (rule : Rule) (hf : Plan.isFormat format = true)
    (old new : String) :
    (∀ c ∈ (line ⟨id, rule.path format, old, new⟩).toList, 0x20 ≤ c.toNat ∧ c.toNat < 0x7f) ∧
      Json.read (line ⟨id, rule.path format, old, new⟩) =
        some (.list [.map [("_id", Json.asRead id), (rule.path format, .text old)],
          .map [("$set", .map [(rule.path format, .text new)])]]) :=
  plain_and_read ⟨id, rule.path format, old, new⟩ hid
    (Rule.path_ne_id (Plan.no_dot_of_isFormat hf))

/-- Quotes, a backslash, a line end, a control character and a character beyond `0xffff`, in the
link and in the format. -/
theorem decodable_awkward :
    (Value.objectId "5f2a6c1e9d3b4a0012345678").isKey = true ∧
      Plan.isFormat "c\"s\\v\n" = true ∧
      (∀ c ∈ (line ⟨.objectId "5f2a6c1e9d3b4a0012345678", Defaults.command.path "c\"s\\v\n",
        "http://a/\x01\"\\\n", "http://b/😀é\x7f"⟩).toList, 0x20 ≤ c.toNat ∧ c.toNat < 0x7f) ∧
      Json.read (line ⟨.objectId "5f2a6c1e9d3b4a0012345678", Defaults.command.path "c\"s\\v\n",
        "http://a/\x01\"\\\n", "http://b/😀é\x7f"⟩) =
        some (.list [
          .map [("_id", .text "5f2a6c1e9d3b4a0012345678"),
            (Defaults.command.path "c\"s\\v\n", .text "http://a/\x01\"\\\n")],
          .map [("$set",
            .map [(Defaults.command.path "c\"s\\v\n", .text "http://b/😀é\x7f")])]]) :=
  ⟨rfl, by decide, decodable rfl Defaults.command (by decide) _ _⟩

end Relink.Audit
