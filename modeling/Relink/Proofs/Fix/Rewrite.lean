import Relink.Proofs.Fix.Moments
import Relink.Proofs.Rule.Link

/-!
# Rewriting the documents of a batch

What the fixer does with one document of a batch, in closed form, and from it what it asks for and
what it counts over a whole batch.

* `fixDocument_eq`: a document fails, is skipped, or is rewritten.
* `fixFormats_of_documents`: a property of jobs goes from the documents to the formats.
* `fixDocuments_does`: each update of a batch is of a document that was read, and conditioned on the
  value that was read.
* `fixDocuments_counts`: the counters of a live batch add up with the outcomes of its updates.
-/

namespace Relink

namespace Update

/-- Whether the update selected a document. -/
def made (update : Update) : Bool :=
  match update.outcome with
  | .ok selected => selected
  | .error _ => false

/-- Whether the update was carried out and selected no document. -/
def lost (update : Update) : Bool :=
  match update.outcome with
  | .ok selected => !selected
  | .error _ => false

/-- Whether the update selected a document, and asked for another value than the old one. -/
def effective (update : Update) : Bool := update.made && update.request.new != update.request.old

end Update

/-- **A property of jobs that goes from the parts to the whole.** -/
structure Job.Composes (Q : (α : Type) → Job α → Prop) : Prop where
  done : ∀ {α : Type} (a : α), Q α (.done a)
  bind : ∀ {α β : Type} {t : Job α} {f : α → Job β}, Q α t → (∀ a, Q β (f a)) → Q β (t.bind f)
  find : ∀ {α : Type} (request : FindRequest) {next : List Document → Job α},
    (∀ documents, Q α (next documents)) → Q α (.find request next)

theorem Job.Does.composes {P : Event → Prop} (h : ∀ request cap, P (.call (.find request cap))) :
    Job.Composes fun _ t => t.Does P fun _ => True where
  done := fun _ => trivial
  bind := fun ht hf => ht.bind fun a _ => hf a
  find := fun request _ hn => ⟨h request, hn⟩

namespace Fix

open Job

variable {plan : Plan} {rule : Rule} {result : RuleResult} {document : Document}

/-- The result with a value counted that may lack the text to replace. -/
def noted (rule : Rule) (old : String) (result : RuleResult) : RuleResult :=
  if rule.applies old then result else { result with unchanged := result.unchanged + 1 }

/-- The result with the outcome of a rewrite counted. -/
def counted (request : UpdateRequest) (made : Bool) (result : RuleResult) : RuleResult :=
  if made then
    { result with
      rewritten := result.rewritten + 1
      changed := if request.new != request.old then result.changed + 1 else result.changed }
  else { result with conflicts := result.conflicts + 1 }

/-- **What is done with a document.** It fails if it holds no text at the path or has no id, is
skipped if its value lacks the text to replace and the plan says so, and else is rewritten. -/
theorem fixDocument_eq (plan : Plan) (rule : Rule) (result : RuleResult) (document : Document) :
    fixDocument plan rule result document =
      match document.textAt result.path, document.id with
      | .error failure, _ => .fail failure
      | .ok _, .error failure => .fail failure
      | .ok old, .ok id =>
        if !rule.applies old && plan.skipUnchanged then
          .log ⟨.info, "Skipping value without replaceable substring",
            [("document_id", .text id.printed), ("field_path", .text result.path),
              ("value", .text old), ("rule", .text rule.name)]⟩ (.done (noted rule old result))
        else
          (replaceLink plan ⟨id, result.path, old, rule.apply old⟩).bind fun made => .done
            (counted ⟨id, result.path, old, rule.apply old⟩ made (noted rule old result)) := by
  unfold fixDocument
  simp only [bind_eq]
  cases document.textAt result.path with
  | error failure => rfl
  | ok old =>
    cases hi : document.id with
    | error failure =>
      cases ha : rule.applies old <;> cases hs : plan.skipUnchanged <;>
        simp [Job.ofExcept, Job.bind]
    | ok id =>
      -- the two ends of a rewrite count one value each
      have hends : ∀ (t : Job Bool) (f g : RuleResult),
          (t.bind fun made => if made = true then pure f else pure g) =
            t.bind fun made => .done (if made = true then f else g) := by
        intro t f g
        congr 1
        funext made
        cases made <;> rfl
      cases ha : rule.applies old <;> cases hs : plan.skipUnchanged <;>
        simp only [Job.ofExcept, Job.pure_bind, ha, noted, counted, hends, Bool.not_false,
          Bool.not_true, Bool.and_false, Bool.and_true, Bool.false_eq_true, if_true, if_false]
      rfl

/-- **A live rewrite**: the line, the update, and a warning if the document was lost. -/
theorem replaceLink_live (h : plan.dryRun = false) (request : UpdateRequest) :
    replaceLink plan request = .echo (Audit.line request) (.update request fun made =>
      if made then .done true
      else .log ⟨.warning, "Document changed before update, not rewritten",
        [("document_id", .text request.id.printed), ("field_path", .text request.path),
          ("expected", .text request.old)]⟩ (.done false)) := by
  simp only [replaceLink, h, say, bind_eq, Job.bind, Bool.false_eq_true, if_false, pure_eq]
  congr 2

/-- A batch is read whole before its first rewrite. -/
theorem fixRule_eq (plan : Plan) (format : String) (rule : Rule) :
    fixRule plan format rule = .find (batch plan rule format) fun documents =>
      fixDocuments plan rule
        { format := format, rule := rule.name, path := rule.path format,
          matched := documents.length } documents := rfl

theorem fixRules_cons (plan : Plan) (format : String) (rule : Rule) (rest : List Rule) :
    fixRules plan format (rule :: rest) = (fixRule plan format rule).bind fun result =>
      (fixRules plan format rest).bind fun results => .done (result :: results) := rfl

theorem fixFormats_cons (plan : Plan) (rules : List Rule) (format : String) (rest : List String) :
    fixFormats plan rules (format :: rest) = .echo ("processing: " ++ format)
      ((fixRules plan format rules).bind fun results =>
        (fixFormats plan rules rest).bind fun more => .done (results ++ more)) := rfl

theorem repeatPasses_succ (plan : Plan) (rules : List Rule) (left : Nat) (total : Report) :
    repeatPasses plan rules (left + 1) total = (fixAll plan rules).bind fun report =>
      if plan.dryRun || report.changed == 0 then .done (total.merge report)
      else repeatPasses plan rules left (total.merge report) := rfl

/-- **What the work on each document has, the work on the formats has.** -/
theorem fixFormats_of_documents {Q : (α : Type) → Job α → Prop} (hQ : Composes Q)
    (hformat : ∀ {α : Type} (format : String) {next : Job α}, Q α next →
      Q α (.echo ("processing: " ++ format) next))
    (hdocument : ∀ rule result document, Q RuleResult (fixDocument plan rule result document))
    (rules : List Rule) (formats : List String) :
    Q (List RuleResult) (fixFormats plan rules formats) := by
  have hbatch : ∀ rule documents result,
      Q RuleResult (fixDocuments plan rule result documents) := by
    intro rule documents
    induction documents with
    | nil => exact fun _ => hQ.done _
    | cons document rest ih => exact fun result => hQ.bind (hdocument rule result document) ih
  have hrules : ∀ format rules, Q (List RuleResult) (fixRules plan format rules) := by
    intro format rules
    induction rules with
    | nil => exact hQ.done _
    | cons rule rest ih =>
      have hrule : Q RuleResult (fixRule plan format rule) :=
        hQ.find _ fun documents => hbatch rule documents _
      rw [fixRules_cons]
      exact hQ.bind hrule fun _ => hQ.bind ih fun _ => hQ.done _
  induction formats with
  | nil => exact hQ.done _
  | cons format rest ih =>
    rw [fixFormats_cons]
    exact hformat format (hQ.bind (hrules format rules) fun _ => hQ.bind ih fun _ => hQ.done _)

/-- An update of a batch: of a document that was read, on the value that was read. -/
structure Requested (rule : Rule) (path : String) (documents : List Document)
    (request : UpdateRequest) : Prop where
  path_eq : request.path = path
  new_eq : request.new = rule.apply request.old
  read : ∃ document ∈ documents,
    document.id? = some request.id ∧ document.textAt path = .ok request.old

/-- What is logged of a document: that it was skipped, or lost to another writer. -/
def notices : List String :=
  ["Skipping value without replaceable substring", "Document changed before update, not rewritten"]

/-- What the fixer does with the documents of a batch: no find, and only updates of the batch. -/
def inBatch (rule : Rule) (path : String) (documents : List Document) : Event → Prop
  | .call (.find _ _) => False
  | .call (.update request) => Requested rule path documents request
  | .record record => record.text ∈ notices
  | _ => True

theorem fixDocument_does {documents : List Document} (hm : document ∈ documents) :
    (fixDocument plan rule result document).Does (inBatch rule result.path documents) fun r =>
      r.format = result.format ∧ r.rule = result.rule ∧ r.path = result.path := by
  have hkeep : ∀ {request : UpdateRequest} {old : String} (made : Bool),
      (counted request made (noted rule old result)).format = result.format ∧
        (counted request made (noted rule old result)).rule = result.rule ∧
          (counted request made (noted rule old result)).path = result.path := by
    intro request old made
    cases made <;> cases ha : rule.applies old <;> simp [counted, noted, ha]
  rw [fixDocument_eq]
  split
  · trivial
  · trivial
  · next old id ht hi =>
    have hreq : Requested rule result.path documents ⟨id, result.path, old, rule.apply old⟩ :=
      ⟨rfl, rfl, document, hm, Document.id_eq_ok.1 hi, ht⟩
    split
    · refine ⟨List.mem_cons_self, ?_⟩
      unfold noted
      split <;> exact ⟨rfl, rfl, rfl⟩
    · cases hd : plan.dryRun with
      | true =>
        rw [replaceLink_dryRun hd]
        exact ⟨trivial, hkeep true⟩
      | false =>
        rw [replaceLink_live hd]
        refine ⟨trivial, hreq, fun made => ?_⟩
        cases made with
        | true => exact hkeep true
        | false => exact ⟨List.mem_cons_of_mem _ List.mem_cons_self, hkeep false⟩

/-- **Each update of a batch** is of a document that was read, and conditioned on its value. -/
theorem fixDocuments_does (plan : Plan) (rule : Rule) (result : RuleResult)
    {documents batch : List Document} (hb : ∀ d ∈ batch, d ∈ documents) :
    (fixDocuments plan rule result batch).Does (inBatch rule result.path documents) fun r =>
      r.format = result.format ∧ r.rule = result.rule ∧ r.path = result.path := by
  induction batch generalizing result with
  | nil => exact ⟨rfl, rfl, rfl⟩
  | cons first rest ih =>
    obtain ⟨hf, hr⟩ := List.forall_mem_cons.1 hb
    refine (fixDocument_does hf).bind fun r ⟨h1, h2, h3⟩ => ?_
    have := ih r hr
    rwa [h1, h2, h3] at this

/-- How the counters of a result grow with some updates. -/
structure Counts (before after : RuleResult) (updates : List Update) : Prop where
  rewritten : after.rewritten = before.rewritten + updates.countP Update.made
  changed : after.changed = before.changed + updates.countP Update.effective
  conflicts : after.conflicts = before.conflicts + updates.countP Update.lost

theorem Counts.trans {a b c : RuleResult} {xs ys : List Update} (h : Counts a b xs)
    (h' : Counts b c ys) : Counts a c (xs ++ ys) where
  rewritten := by rw [h'.rewritten, h.rewritten, List.countP_append]; omega
  changed := by rw [h'.changed, h.changed, List.countP_append]; omega
  conflicts := by rw [h'.conflicts, h.conflicts, List.countP_append]; omega

theorem counts_noted (old : String) (result : RuleResult) :
    Counts result (noted rule old result) [] := by
  unfold noted
  split <;> exact ⟨by simp, by simp, by simp⟩

theorem counts_counted (request : UpdateRequest) (before after : List Document) (selected : Bool)
    (result : RuleResult) :
    Counts result (counted request selected result) [⟨request, before, after, .ok selected⟩] := by
  cases selected with
  | true =>
    refine ⟨by simp [counted, Update.made], ?_, by simp [counted, Update.lost]⟩
    simp only [counted, Update.effective, Update.made, List.countP_singleton, Bool.true_and,
      if_true]
    split <;> simp
  | false =>
    refine ⟨?_, ?_, ?_⟩ <;> simp [counted, Update.made, Update.effective, Update.lost]

/-- **The counters of a live rewrite** add up with the outcome of its update. -/
theorem fixDocument_counts (hd : plan.dryRun = false) (schedule : Schedule) (rule : Rule)
    (result : RuleResult) (document : Document) (site : Site) :
    ∃ updates, moments schedule (fixDocument plan rule result document) site =
        updates.map .updated ∧
      ∀ r, (perform schedule (fixDocument plan rule result document) site).result = .ok r →
        Counts result r updates := by
  rw [fixDocument_eq]
  split
  · exact ⟨[], rfl, by simp [perform]⟩
  · exact ⟨[], rfl, by simp [perform]⟩
  · next old id _ _ =>
    split
    · refine ⟨[], rfl, ?_⟩
      rintro r ⟨⟩
      exact counts_noted old result
    · rw [replaceLink_live hd]
      simp only [Job.bind, moments, perform, Ending.after]
      rcases hu : site.update schedule ⟨id, result.path, old, rule.apply old⟩ with ⟨outcome, after⟩
      cases outcome with
      | error failure =>
        exact ⟨[⟨_, _, _, .error failure⟩], rfl, by simp⟩
      | ok selected =>
        refine ⟨[⟨⟨id, result.path, old, rule.apply old⟩, site.meets schedule .update,
          after.documents, .ok selected⟩], ?_, ?_⟩
        · cases selected <;> rfl
        · intro r hr
          have hr' : counted ⟨id, result.path, old, rule.apply old⟩ selected
              (noted rule old result) = r := by
            cases selected <;> exact Except.ok.inj hr
          rw [← hr']
          exact (counts_noted old result).trans (counts_counted _ _ _ selected _)

/-- **The counters of a live batch** add up with the outcomes of its updates. -/
theorem fixDocuments_counts (hd : plan.dryRun = false) (schedule : Schedule) (rule : Rule)
    (batch : List Document) (result : RuleResult) (site : Site) :
    ∃ updates, moments schedule (fixDocuments plan rule result batch) site =
        updates.map .updated ∧
      ∀ r, (perform schedule (fixDocuments plan rule result batch) site).result = .ok r →
        Counts result r updates := by
  induction batch generalizing result site with
  | nil =>
    refine ⟨[], rfl, ?_⟩
    rintro r ⟨⟩
    exact ⟨by simp, by simp, by simp⟩
  | cons first rest ih =>
    obtain ⟨xs, hx, hcx⟩ := fixDocument_counts hd schedule rule result first site
    simp only [fixDocuments, bind_eq]
    rw [moments_bind, perform_bind, hx, Ending.andThen]
    cases hr : (perform schedule (fixDocument plan rule result first) site).result with
    | error failure => exact ⟨xs, by simp, by simp⟩
    | ok middle =>
      obtain ⟨ys, hy, hcy⟩ := ih middle
        (perform schedule (fixDocument plan rule result first) site).site
      refine ⟨xs ++ ys, by simp [hy], fun r hr' => ?_⟩
      exact (hcx middle hr).trans (hcy r hr')

end Fix

end Relink
