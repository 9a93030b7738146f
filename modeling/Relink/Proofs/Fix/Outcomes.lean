import Relink.Proofs.Fix.Rewrite
import Relink.Proofs.Store.Keyed

/-!
# What becomes of the documents of a stage

A document that a stage reads is skipped, or a rewrite is asked for, which selects the document or
not. The outcomes of its documents tell all of a stage that returns: its result counts them, and
what it leaves behind is the find of its batch and what each outcome leaves. This holds whatever
other writers do.

* `Job.Leaves`: what a job leaves behind when it returns, with a rule for each step.
* `fixRule_told`: a stage that returns is told by its outcomes.
* `Account`: what a pass leaves behind, stage by stage.
* `fixAll_account`: what each stage leaves, a pass leaves in the order of formats and rules.
-/

namespace Relink

namespace Event

theorem records_append (first rest : List Event) :
    records (first ++ rest) = records first ++ records rest := List.filterMap_append ..

end Event

namespace Job

variable {α β : Type} {schedule : Schedule} {P : α → List Event → Prop}
  {Q : β → List Event → Prop}

/-- **What a job leaves behind** wherever it is performed: if it has a result, `P` holds of the
result and of what was left. -/
def Leaves (schedule : Schedule) (P : α → List Event → Prop) (job : Job α) : Prop :=
  ∀ site a, (perform schedule job site).result = .ok a → P a (perform schedule job site).trace

theorem Leaves.done {a : α} (h : P a []) : (Job.done a).Leaves schedule P := by
  rintro site _ ⟨⟩
  exact h

theorem Leaves.fail (failure : Failure) : (Job.fail failure).Leaves schedule P := by
  rintro site _ ⟨⟩

theorem Leaves.echo {line : String} {next : Job α}
    (h : next.Leaves schedule fun a rest => P a (.line line :: rest)) :
    (Job.echo line next).Leaves schedule P := h

theorem Leaves.log {record : Record} {next : Job α}
    (h : next.Leaves schedule fun a rest => P a (.record record :: rest)) :
    (Job.log record next).Leaves schedule P := h

/-- A find goes on with documents that it gives at some site. -/
theorem Leaves.find {request : FindRequest} {next : List Document → Job α}
    (h : ∀ (site : Site) documents, (site.find schedule request).1 = .ok documents → ∀ cap,
      (next documents).Leaves schedule fun a rest => P a (.call (.find request cap) :: rest)) :
    (Job.find request next).Leaves schedule P := by
  intro site a
  have hfound := h site
  have hcall := Site.call_find schedule site request
  rcases hf : site.find schedule request with ⟨outcome, after, call⟩
  rw [hf] at hfound hcall
  obtain rfl : call = .find request (site.cap schedule request) := hcall
  cases outcome with
  | ok documents =>
    simp only [perform, hf]
    exact hfound documents rfl _ after a
  | error failure => simp [perform, hf]

theorem Leaves.update {request : UpdateRequest} {next : Bool → Job α}
    (h : ∀ selected, (next selected).Leaves schedule fun a rest =>
      P a (.call (.update request) :: rest)) :
    (Job.update request next).Leaves schedule P := by
  intro site a
  rcases hu : site.update schedule request with ⟨outcome, after⟩
  cases outcome with
  | ok selected =>
    simp only [perform, hu]
    exact h selected after a
  | error failure => simp [perform, hu]

/-- **One job after another** leaves what the first leaves, and then what the second does. -/
theorem Leaves.bind {t : Job α} {f : α → Job β} (ht : t.Leaves schedule P)
    (hf : ∀ a first, P a first → (f a).Leaves schedule fun b rest => Q b (first ++ rest)) :
    (t.bind f).Leaves schedule Q := by
  intro site b
  have hfirst := ht site
  rw [perform_bind, Ending.andThen]
  cases hr : (perform schedule t site).result with
  | error failure => simp
  | ok a => exact hf a _ (hfirst a hr) _ b

theorem Leaves.mono {t : Job α} {P' : α → List Event → Prop} (h : t.Leaves schedule P)
    (hP : ∀ a trace, P a trace → P' a trace) : t.Leaves schedule P' :=
  fun site a hr => hP a _ (h site a hr)

end Job

namespace Fix

open Job

variable {plan : Plan} {rule : Rule} {rules : List Rule} {format path : String}
  {schedule : Schedule} {result : RuleResult}

/-- **What became of a document** that a stage read. -/
inductive Outcome where
  /-- The value lacked the text to replace, and was skipped. -/
  | skipped (id : Value) (old : String)
  /-- A rewrite was asked for, and selected the document or not. -/
  | asked (request : UpdateRequest) (made : Bool)

/-- The record of a document that another writer changed before its update. -/
def lostRecord (request : UpdateRequest) : Record where
  level := .warning
  text := "Document changed before update, not rewritten"
  fields := [("document_id", .text request.id.printed), ("field_path", .text request.path),
    ("expected", .text request.old)]

namespace Outcome

/-- The id that was read. -/
def id : Outcome → Value
  | skipped id _ => id
  | asked request _ => request.id

/-- The value that was read. -/
def old : Outcome → String
  | skipped _ old => old
  | asked request _ => request.old

/-- The rewrite that was asked for. -/
def request? : Outcome → Option UpdateRequest
  | skipped _ _ => none
  | asked request _ => some request

/-- Whether a document was rewritten. -/
def made : Outcome → Bool
  | skipped _ _ => false
  | asked _ made => made

/-- Whether a document was lost to another writer. -/
def lost : Outcome → Bool
  | skipped _ _ => false
  | asked _ made => !made

/-- Whether a document was rewritten to another value. -/
def changing : Outcome → Bool
  | skipped _ _ => false
  | asked request made => made && request.new != request.old

/-- An outcome is that of a document: its id and its value at a path were read. -/
def Of (outcome : Outcome) (path : String) (document : Document) : Prop :=
  document.id = .ok outcome.id ∧ document.textAt path = .ok outcome.old

/-- **What may become of a document** under a plan: only a value without the text to replace is
skipped, and only if the plan says so; and only a live rewrite can be lost. -/
def Due (plan : Plan) (rule : Rule) (path : String) : Outcome → Prop
  | skipped _ old => plan.skipUnchanged = true ∧ rule.applies old = false
  | asked request made => request.path = path ∧ request.new = rule.apply request.old ∧
      (plan.skipUnchanged = true → rule.applies request.old = true) ∧
      (plan.dryRun = true → made = true)

/-- What an outcome leaves behind. -/
def events (plan : Plan) (rule : Rule) (path : String) : Outcome → List Event
  | skipped id old => [.record ⟨.info, "Skipping value without replaceable substring",
      [("document_id", .text id.printed), ("field_path", .text path), ("value", .text old),
        ("rule", .text rule.name)]⟩]
  | asked request made =>
    .line (Audit.line request) :: if plan.dryRun then [] else
      .call (.update request) :: if made then [] else [.record (lostRecord request)]

end Outcome

/-- The result with some outcomes counted. -/
def tallying (rule : Rule) (outcomes : List Outcome) (result : RuleResult) : RuleResult :=
  { result with
    rewritten := result.rewritten + outcomes.countP Outcome.made
    changed := result.changed + outcomes.countP Outcome.changing
    unchanged := result.unchanged + outcomes.countP fun o => !rule.applies o.old
    conflicts := result.conflicts + outcomes.countP Outcome.lost }

theorem tallying_cons (rule : Rule) (outcome : Outcome) (rest : List Outcome)
    (result : RuleResult) :
    tallying rule rest (tallying rule [outcome] result) =
      tallying rule (outcome :: rest) result := by
  simp only [tallying, List.countP_cons, List.countP_nil, RuleResult.mk.injEq, true_and]
  omega

/-- **One document**: its outcome is counted, and leaves what it leaves. -/
theorem fixDocument_leaves (plan : Plan) (rule : Rule) (result : RuleResult)
    (document : Document) :
    (fixDocument plan rule result document).Leaves schedule fun r trace =>
      ∃ outcome : Outcome, outcome.Of result.path document ∧ outcome.Due plan rule result.path ∧
        r = tallying rule [outcome] result ∧ trace = outcome.events plan rule result.path := by
  have hcount : ∀ (id : Value) (old : String) (made : Bool),
      counted ⟨id, result.path, old, rule.apply old⟩ made (noted rule old result) =
        tallying rule [.asked ⟨id, result.path, old, rule.apply old⟩ made] result := by
    intro id old made
    cases made <;> cases ha : rule.applies old <;> cases hc : rule.apply old != old <;>
      simp [counted, noted, tallying, Outcome.made, Outcome.changing, Outcome.lost, Outcome.old, ha,
        hc]
  rw [fixDocument_eq]
  split
  · exact Leaves.fail _
  · exact Leaves.fail _
  · next old id htext hid =>
    split
    · next hskip =>
      obtain ⟨ha, hs⟩ : rule.applies old = false ∧ plan.skipUnchanged = true := by
        simpa using hskip
      refine Leaves.log (Leaves.done ⟨.skipped id old, ⟨hid, htext⟩, ⟨hs, ha⟩, ?_, rfl⟩)
      simp [noted, tallying, Outcome.made, Outcome.changing, Outcome.lost, Outcome.old, ha]
    · next hskip =>
      have hs : plan.skipUnchanged = true → rule.applies old = true := by
        intro hs
        simpa [hs] using hskip
      simp only [hcount]
      cases hd : plan.dryRun with
      | true =>
        rw [replaceLink_dryRun hd]
        refine Leaves.echo (Leaves.done ⟨.asked ⟨id, result.path, old, rule.apply old⟩ true,
          ⟨hid, htext⟩, ⟨rfl, rfl, hs, fun _ => rfl⟩, rfl, ?_⟩)
        simp [Outcome.events, hd]
      | false =>
        rw [replaceLink_live hd]
        refine Leaves.echo (Leaves.update fun selected => ?_)
        have hof : (Outcome.asked ⟨id, result.path, old, rule.apply old⟩ selected).Of result.path
            document := ⟨hid, htext⟩
        have hdue : (Outcome.asked ⟨id, result.path, old, rule.apply old⟩ selected).Due plan rule
            result.path := ⟨rfl, rfl, hs, fun h => absurd h (by simp [hd])⟩
        cases selected with
        | true => exact Leaves.done ⟨_, hof, hdue, rfl, by simp [Outcome.events, hd]⟩
        | false =>
          exact Leaves.log (Leaves.done ⟨_, hof, hdue, rfl,
            by simp [Outcome.events, hd, lostRecord]⟩)

/-- **A batch**: one outcome for each document. -/
theorem fixDocuments_leaves (plan : Plan) (rule : Rule) (batch : List Document)
    (result : RuleResult) :
    (fixDocuments plan rule result batch).Leaves schedule fun r trace =>
      ∃ outcomes : List Outcome,
        List.Forall₂ (fun document outcome => outcome.Of result.path document) batch outcomes ∧
        (∀ outcome ∈ outcomes, outcome.Due plan rule result.path) ∧
        r = tallying rule outcomes result ∧
        trace = outcomes.flatMap (Outcome.events plan rule result.path) := by
  induction batch generalizing result with
  | nil => exact Leaves.done ⟨[], .nil, by simp, by simp [tallying], rfl⟩
  | cons first rest ih =>
    refine (fixDocument_leaves plan rule result first).bind ?_
    rintro _ _ ⟨outcome, hof, hdue, rfl, rfl⟩
    refine (ih (tallying rule [outcome] result)).mono ?_
    rintro _ _ ⟨outcomes, hall, hrest, rfl, rfl⟩
    exact ⟨outcome :: outcomes, .cons hof hall, List.forall_mem_cons.2 ⟨hdue, hrest⟩,
      tallying_cons rule outcome outcomes result, rfl⟩

/-- The result of a stage with some outcomes. -/
def resultOf (format : String) (rule : Rule) (outcomes : List Outcome) : RuleResult where
  format := format
  rule := rule.name
  path := rule.path format
  matched := outcomes.length
  rewritten := outcomes.countP Outcome.made
  changed := outcomes.countP Outcome.changing
  unchanged := outcomes.countP fun o => !rule.applies o.old
  conflicts := outcomes.countP Outcome.lost

/-- **A stage is told by its outcomes**: the result counts them, and after the find of the batch
each leaves what it leaves. -/
structure Told (plan : Plan) (format : String) (rule : Rule) (outcomes : List Outcome)
    (result : RuleResult) (trace : List Event) : Prop where
  due : ∀ outcome ∈ outcomes, outcome.Due plan rule (rule.path format)
  result_eq : result = resultOf format rule outcomes
  trace_eq : ∃ cap, trace = .call (.find (batch plan rule format) cap) ::
    outcomes.flatMap (Outcome.events plan rule (rule.path format))

/-- **No cursor exceeds a cap**: one that gives other documents than those selected, for a reason of
its own, gives at most so many. -/
def Capped (limit : Int) (schedule : Schedule) : Prop :=
  ∀ n documents, (schedule .find n).course = .supplied documents → (documents.length : Int) ≤ limit

/-- A find of a batch gives at most as many documents as the plan allows. -/
theorem length_find_le (hl : 1 ≤ plan.limit) (hc : Capped plan.limit schedule) {site : Site}
    {documents : List Document}
    (h : (site.find schedule (batch plan rule format)).1 = .ok documents) :
    (documents.length : Int) ≤ plan.limit := by
  have hselect : ∀ met : List Document, ((Collection.select (rule.query format)
      (rule.path format) plan.limit met).length : Int) ≤ plan.limit := by
    intro met
    rw [Collection.select_capped hl, List.length_map, List.length_take]
    omega
  by_cases hs : ∃ supplied, (schedule .find site.finds).course = .supplied supplied
  · obtain ⟨supplied, hs⟩ := hs
    have hsame : supplied = documents := by simpa [Site.find, hs] using h
    rw [← hsame]
    exact hc site.finds supplied hs
  · rw [Site.find_ok (fun supplied hsup => hs ⟨supplied, hsup⟩) h]
    exact hselect _

/-- **A stage that returns** is told by its outcomes, of which there are at most as many as the plan
allows. -/
theorem fixRule_told (plan : Plan) (format : String) (rule : Rule) :
    (fixRule plan format rule).Leaves schedule fun result trace => ∃ outcomes,
      Told plan format rule outcomes result trace ∧
        (1 ≤ plan.limit → Capped plan.limit schedule → (outcomes.length : Int) ≤ plan.limit) := by
  rw [fixRule_eq]
  refine Leaves.find fun site documents hfound cap => ?_
  refine (fixDocuments_leaves plan rule documents _).mono ?_
  rintro _ _ ⟨outcomes, hall, hdue, rfl, rfl⟩
  refine ⟨outcomes, ⟨hdue, ?_, cap, rfl⟩, fun hl hc => ?_⟩
  · simp [tallying, resultOf, hall.length_eq]
  · rw [← hall.length_eq]
    exact length_find_le hl hc hfound

/-- **The account of a pass** over some formats: for each a line, and then stage by stage what the
stage leaves behind, which `S` relates to the result of the stage. -/
inductive Account (S : String → Rule → RuleResult → List Event → Prop) (rules : List Rule) :
    List String → List RuleResult → List Event → Prop
  | nil : Account S rules [] [] []
  | cons {format : String} {formats : List String} {stages : List (RuleResult × List Event)}
      {results : List RuleResult} {rest : List Event}
      (here : List.Forall₂ (fun rule stage => S format rule stage.1 stage.2) rules stages)
      (more : Account S rules formats results rest) :
      Account S rules (format :: formats) (stages.map Prod.fst ++ results)
        (.line ("processing: " ++ format) :: (stages.flatMap Prod.snd ++ rest))

/-- The record that a pass is complete. -/
def completeRecord (report : Report) : Record where
  level := .info
  text := "Link fixing pass complete"
  fields := [("dry_run", .bool report.dryRun), ("count_done", .int report.countDone),
    ("changed", .int report.changed), ("unchanged", .int report.unchanged),
    ("conflicts", .int report.conflicts)]

/-- **What a pass leaves behind**: its account, the line of its count and a record. -/
structure PassTold (S : String → Rule → RuleResult → List Event → Prop) (plan : Plan)
    (rules : List Rule) (report : Report) (trace : List Event) : Prop where
  dryRun_eq : report.dryRun = plan.dryRun
  passes_eq : report.passes = 1
  account : ∃ body, Account S rules plan.formats report.results body ∧
    trace = body ++ [.line ("count_done: " ++ toString report.countDone),
      .record (completeRecord report)]

variable {S : String → Rule → RuleResult → List Event → Prop}

theorem fixRules_account {rules : List Rule}
    (hS : ∀ rule ∈ rules, (fixRule plan format rule).Leaves schedule (S format rule)) :
    (fixRules plan format rules).Leaves schedule fun results trace =>
      ∃ stages : List (RuleResult × List Event), results = stages.map Prod.fst ∧
        trace = stages.flatMap Prod.snd ∧
        List.Forall₂ (fun rule stage => S format rule stage.1 stage.2) rules stages := by
  induction rules with
  | nil => exact Leaves.done ⟨[], rfl, rfl, .nil⟩
  | cons rule rest ih =>
    obtain ⟨hrule, hrest⟩ := List.forall_mem_cons.1 hS
    rw [fixRules_cons]
    refine hrule.bind fun result first hfirst => (ih hrest).bind ?_
    rintro _ _ ⟨stages, rfl, rfl, hstages⟩
    exact Leaves.done ⟨(result, first) :: stages, rfl, by simp, .cons hfirst hstages⟩

theorem fixFormats_account {formats : List String}
    (hS : ∀ format ∈ formats, ∀ rule ∈ rules,
      (fixRule plan format rule).Leaves schedule (S format rule)) :
    (fixFormats plan rules formats).Leaves schedule (Account S rules formats) := by
  induction formats with
  | nil => exact Leaves.done .nil
  | cons format rest ih =>
    obtain ⟨hformat, hrest⟩ := List.forall_mem_cons.1 hS
    rw [fixFormats_cons]
    refine Leaves.echo ((fixRules_account hformat).bind ?_)
    rintro _ _ ⟨stages, rfl, rfl, hstages⟩
    refine (ih hrest).bind fun results more hmore => Leaves.done ?_
    simpa using Account.cons hstages hmore

/-- **What each stage leaves, a pass leaves** in the order of formats and rules. -/
theorem fixAll_account
    (hS : ∀ format ∈ plan.formats, ∀ rule ∈ rules,
      (fixRule plan format rule).Leaves schedule (S format rule)) :
    (fixAll plan rules).Leaves schedule (PassTold S plan rules) := by
  refine (fixFormats_account hS).bind fun results body hbody => ?_
  exact Leaves.echo (Leaves.log (Leaves.done ⟨rfl, rfl, body, hbody, rfl⟩))

/-- What holds of the results of all stages holds of the results of a pass. -/
theorem Account.forall_results {formats : List String} {results : List RuleResult}
    {trace : List Event} {p : RuleResult → Prop} (h : Account S rules formats results trace)
    (hp : ∀ format rule result trace, S format rule result trace → p result) :
    ∀ result ∈ results, p result := by
  induction h with
  | nil => simp
  | @cons format _ stages _ _ here more ih =>
    have hstages : ∀ stage ∈ stages, p stage.1 := by
      clear more ih
      induction here with
      | nil => simp
      | cons h _ ih => exact List.forall_mem_cons.2 ⟨hp _ _ _ _ h, ih⟩
    exact List.forall_mem_append.2 ⟨List.forall_mem_map.2 hstages, ih⟩

end Fix

end Relink
