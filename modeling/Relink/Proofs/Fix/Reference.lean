import Relink.Proofs.Fix.Sweep
import Relink.Proofs.Store.Linked

/-!
# A pass against its reference

The reference of a live pass speaks of the collection alone: no query, no batch, no conditional
update. At every stage the documents among the first few that the rule is about have the text in
their link replaced in place, and the numbers of the stage are counted over the texts so taken.

* `Reference.Stage`: one stage of the reference.
* `Rule.relinkFirst_setAt`: what a stage does to a document that it takes.
* `Reference`: the stages one after another.
* `reference_sweep`: a sweep goes through its reference.
* `pass_follows_reference`: a live pass returns, and goes through its reference.
-/

namespace Relink

namespace Rule

variable {rule : Rule} {format : String} {n : Nat} {first document : Document}
  {earlier : List Document}

/-- Whether a rule takes a document as one of the first few it is about, behind some others. -/
def takes (rule : Rule) (format : String) (n : Nat) (earlier : List Document)
    (document : Document) : Bool :=
  rule.selects format document && decide (earlier.countP (rule.selects format) < n)

theorem takes_cons_of_selects (h : rule.selects format first = true) :
    rule.takes format (n + 1) (first :: earlier) document =
      rule.takes format n earlier document := by
  simp [takes, h]

theorem takes_cons_of_not_selects (h : rule.selects format first = false) :
    rule.takes format n (first :: earlier) document = rule.takes format n earlier document := by
  simp [takes, h]

/-- **What is rewritten, place by place**: a document is rewritten if it is one of the first few. -/
theorem relinkFirst_eq_mapIdx (rule : Rule) (format : String) (n : Nat)
    (documents : List Document) :
    rule.relinkFirst format n documents = documents.mapIdx fun place document =>
      if rule.takes format n (documents.take place) document then rule.relink format document
      else document := by
  induction documents generalizing n with
  | nil => cases n <;> rfl
  | cons first rest ih =>
    cases n with
    | zero =>
      have hnone : ∀ place document,
          rule.takes format 0 ((first :: rest).take place) document = false := by simp [takes]
      simp only [relinkFirst, hnone, Bool.false_eq_true, if_false]
      refine List.ext_getElem? fun place => ?_
      rw [List.getElem?_mapIdx, Option.map_id']
    | succ n =>
      rw [relinkFirst, List.mapIdx_cons]
      simp only [List.take_succ_cons, List.take_zero]
      split
      · next hsel =>
        -- one of the first few is used up
        have hfirst : rule.takes format (n + 1) [] first = true := by simp [takes, hsel]
        simp only [takes_cons_of_selects hsel, hfirst, if_true]
        rw [ih n]
      · next hsel =>
        have hsel : rule.selects format first = false := by simpa using hsel
        have hfirst : rule.takes format (n + 1) [] first = false := by simp [takes, hsel]
        simp only [takes_cons_of_not_selects hsel, hfirst, Bool.false_eq_true, if_false]
        rw [ih (n + 1)]

/-- **What stands at the place of one of the first few** afterwards: the document with its text
replaced, and nothing else of it touched. -/
theorem relinkFirst_setAt {documents : List Document} {place : Nat} (hf : '.' ∉ format.toList)
    (hd : documents[place]? = some document)
    (ht : rule.takes format n (documents.take place) document = true) :
    ∃ s now, Value.reach? (rule.way format) (.map document) = some (.text s) ∧
      (rule.relinkFirst format n documents)[place]? = some now ∧
      Value.SetAt (.text (rule.apply s)) (rule.way format) (.map document) (.map now) := by
  have hsel : rule.selects format document = true := (Bool.and_eq_true_iff.1 ht).1
  obtain ⟨s, hs, -⟩ := selects_iff.1 hsel
  refine ⟨s, rule.relink format document, text?_eq_some.1 hs, ?_, relink_setAt hf hs⟩
  rw [relinkFirst_eq_mapIdx, List.getElem?_mapIdx, hd, Option.map_some, if_pos ht]

end Rule

namespace Fix

open Job

variable {plan : Plan} {rule : Rule} {format : String} {before after : List Document}

/-- **One stage of the reference**, from one collection to the next. Of each document among the first
few, the text in its link is replaced and nothing else is touched; the others stay. -/
structure Reference.Stage (plan : Plan) (format : String) (rule : Rule)
    (before after : List Document) (result : RuleResult) : Prop where
  format_eq : result.format = format
  rule_eq : result.rule = rule.name
  path_eq : result.path = rule.path format
  after_eq : after = before.mapIdx fun place document =>
    if rule.takes format plan.limit.toNat (before.take place) document then
      rule.relink format document
    else document
  replaced : ∀ place document, before[place]? = some document →
    rule.takes format plan.limit.toNat (before.take place) document = true →
      ∃ s now, Value.reach? (rule.way format) (.map document) = some (.text s) ∧
        after[place]? = some now ∧
        Value.SetAt (.text (rule.apply s)) (rule.way format) (.map document) (.map now)
  matched_eq : result.matched = (rule.taken format plan.limit.toNat before).length
  changed_eq : result.changed =
    (rule.taken format plan.limit.toNat before).countP fun s => rule.apply s ≠ s
  unchanged_eq : result.unchanged =
    (rule.taken format plan.limit.toNat before).countP fun s => rule.applies s = false
  conflicts_eq : result.conflicts = 0
  rewritten_eq : result.rewritten =
    if plan.skipUnchanged then result.matched - result.unchanged else result.matched

/-- **The reference**: the stages in order, each on what the one before it has left. -/
inductive Reference (plan : Plan) :
    List (String × Rule) → List Document → List RuleResult → List Document → Prop
  | nil (documents : List Document) : Reference plan [] documents [] documents
  | cons {format : String} {rule : Rule} {rest : List (String × Rule)}
      {before middle after : List Document} {result : RuleResult} {results : List RuleResult}
      (stage : Reference.Stage plan format rule before middle result)
      (more : Reference plan rest middle results after) :
      Reference plan ((format, rule) :: rest) before (result :: results) after

/-- What is left of the texts of a batch when those without the text to replace are set aside. -/
theorem countP_applies (rule : Rule) (texts : List String) :
    texts.countP rule.applies + texts.countP (fun s => rule.applies s = false) =
      texts.length := by
  rw [List.length_eq_countP_add_countP rule.applies]
  congr 1
  exact List.countP_congr fun s _ => by simp

/-- **A stage of a sweep** is one of the reference. -/
theorem stage_resultOn (plan : Plan) (hf : '.' ∉ format.toList) (rule : Rule)
    (before : List Document) :
    Reference.Stage plan format rule before (rule.relinkFirst format plan.limit.toNat before)
      (resultOn plan rule format (rule.taken format plan.limit.toNat before)) where
  format_eq := rfl
  rule_eq := rfl
  path_eq := rfl
  after_eq := Rule.relinkFirst_eq_mapIdx rule format plan.limit.toNat before
  replaced _ _ hd ht := Rule.relinkFirst_setAt hf hd ht
  matched_eq := rfl
  changed_eq := by
    simp only [resultOn, Int.natCast_inj]
    exact List.countP_congr fun s _ => by simp
  unchanged_eq := by
    simp only [resultOn, Int.natCast_inj]
    exact List.countP_congr fun s _ => by simp
  conflicts_eq := rfl
  rewritten_eq := by
    have hcount := countP_applies rule (rule.taken format plan.limit.toNat before)
    have hnot : (rule.taken format plan.limit.toNat before).countP (fun s => !rule.applies s) =
        (rule.taken format plan.limit.toNat before).countP (fun s => rule.applies s = false) :=
      List.countP_congr fun s _ => by simp
    simp only [resultOn, hnot]
    split <;> omega

/-- **A sweep goes through its reference.** -/
theorem reference_sweep (plan : Plan) {stages : List (String × Rule)}
    (hf : ∀ stage ∈ stages, '.' ∉ stage.1.toList) (before : List Document) :
    Reference plan stages before (sweep plan stages before).1 (sweep plan stages before).2 := by
  induction stages generalizing before with
  | nil => exact .nil before
  | cons stage rest ih =>
    obtain ⟨hfirst, hrest⟩ := List.forall_mem_cons.1 hf
    exact .cons (stage_resultOn plan hfirst stage.2 before)
      (ih hrest (stage.2.relinkFirst stage.1 plan.limit.toNat before))

/-- **A live pass goes through its reference.** Without other writers and failures, over a tidy
collection, it returns a report with one result for each format and rule in order. Each result
counts what the reference takes at that stage, and the collection is left as the reference leaves
it. -/
theorem pass_follows_reference (hp : plan.Accepted) (hlive : plan.dryRun = false)
    (rules : List Rule) (site : Site) (h : Tidy (stages plan.formats rules) site.documents) :
    ∃ report, (perform .quiet (fixAll plan rules) site).result = .ok report ∧
      report.dryRun = false ∧ report.passes = 1 ∧
      Reference plan (stages plan.formats rules) site.documents report.results
        (perform .quiet (fixAll plan rules) site).site.documents := by
  obtain ⟨hresult, hleft⟩ := fixAll_yields hp hlive rules h site rfl
  refine ⟨_, hresult, rfl, rfl, ?_⟩
  rw [hleft]
  exact reference_sweep plan (stages_dotless hp rules) site.documents

/-- A batch of one leaves the second of two stale links for another pass. -/
theorem pass_follows_reference_cut :
    ∃ report, (perform .quiet (fixAll (.trial "csv" 1 1) Defaults.rules) twoStale).result =
        .ok report ∧ report.dryRun = false ∧ report.passes = 1 ∧
      Reference (.trial "csv" 1 1) (stages ["csv"] Defaults.rules) twoStale.documents
        report.results (perform .quiet (fixAll (.trial "csv" 1 1) Defaults.rules)
          twoStale).site.documents :=
  pass_follows_reference (Plan.accepted_trial rfl (by decide) (by decide)) rfl Defaults.rules
    twoStale ⟨Collection.keyed_linked _ _ _, fun stage _ =>
      Collection.noList_linked stage.2 stage.1⟩

end Fix

end Relink
