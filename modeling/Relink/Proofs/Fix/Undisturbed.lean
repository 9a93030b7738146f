import Relink.Proofs.Fix.Counters
import Relink.Proofs.Fix.ReadOnly
import Relink.Proofs.Fix.Sweep

/-!
# Stages without other writers

Without other writers and failures, and where no list is met, a stage returns, be it dry or live. No
document is lost, so what becomes of each document is determined by what is read of it, and so is
all that the stage leaves behind.

* `fixRule_returns`: a stage returns, and leaves what it leaves.
* `resultOf_outcomeOf`: what a stage counts by the rewrites that would be asked for.
* `outcomes_eq`: outcomes without a loss are determined by what was read.
* `fixRule_undisturbed`: a stage is told by the rewrites of its batch.
-/

namespace Relink.Fix

open Job

variable {plan : Plan} {rule : Rule} {format path : String} {documents : List Document}
  {outcomes : List Outcome}

/-- **A dry batch returns** if an id and a text can be read of each of its documents. -/
theorem fixDocuments_returns (hd : plan.dryRun = true) (rule : Rule) (schedule : Schedule)
    (h : ∀ document ∈ documents, ∃ id s, document.id = .ok id ∧ document.textAt path = .ok s)
    (result : RuleResult) (hp : result.path = path) (site : Site) :
    ∃ r, (perform schedule (fixDocuments plan rule result documents) site).result = .ok r := by
  induction documents generalizing result site with
  | nil => exact ⟨result, rfl⟩
  | cons first rest ih =>
    obtain ⟨⟨id, s, hid, htext⟩, hrest⟩ := List.forall_mem_cons.1 h
    have hone : ∃ r, (perform schedule (fixDocument plan rule result first) site).result =
        .ok r := by
      rw [fixDocument_eq, hp, htext, hid]
      simp only [replaceLink_dryRun hd]
      split <;> exact ⟨_, rfl⟩
    obtain ⟨r, hr⟩ := hone
    obtain ⟨outcome, -, -, rfl, -⟩ := fixDocument_leaves plan rule result first site r hr
    obtain ⟨r', hr'⟩ := ih hrest (tallying rule [outcome] result) hp
      (perform schedule (fixDocument plan rule result first) site).site
    refine ⟨r', ?_⟩
    simp only [fixDocuments, bind_eq, perform_bind, Ending.andThen, hr, hr']

/-- The documents that a stage reads without other writers. -/
def readBy (plan : Plan) (format : String) (rule : Rule) (documents : List Document) :
    List Document :=
  Collection.select (rule.query format) (rule.path format) plan.limit documents

/-- The documents that a stage leaves without other writers. -/
def leftBy (plan : Plan) (format : String) (rule : Rule) (documents : List Document) :
    List Document :=
  if plan.dryRun then documents else rule.relinkFirst format plan.limit.toNat documents

/-- An id and a text can be read of each document of a batch. -/
theorem exists_read (hl : 1 ≤ plan.limit) (hf : '.' ∉ format.toList)
    (hk : Collection.Keyed documents)
    (hn : ∀ document ∈ documents, Value.NoList (rule.way format) (.map document)) :
    ∀ document ∈ readBy plan format rule documents, ∃ id s, document.id = .ok id ∧
      document.textAt (rule.path format) = .ok s := by
  rw [readBy, Rule.select_query hf hl hn]
  refine List.forall_mem_map.2 fun document hd => ?_
  obtain ⟨hm, hsel⟩ := List.mem_filter.1 (List.mem_of_mem_take hd)
  obtain ⟨s, hs, -⟩ := Rule.selects_iff.1 hsel
  obtain ⟨id, hid, -⟩ := hk.key document hm
  exact ⟨id, s, Document.id_eq_ok.2 ((Rule.id?_project hf).trans hid),
    (Rule.textAt_project hf).2 (Rule.text?_eq_some.1 hs)⟩

/-- The result of a stage that has read so many documents. -/
def opened (format : String) (rule : Rule) (count : Nat) : RuleResult where
  format := format
  rule := rule.name
  path := rule.path format
  matched := count

/-- Without other writers a stage is its batch. -/
theorem perform_fixRule (plan : Plan) (format : String) (rule : Rule) (site : Site) :
    perform .quiet (fixRule plan format rule) site =
      (perform .quiet
        (fixDocuments plan rule (opened format rule (readBy plan format rule site.documents).length)
          (readBy plan format rule site.documents))
        ⟨site.documents, site.finds + 1, site.updates⟩).after
        (.call (.find (batch plan rule format) (batch plan rule format).cap)) := by
  have hfind : site.find .quiet (batch plan rule format) =
      (.ok (readBy plan format rule site.documents),
        ⟨site.documents, site.finds + 1, site.updates⟩,
        .find (batch plan rule format) (batch plan rule format).cap) :=
    Site.find_undisturbed (batch plan rule format) site
  simp only [fixRule_eq, perform, hfind, opened]

theorem fixRule_reads (hd : plan.dryRun = true) (format : String) (rule : Rule) :
    (fixRule plan format rule).Does Event.Reads fun _ => True := by
  have hbatch : ∀ documents result,
      (fixDocuments plan rule result documents).Does Event.Reads fun _ => True := by
    intro documents
    induction documents with
    | nil => exact fun _ => trivial
    | cons first rest ih =>
      exact fun result => (fixDocument_reads hd rule result first).bind fun r _ => ih r
  exact ⟨fun _ => trivial, fun documents => hbatch documents _⟩

/-- **A stage without other writers returns**, and leaves what it leaves. -/
theorem fixRule_returns (hl : 1 ≤ plan.limit) (hf : '.' ∉ format.toList) (site : Site)
    (hk : Collection.Keyed site.documents)
    (hn : ∀ document ∈ site.documents, Value.NoList (rule.way format) (.map document)) :
    (∃ result, (perform .quiet (fixRule plan format rule) site).result = .ok result ∧
      (plan.dryRun = false → result.conflicts = 0)) ∧
      (perform .quiet (fixRule plan format rule) site).site.documents =
        leftBy plan format rule site.documents := by
  cases hd : plan.dryRun with
  | false =>
    obtain ⟨hr, hleft⟩ := fixRule_yields hd hl hf hk hn site rfl
    exact ⟨⟨_, hr, fun _ => rfl⟩, by simp [hleft, leftBy, hd]⟩
  | true =>
    obtain ⟨result, hr⟩ := fixDocuments_returns hd rule .quiet (exists_read hl hf hk hn)
      (opened format rule (readBy plan format rule site.documents).length) rfl
      ⟨site.documents, site.finds + 1, site.updates⟩
    refine ⟨⟨result, ?_, by simp⟩, ?_⟩
    · rw [perform_fixRule]
      exact hr
    · have hquiet : ∀ first count, Schedule.quiet.editsAtFinds first count = [] := fun _ _ =>
        List.flatMap_eq_nil_iff.2 fun _ _ => rfl
      rw [documents_of_reads (fixRule_reads hd format rule), hquiet, leftBy, if_pos hd]
      rfl

/-- The outcome of a document without other writers, by the rewrite that would be asked for, and
whether values without the text to replace are skipped. -/
def outcomeOf (skip : Bool) (rule : Rule) (request : UpdateRequest) : Outcome :=
  if skip && !rule.applies request.old then .skipped request.id request.old
  else .asked request true

theorem filterMap_outcomeOf_true (rule : Rule) (requests : List UpdateRequest) :
    (requests.map (outcomeOf true rule)).filterMap Outcome.request? =
      requests.filter fun request => rule.applies request.old := by
  induction requests with
  | nil => rfl
  | cons request rest ih =>
    rw [List.map_cons, List.filterMap_cons, ih]
    cases ha : rule.applies request.old <;> simp [outcomeOf, ha, Outcome.request?]

theorem filterMap_outcomeOf_false (rule : Rule) (requests : List UpdateRequest) :
    (requests.map (outcomeOf false rule)).filterMap Outcome.request? = requests := by
  induction requests with
  | nil => rfl
  | cons request rest ih =>
    rw [List.map_cons, List.filterMap_cons, ih]
    simp [outcomeOf, Outcome.request?]

theorem old_outcomeOf (skip : Bool) (rule : Rule) (request : UpdateRequest) :
    (outcomeOf skip rule request).old = request.old := by
  unfold outcomeOf
  split <;> rfl

theorem lost_outcomeOf (skip : Bool) (rule : Rule) (request : UpdateRequest) :
    (outcomeOf skip rule request).lost = false := by
  unfold outcomeOf
  split <;> rfl

/-- Skipping hides no change. -/
theorem changing_outcomeOf (skip : Bool) {rule : Rule} {request : UpdateRequest}
    (h : request.new = rule.apply request.old) :
    (outcomeOf skip rule request).changing = (request.new != request.old) := by
  unfold outcomeOf
  split
  · next hskip =>
    have hsame := Rule.apply_of_not_applies (by simpa using (Bool.and_eq_true_iff.1 hskip).2)
    simp [Outcome.changing, h, hsame]
  · simp [Outcome.changing]

theorem made_outcomeOf (skip : Bool) (rule : Rule) (request : UpdateRequest) :
    (outcomeOf skip rule request).made = !(skip && !rule.applies request.old) := by
  cases skip <;> cases ha : rule.applies request.old <;> simp [outcomeOf, ha, Outcome.made]

/-- What a run counts of a stage, whether it skips values without the text to replace or not. -/
theorem resultOf_outcomeOf (skip : Bool) (format : String) (rule : Rule)
    {requests : List UpdateRequest}
    (h : ∀ request ∈ requests, request.new = rule.apply request.old) :
    resultOf format rule (requests.map (outcomeOf skip rule)) = {
      format := format
      rule := rule.name
      path := rule.path format
      matched := requests.length
      rewritten := requests.length -
        if skip then (requests.countP fun request => !rule.applies request.old : Int) else 0
      changed := requests.countP fun request => request.new != request.old
      unchanged := requests.countP fun request => !rule.applies request.old } := by
  have hmade : (requests.length : Int) = (requests.countP fun request =>
      (outcomeOf skip rule request).made) + if skip then
        (requests.countP fun request => !rule.applies request.old : Int) else 0 := by
    have hsplit := List.length_eq_countP_add_countP (l := requests)
      fun request => (outcomeOf skip rule request).made
    simp only [made_outcomeOf] at hsplit ⊢
    cases skip with
    | false => simp
    | true =>
      simp only [Bool.true_and, Bool.not_not, Bool.not_eq_true, Bool.decide_eq_false,
        if_true] at hsplit ⊢
      omega
  have hchanging : (requests.countP fun request => (outcomeOf skip rule request).changing) =
      requests.countP fun request => request.new != request.old :=
    List.countP_congr fun request hm => by rw [changing_outcomeOf skip (h request hm)]
  simp only [resultOf, List.length_map, List.countP_map, Function.comp_def, old_outcomeOf,
    lost_outcomeOf, hchanging, RuleResult.mk.injEq, true_and]
  refine ⟨by omega, by simp⟩

/-- The rewrite that would be asked for a document, if an id and a text can be read of it. -/
def requestOf (rule : Rule) (path : String) (document : Document) : Option UpdateRequest :=
  match document.id, document.textAt path with
  | .ok id, .ok s => some ⟨id, path, s, rule.apply s⟩
  | _, _ => none

/-- **Outcomes without a loss** are determined by what was read. -/
theorem outcomes_eq (hdue : ∀ outcome ∈ outcomes, outcome.Due plan rule path)
    (hkept : ∀ outcome ∈ outcomes, outcome.lost = false)
    (h : List.Forall₂ (fun document outcome => outcome.Of path document) documents outcomes) :
    outcomes = (documents.filterMap (requestOf rule path)).map
      (outcomeOf plan.skipUnchanged rule) := by
  induction h with
  | nil => rfl
  | @cons document outcome _ _ hof _ ih =>
    obtain ⟨hdue1, hdue2⟩ := List.forall_mem_cons.1 hdue
    obtain ⟨hkept1, hkept2⟩ := List.forall_mem_cons.1 hkept
    have hrequest : requestOf rule path document =
        some ⟨outcome.id, path, outcome.old, rule.apply outcome.old⟩ := by
      rw [requestOf, hof.1, hof.2]
    have hone : outcomeOf plan.skipUnchanged rule
        ⟨outcome.id, path, outcome.old, rule.apply outcome.old⟩ = outcome := by
      cases outcome with
      | skipped id old =>
        obtain ⟨hs, ha⟩ := hdue1
        simp [outcomeOf, Outcome.id, Outcome.old, hs, ha]
      | asked request made =>
        obtain ⟨hpath, hnew, hs, -⟩ := hdue1
        obtain ⟨id, path', old, new⟩ := request
        obtain rfl : path' = path := hpath
        obtain rfl : new = rule.apply old := hnew
        obtain rfl : made = true := by simpa [Outcome.lost] using hkept1
        simpa [outcomeOf, Outcome.id, Outcome.old] using hs
    rw [List.filterMap_cons_some hrequest, List.map_cons, hone, ← ih hdue2 hkept2]

/-- The rewrites of the documents that a stage reads without other writers. -/
def requestsOf (plan : Plan) (format : String) (rule : Rule) (documents : List Document) :
    List UpdateRequest :=
  (readBy plan format rule documents).filterMap (requestOf rule (rule.path format))

theorem mem_requestsOf {request : UpdateRequest}
    (h : request ∈ requestsOf plan format rule documents) :
    request.path = rule.path format ∧ request.new = rule.apply request.old := by
  obtain ⟨document, -, he⟩ := List.mem_filterMap.1 h
  unfold requestOf at he
  split at he
  · cases he
    exact ⟨rfl, rfl⟩
  · cases he

/-- **A stage without other writers** returns. It is told by the rewrites of its batch: each is
made, or its document is skipped. -/
theorem fixRule_undisturbed (hl : 1 ≤ plan.limit) (hf : '.' ∉ format.toList) (site : Site)
    (hk : Collection.Keyed site.documents)
    (hn : ∀ document ∈ site.documents, Value.NoList (rule.way format) (.map document)) :
    let ending := perform .quiet (fixRule plan format rule) site
    (∃ result, ending.result = .ok result ∧
      Told plan format rule ((requestsOf plan format rule site.documents).map
        (outcomeOf plan.skipUnchanged rule)) result ending.trace) ∧
      ending.site.documents = leftBy plan format rule site.documents := by
  obtain ⟨⟨result, hr, hnone⟩, hleft⟩ := fixRule_returns hl hf site hk hn
  have hperf := perform_fixRule plan format rule site
  have hr' := hr
  rw [hperf] at hr'
  obtain ⟨outcomes, hall, hdue, hresult, htrace⟩ := fixDocuments_leaves plan rule
    (readBy plan format rule site.documents)
    (opened format rule (readBy plan format rule site.documents).length) _ result hr'
  have htold : Told plan format rule outcomes result
      (perform .quiet (fixRule plan format rule) site).trace := by
    refine ⟨hdue, ?_, (batch plan rule format).cap, ?_⟩
    · simp [hresult, tallying, resultOf, opened, hall.length_eq]
    · rw [hperf]
      exact congrArg (List.cons _) htrace
  have hzero : outcomes.countP Outcome.lost = 0 := by
    cases hd : plan.dryRun with
    | true => exact Outcome.countP_lost_of_dry hd hdue
    | false =>
      have hconflicts := hnone hd
      rw [htold.result_eq] at hconflicts
      exact Int.natCast_eq_zero.1 hconflicts
  have houtcomes := outcomes_eq hdue (by simpa using List.countP_eq_zero.1 hzero) hall
  rw [houtcomes] at htold
  exact ⟨⟨result, hr, htold⟩, hleft⟩

end Relink.Fix
