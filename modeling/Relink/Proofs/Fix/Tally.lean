import Relink.Proofs.Fix.Rewrite

/-!
# What a live run counts

What a run counts depends only on how its updates went, not on what happens to the documents in
between. So it is said of the job alone, before it is performed: however its calls are answered, its
result stands in a certain relation to the updates that were carried out.

* `Job.Accounts`: all updates of a job are of some kind, and its result accounts for them.
* `Tallies`: some results count some updates.
* `run_accounts`: a live run asks only for rewrites by its rules, and its report counts them.
-/

namespace Relink

namespace Job

variable {α β : Type} {P P' : UpdateRequest → Prop}

/-- **A job accounts for its updates**: each satisfies `P`, and however the calls are answered the
result stands in `R` to the updates that were carried out. -/
def Accounts (P : UpdateRequest → Prop) : (R : α → List Update → Prop) → Job α → Prop
  | R, done result => R result []
  | _, fail _ => True
  | R, echo _ next => Accounts P R next
  | R, log _ next => Accounts P R next
  | R, find _ next => ∀ documents, Accounts P R (next documents)
  | R, update request next => P request ∧ ∀ before after selected,
      Accounts P (fun a rest => R a (⟨request, before, after, .ok selected⟩ :: rest))
        (next selected)

theorem Accounts.mono {t : Job α} {R R' : α → List Update → Prop} (ht : t.Accounts P R)
    (hP : ∀ request, P request → P' request) (hR : ∀ a updates, R a updates → R' a updates) :
    t.Accounts P' R' := by
  induction t generalizing R R' with
  | done result => exact hR result [] ht
  | fail => trivial
  | echo line next ih => exact ih ht hR
  | log record next ih => exact ih ht hR
  | find request next ih => exact fun documents => ih documents (ht documents) hR
  | update request next ih =>
    exact ⟨hP request ht.1, fun before after selected =>
      ih selected (ht.2 before after selected) fun a rest => hR a _⟩

/-- **One job after another** accounts for the updates of both. -/
theorem Accounts.bind {t : Job α} {f : α → Job β} {R : α → List Update → Prop}
    {S : β → List Update → Prop} (ht : t.Accounts P R)
    (hf : ∀ a first, R a first → (f a).Accounts P fun b rest => S b (first ++ rest)) :
    (t.bind f).Accounts P S := by
  induction t generalizing R S with
  | done result => exact hf result [] ht
  | fail => trivial
  | echo line next ih => exact ih ht hf
  | log record next ih => exact ih ht hf
  | find request next ih => exact fun documents => ih documents (ht documents) hf
  | update request next ih =>
    -- the update just made stands in front of those of the rest
    exact ⟨ht.1, fun before after selected =>
      ih selected (ht.2 before after selected) fun a first h => hf a _ h⟩

end Job

namespace Fix

open Job

variable {plan : Plan} {rule : Rule} {rules : List Rule} {format : String} {formats : List String}
  {result : RuleResult} {document : Document}

/-- **A rewrite** of a link field, for one of some formats and by one of some rules. -/
def Rewrites (formats : List String) (rules : List Rule) (request : UpdateRequest) : Prop :=
  ∃ format ∈ formats, ∃ rule ∈ rules,
    request.path = rule.path format ∧ request.new = rule.apply request.old

theorem fixDocument_accounts (hlive : plan.dryRun = false) (rule : Rule) (result : RuleResult)
    (document : Document) :
    (fixDocument plan rule result document).Accounts
      (fun request => request.path = result.path ∧ request.new = rule.apply request.old)
      fun r updates => Counts result r updates ∧ r.path = result.path := by
  have hpath : ∀ old, (noted rule old result).path = result.path := by
    intro old
    unfold noted
    split <;> rfl
  rw [fixDocument_eq]
  split
  · trivial
  · trivial
  · next old id _ _ =>
    split
    · exact ⟨counts_noted old result, hpath old⟩
    · rw [replaceLink_live hlive]
      refine ⟨⟨rfl, rfl⟩, fun before after selected => ?_⟩
      have hcounts : Counts result
          (counted ⟨id, result.path, old, rule.apply old⟩ selected (noted rule old result))
          ([] ++ [⟨⟨id, result.path, old, rule.apply old⟩, before, after, .ok selected⟩]) :=
        (counts_noted old result).trans (counts_counted _ before after selected _)
      cases selected with
      | true => exact ⟨hcounts, hpath old⟩
      | false => exact ⟨hcounts, hpath old⟩

/-- **A batch** counts its updates. -/
theorem fixDocuments_accounts (hlive : plan.dryRun = false) (rule : Rule) (path : String)
    (batch : List Document) (result : RuleResult) (hpath : result.path = path) :
    (fixDocuments plan rule result batch).Accounts
      (fun request => request.path = path ∧ request.new = rule.apply request.old)
      (Counts result) := by
  induction batch generalizing result with
  | nil => exact ⟨by simp, by simp, by simp⟩
  | cons first rest ih =>
    have hfirst := fixDocument_accounts hlive rule result first
    rw [hpath] at hfirst
    refine hfirst.bind fun r updates ⟨hcounts, hr⟩ => ?_
    exact (ih r hr).mono (fun _ h => h) fun r' more hmore => hcounts.trans hmore

/-- **Some results count some updates**, added up as in a report. -/
structure Tallies (results : List RuleResult) (updates : List Update) : Prop where
  rewritten : Report.countDone { dryRun := false, results } = updates.countP Update.made
  changed : Report.changed { dryRun := false, results } = updates.countP Update.effective
  conflicts : Report.conflicts { dryRun := false, results } = updates.countP Update.lost

theorem Tallies.nil : Tallies [] [] := ⟨rfl, rfl, rfl⟩

theorem Tallies.append {results more : List RuleResult} {updates rest : List Update}
    (h : Tallies results updates) (h' : Tallies more rest) :
    Tallies (results ++ more) (updates ++ rest) := by
  have hmerge := fun count => Report.total_merge count { dryRun := false, results }
    { dryRun := false, results := more }
  refine ⟨(hmerge _).trans ?_, (hmerge _).trans ?_, (hmerge _).trans ?_⟩
  · rw [List.countP_append, Int.natCast_add, ← h.rewritten, ← h'.rewritten]
    rfl
  · rw [List.countP_append, Int.natCast_add, ← h.changed, ← h'.changed]
    rfl
  · rw [List.countP_append, Int.natCast_add, ← h.conflicts, ← h'.conflicts]
    rfl

theorem fixRule_accounts (hlive : plan.dryRun = false) (hf : format ∈ formats)
    (hr : rule ∈ rules) :
    (fixRule plan format rule).Accounts (Rewrites formats rules)
      fun result updates => Tallies [result] updates := by
  rw [fixRule_eq]
  intro documents
  refine (fixDocuments_accounts hlive rule (rule.path format) documents _ rfl).mono
    (fun request h => ⟨format, hf, rule, hr, h⟩) fun result updates h => ?_
  refine ⟨?_, ?_, ?_⟩
  · simp [Report.countDone, Report.total, h.rewritten]
  · simp [Report.changed, Report.total, h.changed]
  · simp [Report.conflicts, Report.total, h.conflicts]

theorem fixRules_accounts (hlive : plan.dryRun = false) (hf : format ∈ formats)
    {chosen : List Rule} (hr : ∀ rule ∈ chosen, rule ∈ rules) :
    (fixRules plan format chosen).Accounts (Rewrites formats rules) Tallies := by
  induction chosen with
  | nil => exact Tallies.nil
  | cons rule rest ih =>
    obtain ⟨h1, h2⟩ := List.forall_mem_cons.1 hr
    rw [fixRules_cons]
    refine (fixRule_accounts hlive hf h1).bind fun result first hfirst => ?_
    refine (ih h2).bind fun results more hmore => ?_
    show Tallies (result :: results) (first ++ (more ++ []))
    rw [List.append_nil]
    exact hfirst.append hmore

theorem fixFormats_accounts (hlive : plan.dryRun = false) {chosen : List String}
    (hf : ∀ format ∈ chosen, format ∈ formats) :
    (fixFormats plan rules chosen).Accounts (Rewrites formats rules) Tallies := by
  induction chosen with
  | nil => exact Tallies.nil
  | cons format rest ih =>
    obtain ⟨h1, h2⟩ := List.forall_mem_cons.1 hf
    rw [fixFormats_cons]
    refine (fixRules_accounts hlive h1 fun _ h => h).bind fun results first hfirst => ?_
    refine (ih h2).bind fun others more hmore => ?_
    show Tallies (results ++ others) (first ++ (more ++ []))
    rw [List.append_nil]
    exact hfirst.append hmore

/-- **A pass** counts its updates. -/
theorem fixAll_accounts (hlive : plan.dryRun = false) (rules : List Rule) :
    (fixAll plan rules).Accounts (Rewrites plan.formats rules)
      fun report updates => Tallies report.results updates := by
  refine (fixFormats_accounts hlive fun _ h => h).bind fun results updates h => ?_
  show Tallies results (updates ++ [])
  rwa [List.append_nil]

/-- **Passes repeated** count their updates, and those that were counted before. -/
theorem repeatPasses_accounts (hlive : plan.dryRun = false) (rules : List Rule) (left : Nat)
    (total : Report) (earlier : List Update) (h : Tallies total.results earlier) :
    (repeatPasses plan rules left total).Accounts (Rewrites plan.formats rules)
      fun report updates => Tallies report.results (earlier ++ updates) := by
  induction left generalizing total earlier with
  | zero =>
    show Tallies total.results (earlier ++ [])
    rwa [List.append_nil]
  | succ left ih =>
    rw [repeatPasses_succ]
    refine (fixAll_accounts hlive rules).bind fun report updates hreport => ?_
    have hmerged : Tallies (total.merge report).results (earlier ++ updates) := h.append hreport
    split
    · show Tallies (total.merge report).results (earlier ++ (updates ++ []))
      rwa [List.append_nil]
    · simpa only [List.append_assoc] using ih _ _ hmerged

/-- **A live run** asks only for rewrites by its rules, and its report counts its updates. -/
theorem run_accounts (hlive : plan.dryRun = false) (rules : List Rule) :
    (run plan rules).Accounts (Rewrites plan.formats rules)
      fun report updates => Tallies report.results updates := by
  unfold run
  split
  · refine (repeatPasses_accounts hlive rules plan.maxPasses.toNat { dryRun := plan.dryRun } []
      Tallies.nil).bind fun total updates h => ?_
    have htotal : Tallies total.results (updates ++ []) := by rwa [List.append_nil]
    split
    · exact htotal
    · exact htotal
  · exact fixAll_accounts hlive rules

end Fix

end Relink
