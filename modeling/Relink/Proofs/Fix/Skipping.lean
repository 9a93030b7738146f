import Relink.Proofs.Fix.Settled
import Relink.Proofs.Fix.Sweeps
import Relink.Proofs.Fix.Undisturbed

/-!
# Skipping is a matter of reporting

A value without the text to replace may be skipped, or rewritten to itself. Performed side by side
from the same documents, without other writers, a run that skips and one that does not stay beside
each other: what one of them writes and the other does not changes nothing, cannot be lost, and
moves neither a later batch nor the end of the passes.

* `Job.Beside`: two jobs that leave the same documents.
* `Twin`: a stage as both runs tell of it.
* `fixRule_beside`: one stage.
* `skipping_only_reports`: whole runs.
-/

namespace Relink

/-- The plan that skips values without the text to replace, or does not. -/
def Plan.skips (plan : Plan) (skip : Bool) : Plan := { plan with skipUnchanged := skip }

namespace Job

variable {α β : Type} {documents : List Document}
  {R : α → α → List Document → List Event → List Event → Prop}
  {S : β → β → List Document → List Event → List Event → Prop}

/-- **Two jobs beside each other**: performed on the same documents without other writers, both
return and leave the same documents. `R` is what the results, the documents, and what the two jobs
have left behind have to do with each other. -/
def Beside (documents : List Document)
    (R : α → α → List Document → List Event → List Event → Prop) (job job' : Job α) : Prop :=
  ∀ site site' : Site, site.documents = documents → site'.documents = documents →
    ∃ a b, (perform .quiet job site).result = .ok a ∧ (perform .quiet job' site').result = .ok b ∧
      (perform .quiet job' site').site.documents = (perform .quiet job site).site.documents ∧
      R a b (perform .quiet job site).site.documents (perform .quiet job site).trace
        (perform .quiet job' site').trace

namespace Beside

theorem done {a b : α} (h : R a b documents [] []) :
    Beside documents R (.done a) (.done b) := by
  rintro site site' rfl hs
  exact ⟨a, b, rfl, rfl, hs, h⟩

theorem echo {line line' : String} {next next' : Job α}
    (h : Beside documents (fun a b left first second =>
      R a b left (.line line :: first) (.line line' :: second)) next next') :
    Beside documents R (.echo line next) (.echo line' next') := h

theorem log {record record' : Record} {next next' : Job α}
    (h : Beside documents (fun a b left first second =>
      R a b left (.record record :: first) (.record record' :: second)) next next') :
    Beside documents R (.log record next) (.log record' next') := h

/-- **One job after another**, both times. -/
theorem bind {job job' : Job α} {f f' : α → Job β} (h : Beside documents R job job')
    (hf : ∀ a b left first second, R a b left first second →
      Beside left (fun c d left rest rest' => S c d left (first ++ rest) (second ++ rest'))
        (f a) (f' b)) :
    Beside documents S (job.bind f) (job'.bind f') := by
  intro site site' hs hs'
  obtain ⟨a, b, ha, hb, hleft, hR⟩ := h site site' hs hs'
  obtain ⟨c, d, hc, hd, hlast, hS⟩ := hf a b _ _ _ hR _ _ rfl hleft
  rw [perform_bind, perform_bind, Ending.andThen, Ending.andThen, ha, hb]
  exact ⟨c, d, hc, hd, hlast, hS⟩

theorem mono {job job' : Job α} {R' : α → α → List Document → List Event → List Event → Prop}
    (h : Beside documents R job job')
    (hR : ∀ a b left first second, R a b left first second → R' a b left first second) :
    Beside documents R' job job' := by
  intro site site' hs hs'
  obtain ⟨a, b, ha, hb, hleft, hr⟩ := h site site' hs hs'
  exact ⟨a, b, ha, hb, hleft, hR _ _ _ _ _ hr⟩

end Beside

end Job

namespace Fix

open Job

variable {plan : Plan} {rule : Rule} {rules : List Rule} {format : String}
  {documents : List Document}

/-- **A stage as both runs tell of it**: the rewrites that the run asks for that does not skip, and
the results of both. -/
structure Twin where
  format : String
  rule : Rule
  requests : List UpdateRequest
  skipping : RuleResult
  rewriting : RuleResult

namespace Twin

/-- The format and the rule. -/
def stage (twin : Twin) : String × Rule := (twin.format, twin.rule)

/-- The rewrites of values with the text to replace, which are those that both runs ask for. -/
def kept (twin : Twin) : List UpdateRequest :=
  twin.requests.filter fun request => twin.rule.applies request.old

/-- **The results of a stage fit**: one counts all rewrites, and the other differs from it by those
of values without the text to replace. -/
structure Fits (twin : Twin) : Prop where
  requests_eq : ∀ request ∈ twin.requests,
    request.path = twin.rule.path twin.format ∧ request.new = twin.rule.apply request.old
  rewriting_eq : twin.rewriting = {
    format := twin.format
    rule := twin.rule.name
    path := twin.rule.path twin.format
    matched := twin.requests.length
    rewritten := twin.requests.length
    changed := twin.requests.countP fun request => request.new != request.old
    unchanged := twin.requests.countP fun request => !twin.rule.applies request.old }
  skipping_eq : twin.skipping =
    { twin.rewriting with rewritten := twin.rewriting.rewritten - twin.rewriting.unchanged }

/-- A stage without other writers, by the rewrites of its batch. -/
def ofRequests (format : String) (rule : Rule) (requests : List UpdateRequest) : Twin where
  format := format
  rule := rule
  requests := requests
  skipping := resultOf format rule (requests.map (outcomeOf true rule))
  rewriting := resultOf format rule (requests.map (outcomeOf false rule))

theorem fits_ofRequests {format : String} {rule : Rule} {requests : List UpdateRequest}
    (h : ∀ request ∈ requests, request.path = rule.path format ∧
      request.new = rule.apply request.old) : (ofRequests format rule requests).Fits where
  requests_eq := h
  rewriting_eq := by
    rw [ofRequests, resultOf_outcomeOf false format rule fun request hm => (h request hm).2]
    simp
  skipping_eq := by
    simp only [ofRequests, resultOf_outcomeOf _ format rule fun request hm => (h request hm).2]
    simp

end Twin

/-- **What two runs beside each other leave** of some stages, by what both tell of each stage: the
results, and the lines of the audit trail. -/
structure Paired (stages : List (String × Rule)) (twins : List Twin)
    (results results' : List RuleResult) (first second : List Event) : Prop where
  fits : ∀ twin ∈ twins, twin.Fits
  stages_eq : twins.map Twin.stage = stages
  results_eq : results = twins.map Twin.skipping
  results_eq' : results' = twins.map Twin.rewriting
  lines_eq : (Event.lines first).filter Audit.isLine =
    (twins.flatMap Twin.kept).map Audit.line
  lines_eq' : (Event.lines second).filter Audit.isLine =
    (twins.flatMap Twin.requests).map Audit.line

namespace Paired

variable {stages more : List (String × Rule)} {twins twins' : List Twin}
  {results results' others others' : List RuleResult} {first second rest rest' : List Event}

theorem nil : Paired [] [] [] [] [] [] := ⟨by simp, rfl, rfl, rfl, rfl, rfl⟩

theorem append (h : Paired stages twins results results' first second)
    (h' : Paired more twins' others others' rest rest') :
    Paired (stages ++ more) (twins ++ twins') (results ++ others) (results' ++ others')
      (first ++ rest) (second ++ rest') where
  fits := List.forall_mem_append.2 ⟨h.fits, h'.fits⟩
  stages_eq := by rw [List.map_append, h.stages_eq, h'.stages_eq]
  results_eq := by rw [List.map_append, h.results_eq, h'.results_eq]
  results_eq' := by rw [List.map_append, h.results_eq', h'.results_eq']
  lines_eq := by
    rw [Event.lines_append, List.filter_append, h.lines_eq, h'.lines_eq, List.flatMap_append,
      List.map_append]
  lines_eq' := by
    rw [Event.lines_append, List.filter_append, h.lines_eq', h'.lines_eq', List.flatMap_append,
      List.map_append]

/-- What is no part of the audit trail may stand in between. -/
theorem aside (hl : (Event.lines first).filter Audit.isLine = [])
    (hl' : (Event.lines second).filter Audit.isLine = []) :
    Paired [] [] [] [] first second := ⟨by simp, rfl, rfl, rfl, hl, hl'⟩

/-- Both runs change as much. -/
theorem changed_eq {report report' : Report}
    (h : Paired stages twins report.results report'.results first second) :
    report.changed = report'.changed := by
  simp only [Report.changed, Report.total_eq_sum, h.results_eq, h.results_eq', List.map_map]
  refine congrArg List.sum (List.map_congr_left fun twin hm => ?_)
  simp [(h.fits twin hm).skipping_eq]

end Paired

/-- What a stage leaves without other writers is as tidy as what it met. -/
theorem tidy_leftBy {stages : List (String × Rule)} (h : Tidy stages documents)
    (hf : '.' ∉ format.toList) (rule : Rule) : Tidy stages (leftBy plan format rule documents) := by
  unfold leftBy
  split
  · exact h
  · exact h.relinkFirst hf rule plan.limit.toNat

/-- **One stage**, beside itself. -/
theorem fixRule_beside {stages : List (String × Rule)} (hl : 1 ≤ plan.limit)
    (hf : '.' ∉ format.toList) (h : Tidy stages documents) (hm : (format, rule) ∈ stages) :
    Beside documents
      (fun result result' left first second => Tidy stages left ∧
        ∃ twin, Paired [(format, rule)] [twin] [result] [result'] first second)
      (fixRule (plan.skips true) format rule) (fixRule (plan.skips false) format rule) := by
  intro site site' hs hs'
  have hk : Collection.Keyed documents := h.keyed
  have hn := h.noList (format, rule) hm
  obtain ⟨⟨result, hr, htold⟩, hleft⟩ := @fixRule_undisturbed (plan.skips true) rule format hl hf
    site (hs ▸ hk) (hs ▸ hn)
  obtain ⟨⟨result', hr', htold'⟩, hleft'⟩ := @fixRule_undisturbed (plan.skips false) rule format hl
    hf site' (hs' ▸ hk) (hs' ▸ hn)
  rw [hs] at htold hleft
  rw [hs'] at htold' hleft'
  refine ⟨result, result', hr, hr', hleft'.trans hleft.symm, ?_, ?_⟩
  · rw [hleft]
    exact tidy_leftBy h hf rule
  · refine ⟨.ofRequests format rule (requestsOf plan format rule documents), ?_, rfl, ?_, ?_, ?_,
      ?_⟩
    · rintro _ hm
      obtain rfl := List.mem_singleton.1 hm
      exact Twin.fits_ofRequests fun request => mem_requestsOf
    · rw [htold.result_eq]
      rfl
    · rw [htold'.result_eq]
      rfl
    · rw [htold.lines_eq]
      refine congrArg (List.map Audit.line) ((filterMap_outcomeOf_true rule _).trans ?_)
      rw [List.flatMap_singleton]
      rfl
    · rw [htold'.lines_eq]
      refine congrArg (List.map Audit.line) ((filterMap_outcomeOf_false rule _).trans ?_)
      rw [List.flatMap_singleton]
      rfl

theorem fixRules_beside {all : List (String × Rule)} (hl : 1 ≤ plan.limit)
    (hf : '.' ∉ format.toList) (h : Tidy all documents)
    (hm : ∀ rule ∈ rules, (format, rule) ∈ all) :
    Beside documents
      (fun results results' left first second => Tidy all left ∧
        ∃ twins, Paired (rules.map fun rule => (format, rule)) twins results results' first second)
      (fixRules (plan.skips true) format rules) (fixRules (plan.skips false) format rules) := by
  induction rules generalizing documents with
  | nil => exact .done ⟨h, [], .nil⟩
  | cons rule rest ih =>
    obtain ⟨hone, hrest⟩ := List.forall_mem_cons.1 hm
    rw [fixRules_cons, fixRules_cons]
    refine (fixRule_beside hl hf h hone).bind ?_
    rintro result result' left first second ⟨htidy, twin, hfirst⟩
    refine (ih htidy hrest).bind ?_
    rintro results results' left more more' ⟨htidy, twins, hmore⟩
    exact .done ⟨htidy, twin :: twins, by simpa using hfirst.append hmore⟩

theorem fixFormats_beside {all : List (String × Rule)} {formats : List String}
    (hl : 1 ≤ plan.limit) (hf : ∀ format ∈ formats, '.' ∉ format.toList) (h : Tidy all documents)
    (hm : stages formats rules ⊆ all) :
    Beside documents
      (fun results results' left first second => Tidy all left ∧
        ∃ twins, Paired (stages formats rules) twins results results' first second)
      (fixFormats (plan.skips true) rules formats)
      (fixFormats (plan.skips false) rules formats) := by
  induction formats generalizing documents with
  | nil => exact .done ⟨h, [], .nil⟩
  | cons format rest ih =>
    obtain ⟨hf1, hf2⟩ := List.forall_mem_cons.1 hf
    have hstages : stages (format :: rest) rules =
        (rules.map fun rule => (format, rule)) ++ stages rest rules := rfl
    rw [hstages] at hm ⊢
    have hone : ∀ rule ∈ rules, (format, rule) ∈ all := fun rule hr =>
      hm (List.mem_append_left _ (List.mem_map_of_mem hr))
    rw [fixFormats_cons, fixFormats_cons]
    refine Beside.echo ((fixRules_beside hl hf1 h hone).bind ?_)
    rintro results results' left first second ⟨htidy, twins, hfirst⟩
    refine (ih hf2 htidy fun stage hs => hm (List.mem_append_right _ hs)).bind ?_
    rintro more more' left rest rest' ⟨htidy, others, hmore⟩
    have hnone : Audit.isLine ("processing: " ++ format) = false := isLine_append (by decide)
    have hline : (Event.lines [.line ("processing: " ++ format)]).filter Audit.isLine = [] := by
      simp [Event.lines, hnone]
    refine .done ⟨htidy, twins ++ others, ?_⟩
    simpa using (Paired.aside hline hline).append (hfirst.append hmore)

/-- **Two runs abreast**: they have gone through as many passes, and tell of the same stages; and
either both have warned that the passes are used up, or none. -/
def Abreast (stages : List (String × Rule)) (report report' : Report) (first second : List Event) :
    Prop :=
  ∃ (passes : Nat) (twins : List Twin), report.passes = passes ∧ report'.passes = passes ∧
    Paired (List.replicate passes stages).flatten twins report.results report'.results
      first second ∧
    (Warned first ↔ Warned second)

namespace Abreast

variable {stages : List (String × Rule)} {report report' total total' : Report}
  {first second rest rest' : List Event}

/-- **One more pass.** -/
theorem merge (h : Abreast stages total total' first second)
    (h' : Abreast stages report report' rest rest') :
    Abreast stages (total.merge report) (total'.merge report') (first ++ rest)
      (second ++ rest') := by
  obtain ⟨passes, twins, hp, hp', hpaired, hwarned⟩ := h
  obtain ⟨more, others, hm, hm', hmore, hwarned'⟩ := h'
  refine ⟨passes + more, twins ++ others, ?_, ?_, ?_, ?_⟩
  · simp [Report.merge, hp, hm]
  · simp [Report.merge, hp', hm']
  · rw [List.replicate_add, List.flatten_append]
    exact hpaired.append hmore
  · rw [warned_append, warned_append, hwarned, hwarned']

/-- What comes behind the passes is no part of the audit trail. -/
theorem closed (h : Abreast stages report report' first second)
    (hl : (Event.lines rest).filter Audit.isLine = [])
    (hl' : (Event.lines rest').filter Audit.isLine = []) (hw : Warned rest ↔ Warned rest') :
    Abreast stages report report' (first ++ rest) (second ++ rest') := by
  obtain ⟨passes, twins, hp, hp', hpaired, hwarned⟩ := h
  refine ⟨passes, twins, hp, hp', ?_, ?_⟩
  · simpa using hpaired.append (.aside hl hl')
  · rw [warned_append, warned_append, hwarned, hw]

theorem changed_eq (h : Abreast stages report report' first second) :
    report.changed = report'.changed := by
  obtain ⟨_, _, -, -, hpaired, -⟩ := h
  exact hpaired.changed_eq

theorem passes_eq (h : Abreast stages report report' first second) :
    report.passes = report'.passes := by
  obtain ⟨_, _, hp, hp', -⟩ := h
  exact hp.trans hp'.symm

end Abreast

/-- **One pass**, beside itself. -/
theorem fixAll_beside (hp : plan.Accepted) (h : Tidy (stages plan.formats rules) documents) :
    Beside documents
      (fun report report' left first second => Tidy (stages plan.formats rules) left ∧
        Abreast (stages plan.formats rules) report report' first second)
      (fixAll (plan.skips true) rules) (fixAll (plan.skips false) rules) := by
  have hpass : Beside documents
      (fun report report' left first second => Tidy (stages plan.formats rules) left ∧
        report.passes = 1 ∧ report'.passes = 1 ∧ ∃ twins, Paired (stages plan.formats rules) twins
          report.results report'.results first second)
      (fixAll (plan.skips true) rules) (fixAll (plan.skips false) rules) := by
    refine (fixFormats_beside hp.limit_pos hp.no_dot h (List.Subset.refl _)).bind ?_
    rintro results results' left first second ⟨htidy, twins, hpaired⟩
    refine Beside.echo (Beside.log (Beside.done ⟨htidy, rfl, rfl, twins, ?_⟩))
    have hcount : ∀ (count : String) record, (Event.lines [.line ("count_done: " ++ count),
        .record record]).filter Audit.isLine = [] := by
      intro count record
      have hnone : Audit.isLine ("count_done: " ++ count) = false := isLine_append (by decide)
      simp [Event.lines, hnone]
    simpa using hpaired.append (.aside (hcount _ _) (hcount _ _))
  intro site site' hs hs'
  obtain ⟨report, report', hr, hr', hleft, htidy, hone, hone', twins, hpaired⟩ :=
    hpass site site' hs hs'
  have hwarned := iff_of_false (not_warned_fixAll (plan.skips true) rules .quiet site)
    (not_warned_fixAll (plan.skips false) rules .quiet site')
  exact ⟨report, report', hr, hr', hleft, htidy, 1, twins, hone, hone', by simpa using hpaired,
    hwarned⟩

/-- **Repeated passes**, beside themselves: the loop goes on in both runs or in none. -/
theorem repeatPasses_beside (hp : plan.Accepted) (left : Nat) {total total' : Report}
    {front front' : List Event} (h : Tidy (stages plan.formats rules) documents)
    (ha : Abreast (stages plan.formats rules) total total' front front') :
    Beside documents
      (fun report report' _ first second => Abreast (stages plan.formats rules) report report'
        (front ++ first) (front' ++ second))
      (repeatPasses (plan.skips true) rules left total)
      (repeatPasses (plan.skips false) rules left total') := by
  induction left generalizing documents total total' front front' with
  | zero =>
    have hwarned : ∀ total : Report, Warned [.record (spentRecord plan total)] :=
      fun _ => ⟨_, List.mem_singleton_self _, rfl⟩
    exact Beside.log (Beside.done (ha.closed rfl rfl (iff_of_true (hwarned _) (hwarned _))))
  | succ left ih =>
    rw [repeatPasses_succ, repeatPasses_succ]
    refine (fixAll_beside hp h).bind ?_
    rintro report report' middle first second ⟨htidy, hpass⟩
    have hstop : ((plan.skips true).dryRun || report.changed == 0) =
        ((plan.skips false).dryRun || report'.changed == 0) := by
      rw [hpass.changed_eq]
      rfl
    rw [hstop]
    split
    · exact Beside.done (by simpa using ha.merge hpass)
    · refine (ih htidy (ha.merge hpass)).mono ?_
      intro report report' _ rest rest' hafter
      simpa using hafter

/-- **A whole run**, beside itself. -/
theorem run_beside (hp : plan.Accepted) (h : Tidy (stages plan.formats rules) documents) :
    Beside documents
      (fun report report' _ first second =>
        Abreast (stages plan.formats rules) report report' first second)
      (run (plan.skips true) rules) (run (plan.skips false) rules) := by
  have hrun : ∀ skip, run (plan.skips skip) rules =
      if plan.repeated then fixUntilClean (plan.skips skip) rules
      else fixAll (plan.skips skip) rules := fun _ => rfl
  have hstart : Abreast (stages plan.formats rules) { dryRun := plan.dryRun }
      { dryRun := plan.dryRun } [] [] := ⟨0, [], rfl, rfl, .nil, Iff.rfl⟩
  rw [hrun, hrun]
  split
  · rw [fixUntilClean_eq, fixUntilClean_eq]
    refine (repeatPasses_beside hp plan.maxPasses.toNat h hstart).bind ?_
    intro total total' left first second ha
    rw [ha.passes_eq]
    have hlines : ∀ total, (Event.lines [.line (passesLine total)]).filter Audit.isLine = [] := by
      simp [Event.lines, isLine_passesLine]
    have hwarned : ∀ total, ¬ Warned [.line (passesLine total)] := by simp [Warned]
    split
    · exact Beside.echo (Beside.done (ha.closed (hlines _) (hlines _)
        (iff_of_false (hwarned _) (hwarned _))))
    · exact Beside.done (by simpa using ha)
  · refine (fixAll_beside hp h).mono ?_
    rintro report report' left first second ⟨-, ha⟩
    exact ha

/-- **Skipping only reports.** Over a tidy collection, without other writers and failures, the run
that skips values without the text to replace and the run that does not leave the same collection,
be they dry or live, of one pass or of repeated ones. They go through as many passes and warn alike.
Stage by stage their results agree but for the rewrites, which differ by the unchanged values; and
the audit lines of the first are those of the second for values with the text to replace. -/
theorem skipping_only_reports (hp : plan.Accepted) (rules : List Rule) (site : Site)
    (h : Tidy (stages plan.formats rules) site.documents) :
    let skipping := perform .quiet (run (plan.skips true) rules) site
    let rewriting := perform .quiet (run (plan.skips false) rules) site
    rewriting.site.documents = skipping.site.documents ∧
      ∃ report report', skipping.result = .ok report ∧ rewriting.result = .ok report' ∧
        Abreast (stages plan.formats rules) report report' skipping.trace rewriting.trace := by
  obtain ⟨report, report', hr, hr', hleft, ha⟩ := run_beside hp h site site rfl rfl
  exact ⟨hleft, report, report', hr, hr', ha⟩

/-- In two passes the link that stays is rewritten to itself twice, or skipped twice. -/
theorem skipping_only_reports_legacy :
    ∃ report report',
      (perform .quiet (run (twice.skips true) [Defaults.command]) legacy).result = .ok report ∧
      (perform .quiet (run (twice.skips false) [Defaults.command]) legacy).result =
        .ok report' ∧
      report.countDone = 1 ∧ report'.countDone = 3 ∧
      Abreast (stages twice.formats [Defaults.command]) report report'
        (perform .quiet (run (twice.skips true) [Defaults.command]) legacy).trace
        (perform .quiet (run (twice.skips false) [Defaults.command]) legacy).trace := by
  have htidy : Tidy (stages twice.formats [Defaults.command]) legacy.documents :=
    ⟨Collection.keyed_linked _ _ _, fun stage _ => Collection.noList_linked stage.2 stage.1⟩
  obtain ⟨-, report, report', hr, hr', ha⟩ :=
    skipping_only_reports accepted_twice [Defaults.command] legacy htidy
  have hcount : (perform .quiet (run (twice.skips true) [Defaults.command])
        legacy).result.toOption.map Report.countDone = some 1 ∧
      (perform .quiet (run (twice.skips false) [Defaults.command])
        legacy).result.toOption.map Report.countDone = some 3 := by decide +kernel
  rw [hr, hr'] at hcount
  exact ⟨report, report', hr, hr', Option.some.inj hcount.1, Option.some.inj hcount.2, ha⟩

end Fix

end Relink
