import Relink.Proofs.Fix.Lockstep
import Relink.Proofs.Fix.Order

/-!
# A dry run predicts a live pass

In a live pass a rule reads what the rules before it have left, while in a dry run it reads what was
there at first. For the default rules the two are alike, whatever stands in the collection: lists on
the way to a link, and documents that are malformed, meet both passes in the same place. So the two
passes are in step.

* `fixDocument_lockstep`: a document, and one alike to it.
* `fixDocuments_lockstep`: a batch, and what the stages before it have left of it.
* `dry_run_predicts`: a dry run writes nothing and comes to the end of the live pass.
-/

namespace Relink

/-- A plan to simulate the rewrites only. -/
def Plan.dry (plan : Plan) : Plan := { plan with dryRun := true }

/-- A plan to perform the rewrites. -/
def Plan.live (plan : Plan) : Plan := { plan with dryRun := false }

namespace Fix

open Job

variable {plan : Plan} {rule : Rule} {format : String} {result : RuleResult} {d d' : Document}
  {documents written front back : List Document}

/-- Texts to which a rule applies alike are counted alike. -/
theorem counted_noted_congr (hr : rule ∈ Defaults.rules) {s s' : String}
    (ha : rule.applies s' = rule.applies s) (id : Value) (path : String) (result : RuleResult) :
    counted ⟨id, path, s', rule.apply s'⟩ true (noted rule s' result) =
      counted ⟨id, path, s, rule.apply s⟩ true (noted rule s result) := by
  have hchanged : (rule.apply s' != s') = (rule.apply s != s) := by
    rw [Bool.eq_iff_iff, bne_iff_ne, bne_iff_ne, Defaults.apply_ne_iff hr,
      Defaults.apply_ne_iff hr, ha]
  simp only [counted, noted, hchanged, ha]

/-- **A document, and one alike to it** that is rewritten in place. -/
theorem fixDocument_lockstep (hr : rule ∈ Defaults.rules) (hf : '.' ∉ format.toList)
    (hp : result.path = rule.path format) (hk : Collection.Keyed (front ++ d' :: back))
    (h : rule.Alike format d d') :
    Lockstep documents (front ++ d' :: back)
      (fun a b left => b = a ∧ a.path = rule.path format ∧
        left = front ++ rule.relink format d' :: back)
      (fixDocument plan.dry rule result (d.project (rule.path format)))
      (fixDocument plan.live rule result (d'.project (rule.path format))) := by
  obtain ⟨id, hid', -⟩ := hk.key d' (by simp)
  have hread : (d.project (rule.path format)).id = .ok id :=
    Document.id_eq_ok.2 ((Rule.id?_project hf).trans (h.id ▸ hid'))
  have hread' : (d'.project (rule.path format)).id = .ok id :=
    Document.id_eq_ok.2 ((Rule.id?_project hf).trans hid')
  rw [fixDocument_eq, fixDocument_eq, hp, Rule.textAt_project_eq hf, Rule.textAt_project_eq hf,
    hread, hread']
  rcases h.textAt hf with ⟨s, s', hs, hs', -, ha⟩ | ⟨failure, hm, hs, hs'⟩
  · have hreach := (Rule.textAt_eq_ok_iff hf).1 hs'
    have htext := Rule.text?_eq_some.2 hreach
    simp only [hs, hs', ha]
    have hskip : plan.live.skipUnchanged = plan.dry.skipUnchanged := rfl
    rw [hskip]
    split
    · next hskipped =>
      -- a text that is skipped would have stayed as it is
      have hnone : rule.applies s = false := by simp_all
      have hsame := Rule.apply_of_not_applies (ha.trans hnone)
      refine Lockstep.log (Lockstep.done ⟨?_, ?_, ?_⟩)
      · simp only [noted, ha]
      · simpa [noted, hnone] using hp
      · rw [Rule.relink_of_fixed hf htext hsame]
    · -- the update meets what was read, so it selects the document
      have hu : Collection.updateFirst
          (UpdateRequest.filter ⟨id, rule.path format, s', rule.apply s'⟩) (rule.path format)
          (.text (rule.apply s')) (front ++ d' :: back) =
            (true, front ++ rule.relink format d' :: back) := by
        rw [UpdateRequest.filter, Rule.relink_of_text htext]
        exact hk.updateFirst_link hf hid' hreach
      have hdry : plan.dry.dryRun = true := rfl
      have hlive : plan.live.dryRun = false := rfl
      rw [replaceLink_dryRun hdry, replaceLink_live hlive]
      refine Lockstep.echo (.field rfl rfl) (Lockstep.update hu ?_)
      refine Lockstep.done ⟨counted_noted_congr hr ha id _ result, ?_, rfl⟩
      cases hn : rule.applies s <;> simpa [counted, noted, hn] using hp
  · simp only [hs, hs']
    exact Lockstep.fail hm

/-- Two documents are alike to some stages. -/
def AlikeTo (stages : List (String × Rule)) (d d' : Document) : Prop :=
  ∀ stage ∈ stages, stage.2.Alike stage.1 d d'

/-- **What was written follows the documents** as far as some stages can tell. -/
structure Following (stages : List (String × Rule)) (documents written : List Document) : Prop where
  keyed : Collection.Keyed written
  alike : List.Forall₂ (AlikeTo stages) documents written

/-- Two stages differ in their formats or in the names of their rules. -/
def Distinct (first second : String × Rule) : Prop :=
  ¬ (second.1 = first.1 ∧ second.2.name = first.2.name)

/-- What the other stages can tell of a document they can tell of the rewritten one. -/
theorem AlikeTo.relink {stages : List (String × Rule)} (hs : Plain (format, rule))
    (hplain : ∀ stage ∈ stages, Plain stage)
    (hdistinct : ∀ stage ∈ stages, Distinct (format, rule) stage)
    (h : AlikeTo stages d d') : AlikeTo stages d (rule.relink format d') := by
  intro stage hm
  obtain ⟨hf', ho⟩ := hplain stage hm
  exact (h stage hm).trans (Defaults.alike_relink hs.2 ho hs.1 hf' (hdistinct stage hm) d')

/-- Alike documents are selected alike. -/
theorem countP_holds_eq {stages : List (String × Rule)}
    (h : List.Forall₂ (AlikeTo ((format, rule) :: stages)) documents written) :
    written.countP (rule.query format).holds = documents.countP (rule.query format).holds := by
  induction h with
  | nil => rfl
  | cons hd _ ih =>
    have hholds := (hd (format, rule) List.mem_cons_self).holds
    rw [List.countP_cons, List.countP_cons, ih, hholds]

/-- **A batch, and what was written of it**: the results are the same, and what is left still
follows the documents as far as the other stages can tell. -/
theorem fixDocuments_lockstep {stages : List (String × Rule)} {all : List Document}
    (hs : Plain (format, rule)) (hplain : ∀ stage ∈ stages, Plain stage)
    (hdistinct : ∀ stage ∈ stages, Distinct (format, rule) stage) (front : List Document) (n : Nat)
    (result : RuleResult) (hp : result.path = rule.path format)
    (hk : Collection.Keyed (front ++ written))
    (h : List.Forall₂ (AlikeTo ((format, rule) :: stages)) documents written) :
    Lockstep all (front ++ written)
      (fun a b left => b = a ∧ Collection.Keyed left ∧
        ∃ back, left = front ++ back ∧ List.Forall₂ (AlikeTo stages) documents back)
      (fixDocuments plan.dry rule result (((documents.filter (rule.query format).holds).take n).map
        (Document.project (rule.path format))))
      (fixDocuments plan.live rule result (((written.filter (rule.query format).holds).take n).map
        (Document.project (rule.path format)))) := by
  have hrest : ∀ {d d'}, AlikeTo ((format, rule) :: stages) d d' → AlikeTo stages d d' :=
    fun h stage hm => h stage (List.mem_cons_of_mem _ hm)
  induction h generalizing front n result with
  | nil =>
    simp only [List.filter_nil, List.take_nil, List.map_nil]
    exact Lockstep.done ⟨rfl, hk, [], rfl, .nil⟩
  | @cons d d' documents written hd hmore ih =>
    have hone := hd (format, rule) List.mem_cons_self
    cases n with
    | zero =>
      simp only [List.take_zero, List.map_nil]
      exact Lockstep.done ⟨rfl, hk, _, rfl, .cons (hrest hd) (hmore.imp fun _ _ => hrest)⟩
    | succ n =>
      cases hholds : (rule.query format).holds d with
      | true =>
        have hholds' := hone.holds.trans hholds
        rw [List.filter_cons_of_pos hholds, List.filter_cons_of_pos hholds', List.take_succ_cons,
          List.take_succ_cons, List.map_cons, List.map_cons]
        refine (fixDocument_lockstep hs.2 hs.1 hp hk hone).bind ?_
        rintro a b left ⟨rfl, hpath, rfl⟩
        -- what is rewritten joins the front, and the ids stay
        have hk' : Collection.Keyed ((front ++ [rule.relink format d']) ++ written) := by
          apply hk.of_sublist
          simp [Rule.id?_relink hs.1]
        have hafter := ih (front ++ [rule.relink format d']) n b hpath hk'
        simp only [List.append_assoc, List.singleton_append] at hafter
        refine hafter.mono ?_
        rintro a b left ⟨rfl, hleft, back, rfl, hback⟩
        exact ⟨rfl, hleft, _, rfl, .cons ((hrest hd).relink hs hplain hdistinct) hback⟩
      | false =>
        have hholds' := hone.holds.trans hholds
        rw [List.filter_cons_of_neg (by simp [hholds]), List.filter_cons_of_neg (by simp [hholds'])]
        have hafter := ih (front ++ [d']) (n + 1) result hp (by simpa using hk)
        simp only [List.append_assoc, List.singleton_append] at hafter
        refine hafter.mono ?_
        rintro a b left ⟨rfl, hleft, back, rfl, hback⟩
        exact ⟨rfl, hleft, _, rfl, .cons (hrest hd) hback⟩

/-- **One stage.** -/
theorem fixRule_lockstep {stages : List (String × Rule)} (hl : 1 ≤ plan.limit)
    (hs : Plain (format, rule)) (hplain : ∀ stage ∈ stages, Plain stage)
    (hdistinct : ∀ stage ∈ stages, Distinct (format, rule) stage)
    (h : Following ((format, rule) :: stages) documents written) :
    Lockstep documents written (fun a b left => b = a ∧ Following stages documents left)
      (fixRule plan.dry format rule) (fixRule plan.live format rule) := by
  rw [fixRule_eq, fixRule_eq]
  refine Lockstep.find ?_
  have hlimit : plan.dry.limit = plan.limit := rfl
  simp only [batch, hlimit, Collection.select_capped hl, List.length_map, List.length_take,
    ← List.countP_eq_length_filter, countP_holds_eq h.alike]
  refine Lockstep.mono (fixDocuments_lockstep hs hplain hdistinct [] plan.limit.toNat _ rfl h.keyed
    h.alike) ?_
  rintro a b left ⟨rfl, hk, back, rfl, hback⟩
  exact ⟨rfl, hk, hback⟩

theorem fixRules_lockstep {stages : List (String × Rule)} {rules : List Rule} (hl : 1 ≤ plan.limit)
    (hplain : ∀ stage ∈ (rules.map fun rule => (format, rule)) ++ stages, Plain stage)
    (hdistinct : ((rules.map fun rule => (format, rule)) ++ stages).Pairwise Distinct)
    (h : Following ((rules.map fun rule => (format, rule)) ++ stages) documents written) :
    Lockstep documents written (fun a b left => b = a ∧ Following stages documents left)
      (fixRules plan.dry format rules) (fixRules plan.live format rules) := by
  induction rules generalizing written with
  | nil => exact Lockstep.done ⟨rfl, h⟩
  | cons rule rest ih =>
    simp only [List.map_cons, List.cons_append] at hplain hdistinct h
    obtain ⟨hs, hplain⟩ := List.forall_mem_cons.1 hplain
    obtain ⟨hfirst, hdistinct⟩ := List.pairwise_cons.1 hdistinct
    refine (fixRule_lockstep hl hs hplain hfirst h).bind ?_
    rintro result _ left ⟨rfl, hleft⟩
    refine (ih hplain hdistinct hleft).bind ?_
    rintro results _ left ⟨rfl, hleft⟩
    exact Lockstep.done ⟨rfl, hleft⟩

theorem fixFormats_lockstep {rules : List Rule} {formats : List String} (hl : 1 ≤ plan.limit)
    (hplain : ∀ stage ∈ stages formats rules, Plain stage)
    (hdistinct : (stages formats rules).Pairwise Distinct)
    (h : Following (stages formats rules) documents written) :
    Lockstep documents written (fun a b _ => b = a) (fixFormats plan.dry rules formats)
      (fixFormats plan.live rules formats) := by
  induction formats generalizing written with
  | nil => exact Lockstep.done rfl
  | cons format rest ih =>
    have hstages : stages (format :: rest) rules =
        (rules.map fun rule => (format, rule)) ++ stages rest rules := rfl
    rw [hstages] at hplain hdistinct h
    refine Lockstep.echo (.same _) ((fixRules_lockstep hl hplain hdistinct h).bind ?_)
    rintro results _ left ⟨rfl, hleft⟩
    have hrest := ih (fun stage hm => hplain stage (List.mem_append_right _ hm))
      (List.pairwise_append.1 hdistinct).2.1 hleft
    refine hrest.bind ?_
    rintro more _ _ rfl
    exact Lockstep.done rfl

/-- The stages of an accepted plan are distinct. -/
theorem pairwise_distinct_stages (hp : plan.Accepted) :
    (stages plan.formats Defaults.rules).Pairwise Distinct := by
  have hnames : Defaults.rules.Pairwise fun first second => second.name ≠ first.name := by decide
  refine List.pairwise_flatMap.2 ⟨fun format _ => ?_, hp.nodup.imp ?_⟩
  · exact List.pairwise_map.2 (hnames.imp fun hne h => hne h.2)
  · intro format format' hne first hf second hs h
    obtain ⟨_, -, rfl⟩ := List.mem_map.1 hf
    obtain ⟨_, -, rfl⟩ := List.mem_map.1 hs
    exact hne h.1.symm

/-- **A pass**, dry and live, over documents that differ as little as the rules can tell. -/
theorem fixAll_lockstep (hp : plan.Accepted)
    (h : Following (stages plan.formats Defaults.rules) documents written) :
    Lockstep documents written (fun report report' _ => report'.results = report.results)
      (fixAll plan.dry Defaults.rules) (fixAll plan.live Defaults.rules) := by
  have hplain : ∀ stage ∈ stages plan.formats Defaults.rules, Plain stage := by
    intro stage hm
    obtain ⟨hformat, hrule⟩ := mem_stages.1 hm
    exact ⟨hp.no_dot _ hformat, hrule⟩
  refine (fixFormats_lockstep hp.limit_pos hplain (pairwise_distinct_stages hp) h).bind ?_
  rintro results _ _ rfl
  exact Lockstep.echo (.same _) (Lockstep.log (Lockstep.done rfl))

/-- A pass that returns ends with the line of its count. -/
theorem getLast?_lines_fixAll {schedule : Schedule} {rules : List Rule} {site : Site}
    {report : Report} (h : (perform schedule (fixAll plan rules) site).result = .ok report) :
    (Event.lines (perform schedule (fixAll plan rules) site).trace).getLast? =
      some ("count_done: " ++ toString report.countDone) := by
  have hpass : fixAll plan rules = (fixFormats plan rules plan.formats).bind fun results =>
      (say ("count_done: " ++ toString (Report.countDone ⟨plan.dryRun, 1, results⟩))).bind fun _ =>
        (note .info "Link fixing pass complete" _).bind fun _ =>
          .done ⟨plan.dryRun, 1, results⟩ := rfl
  rw [hpass, perform_bind, Ending.andThen] at h ⊢
  cases hr : (perform schedule (fixFormats plan rules plan.formats) site).result with
  | error failure => simp [hr] at h
  | ok results =>
    simp only [hr] at h ⊢
    cases h
    simp [say, note, Job.bind, perform, Ending.after, Event.lines]

/-- **A dry run predicts the live pass.** Without other writers, and whatever the documents hold,
the two write lines that agree one by one, and come to the same malformed document or to the same
results and the same count. The dry run updates nothing. -/
theorem dry_run_predicts (hp : plan.Accepted) (site : Site)
    (hk : Collection.Keyed site.documents) :
    Agree site.documents (fun report report' _ => report'.results = report.results ∧
        (Event.lines (perform .quiet (fixAll plan.dry Defaults.rules) site).trace).getLast? =
          some ("count_done: " ++ toString report.countDone) ∧
        (Event.lines (perform .quiet (fixAll plan.live Defaults.rules) site).trace).getLast? =
          some ("count_done: " ++ toString report.countDone))
      (perform .quiet (fixAll plan.dry Defaults.rules) site)
      (perform .quiet (fixAll plan.live Defaults.rules) site) := by
  have hfollow : Following (stages plan.formats Defaults.rules) site.documents site.documents :=
    ⟨hk, List.forall₂_same.2 fun d _ stage _ => Rule.Alike.refl stage.2 stage.1 d⟩
  obtain ⟨hlines, hread, hkept, hout⟩ := fixAll_lockstep hp hfollow site site rfl rfl
  refine ⟨hlines, hread, hkept, hout.imp_left ?_⟩
  rintro ⟨report, report', hdry, hlive, hresults⟩
  have hcount : report'.countDone = report.countDone := by
    simp only [Report.countDone, Report.total, hresults]
  refine ⟨report, report', hdry, hlive, hresults, getLast?_lines_fixAll hdry, ?_⟩
  rw [getLast?_lines_fixAll hlive, hcount]

/-- Both texts of the link would be replaced, and are. -/
theorem dry_run_predicts_overlapping :
    Agree overlapping.documents (fun report report' _ => report'.results = report.results ∧
        (Event.lines (perform .quiet (fixAll (planFor ["xlsx", "csv"]).dry Defaults.rules)
          overlapping).trace).getLast? = some ("count_done: " ++ toString report.countDone) ∧
        (Event.lines (perform .quiet (fixAll (planFor ["xlsx", "csv"]).live Defaults.rules)
          overlapping).trace).getLast? = some ("count_done: " ++ toString report.countDone))
      (perform .quiet (fixAll (planFor ["xlsx", "csv"]).dry Defaults.rules) overlapping)
      (perform .quiet (fixAll (planFor ["xlsx", "csv"]).live Defaults.rules) overlapping) ∧
    (Event.lines (perform .quiet (fixAll (planFor ["xlsx", "csv"]).dry Defaults.rules)
      overlapping).trace).getLast? = some "count_done: 2" :=
  ⟨dry_run_predicts accepted_planFor overlapping (Collection.keyed_linked _ _ _),
    by decide +kernel⟩

end Fix

end Relink
