import Relink.Proofs.Fix.Rewrite
import Relink.Proofs.Rule.Relink
import Relink.Proofs.Settings.Plan

/-!
# Passes without other writers

Without other writers and failures, and where no list is met, a live pass is a sweep: stage by
stage, the first few links that a rule is about are rewritten. What is read at a stage is what the
stages before it have left.

* `Job.Yields`: what a job comes to without other writers.
* `fixRule_yields`: one stage.
* `fixAll_yields`: a pass is the sweep of its stages.
-/

namespace Relink

namespace Job

variable {α β : Type} {documents left middle : List Document} {a : α} {b : β}

/-- **What a job comes to** without other writers: from some documents it has a result, and leaves
some documents. -/
def Yields (job : Job α) (documents : List Document) (a : α) (left : List Document) : Prop :=
  ∀ site : Site, site.documents = documents →
    (perform .quiet job site).result = .ok a ∧ (perform .quiet job site).site.documents = left

theorem Yields.done (a : α) (documents : List Document) :
    (Job.done a).Yields documents a documents := fun _ h => ⟨rfl, h⟩

theorem Yields.echo {line : String} {next : Job α} (h : next.Yields documents a left) :
    (Job.echo line next).Yields documents a left := h

theorem Yields.log {record : Record} {next : Job α} (h : next.Yields documents a left) :
    (Job.log record next).Yields documents a left := h

theorem Yields.find {request : FindRequest} {next : List Document → Job α}
    (h : (next (Collection.select request.filter request.projection request.limit
      documents)).Yields documents a left) :
    (Job.find request next).Yields documents a left := by
  rintro site rfl
  simp only [perform, Site.find_undisturbed]
  exact h ⟨site.documents, site.finds + 1, site.updates⟩ rfl

theorem Yields.update {request : UpdateRequest} {next : Bool → Job α} {selected : Bool}
    (hu : Collection.updateFirst request.filter request.path (.text request.new) documents =
      (selected, middle))
    (h : (next selected).Yields middle a left) :
    (Job.update request next).Yields documents a left := by
  rintro site rfl
  simp only [perform, Site.update_undisturbed hu]
  exact h ⟨middle, site.finds, site.updates + 1⟩ rfl

/-- **One job after another.** -/
theorem Yields.bind {t : Job α} {f : α → Job β} (ht : t.Yields documents a middle)
    (hf : (f a).Yields middle b left) : (t.bind f).Yields documents b left := by
  intro site hsite
  obtain ⟨hr, hs⟩ := ht site hsite
  rw [perform_bind, Ending.andThen, hr]
  exact hf _ hs

end Job

namespace Fix

open Job

variable {plan : Plan} {rule : Rule} {format s : String} {document : Document}
  {documents front back : List Document} {result : RuleResult}

/-- The result with a rewritten text counted. -/
def tallied (plan : Plan) (rule : Rule) (result : RuleResult) (s : String) : RuleResult :=
  { result with
    rewritten := result.rewritten + if plan.skipUnchanged && !rule.applies s then 0 else 1
    changed := result.changed + if rule.apply s != s then 1 else 0
    unchanged := result.unchanged + if rule.applies s then 0 else 1 }

/-- **A document in place**: its link is rewritten, and its text counted. -/
theorem fixDocument_yields (hlive : plan.dryRun = false) (hf : '.' ∉ format.toList)
    (hp : result.path = rule.path format) (hk : Collection.Keyed (front ++ document :: back))
    (hs : rule.text? format document = some s) :
    (fixDocument plan rule result (document.project (rule.path format))).Yields
      (front ++ document :: back) (tallied plan rule result s)
      (front ++ rule.relink format document :: back) := by
  obtain ⟨id, hid, -⟩ := hk.key document (by simp)
  have hreach := Rule.text?_eq_some.1 hs
  have htext : (document.project (rule.path format)).textAt result.path = .ok s := by
    rw [hp]
    exact (Rule.textAt_project hf).2 hreach
  have hdid : (document.project (rule.path format)).id = .ok id :=
    Document.id_eq_ok.2 ((Rule.id?_project hf).trans hid)
  rw [fixDocument_eq, htext, hdid]
  simp only
  split
  · next hskip =>
    -- a value that is skipped would have stayed as it is
    obtain ⟨ha, hsk⟩ : rule.applies s = false ∧ plan.skipUnchanged = true := by simpa using hskip
    have hsame := Rule.apply_of_not_applies ha
    rw [Rule.relink_of_fixed hf hs hsame]
    have hr : noted rule s result = tallied plan rule result s := by
      simp [noted, tallied, ha, hsk, hsame]
    rw [hr]
    exact Yields.log (Yields.done _ _)
  · next hskip =>
    have hr : counted ⟨id, result.path, s, rule.apply s⟩ true (noted rule s result) =
        tallied plan rule result s := by
      cases ha : rule.applies s <;> by_cases hc : rule.apply s = s <;>
        simp_all [noted, tallied, counted]
    -- the update meets what was read, so it selects the document
    have hu : Collection.updateFirst
        (UpdateRequest.filter ⟨id, result.path, s, rule.apply s⟩) result.path
        (.text (rule.apply s)) (front ++ document :: back) =
          (true, front ++ rule.relink format document :: back) := by
      rw [UpdateRequest.filter, hp, Rule.relink, hs]
      exact hk.updateFirst_link hf hid hreach
    rw [replaceLink_live hlive]
    refine Yields.echo (Yields.update hu ?_)
    simp only [if_true, Job.bind, hr]
    exact Yields.done _ _

/-- **A batch in place**: of the documents from some point on, the first few that the rule is about
are rewritten in order, as they were read. -/
theorem fixDocuments_yields (hlive : plan.dryRun = false) (hf : '.' ∉ format.toList)
    (front : List Document) (n : Nat) (result : RuleResult) (hp : result.path = rule.path format)
    (hk : Collection.Keyed (front ++ documents)) :
    (fixDocuments plan rule result (((documents.filter (rule.selects format)).take n).map
      (Document.project (rule.path format)))).Yields (front ++ documents)
        ((rule.taken format n documents).foldl (tallied plan rule) result)
        (front ++ rule.relinkFirst format n documents) := by
  induction documents generalizing front n result with
  | nil =>
    cases n <;> simpa [Rule.taken, Rule.relinkFirst, fixDocuments, pure_eq] using Yields.done _ _
  | cons document rest ih =>
    cases n with
    | zero => simpa [Rule.taken, Rule.relinkFirst, fixDocuments, pure_eq] using Yields.done _ _
    | succ n =>
      cases hsel : rule.selects format document with
      | true =>
        obtain ⟨s, hs, hfound⟩ := Rule.selects_iff.1 hsel
        rw [Rule.taken_cons_of_selects hs hfound, Rule.relinkFirst, if_pos hsel,
          List.filter_cons_of_pos hsel, List.take_succ_cons, List.map_cons, List.foldl_cons]
        have hstep := fixDocument_yields hlive hf hp hk hs
        -- what is rewritten joins the front, and the ids stay
        have hk' : Collection.Keyed ((front ++ [rule.relink format document]) ++ rest) := by
          apply hk.of_sublist
          simp [Rule.id?_relink hf]
        have hrest := ih _ n (tallied plan rule result s) hp hk'
        simp only [List.append_assoc, List.singleton_append] at hrest
        exact hstep.bind hrest
      | false =>
        rw [Rule.taken_cons_of_not_selects hsel, Rule.relinkFirst, if_neg (by simp [hsel]),
          List.filter_cons_of_neg (by simp [hsel])]
        have hrest := ih (front ++ [document]) (n + 1) result hp (by simpa using hk)
        simpa using hrest

/-- The result of a rule for a format, over the texts that were read. -/
def resultOn (plan : Plan) (rule : Rule) (format : String) (texts : List String) : RuleResult where
  format := format
  rule := rule.name
  path := rule.path format
  matched := texts.length
  rewritten := if plan.skipUnchanged then texts.countP rule.applies else texts.length
  changed := texts.countP fun s => rule.apply s != s
  unchanged := texts.countP fun s => !rule.applies s

theorem foldl_tallied (texts : List String) (result : RuleResult) :
    texts.foldl (tallied plan rule) result =
      { result with
        rewritten := result.rewritten +
          if plan.skipUnchanged then (texts.countP rule.applies : Int) else texts.length
        changed := result.changed + texts.countP fun s => rule.apply s != s
        unchanged := result.unchanged + texts.countP fun s => !rule.applies s } := by
  induction texts generalizing result with
  | nil => cases h : plan.skipUnchanged <;> simp
  | cons s rest ih =>
    rw [List.foldl_cons, ih]
    cases hsk : plan.skipUnchanged <;> cases ha : rule.applies s <;>
      cases hc : rule.apply s != s <;> simp [tallied, hsk, ha, hc] <;> omega

/-- **One stage.** -/
theorem fixRule_yields (hlive : plan.dryRun = false) (hl : 1 ≤ plan.limit)
    (hf : '.' ∉ format.toList) (hk : Collection.Keyed documents)
    (hn : ∀ document ∈ documents, Value.NoList (rule.way format) (.map document)) :
    (fixRule plan format rule).Yields documents
      (resultOn plan rule format (rule.taken format plan.limit.toNat documents))
      (rule.relinkFirst format plan.limit.toNat documents) := by
  have hlen := congrArg List.length (Rule.map_some_taken rule format plan.limit.toNat documents)
  simp only [List.length_map] at hlen
  have hbatch := fixDocuments_yields hlive hf [] plan.limit.toNat
    { format, rule := rule.name, path := rule.path format,
      matched := (rule.taken format plan.limit.toNat documents).length } rfl hk
  rw [foldl_tallied] at hbatch
  rw [fixRule_eq]
  refine Yields.find ?_
  simp only [batch, Rule.select_query hf hl hn, List.length_map, ← hlen]
  simpa [resultOn] using hbatch

/-- The formats and rules of a pass, in order. -/
def stages (formats : List String) (rules : List Rule) : List (String × Rule) :=
  formats.flatMap fun format => rules.map fun rule => (format, rule)

theorem mem_stages {formats : List String} {rules : List Rule} :
    (format, rule) ∈ stages formats rules ↔ format ∈ formats ∧ rule ∈ rules := by
  simp [stages]

/-- The format of a stage of an accepted plan holds no dot. -/
theorem stages_dotless (hp : plan.Accepted) (rules : List Rule) :
    ∀ stage ∈ stages plan.formats rules, '.' ∉ stage.1.toList :=
  fun _ hs => hp.no_dot _ (mem_stages.1 hs).1

/-- **The sweep of some stages**: their results, and the documents that are left. -/
def sweep (plan : Plan) : List (String × Rule) → List Document → List RuleResult × List Document
  | [], documents => ([], documents)
  | (format, rule) :: rest, documents =>
    let after := sweep plan rest (rule.relinkFirst format plan.limit.toNat documents)
    (resultOn plan rule format (rule.taken format plan.limit.toNat documents) :: after.1, after.2)

theorem sweep_append (plan : Plan) (first rest : List (String × Rule)) (documents : List Document) :
    sweep plan (first ++ rest) documents =
      ((sweep plan first documents).1 ++ (sweep plan rest (sweep plan first documents).2).1,
        (sweep plan rest (sweep plan first documents).2).2) := by
  induction first generalizing documents with
  | nil => rfl
  | cons stage more ih => simp [sweep, ih]

/-- The report of a sweep. -/
def sweepReport (plan : Plan) (stages : List (String × Rule)) (documents : List Document) :
    Report where
  dryRun := false
  passes := 1
  results := (sweep plan stages documents).1

theorem changed_sweepReport_nil (plan : Plan) (documents : List Document) :
    (sweepReport plan [] documents).changed = 0 := rfl

/-- **What a sweep changes** it changes at its first stage or after it. -/
theorem changed_sweepReport_cons (plan : Plan) (stage : String × Rule)
    (rest : List (String × Rule)) (documents : List Document) :
    (sweepReport plan (stage :: rest) documents).changed =
      (stage.2.taken stage.1 plan.limit.toNat documents).countP (fun s => stage.2.apply s != s) +
        (sweepReport plan rest
          (stage.2.relinkFirst stage.1 plan.limit.toNat documents)).changed := rfl

/-- The number of texts that a sweep changes is not negative. -/
theorem changed_sweepReport_nonneg (plan : Plan) (stages : List (String × Rule))
    (documents : List Document) : 0 ≤ (sweepReport plan stages documents).changed := by
  induction stages generalizing documents with
  | nil => exact Int.le_refl _
  | cons stage rest ih =>
    have := ih (stage.2.relinkFirst stage.1 plan.limit.toNat documents)
    rw [changed_sweepReport_cons]
    omega

/-- **A sweep that changes nothing** leaves the collection, and takes only texts that stay. -/
theorem sweep_of_unchanged {stages : List (String × Rule)}
    (hf : ∀ stage ∈ stages, '.' ∉ stage.1.toList)
    (h : (sweepReport plan stages documents).changed = 0) :
    (sweep plan stages documents).2 = documents ∧ ∀ stage ∈ stages,
      ∀ s ∈ stage.2.taken stage.1 plan.limit.toNat documents, stage.2.apply s = s := by
  induction stages with
  | nil => exact ⟨rfl, by simp⟩
  | cons stage rest ih =>
    obtain ⟨hf1, hf2⟩ := List.forall_mem_cons.1 hf
    have hpos := changed_sweepReport_nonneg plan rest
      (stage.2.relinkFirst stage.1 plan.limit.toNat documents)
    rw [changed_sweepReport_cons] at h
    -- neither number is negative, so both are zero
    have hnone : (stage.2.taken stage.1 plan.limit.toNat documents).countP
        (fun s => stage.2.apply s != s) = 0 := by omega
    have hstay : ∀ s ∈ stage.2.taken stage.1 plan.limit.toNat documents, stage.2.apply s = s := by
      simpa using List.countP_eq_zero.1 hnone
    have hsame := Rule.relinkFirst_of_fixed hf1 hstay
    rw [hsame] at h
    obtain ⟨hdocs, hmore⟩ := ih hf2 (by omega)
    refine ⟨?_, List.forall_mem_cons.2 ⟨hstay, hmore⟩⟩
    rw [sweep, hsame]
    exact hdocs

/-- **A tidy collection** for some stages: its ids are distinct, and no list is met on the way to a
link of the stages nor in it. -/
structure Tidy (stages : List (String × Rule)) (documents : List Document) : Prop where
  keyed : Collection.Keyed documents
  noList : ∀ stage ∈ stages, ∀ document ∈ documents,
    Value.NoList (stage.2.way stage.1) (.map document)

theorem Tidy.of_subset {stages chosen : List (String × Rule)} (h : Tidy stages documents)
    (hs : chosen ⊆ stages) : Tidy chosen documents :=
  ⟨h.keyed, fun stage hm => h.noList stage (hs hm)⟩

/-- Rewriting links keeps a collection tidy. -/
theorem Tidy.relinkFirst {stages : List (String × Rule)} (h : Tidy stages documents)
    (hf : '.' ∉ format.toList) (rule : Rule) (n : Nat) :
    Tidy stages (rule.relinkFirst format n documents) where
  keyed := by
    apply h.keyed.of_sublist
    rw [Rule.ids_relinkFirst hf]
  noList := fun stage hs =>
    Rule.relinkFirst_forall (h.noList stage hs) (fun _ hn => Rule.noList_relink hf hn) n

theorem Tidy.sweep {stages chosen : List (String × Rule)} (h : Tidy stages documents) (plan : Plan)
    (hf : ∀ stage ∈ chosen, '.' ∉ stage.1.toList) :
    Tidy stages (sweep plan chosen documents).2 := by
  induction chosen generalizing documents with
  | nil => exact h
  | cons stage rest ih =>
    obtain ⟨h1, h2⟩ := List.forall_mem_cons.1 hf
    exact ih (h.relinkFirst h1 stage.2 plan.limit.toNat) h2

theorem fixRules_yields {rules : List Rule} (hlive : plan.dryRun = false) (hl : 1 ≤ plan.limit)
    (hf : '.' ∉ format.toList) (h : Tidy (rules.map fun rule => (format, rule)) documents) :
    (fixRules plan format rules).Yields documents
      (sweep plan (rules.map fun rule => (format, rule)) documents).1
      (sweep plan (rules.map fun rule => (format, rule)) documents).2 := by
  induction rules generalizing documents with
  | nil => exact Yields.done _ _
  | cons rule rest ih =>
    have hone := fixRule_yields hlive hl hf h.keyed (h.noList (format, rule) (by simp))
    have hrest := ih ((h.of_subset (by simp)).relinkFirst hf rule plan.limit.toNat)
    exact hone.bind (hrest.bind (Yields.done _ _))

theorem fixFormats_yields {rules : List Rule} {formats : List String} (hlive : plan.dryRun = false)
    (hl : 1 ≤ plan.limit) (hf : ∀ format ∈ formats, '.' ∉ format.toList)
    (h : Tidy (stages formats rules) documents) :
    (fixFormats plan rules formats).Yields documents (sweep plan (stages formats rules) documents).1
      (sweep plan (stages formats rules) documents).2 := by
  induction formats generalizing documents with
  | nil => exact Yields.done _ _
  | cons format rest ih =>
    obtain ⟨hf1, hf2⟩ := List.forall_mem_cons.1 hf
    have hs : stages (format :: rest) rules =
        (rules.map fun rule => (format, rule)) ++ stages rest rules := rfl
    rw [hs] at h ⊢
    rw [sweep_append]
    have hone := fixRules_yields hlive hl hf1 (h.of_subset (List.subset_append_left _ _))
    have hdots : ∀ stage ∈ rules.map fun rule => (format, rule), '.' ∉ stage.1.toList :=
      List.forall_mem_map.2 fun _ _ => hf1
    have hrest := ih hf2 ((h.of_subset (List.subset_append_right _ _)).sweep plan hdots)
    exact Yields.echo (hone.bind (hrest.bind (Yields.done _ _)))

/-- **A live pass without other writers is the sweep of its stages.** -/
theorem fixAll_yields (hp : plan.Accepted) (hlive : plan.dryRun = false) (rules : List Rule)
    (h : Tidy (stages plan.formats rules) documents) :
    (fixAll plan rules).Yields documents (sweepReport plan (stages plan.formats rules) documents)
      (sweep plan (stages plan.formats rules) documents).2 := by
  refine (fixFormats_yields hlive hp.limit_pos hp.no_dot h).bind (Yields.echo (Yields.log ?_))
  rw [hlive]
  exact Yields.done _ _

end Fix

end Relink
