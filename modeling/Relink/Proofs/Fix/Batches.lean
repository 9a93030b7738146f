import Relink.Proofs.Fix.Sweep
import Relink.Proofs.Store.Writers

/-!
# The batches of a run

Every call of a run belongs to a batch: the find for one rule and one format, followed by updates of
the documents that were found. This holds among other writers, and also if a call fails or a
document is malformed.

* `Job.Ensures`: what a job guarantees of its batches, of the documents it leaves and of its result.
* `run_staged`: if each stage is one batch, a run is the batches of its stages, pass by pass.
* `fixRule_ensures`: a rule applied to a format is one batch.
* `run_ensures`: a run is a sequence of batches of its formats and rules, and a live report counts
  the outcomes of their updates.
-/

namespace Relink

namespace Fix

/-- The batch of a rule and a download format as it went: the find, and the updates in order. -/
structure Batch where
  format : String
  rule : Rule
  search : Search
  updates : List Update

/-- The format and the rule of a batch. -/
def Batch.stage (batch : Batch) : String × Rule := (batch.format, batch.rule)

/-- The calls of a batch. -/
def Batch.moments (batch : Batch) : List Moment :=
  .found batch.search :: batch.updates.map .updated

/-- **What is true of a batch** among lawful writers. Each update is of a document that was read in
this batch; if the writers keep maps, it still leads through maps to the format. -/
structure Batch.Sound (plan : Plan) (schedule : Schedule) (batch : Batch) : Prop where
  asked : batch.search.request = Fix.batch plan batch.rule batch.format
  keyed : Collection.Keyed batch.search.met
  found : ∀ documents, batch.search.outcome = .ok documents →
    documents = Collection.select (batch.rule.query batch.format) (batch.rule.path batch.format)
      plan.limit batch.search.met
  requested : ∀ update ∈ batch.updates, ∃ documents, batch.search.outcome = .ok documents ∧
    Requested batch.rule (batch.rule.path batch.format) documents update.request
  carried : ∀ update ∈ batch.updates, Collection.Keyed update.before ∧ update.Carried
  opened : schedule.KeepsMaps batch.format → ∀ update ∈ batch.updates,
    Collection.OpenAt batch.format update.request.id update.before

/-- **A result counts a batch**: the documents read, and the outcomes of the updates. -/
structure Batch.Tallied (batch : Batch) (result : RuleResult) : Prop where
  format : result.format = batch.format
  rule : result.rule = batch.rule.name
  rewritten : result.rewritten = batch.updates.countP Update.made
  changed : result.changed = batch.updates.countP Update.effective
  conflicts : result.conflicts = batch.updates.countP Update.lost

end Fix

open Relink.Fix

namespace Job

variable {α β : Type} {schedule : Schedule} {I : List Document → Prop} {sound : Batch → Prop}
  {post : α → List Batch → Prop} {post' : β → List Batch → Prop}

/-- **What a job guarantees** when it is performed where the documents satisfy `I`: its calls are
those of some sound batches, the documents still satisfy `I`, and a result goes with the batches. -/
def Ensures (schedule : Schedule) (I : List Document → Prop) (sound : Batch → Prop)
    (post : α → List Batch → Prop) (job : Job α) : Prop :=
  ∀ site, I site.documents → ∃ batches : List Batch,
    moments schedule job site = batches.flatMap Batch.moments ∧ (∀ batch ∈ batches, sound batch) ∧
      I (perform schedule job site).site.documents ∧
        ∀ a, (perform schedule job site).result = .ok a → post a batches

theorem Ensures.done {a : α} (h : post a []) : (Job.done a).Ensures schedule I sound post := by
  intro site hI
  refine ⟨[], rfl, by simp, hI, ?_⟩
  rintro _ ⟨⟩
  exact h

theorem Ensures.echo {line : String} {next : Job α} (h : next.Ensures schedule I sound post) :
    (Job.echo line next).Ensures schedule I sound post := h

theorem Ensures.log {record : Record} {next : Job α} (h : next.Ensures schedule I sound post) :
    (Job.log record next).Ensures schedule I sound post := h

/-- **One job after another** guarantees the batches of both. -/
theorem Ensures.bind {t : Job α} {f : α → Job β} (ht : t.Ensures schedule I sound post)
    (hf : ∀ a first, post a first →
      (f a).Ensures schedule I sound fun b rest => post' b (first ++ rest)) :
    (t.bind f).Ensures schedule I sound post' := by
  intro site hI
  obtain ⟨first, hm, hs, hI', hp⟩ := ht site hI
  rw [moments_bind, perform_bind, Ending.andThen]
  cases hr : (perform schedule t site).result with
  | error failure => exact ⟨first, by simpa using hm, hs, hI', by simp⟩
  | ok a =>
    obtain ⟨rest, hm', hs', hI'', hp'⟩ := hf a first (hp a hr) _ hI'
    refine ⟨first ++ rest, by simp [hm, hm'], ?_, hI'', hp'⟩
    intro batch hb
    rcases List.mem_append.1 hb with hb | hb
    · exact hs batch hb
    · exact hs' batch hb

theorem Ensures.mono {job : Job α} {sound' : Batch → Prop} {post' : α → List Batch → Prop}
    (h : job.Ensures schedule I sound post) (hs : ∀ batch, sound batch → sound' batch)
    (hp : ∀ a batches, post a batches → post' a batches) :
    job.Ensures schedule I sound' post' := by
  intro site hI
  obtain ⟨batches, hm, hb, hI', ha⟩ := h site hI
  exact ⟨batches, hm, fun batch hmem => hs batch (hb batch hmem), hI', fun a hr => hp a _ (ha a hr)⟩

end Job

namespace Fix

open Job

variable {plan : Plan} {rule : Rule} {format : String} {schedule : Schedule}

/-- **Batches that go with stages and results**, one each and in order, where `R` relates a batch to
its result. -/
structure Staged (R : Batch → RuleResult → Prop) (stages : List (String × Rule))
    (results : List RuleResult) (batches : List Batch) : Prop where
  stages_eq : batches.map Batch.stage = stages
  related : List.Forall₂ R batches results

section Staged

variable {rules : List Rule} {I : List Document → Prop} {sound : Batch → Prop}
  {R : Batch → RuleResult → Prop}

theorem Staged.nil : Staged R [] [] [] := ⟨rfl, .nil⟩

theorem Staged.append {xs ys : List (String × Rule)} {first more : List RuleResult}
    {bs cs : List Batch} (h : Staged R xs first bs) (h' : Staged R ys more cs) :
    Staged R (xs ++ ys) (first ++ more) (bs ++ cs) :=
  ⟨by rw [List.map_append, h.stages_eq, h'.stages_eq], List.rel_append h.related h'.related⟩

/-- What holds of a result that goes with some batch holds of every result. -/
theorem Staged.forall_results {xs : List (String × Rule)} {results : List RuleResult}
    {batches : List Batch} (h : Staged R xs results batches) {p : RuleResult → Prop}
    (hp : ∀ batch result, R batch result → p result) : ∀ result ∈ results, p result :=
  ((List.forall₂_and_left _ _).1
    (h.related.flip.imp fun result batch (hR : R batch result) => ⟨hp batch result hR, hR⟩)).1

/-- What follows for a batch from what holds of every result. -/
theorem Staged.forall_batches {xs : List (String × Rule)} {results : List RuleResult}
    {batches : List Batch} (h : Staged R xs results batches) {p : RuleResult → Prop}
    {q : Batch → Prop} (hp : ∀ result ∈ results, p result)
    (hq : ∀ batch result, R batch result → p result → q batch) : ∀ batch ∈ batches, q batch := by
  have hboth := (List.forall₂_and_left _ _).2 ⟨hp, h.related.flip⟩
  exact ((List.forall₂_and_left _ _).1
    (hboth.flip.imp fun batch result ⟨hresult, hR⟩ => ⟨hq batch result hR hresult, hR⟩)).1

theorem fixRules_staged (h : ∀ rule ∈ rules, (fixRule plan format rule).Ensures schedule I sound
      fun result => Staged R [(format, rule)] [result]) :
    (fixRules plan format rules).Ensures schedule I sound
      (Staged R (rules.map fun rule => (format, rule))) := by
  induction rules with
  | nil => exact Ensures.done .nil
  | cons rule rest ih =>
    obtain ⟨hrule, hrest⟩ := List.forall_mem_cons.1 h
    refine hrule.bind fun result first h1 => (ih hrest).bind fun results more h2 => Ensures.done ?_
    rw [List.append_nil]
    exact h1.append h2

theorem fixFormats_staged {formats : List String}
    (h : ∀ format ∈ formats, ∀ rule ∈ rules, (fixRule plan format rule).Ensures schedule I sound
      fun result => Staged R [(format, rule)] [result]) :
    (fixFormats plan rules formats).Ensures schedule I sound (Staged R (stages formats rules)) := by
  induction formats with
  | nil => exact Ensures.done .nil
  | cons format rest ih =>
    obtain ⟨hformat, hrest⟩ := List.forall_mem_cons.1 h
    refine Ensures.echo ((fixRules_staged hformat).bind fun results first h1 => ?_)
    refine (ih hrest).bind fun others more h2 => Ensures.done ?_
    rw [List.append_nil]
    exact h1.append h2

variable (h : ∀ format ∈ plan.formats, ∀ rule ∈ rules,
  (fixRule plan format rule).Ensures schedule I sound fun result =>
    Staged R [(format, rule)] [result])

include h

/-- **A pass is the batches of its stages.** -/
theorem fixAll_staged : (fixAll plan rules).Ensures schedule I sound fun report batches =>
    report.passes = 1 ∧ Staged R (stages plan.formats rules) report.results batches := by
  refine (fixFormats_staged h).bind fun results batches hstaged => ?_
  refine Ensures.echo (Ensures.log (Ensures.done ⟨rfl, ?_⟩))
  rw [List.append_nil]
  exact hstaged

/-- **Repeated passes** add their batches to those counted so far. -/
theorem repeatPasses_staged (left : Nat) (total : Report) :
    (repeatPasses plan rules left total).Ensures schedule I sound fun report batches =>
      ∃ (passes : Nat) (more : List RuleResult), report.passes = total.passes + passes ∧
        report.results = total.results ++ more ∧
        Staged R (List.replicate passes (stages plan.formats rules)).flatten more batches := by
  induction left generalizing total with
  | zero => exact Ensures.log (Ensures.done ⟨0, [], by simp, by simp, .nil⟩)
  | succ left ih =>
    rw [repeatPasses_succ]
    refine (fixAll_staged h).bind fun report first ⟨hone, h1⟩ => ?_
    split
    · refine Ensures.done ⟨1, report.results, by simp [Report.merge, hone], rfl, ?_⟩
      simpa using h1
    · refine (ih (total.merge report)).mono (fun _ hb => hb) ?_
      rintro final others ⟨passes, more, hpasses, hresults, h2⟩
      refine ⟨passes + 1, report.results ++ more, ?_, ?_, h1.append h2⟩
      · rw [hpasses, Report.merge, hone, Int.natCast_succ, Int.add_assoc, Int.add_comm 1]
      · rw [hresults, Report.merge, List.append_assoc]

/-- **A run is the batches of its stages**, pass by pass, if each stage is one batch. -/
theorem run_staged : (run plan rules).Ensures schedule I sound fun (report : Report) batches =>
    ∃ passes : Nat, report.passes = passes ∧
      Staged R (List.replicate passes (stages plan.formats rules)).flatten report.results
        batches := by
  unfold run
  split
  · refine (repeatPasses_staged h _ _).bind ?_
    rintro total batches ⟨passes, more, hpasses, hresults, hstaged⟩
    -- what is counted is what was counted from nothing
    have htotal : ∃ passes : Nat, total.passes = passes ∧
        Staged R (List.replicate passes (stages plan.formats rules)).flatten total.results
          (batches ++ []) := by
      rw [hresults, List.append_nil]
      exact ⟨passes, by simpa using hpasses, hstaged⟩
    split
    · exact Ensures.echo (Ensures.done htotal)
    · exact Ensures.done htotal
  · exact (fixAll_staged h).mono (fun _ hb => hb) fun _ _ ⟨hone, hstaged⟩ =>
      ⟨1, hone, by simpa using hstaged⟩

end Staged

/-- Sound moments of a batch are updates of it. -/
theorem exists_updates {path : String} {documents : List Document} {I : List Document → Prop}
    {moments : List Moment} (h : ∀ moment ∈ moments, moment.Sound (inBatch rule path documents) I) :
    ∃ updates : List Update, moments = updates.map .updated ∧ ∀ update ∈ updates,
      Requested rule path documents update.request ∧ I update.before ∧ update.Carried := by
  induction moments with
  | nil => exact ⟨[], rfl, by simp⟩
  | cons first rest ih =>
    obtain ⟨hf, hr⟩ := List.forall_mem_cons.1 h
    obtain ⟨updates, rfl, hu⟩ := ih hr
    cases first with
    | found search => exact absurd hf.1 id
    | updated update => exact ⟨update :: updates, rfl, List.forall_mem_cons.2 ⟨⟨hf.1, hf.2⟩, hu⟩⟩

/-- An update of a batch keeps the collection keyed. -/
theorem Requested.keyed (hf : '.' ∉ format.toList) {found documents : List Document}
    {request : UpdateRequest} (hr : Requested rule (rule.path format) found request)
    (hk : Collection.Keyed documents) (filter : Filter) (value : Value) :
    Collection.Keyed (Collection.updateFirst filter request.path value documents).2 := by
  apply hk.of_sublist
  rw [Collection.ids_updateFirst]
  rw [hr.path_eq, Rule.steps_path hf]
  exact Rule.head_way rule format

/-- **A request of a batch** is about a document that was searched and selected, and that held the
old value then. -/
theorem Requested.source (hf : '.' ∉ format.toList) {documents : List Document} {limit : Int}
    {request : UpdateRequest}
    (hr : Requested rule (rule.path format) (Collection.select (rule.query format)
      (rule.path format) limit documents) request) :
    ∃ source ∈ documents, source.id? = some request.id ∧
      (rule.query format).holds source = true ∧
      Value.reach? (rule.way format) (.map source) = some (.text request.old) := by
  obtain ⟨read, hread, hid, ht⟩ := hr.read
  obtain ⟨source, hm, hq, rfl⟩ := Collection.exists_of_mem_select hread
  rw [Rule.id?_project hf] at hid
  rw [Rule.textAt_project hf] at ht
  exact ⟨source, hm, hid, hq, ht⟩

/-- A document that was read leads through maps to its format. -/
theorem Requested.openAt (hf : '.' ∉ format.toList) {documents : List Document} {limit : Int}
    {request : UpdateRequest} (hk : Collection.Keyed documents)
    (hr : Requested rule (rule.path format) (Collection.select (rule.query format)
      (rule.path format) limit documents) request) :
    Collection.OpenAt format request.id documents := by
  obtain ⟨source, hm, hid, -, ht⟩ := hr.source hf
  intro document hd hdid
  rw [hk.eq_of_id? hd hm (hdid.trans hid.symm)]
  exact Value.MapsAlong.of_reach? ht

/-- What an update of a batch asks for: the id is that of a document, and the old value is one in
which the pattern of the rule is found. -/
theorem Batch.Sound.request_spec {batch : Batch} {update : Update} (hs : batch.Sound plan schedule)
    (hf : '.' ∉ batch.format.toList) (hm : update ∈ batch.updates) :
    update.request.path = batch.rule.path batch.format ∧ update.request.id.isKey = true ∧
      batch.rule.pattern.found update.request.old = true := by
  obtain ⟨documents, ho, hr⟩ := hs.requested update hm
  have hpath := hr.path_eq
  rw [hs.found documents ho] at hr
  obtain ⟨source, hmem, hid, hq, ht⟩ := hr.source hf
  obtain ⟨key, hkey, hk⟩ := hs.keyed.key source hmem
  rw [hid, Option.some.injEq] at hkey
  exact ⟨hpath, hkey ▸ hk, Rule.found_of_query hf hq ht⟩

/-- **The updates of a batch**, if it was read from the documents at the site. -/
theorem fixDocuments_sound (plan : Plan) (hl : schedule.Lawful) (hf : '.' ∉ format.toList)
    {site : Site} (hk : Collection.Keyed site.documents) {limit : Int} (result : RuleResult)
    (hp : result.path = rule.path format) {documents : List Document}
    (hd : documents = Collection.select (rule.query format) (rule.path format) limit
      site.documents) :
    ∃ updates : List Update, moments schedule (fixDocuments plan rule result documents) site =
        updates.map .updated ∧
      (∀ update ∈ updates, Requested rule (rule.path format) documents update.request ∧
        Collection.Keyed update.before ∧ update.Carried) ∧
      (schedule.KeepsMaps format → ∀ update ∈ updates,
        Collection.OpenAt format update.request.id update.before) ∧
      Collection.Keyed
        (perform schedule (fixDocuments plan rule result documents) site).site.documents := by
  have hdoes := fixDocuments_does plan rule result fun _ (h : _ ∈ documents) => h
  rw [hp] at hdoes
  obtain ⟨hms, hend⟩ := moments_sound Collection.Keyed
    (fun _ _ edit he _ => Edit.keyed (hl.ids _ _ edit he))
    (fun request hr ds hk => hr.keyed hf hk _ _) hdoes hk
  obtain ⟨updates, hu, hall⟩ := exists_updates hms
  refine ⟨updates, hu, hall, fun hmaps update hmem => ?_, hend⟩
  -- the same calls, with a stronger invariant: what was read stays open to its format
  obtain ⟨hms', -⟩ := moments_sound
    (fun ds => ∀ request, Requested rule (rule.path format) documents request →
      Collection.OpenAt format request.id ds)
    (fun _ _ edit he ds ho request hr =>
      Edit.open_at (hl.ids _ _ edit he) (hmaps _ _ edit he) (ho request hr))
    (fun asked hasked ds ho request hr => by
      rw [hasked.path_eq]
      exact (ho request hr).updateFirst hf _ _)
    hdoes (fun request hr => Requested.openAt hf hk (hd ▸ hr))
  have hsound := hms' (.updated update) (by rw [hu]; exact List.mem_map_of_mem hmem)
  exact hsound.2.1 _ (hall update hmem).1

/-- The find of a batch as it goes at a site. -/
def searchAt (plan : Plan) (rule : Rule) (format : String) (schedule : Schedule) (site : Site) :
    Search where
  request := batch plan rule format
  cap := site.cap schedule (batch plan rule format)
  met := site.meets schedule .find
  outcome := (site.find schedule (batch plan rule format)).1

/-- **A batch without updates is sound**, whether or not its find fails. -/
theorem searchAt_sound (plan : Plan) (rule : Rule) (format : String) (hl : schedule.Lawful)
    {site : Site} (hk : Collection.Keyed site.documents) :
    Batch.Sound plan schedule ⟨format, rule, searchAt plan rule format schedule site, []⟩ where
  asked := rfl
  keyed := Site.meets_induct (fun _ _ edit he _ => Edit.keyed (hl.ids _ _ edit he)) .find hk
  found := fun _ h => Site.find_ok (hl.cursors site.finds) h
  requested := by simp
  carried := by simp
  opened := by simp

/-- **A rule applied to a format is one batch**, whose counters a live result holds. -/
theorem fixRule_ensures (hl : schedule.Lawful) (hf : '.' ∉ format.toList) :
    (fixRule plan format rule).Ensures schedule Collection.Keyed
      (fun b => b.format = format ∧ b.rule = rule ∧ b.Sound plan schedule)
      fun result => Staged (fun b r => plan.dryRun = false → b.Tallied r) [(format, rule)]
        [result] := by
  intro site hkeyed
  have hsound := searchAt_sound plan rule format hl hkeyed
  have hdocs := Site.documents_find schedule site (batch plan rule format)
  rw [fixRule_eq]
  simp only [moments, perform]
  rcases hfind : site.find schedule (batch plan rule format) with ⟨outcome, after, call⟩
  rw [searchAt, hfind] at hsound
  rw [hfind] at hdocs
  simp only at hdocs hsound
  rw [← hdocs] at hsound ⊢
  cases outcome with
  | error failure =>
    refine ⟨[_], ?_, List.forall_mem_singleton.2 ⟨rfl, rfl, hsound⟩, hsound.keyed, by simp⟩
    rfl
  | ok documents =>
    obtain ⟨updates, hu, hall, hopen, hend⟩ := fixDocuments_sound plan hl hf hsound.keyed
      { format, rule := rule.name, path := rule.path format, matched := documents.length } rfl
      (hsound.found documents rfl)
    refine ⟨[⟨format, rule, ⟨batch plan rule format, site.cap schedule (batch plan rule format),
      after.documents, .ok documents⟩, updates⟩], by simp [Batch.moments, hu], ?_, hend, ?_⟩
    · simp only [List.forall_mem_singleton, true_and]
      exact { hsound with
        requested := fun u hm => ⟨documents, rfl, (hall u hm).1⟩
        carried := fun u hm => (hall u hm).2
        opened := hopen }
    · refine fun result hr => ⟨rfl, .cons (fun hlive => ?_) .nil⟩
      obtain ⟨counted, hc, hcounts⟩ := fixDocuments_counts hlive schedule rule documents
        { format, rule := rule.name, path := rule.path format, matched := documents.length } after
      -- a moment tells its update, so what is counted is what was found sound
      obtain rfl : counted = updates := by
        apply List.map_injective_iff.2 (fun _ _ => Moment.updated.inj)
        rw [← hc, ← hu]
      obtain ⟨hformat, hrule, -⟩ := (perform_of_does (fixDocuments_does plan rule _
        fun _ h => h) after).2 result hr
      have hgrown := hcounts result hr
      exact ⟨hformat, hrule, by simpa using hgrown.rewritten, by simpa using hgrown.changed,
        by simpa using hgrown.conflicts⟩

/-- **A batch of a run**: of one of its formats and one of its rules, and sound. -/
structure Batch.OfRun (plan : Plan) (rules : List Rule) (schedule : Schedule) (batch : Batch) :
    Prop where
  format : batch.format ∈ plan.formats
  rule : batch.rule ∈ rules
  sound : batch.Sound plan schedule

/-- **A run is a sequence of batches** of its formats and rules, which a live report counts. -/
theorem run_ensures (rules : List Rule) (hl : schedule.Lawful)
    (hp : ∀ format ∈ plan.formats, '.' ∉ format.toList) :
    (run plan rules).Ensures schedule Collection.Keyed (Batch.OfRun plan rules schedule)
      fun report batches =>
        plan.dryRun = false → List.Forall₂ Batch.Tallied batches report.results := by
  have hstage : ∀ format ∈ plan.formats, ∀ rule ∈ rules,
      (fixRule plan format rule).Ensures schedule Collection.Keyed
        (Batch.OfRun plan rules schedule) fun result =>
          Staged (fun b r => plan.dryRun = false → b.Tallied r) [(format, rule)] [result] := by
    intro format hformat rule hrule
    exact (fixRule_ensures hl (hp format hformat)).mono
      (fun b ⟨h1, h2, h3⟩ => ⟨h1 ▸ hformat, h2 ▸ hrule, h3⟩) fun _ _ h => h
  refine (run_staged hstage).mono (fun _ h => h) ?_
  rintro report batches ⟨passes, -, hstaged⟩ hlive
  exact hstaged.related.imp fun _ _ h => h hlive

end Fix

end Relink
