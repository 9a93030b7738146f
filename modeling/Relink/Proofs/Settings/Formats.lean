import Mathlib.Data.List.Forall2
import Relink.Proofs.Settings.Sections
import Relink.Proofs.Text.Pieces

/-!
# The download formats of a plan

The formats of a plan are those that are given, each kept once and where it was given first, or those
that a text of the environment lists between commas. None of them is lost on the way, none is put in,
and none comes twice: a format that came twice would be processed twice in each pass.

* `pairwise_distinct`: formats stay in the order in which they were given first.
* `Settings.readList_eq_iff`: what a text lists.
* `Plan.Others.build_iff`: the lists that are accepted, with the plans that come of them.
* `Plan.formats_normalised`: all of this for the formats of a plan.
-/

namespace Relink

open Settings

/-- **Texts stay in the order in which they stood first.** -/
theorem pairwise_distinct (xs : List String) :
    (distinct xs).Pairwise fun x y => xs.idxOf x < xs.idxOf y := by
  induction xs with
  | nil => exact List.Pairwise.nil
  | cons first rest ih =>
    -- whatever is not the first text stands one place later than in the rest
    have hlater : ∀ x, x ≠ first → (first :: rest).idxOf x = rest.idxOf x + 1 := by
      intro x hx
      rw [List.idxOf_cons_ne _ (Ne.symm hx)]
    have hkept : ∀ x ∈ (distinct rest).filter (· != first), x ≠ first := by
      intro x hx
      simpa using (List.mem_filter.1 hx).2
    rw [distinct, List.pairwise_cons]
    constructor
    · intro x hx
      rw [List.idxOf_cons_self, hlater x (hkept x hx)]
      omega
    · refine (ih.filter _).imp_of_mem ?_
      intro x y hx hy hxy
      rw [hlater x (hkept x hx), hlater y (hkept y hy)]
      omega

namespace Settings

variable {text : String} {listed : List String}

/-- **What a text lists**: the cores of its pieces between commas, where they are not empty. -/
def Lists (text : String) (listed : List String) : Prop :=
  ∃ pieces cores : List String,
    (pieces ≠ [] ∧ (∀ piece ∈ pieces, ',' ∉ piece.toList) ∧ ",".intercalate pieces = text) ∧
      List.Forall₂ Text.Core pieces cores ∧ cores.filter (· != "") = listed

/-- **Reading a list from a text** gives what the text lists. -/
theorem readList_eq_iff : readList text = listed ↔ Lists text listed := by
  constructor
  · intro h
    refine ⟨Text.split ',' text, (Text.split ',' text).map Text.trim, Text.split_eq_iff.1 rfl, ?_, h⟩
    rw [List.forall₂_map_right_iff, List.forall₂_same]
    intro piece _
    exact Text.trim_eq_iff.1 rfl
  · rintro ⟨pieces, cores, hpieces, hcores, hlisted⟩
    have hsplit : Text.split ',' text = pieces := Text.split_eq_iff.2 hpieces
    have htrim : pieces.map Text.trim = cores := by
      rw [← List.forall₂_eq_eq_eq, List.forall₂_map_left_iff]
      exact hcores.imp fun piece core h => Text.trim_eq_iff.2 h
    rw [readList, hsplit, htrim, hlisted]

/-- **A list is read back from its texts joined by commas**, if they are not empty, have no commas
and no blanks around them. -/
theorem lists_intercalate (hne : listed ≠ []) (hempty : ∀ s ∈ listed, s ≠ "")
    (h : ∀ s ∈ listed, ',' ∉ s.toList ∧ Text.Unpadded s) :
    Lists (",".intercalate listed) listed := by
  refine ⟨listed, listed, ⟨hne, fun s hs => (h s hs).1, rfl⟩, ?_, ?_⟩
  · rw [List.forall₂_same]
    intro s hs
    exact (h s hs).2.core_self
  · rw [List.filter_eq_self]
    intro s hs
    exact bne_iff_ne.2 (hempty s hs)

theorem FirstPresent.unique {α : Type} {spells : String → Except Refusal α} {usual a b : α}
    {given? : Option α} {text : Option String} (h : FirstPresent spells usual given? text a)
    (h' : FirstPresent spells usual given? text b) : a = b :=
  Except.ok.inj ((firstPresent_iff.1 h).symm.trans (firstPresent_iff.1 h'))

end Settings

namespace Plan

variable {env : Environment} {parts : Given} {plan built : Plan} {formats : List String}

/-- **All of a plan but its formats**: given, or from the environment, with valid caps. -/
structure Others (env : Environment) (parts : Given) (plan : Plan) : Prop where
  limit : FirstPresent readNumber 10 parts.limit (env .limit) plan.limit
  dryRun : FirstPresent (readFlag .dryRun) true parts.dryRun (env .dryRun) plan.dryRun
  skipUnchanged : FirstPresent (readFlag .skipUnchanged) false parts.skipUnchanged
    (env .skipUnchanged) plan.skipUnchanged
  repeated : FirstPresent (readFlag .repeated) false parts.repeated (env .repeated) plan.repeated
  maxPasses : FirstPresent readNumber 100 parts.maxPasses (env .maxPasses) plan.maxPasses
  limit_pos : 1 ≤ plan.limit
  maxPasses_pos : 1 ≤ plan.maxPasses

/-- **The lists that are accepted**, and the plan that comes of them. -/
theorem Others.build_iff (h : plan.Others env parts) :
    build env { parts with formats := some formats } = .ok built ↔
      (formats ≠ [] ∧ ∀ format ∈ formats,
        format ≠ "" ∧ '.' ∉ format.toList ∧ format.toList.head? ≠ some '$') ∧
      built = { plan with formats := distinct formats } := by
  have hmem : ∀ format, format ∈ distinct formats ↔ format ∈ formats := fun _ => mem_distinct
  have hnil : distinct formats = [] ↔ formats = [] := by
    simp only [List.eq_nil_iff_forall_not_mem, hmem]
  rw [Plan.build_iff]
  constructor
  · rintro ⟨hdrawn, hvalid⟩
    obtain ⟨given, hgiven, hformats⟩ := hdrawn.formats
    obtain rfl : formats = given := (FirstPresent.given formats _).unique hgiven
    refine ⟨⟨?_, ?_⟩, ?_⟩
    · have hne := hvalid.formats_ne
      rwa [hformats, ne_eq, hnil] at hne
    · intro format hf
      exact hvalid.formats format (hformats ▸ (hmem format).2 hf)
    · obtain ⟨kept, limit, dryRun, skipUnchanged, repeated, maxPasses⟩ := built
      simp only [Plan.mk.injEq]
      exact ⟨hformats, hdrawn.limit.unique h.limit, hdrawn.dryRun.unique h.dryRun,
        hdrawn.skipUnchanged.unique h.skipUnchanged, hdrawn.repeated.unique h.repeated,
        hdrawn.maxPasses.unique h.maxPasses⟩
  · rintro ⟨⟨hne, hall⟩, rfl⟩
    refine ⟨⟨⟨formats, .given formats _, rfl⟩, h.limit, h.dryRun, h.skipUnchanged, h.repeated,
      h.maxPasses⟩, ⟨mt hnil.1 hne, ?_, nodup_distinct formats, h.limit_pos, h.maxPasses_pos⟩⟩
    intro format hf
    exact hall format ((hmem format).1 hf)

/-- A plan from a text that lists formats is the plan with those formats given. -/
theorem build_of_lists {text : String} {listed : List String} (henv : env .formats = some text)
    (hne : text ≠ "") (h : Lists text listed) :
    build env { parts with formats := none } = build env { parts with formats := some listed } := by
  have hread : formatsOf env = listed := by
    simp only [formatsOf, henv, beq_iff_eq, hne, if_false, readList_eq_iff.2 h]
  simp only [build, Option.getD_none, Option.getD_some, hread]

/-- **A plan keeps the formats that are given**: each once, in the order in which they were given
first, and in such a way that looking at the plan again leaves it as it is. -/
structure Keeps (formats : List String) (built : Plan) : Prop where
  nodup : built.formats.Nodup
  mem_iff : ∀ format, format ∈ built.formats ↔ format ∈ formats
  order : built.formats.Pairwise fun x y => formats.idxOf x < formats.idxOf y
  stable : built.normalised = built ∧ built.check = .ok ()

theorem Others.keeps (h : plan.Others env parts)
    (hb : build env { parts with formats := some formats } = .ok built) :
    built.Keeps formats := by
  have haccepted : built.Accepted := accepted_of_build hb
  obtain ⟨-, rfl⟩ := h.build_iff.1 hb
  refine ⟨haccepted.nodup, fun _ => mem_distinct, pairwise_distinct formats, ?_, haccepted.check⟩
  rw [normalised, distinct_of_nodup haccepted.nodup]

/-- **Building again** from the formats that were kept gives the same plan. -/
theorem Others.build_again (h : plan.Others env parts)
    (hb : build env { parts with formats := some formats } = .ok built) :
    build env { parts with formats := some built.formats } = .ok built := by
  have hkeeps := h.keeps hb
  obtain ⟨hne, hall, -, -⟩ := check_ok.1 hkeeps.stable.2
  obtain ⟨-, hbuilt⟩ := h.build_iff.1 hb
  refine h.build_iff.2 ⟨⟨hne, fun format hf => isFormat_iff.1 (hall format hf)⟩, ?_⟩
  rw [distinct_of_nodup hkeeps.nodup, hbuilt]

/-- **Formats are read back** from the text in which they are joined by commas. -/
theorem Others.build_intercalate (h : plan.Others env parts)
    (hb : build env { parts with formats := some formats } = .ok built)
    (hplain : ∀ format ∈ built.formats, ',' ∉ format.toList ∧ Text.Unpadded format)
    (henv : env .formats = some (",".intercalate built.formats)) :
    build env { parts with formats := none } = .ok built := by
  obtain ⟨hne, hall, -, -⟩ := check_ok.1 (h.keeps hb).stable.2
  have hlists : Lists (",".intercalate built.formats) built.formats :=
    lists_intercalate hne (fun format hf => (isFormat_iff.1 (hall format hf)).1) hplain
  have hjoined : ",".intercalate built.formats ≠ "" := by
    intro hempty
    have hnothing : readList "" = built.formats := readList_eq_iff.2 (hempty ▸ hlists)
    exact hne hnothing.symm
  rw [build_of_lists henv hjoined hlists, h.build_again hb]

/-- **The formats of a plan**, where all else about it is valid. A list is accepted exactly if it is
not empty, and none of its formats is empty, holds a dot or begins with a dollar sign; the plan keeps
its formats, and only they matter to it. A text of the environment that is not empty counts as the
list of its pieces between commas, trimmed and without empty ones. So accepted formats without commas
and without blanks around them are read back from the text in which they are joined by commas. -/
theorem formats_normalised (h : plan.Others env parts) :
    (∀ formats,
      ((∃ built, build env { parts with formats := some formats } = .ok built) ↔
        formats ≠ [] ∧ ∀ format ∈ formats,
          format ≠ "" ∧ '.' ∉ format.toList ∧ format.toList.head? ≠ some '$') ∧
      ∀ built, build env { parts with formats := some formats } = .ok built →
        built = { plan with formats := built.formats } ∧ built.Keeps formats) ∧
    (∀ text, env .formats = some text → text ≠ "" →
      (∃ listed, Lists text listed) ∧
      ∀ listed, Lists text listed → build env { parts with formats := none } =
        build env { parts with formats := some listed }) ∧
    ∀ formats built, build env { parts with formats := some formats } = .ok built →
      (∀ format ∈ built.formats, ',' ∉ format.toList ∧ Text.Unpadded format) →
      env .formats = some (",".intercalate built.formats) →
      build env { parts with formats := none } = .ok built := by
  refine ⟨fun formats => ⟨⟨?_, ?_⟩, fun built hb => ⟨?_, h.keeps hb⟩⟩, fun text henv hne => ?_,
    fun formats built => h.build_intercalate⟩
  · rintro ⟨built, hb⟩
    exact (h.build_iff.1 hb).1
  · intro hvalid
    exact ⟨_, h.build_iff.2 ⟨hvalid, rfl⟩⟩
  · obtain ⟨-, rfl⟩ := h.build_iff.1 hb
    rfl
  · exact ⟨⟨_, readList_eq_iff.1 rfl⟩, fun listed hl => build_of_lists henv hne hl⟩

/-- The environment that names some formats twice, with blanks and with nothing between commas. -/
def crowdedFormats : Environment
  | .formats => some " csv ,, xls,csv"
  | _ => none

/-- A text with a format twice and with an empty piece: each format is kept once. -/
theorem formats_normalised_crowded :
    let plan : Plan := ⟨[], 10, true, false, false, 100⟩
    plan.Others crowdedFormats {} ∧ Lists " csv ,, xls,csv" ["csv", "xls", "csv"] ∧
      ∃ built, build crowdedFormats {} = .ok built ∧ built.Keeps ["csv", "xls", "csv"] := by
  intro plan
  have hothers : plan.Others crowdedFormats {} :=
    ⟨.usual, .usual, .usual, .usual, .usual, by decide, by decide⟩
  have hlists : Lists " csv ,, xls,csv" ["csv", "xls", "csv"] :=
    readList_eq_iff.1 (by decide +kernel)
  obtain ⟨hgiven, htext, -⟩ := formats_normalised hothers
  obtain ⟨haccepted, hkept⟩ := hgiven ["csv", "xls", "csv"]
  obtain ⟨-, hread⟩ := htext " csv ,, xls,csv" rfl (by decide)
  obtain ⟨built, hb⟩ := haccepted.2 (by decide)
  exact ⟨hothers, hlists, built, (hread _ hlists).trans hb, (hkept built hb).2⟩

end Plan

end Relink
