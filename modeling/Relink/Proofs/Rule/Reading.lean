import Mathlib.Data.List.Infix
import Relink.Defaults
import Relink.Proofs.Rule.Relink
import Relink.Proofs.Settings.Plan

/-!
# What a query selects, and what is read

A query looks into lists, by members and by numbers; cutting a document down to a path goes through
lists and keeps them; and reading a path goes through maps only. Still, on the path of a rule the
three agree: cutting changes nothing of what is read, and of a selected document the text that was
looked for is read, unless a list is met.

* `Value.noList_iff`: no list is met exactly if none is reached along a front of the steps.
* `Rule.meetsList_iff`: where a list can be met on the path of a rule.
* `Rule.reading_agrees`: cutting, selecting and reading agree.
-/

namespace Relink

namespace Value

variable {v w : Value} {steps : List String}

/-- **No list is met** exactly if none is reached along a front of the steps. -/
theorem noList_iff :
    NoList steps v ↔ ∀ front, front <+: steps → ∀ items, reach? front v ≠ some (list items) := by
  induction steps generalizing v with
  | nil =>
    simp only [List.prefix_nil, forall_eq, reach?_nil, ne_eq, Option.some.injEq]
    rfl
  | cons step rest ih =>
    constructor
    · rintro ⟨hv, hrest⟩ front hfront items hr
      rcases List.prefix_cons_iff.1 hfront with rfl | ⟨more, rfl, hmore⟩
      · exact hv items (Option.some.inj hr)
      · obtain ⟨u, hu, hr⟩ := Option.bind_eq_some_iff.1 hr
        exact ih.1 (hrest u hu) more hmore items hr
    · intro h
      refine ⟨fun items hv => h [] (List.nil_prefix) items (congrArg some hv), fun u hu => ?_⟩
      refine ih.2 fun front hfront items hr => h (step :: front) ?_ items ?_
      · exact List.prefix_cons_inj step |>.2 hfront
      · simp [reach?, hu, hr]

/-- **Where something other than a list is reached**, none is met on the way. -/
theorem NoList.of_reach? (h : reach? steps v = some w) (hw : ∀ items, w ≠ list items) :
    NoList steps v := by
  induction steps generalizing v with
  | nil =>
    obtain rfl : v = w := Option.some.inj h
    exact hw
  | cons step rest ih =>
    obtain ⟨u, hu, hr⟩ := Option.bind_eq_some_iff.1 h
    obtain ⟨fields, rfl, -⟩ := child?_eq_some hu
    refine ⟨by simp, fun u' hu' => ?_⟩
    obtain rfl : u = u' := Option.some.inj (hu.symm.trans hu')
    exact ih hr

end Value

namespace Rule

variable {rule : Rule} {format : String} {document : Document}

/-- **A list is met** at the downloads of a document, at the entry of a format, or in its link. -/
def MeetsList (rule : Rule) (format : String) (document : Document) : Prop :=
  ∃ front ∈ [[downloadsKey], entry format, rule.way format],
    ∃ items, Value.reach? front (.map document) = some (.list items)

/-- A document is a map, so a list can be met in three places only. -/
theorem meetsList_iff :
    rule.MeetsList format document ↔ ¬ Value.NoList (rule.way format) (.map document) := by
  have hfronts : ∀ front, front <+: rule.way format ↔
      front = [] ∨ front ∈ [[downloadsKey], entry format, rule.way format] := by
    intro front
    rw [← List.mem_inits]
    simp [way, entry]
  rw [Value.noList_iff, MeetsList]
  simp only [not_forall, not_not]
  constructor
  · rintro ⟨front, hm, items, hr⟩
    exact ⟨front, (hfronts front).2 (Or.inr hm), items, hr⟩
  · rintro ⟨front, hprefix, items, hr⟩
    rcases (hfronts front).1 hprefix with rfl | hm
    · cases hr
    · exact ⟨front, hm, items, hr⟩

/-- **Of a selected document** on which no list is met, a text is read in which the pattern is
found. -/
theorem exists_textAt (hf : '.' ∉ format.toList) (hq : (rule.query format).holds document = true)
    (hn : Value.NoList (rule.way format) (.map document)) :
    ∃ s, document.textAt (rule.path format) = .ok s ∧ rule.pattern.found s = true := by
  have hselects : rule.selects format document = true := by rwa [← holds_query_eq hf hn]
  obtain ⟨s, hs, hfound⟩ := selects_iff.1 hselects
  exact ⟨s, (textAt_eq_ok_iff hf).2 (text?_eq_some.1 hs), hfound⟩

/-- **Where a text is read** no list is met. -/
theorem not_meetsList_of_textAt {s : String} (hf : '.' ∉ format.toList)
    (h : document.textAt (rule.path format) = .ok s) : ¬ rule.MeetsList format document := by
  rw [meetsList_iff, not_not]
  exact Value.NoList.of_reach? ((textAt_eq_ok_iff hf).1 h) (by simp)

/-- **Cutting, selecting and reading agree** on the path of a rule, whatever a document holds. What
is read of the document cut down to the path is what is read of the document: the same text, or the
same fault, which is that of a malformed document. And of a document that the query selects, nothing
is read exactly if a list is met at the downloads, at the entry of the format or in the link; else
a text is read in which the pattern is found. -/
theorem reading_agrees (h : Plan.isFormat format = true) (rule : Rule) (document : Document) :
    (document.project (rule.path format)).textAt (rule.path format) =
        document.textAt (rule.path format) ∧
      (∀ failure, document.textAt (rule.path format) = .error failure → failure.Malformed) ∧
      ((rule.query format).holds document = true →
        ((∃ failure, document.textAt (rule.path format) = .error failure) ↔
          rule.MeetsList format document) ∧
        (¬ rule.MeetsList format document →
          ∃ s, document.textAt (rule.path format) = .ok s ∧ rule.pattern.found s = true)) := by
  have hf := Plan.no_dot_of_isFormat h
  refine ⟨textAt_project_eq hf document, fun _ => Document.malformed_of_textAt, fun hq => ?_⟩
  have hreads : ¬ rule.MeetsList format document →
      ∃ s, document.textAt (rule.path format) = .ok s ∧ rule.pattern.found s = true := by
    rw [meetsList_iff, not_not]
    exact exists_textAt hf hq
  refine ⟨⟨?_, fun hm => ?_⟩, hreads⟩
  · rintro ⟨failure, hfailure⟩
    by_contra hnone
    obtain ⟨s, hs, -⟩ := hreads hnone
    rw [hs] at hfailure
    cases hfailure
  · cases ht : document.textAt (rule.path format) with
    | error failure => exact ⟨failure, rfl⟩
    | ok s => exact absurd hm (not_meetsList_of_textAt hf ht)

/-- The downloads are a list, and the format is read as a number in it. -/
def numbered : Document :=
  [("_id", .int 1), (downloadsKey,
    .list [.map [("href", .text "http://download.cmd.onsdigital.co.uk/a.csv")]])]

/-- A document that a query selects by a number in a list, and of which nothing is read. -/
theorem reading_agrees_numbered :
    Plan.isFormat "0" = true ∧ (Defaults.command.query "0").holds numbered = true ∧
      Defaults.command.MeetsList "0" numbered ∧
      ∃ failure, numbered.textAt (Defaults.command.path "0") = .error failure := by
  have hf : Plan.isFormat "0" = true := by decide
  have hq : (Defaults.command.query "0").holds numbered = true := by decide +kernel
  have hm : Defaults.command.MeetsList "0" numbered :=
    ⟨[downloadsKey], List.mem_cons_self, _, rfl⟩
  obtain ⟨-, -, hselected⟩ := reading_agrees hf Defaults.command numbered
  exact ⟨hf, hq, hm, (hselected hq).1.2 hm⟩

end Rule

end Relink
