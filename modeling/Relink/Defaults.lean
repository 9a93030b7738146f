import Relink.Rule

/-!
# The default rules and formats

Three corrections of obsolete download domains and buckets, and the download formats to which
they apply. The patterns are given as trees, and reading their texts gives the same trees.

* `read_defaultPatterns`: the trees are what reading gives.
-/

namespace Relink.Defaults

open Pattern

/-- The download formats, in the order in which they are processed. -/
def formats : List String := ["xlsx", "xls", "csv", "csvw"]

/-- The pattern of the first rule. -/
def commandPattern : Pattern := ⟨"onsdigital", .literal {} "onsdigital".toList⟩

/-- The pattern of the second rule, whose points stand for any character. -/
def betaPattern : Pattern where
  source := "download.beta.ons"
  tree := .row (
    "download".toList.map (fun c => .char {} (.one c.toNat)) ++ .any false ::
    "beta".toList.map (fun c => .char {} (.one c.toNat)) ++ .any false ::
    "ons".toList.map (fun c => .char {} (.one c.toNat)))

/-- The pattern of the third rule. -/
def staticPattern : Pattern := ⟨"static-cmd\\.s3", .literal {} "static-cmd.s3".toList⟩

/-- The patterns of the rules. -/
def patterns : List Pattern := [commandPattern, betaPattern, staticPattern]

/-- **The trees are what reading gives.** -/
theorem read_defaultPatterns : ∀ p ∈ patterns, Pattern.read p.source = .ok p := by
  have trees : ∀ p ∈ patterns, (Pattern.read p.source).toOption = some p := by decide +kernel
  intro p hp
  have h := trees p hp
  cases hr : Pattern.read p.source with
  | error _ => simp [hr, Except.toOption] at h
  | ok q => simp_all [Except.toOption]

/-- Links of the former download domain. -/
def command : Rule where
  name := "cmd-download"
  field := .href
  pattern := commandPattern
  old := "//download.cmd.onsdigital.co.uk/"
  new := "//download.ons.gov.uk/"

/-- Links of the trial download domain. -/
def beta : Rule where
  name := "beta-download"
  field := .href
  pattern := betaPattern
  old := "//download.beta.ons."
  new := "//download.ons."

/-- Links into the former bucket. -/
def static : Rule where
  name := "static-bucket"
  field := .publicLink
  pattern := staticPattern
  old := "//static-cmd.s3"
  new := "//ons-dp-production-static.s3"

/-- The default rules, in the order in which they are applied. -/
def rules : List Rule := [command, beta, static]

end Relink.Defaults
