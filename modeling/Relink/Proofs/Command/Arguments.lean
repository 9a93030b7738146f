import Mathlib.Data.List.Forall2
import Relink.Command.Options
import Relink.Proofs.Settings.Credentials

/-!
# Arguments with different addresses

Two lists of arguments are twins if they differ at most in the credentials of the addresses that
are given to `--mongo-uri`, as the next argument or attached to it. Anywhere else an address may not
differ: an argument that is not expected is printed.

* `TwinArguments`: arguments that differ at most in such credentials.
* `scan_twins`: twins are sorted into options alike.
* `read_twins`: twins are refused for the same reason, or ask for the same but for the address.
-/

namespace Relink.Command

/-- The option whose value comes next after an argument, if there is one. -/
def awaits (argument : String) : Option (Flag × String) :=
  if argument.toList.head? == some '-' && argument != "-" then
    match ask argument with
    | .next option spelling => some (option, spelling)
    | _ => none
  else none

/-- **Twin arguments**, read from left to right. The option whose value comes next stands first. -/
inductive TwinArguments : Option (Flag × String) → List String → List String → Prop
  | nil (waiting : Option (Flag × String)) : TwinArguments waiting [] []
  /-- Behind two hyphens nothing is an option. -/
  | closed (rest : List String) : TwinArguments none ("--" :: rest) ("--" :: rest)
  | same {argument : String} {rest rest' : List String} (hopen : argument ≠ "--")
    (h : TwinArguments (awaits argument) rest rest') :
    TwinArguments none (argument :: rest) (argument :: rest')
  /-- An address attached to its option. -/
  | attached {u u' : String} {rest rest' : List String} (hu : Uri.Twins u u')
    (h : TwinArguments none rest rest') :
    TwinArguments none (("--mongo-uri=" ++ u) :: rest) (("--mongo-uri=" ++ u') :: rest')
  /-- The value of an option. -/
  | value (option : Flag) (spelling value : String) {rest rest' : List String}
    (h : TwinArguments none rest rest') :
    TwinArguments (some (option, spelling)) (value :: rest) (value :: rest')
  /-- An address as the next argument. -/
  | address (spelling : String) {u u' : String} {rest rest' : List String} (hu : Uri.Twins u u')
    (h : TwinArguments none rest rest') :
    TwinArguments (some (.uri, spelling)) (u :: rest) (u' :: rest')

/-- **Twin entries**: an option with its value, where an address may differ in its credentials. -/
inductive TwinEntries : Flag × String → Flag × String → Prop
  | same (entry : Flag × String) : TwinEntries entry entry
  | address {u u' : String} (hu : Uri.Twins u u') : TwinEntries (.uri, u) (.uri, u')

/-- Twin arguments, once they are sorted. -/
structure Scanned.Twins (s s' : Scanned) : Prop where
  options : List.Forall₂ TwinEntries s.options s'.options
  others : s.others = s'.others

/-- **Twin options** differ at most in the credentials of the address. -/
inductive Options.Twins : Options → Options → Prop
  | mk (options : Options) {u u' : String} (h : Uri.Twins u u') :
    Twins { options with uri := u } { options with uri := u' }

variable {waiting : Option (Flag × String)} {arguments arguments' : List String}
  {entries entries' : List (Flag × String)}

theorem ask_attached (u : String) : ask ("--mongo-uri=" ++ u) = .value .uri u := by
  have hname : ("--mongo-uri=" ++ u).toList.takeWhile (· != '=') = "--mongo-uri".toList := by
    rw [String.toList_append]
    generalize u.toList = tail
    simp
  have hvalue : ("--mongo-uri=" ++ u).toList.drop "--mongo-uri".toList.length =
      '=' :: u.toList := by
    rw [String.toList_append]
    generalize u.toList = tail
    rfl
  have hflag : Flag.ofLong? "--mongo-uri" = some .uri := Flag.ofLong?_long .uri
  simp only [ask, hname, hvalue, String.ofList_toList, hflag, Flag.takesValue, if_true]

theorem scan_attached (u : String) (rest : List String) :
    scan none (("--mongo-uri=" ++ u) :: rest) =
      (scan none rest).map fun s => { s with options := (.uri, u) :: s.options } := by
  have hlength : ("--mongo-uri=" ++ u).toList.length = 12 + u.toList.length := by
    rw [String.toList_append, List.length_append]
    rfl
  have hlong : ∀ short : String, short.toList.length < 12 → ("--mongo-uri=" ++ u) ≠ short := by
    rintro short hshort rfl
    omega
  have hclosed : ("--mongo-uri=" ++ u == "--") = false :=
    beq_eq_false_iff_ne.2 (hlong "--" (by decide))
  have hhyphen : ("--mongo-uri=" ++ u != "-") = true := bne_iff_ne.2 (hlong "-" (by decide))
  have hhead : ("--mongo-uri=" ++ u).toList.head? = some '-' := by simp
  simp only [scan, hclosed, hhyphen, hhead, ask_attached, Bool.false_eq_true, if_false,
    beq_self_eq_true, Bool.and_self, if_true]

/-- An entry in front of twins. -/
theorem twins_cons {x y : Except UsageFault Scanned} {entry entry' : Flag × String}
    (hxy : Both Scanned.Twins x y) (he : TwinEntries entry entry') :
    Both Scanned.Twins (x.map fun s => { s with options := entry :: s.options })
      (y.map fun s => { s with options := entry' :: s.options }) :=
  hxy.map fun _ _ hs => ⟨.cons he hs.options, hs.others⟩

/-- **Twins are sorted alike**, or refused for the same reason. -/
theorem scan_twins (h : TwinArguments waiting arguments arguments') :
    Both Scanned.Twins (scan waiting arguments) (scan waiting arguments') := by
  induction h with
  | nil waiting =>
    cases waiting with
    | none => exact .ended ⟨.nil, rfl⟩
    | some option => exact .failed _
  | closed rest =>
    unfold scan
    exact .ended ⟨.nil, rfl⟩
  | @same argument rest rest' hopen h ih =>
    unfold awaits at ih
    unfold scan
    simp only [beq_eq_false_iff_ne.2 hopen, Bool.false_eq_true, if_false]
    split
    · next hoption =>
      rw [if_pos hoption] at ih
      cases hask : ask argument with
      | value option value =>
        rw [hask] at ih
        exact twins_cons ih (.same _)
      | switch option =>
        rw [hask] at ih
        exact twins_cons ih (.same _)
      | next option spelling =>
        rw [hask] at ih
        exact ih
      | fault fault => exact .failed fault
    · next hoption =>
      rw [if_neg hoption] at ih
      exact ih.map fun s s' hs => ⟨hs.options, congrArg (argument :: ·) hs.others⟩
  | attached hu h ih =>
    rw [scan_attached, scan_attached]
    exact twins_cons ih (.address hu)
  | value option spelling value h ih =>
    unfold scan
    exact twins_cons ih (.same _)
  | address spelling hu h ih =>
    unfold scan
    exact twins_cons ih (.address hu)

/-- **What is read off entries** that are no addresses is the same for twins. -/
theorem filterMap_twins {α : Type} {f : Flag × String → Option α}
    (hf : ∀ u, f (.uri, u) = none) (h : List.Forall₂ TwinEntries entries entries') :
    entries.filterMap f = entries'.filterMap f := by
  induction h with
  | nil => rfl
  | cons he _ ih =>
    cases he with
    | same entry => rw [List.filterMap_cons, List.filterMap_cons, ih]
    | address hu =>
      rw [List.filterMap_cons_none (hf _), List.filterMap_cons_none (hf _), ih]

theorem filter_twins {p : Flag × String → Bool} (hp : ∀ u, p (.uri, u) = false)
    (h : List.Forall₂ TwinEntries entries entries') : entries.filter p = entries'.filter p := by
  rw [← List.filterMap_eq_filter]
  exact filterMap_twins (fun u => by simp [Option.guard, hp]) h

theorem lastValue_twins {option : Flag} (ho : option ≠ .uri)
    (h : List.Forall₂ TwinEntries entries entries') :
    lastValue entries option = lastValue entries' option := by
  rw [lastValue, lastValue, List.lookup_eq_findSome?, List.lookup_eq_findSome?,
    ← List.head?_filterMap, ← List.head?_filterMap]
  refine congrArg _ (filterMap_twins (fun u => ?_) (List.rel_reverse h))
  simp [ho]

/-- The last addresses of twins are twins. -/
theorem lastValue_uri_twins (h : List.Forall₂ TwinEntries entries entries') :
    Option.Rel Uri.Twins (lastValue entries .uri) (lastValue entries' .uri) := by
  unfold lastValue
  have hreverse := List.rel_reverse h
  generalize entries.reverse = xs at hreverse ⊢
  generalize entries'.reverse = ys at hreverse ⊢
  induction hreverse with
  | nil => exact .none
  | @cons entry entry' _ _ he _ ih =>
    cases he with
    | address hu => exact .some hu
    | same =>
      obtain ⟨flag, value⟩ := entry
      rw [List.lookup_cons, List.lookup_cons]
      split
      · exact .some (.same value)
      · exact ih

theorem countOf_twins {option : Flag} (ho : option ≠ .uri)
    (h : List.Forall₂ TwinEntries entries entries') :
    countOf entries option = countOf entries' option := by
  rw [countOf, countOf, lastValue_twins ho h]

theorem countFault?_twins (h : List.Forall₂ TwinEntries entries entries') :
    countFault? entries = countFault? entries' := by
  unfold countFault?
  rw [← List.head?_filterMap, ← List.head?_filterMap, filterMap_twins (fun _ => rfl) h]
  -- the counts are looked up in the entries themselves
  congr 2
  funext entry
  split
  · next hcounts =>
    have ho : entry.1 ≠ .uri := by
      intro he
      rw [he] at hcounts
      cases hcounts
    rw [countOf_twins ho h]
  · rfl

/-- **Twins ask for the same** but for the address, or are refused for the same reason. -/
theorem read_twins (h : TwinArguments none arguments arguments') :
    Both Options.Twins (Options.read arguments) (Options.read arguments') := by
  unfold Options.read
  refine (scan_twins h).bind fun s s' hs => ?_
  obtain ⟨hoptions, hothers⟩ := hs
  have hcount := fun (option : Flag) (ho : option ≠ .uri) => countOf_twins ho hoptions
  have hlast := fun (option : Flag) (ho : option ≠ .uri) => lastValue_twins ho hoptions
  have hformats : s.options.filter (·.1 == .format) = s'.options.filter (·.1 == .format) :=
    filter_twins (fun _ => rfl) hoptions
  have hsummary : (s.options.reverse.find? fun entry =>
        entry.1 == .summary || entry.1 == .noSummary) =
      s'.options.reverse.find? fun entry => entry.1 == .summary || entry.1 == .noSummary := by
    rw [← List.head?_filter, ← List.head?_filter]
    exact congrArg _ (filter_twins (fun _ => rfl) (List.rel_reverse hoptions))
  have huri := rel_getD (lastValue_uri_twins hoptions) (.same "")
  simp (disch := decide) only [countFault?_twins hoptions, hothers, hcount, hformats, hsummary,
    hlast]
  cases countFault? s'.options with
  | some fault => exact .failed fault
  | none =>
    refine Both.bind_same fun limit => Both.bind_same fun maxPasses => ?_
    split
    · exact .failed _
    · exact .ended (.mk ⟨_, _, _, _, _, _, _, "", _, _, _, _⟩ huri)

end Relink.Command
