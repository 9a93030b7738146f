import Relink.Number.Whole

/-!
# Options of the command

How the arguments of the command are read: long options with their value attached or next, short
ones with it attached or next, switches, and `--`, after which nothing is an option.

* `convert_ok`: counts that are accepted are at least one.
-/

namespace Relink.Command

/-- An option of the command. -/
inductive Flag where
  /-- The cap on the documents of a format and rule. -/
  | limit
  /-- A download format. -/
  | format
  /-- Whether to write. -/
  | apply
  /-- Whether not to write. -/
  | dryRun
  /-- Whether values without the text to replace are skipped. -/
  | skipUnchanged
  /-- Whether passes are repeated. -/
  | repeated
  /-- The greatest number of passes. -/
  | maxPasses
  /-- The address of the database. -/
  | uri
  | database
  | collection
  /-- Whether a summary is printed. -/
  | summary
  /-- Whether no summary is printed. -/
  | noSummary
  | logLevel
  deriving DecidableEq, Repr

namespace Flag

/-- The long spelling of an option. -/
def long : Flag → String
  | limit => "--limit"
  | format => "--format"
  | apply => "--apply"
  | dryRun => "--dry-run"
  | skipUnchanged => "--skip-unchanged"
  | repeated => "--repeat"
  | maxPasses => "--max-passes"
  | uri => "--mongo-uri"
  | database => "--database"
  | collection => "--collection"
  | summary => "--summary"
  | noSummary => "--no-summary"
  | logLevel => "--log-level"

/-- The options. -/
def all : List Flag :=
  [limit, format, apply, dryRun, skipUnchanged, repeated, maxPasses, uri, database, collection,
    summary, noSummary, logLevel]

/-- The option with a long spelling. -/
def ofLong? (spelling : String) : Option Flag := all.find? (·.long == spelling)

/-- The option with a letter. -/
def ofShort? : Char → Option Flag
  | 'l' => some limit
  | 'f' => some format
  | _ => none

/-- Whether an option has a value. -/
def takesValue : Flag → Bool
  | limit | format | maxPasses | uri | database | collection | logLevel => true
  | apply | dryRun | skipUnchanged | repeated | summary | noSummary => false

theorem ofLong?_long (flag : Flag) : ofLong? flag.long = some flag := by cases flag <;> decide

end Flag

/-- Why the arguments are refused. -/
inductive UsageFault where
  /-- There is no such option. -/
  | noSuchOption (spelling : String)
  /-- An option lacks its value. -/
  | noValue (spelling : String)
  /-- A switch is given a value. -/
  | unwantedValue (spelling : String)
  /-- A count is no whole number. -/
  | notWhole (option : Flag) (text : String)
  | belowOne (option : Flag) (count : Int)
  /-- There are arguments that are no options. -/
  | extra (arguments : List String)
  deriving DecidableEq, Repr

/-- The spellings of an option, as they stand in a message. -/
def Flag.spellings : Flag → String
  | .limit => "'--limit' / '-l'"
  | .format => "'--format' / '-f'"
  | flag => "'" ++ flag.long ++ "'"

/-- The wording of a usage fault. -/
def UsageFault.message : UsageFault → String
  | noSuchOption spelling => "No such option " ++ Text.quoted spelling ++ "."
  | noValue spelling => "Option " ++ Text.quoted spelling ++ " requires an argument."
  | unwantedValue spelling => "Option " ++ Text.quoted spelling ++ " does not take a value."
  | notWhole option text =>
    "Invalid value for " ++ option.spellings ++ ": " ++ Text.quoted text ++
      " is not a valid integer range."
  | belowOne option count =>
    "Invalid value for " ++ option.spellings ++ ": " ++ toString count ++
      " is not in the range x>=1."
  | extra [argument] => "Got unexpected extra argument (" ++ argument ++ ")"
  | extra arguments => "Got unexpected extra arguments (" ++ " ".intercalate arguments ++ ")"

/-- What an argument that begins with a hyphen asks for. -/
inductive Asked where
  | value (option : Flag) (text : String)
  | switch (option : Flag)
  /-- An option whose value is the next argument. -/
  | next (option : Flag) (spelling : String)
  /-- Nothing that is known. -/
  | fault (fault : UsageFault)

/-- What the letter of a short option asks for. -/
def askShort (cs : List Char) : Asked :=
  match cs with
  | '-' :: c :: rest =>
    match Flag.ofShort? c with
    | none => .fault (.noSuchOption (String.ofList ['-', c]))
    | some option =>
      if rest.isEmpty then .next option (String.ofList ['-', c])
      else .value option (String.ofList rest)
  | _ => .fault (.noSuchOption (String.ofList cs))

/-- What an argument that begins with a hyphen asks for. -/
def ask (argument : String) : Asked :=
  let cs := argument.toList
  let name := cs.takeWhile (· != '=')
  let spelling := String.ofList name
  let attached := match cs.drop name.length with
    | _ :: value => some (String.ofList value)
    | [] => none
  match Flag.ofLong? spelling with
  | some option =>
    if option.takesValue then
      match attached with
      | some value => .value option value
      | none => .next option spelling
    else if attached.isSome then .fault (.unwantedValue spelling)
    else .switch option
  | none =>
    if ['-', '-'].isPrefixOf cs then .fault (.noSuchOption spelling) else askShort cs

/-- The arguments, sorted into options in order, with their values, and others. -/
structure Scanned where
  options : List (Flag × String)
  /-- The arguments that are no options. -/
  others : List String
  deriving DecidableEq, Repr

/-- Sorts the arguments. `waiting` is the option whose value comes next. -/
def scan (waiting : Option (Flag × String)) : List String → Except UsageFault Scanned
  | [] => match waiting with
    | some (_, spelling) => .error (.noValue spelling)
    | none => .ok ⟨[], []⟩
  | argument :: rest =>
    let withOption := fun option value =>
      (scan none rest).map fun s => { s with options := (option, value) :: s.options }
    match waiting with
    | some (option, _) => withOption option argument
    | none =>
      if argument == "--" then .ok ⟨[], rest⟩
      -- a hyphen alone is no option
      else if argument.toList.head? == some '-' && argument != "-" then
        match ask argument with
        | .value option value => withOption option value
        | .switch option => withOption option ""
        | .next option spelling => scan (some (option, spelling)) rest
        | .fault fault => .error fault
      else (scan none rest).map fun s => { s with others := argument :: s.others }

/-- The options of the command. -/
structure Options where
  /-- The cap on the documents of a format and rule. -/
  limit : Option Int := none
  /-- The download formats. -/
  formats : List String := []
  /-- Whether to write. -/
  apply : Bool := false
  /-- Whether not to write. -/
  dryRun : Bool := false
  /-- Whether values without the text to replace are skipped. -/
  skipUnchanged : Bool := false
  /-- Whether passes are repeated. -/
  repeated : Bool := false
  /-- The greatest number of passes. -/
  maxPasses : Option Int := none
  /-- The address of the database. -/
  uri : String := ""
  database : String := ""
  collection : String := ""
  /-- Whether a summary is printed. -/
  summary : Bool := true
  /-- The level of the log. -/
  level : String := ""
  deriving DecidableEq, Repr

/-- The value of an option where it stands last. -/
def lastValue (options : List (Flag × String)) (option : Flag) : Option String :=
  options.reverse.lookup option

/-- The count that a text gives to an option. -/
def convert (option : Flag) (text : String) : Except UsageFault Int :=
  match Number.whole text with
  | .error _ => .error (.notWhole option text)
  | .ok count => if count < 1 then .error (.belowOne option count) else .ok count

/-- **An accepted count is at least one.** -/
theorem convert_ok {option : Flag} {text : String} {count : Int}
    (h : convert option text = .ok count) : 1 ≤ count := by
  unfold convert at h
  split at h
  · cases h
  · split at h
    · cases h
    · cases h; omega

/-- The count of an option, if it is given. -/
def countOf (options : List (Flag × String)) (option : Flag) : Except UsageFault (Option Int) :=
  match lastValue options option with
  | none => .ok none
  | some text => (convert option text).map some

/-- The fault of the first count that is refused, in the order in which the options first stand. -/
def countFault? (options : List (Flag × String)) : Option UsageFault :=
  options.findSome? fun entry =>
    if entry.1 == .limit || entry.1 == .maxPasses then
      match countOf options entry.1 with
      | .error fault => some fault
      | .ok _ => none
    else none

/-- The options that the arguments ask for. -/
def Options.read (arguments : List String) : Except UsageFault Options := do
  let scanned ← scan none arguments
  let given := scanned.options
  if let some fault := countFault? given then throw fault
  let limit ← countOf given .limit
  let maxPasses ← countOf given .maxPasses
  if !scanned.others.isEmpty then throw (.extra scanned.others)
  let has := fun option => (lastValue given option).isSome
  return {
    limit, maxPasses
    formats := (given.filter (·.1 == .format)).map Prod.snd
    apply := has .apply
    dryRun := has .dryRun
    skipUnchanged := has .skipUnchanged
    repeated := has .repeated
    uri := (lastValue given .uri).getD ""
    database := (lastValue given .database).getD ""
    collection := (lastValue given .collection).getD ""
    summary := (given.reverse.find? fun entry =>
      entry.1 == .summary || entry.1 == .noSummary).all (·.1 == .summary)
    level := (lastValue given .logLevel).getD "" }

end Relink.Command
