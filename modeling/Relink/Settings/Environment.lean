import Relink.Number.Whole
import Relink.Text.Case
import Relink.Text.Pieces

/-!
# The environment

The variables that the tool reads, and how truth values, whole numbers and lists are read from
them. What a variable holds is read only if it is set.

* `named?_name`: a variable is found by its name.
* `readFlag_eq_ok`: exactly three spellings mean yes, and three mean no.
* `refuseFirst_eq_ok`: settings pass when none of the conditions against them is met.
-/

namespace Relink

/-- A variable that the tool reads. -/
inductive Variable where
  /-- The address of the database. -/
  | uri
  | database
  | collection
  /-- The name of the user. -/
  | username
  /-- The password of the user. -/
  | password
  /-- Whether the connection is encrypted. -/
  | encrypted
  /-- The time to connect, in seconds. -/
  | connectTimeout
  /-- The time for an answer, in seconds. -/
  | queryTimeout
  /-- The download formats. -/
  | formats
  /-- The cap on the documents of a format and rule. -/
  | limit
  /-- Whether nothing is to be written. -/
  | dryRun
  /-- Whether values without the text to replace are skipped. -/
  | skipUnchanged
  /-- Whether passes are repeated. -/
  | repeated
  /-- The greatest number of passes. -/
  | maxPasses
  | logLevel
  | logFormat
  | logFile
  deriving DecidableEq, Repr

namespace Variable

/-- The name of a variable. -/
def name : Variable → String
  | uri => "MONGODB_BIND_ADDR"
  | database => "MONGODB_DATABASE"
  | collection => "MONGODB_COLLECTION"
  | username => "MONGODB_USERNAME"
  | password => "MONGODB_PASSWORD"
  | encrypted => "MONGODB_IS_SSL"
  | connectTimeout => "MONGODB_CONNECT_TIMEOUT"
  | queryTimeout => "MONGODB_QUERY_TIMEOUT"
  | formats => "LINK_FIXER_FORMATS"
  | limit => "LINK_FIXER_LIMIT"
  | dryRun => "LINK_FIXER_DRY_RUN"
  | skipUnchanged => "LINK_FIXER_SKIP_UNCHANGED"
  | repeated => "LINK_FIXER_REPEAT"
  | maxPasses => "LINK_FIXER_MAX_PASSES"
  | logLevel => "LOG_LEVEL"
  | logFormat => "LOG_FORMAT"
  | logFile => "LOG_FILE"

/-- All variables. -/
def all : List Variable :=
  [uri, database, collection, username, password, encrypted, connectTimeout, queryTimeout, formats,
    limit, dryRun, skipUnchanged, repeated, maxPasses, logLevel, logFormat, logFile]

/-- The variable with a name. -/
def named? (name : String) : Option Variable := all.find? (·.name == name)

theorem named?_name (v : Variable) : named? v.name = some v := by cases v <;> rfl

end Variable

/-- What each variable holds, if it is set. -/
abbrev Environment := Variable → Option String

/-- Why the settings are refused. -/
inductive Settings.Refusal where
  /-- A truth value is spelled otherwise. -/
  | flag (setting : Variable) (value : String)
  /-- A whole number is spelled otherwise. -/
  | number (fault : Number.Fault)
  /-- There is no address. -/
  | noUri
  /-- The address has another scheme. -/
  | scheme
  /-- There is no database. -/
  | noDatabase
  /-- There is no collection. -/
  | noCollection
  /-- There is a password but no user. -/
  | noUsername
  /-- The time to connect is too short. -/
  | connectTimeout
  /-- The time for an answer is too short. -/
  | queryTimeout
  /-- There is no download format. -/
  | noFormats
  /-- A download format cannot be part of a path. -/
  | badFormat (formats : List String)
  /-- The cap is too low. -/
  | limit
  /-- The greatest number of passes is too low. -/
  | maxPasses
  /-- The level is none of the five. -/
  | level
  /-- The level has no number. -/
  | unknownLevel (level : String)
  /-- The level names something else than a number. -/
  | levelNotNumber
  deriving DecidableEq, Repr

/-- The spellings of yes. -/
def yesWords : List String := ["true", "1", "yes"]

/-- The spellings of no. -/
def noWords : List String := ["false", "0", "no"]

namespace Settings

/-- The names of the five levels, as they stand in a message. -/
def levelNames : List String := ["DEBUG", "INFO", "WARNING", "ERROR", "CRITICAL"]

/-- The wording of a refusal. -/
def Refusal.message : Refusal → String
  | flag v value =>
    v.name ++ " must be one of " ++ ", ".intercalate (yesWords ++ noWords) ++ ", got " ++
      Text.quoted value
  | number fault => fault.message
  | noUri => "MongoDB URI is required"
  | scheme => "MongoDB URI must start with mongodb:// or mongodb+srv://"
  | noDatabase => "MongoDB database is required"
  | noCollection => "MongoDB collection is required"
  | noUsername => "MongoDB username is required when a password is set"
  | connectTimeout => "MongoDB connect timeout must be at least 1 second"
  | queryTimeout => "MongoDB query timeout must be at least 1 second"
  | noFormats => "At least one download format is required"
  | badFormat formats => "Invalid download format in " ++ Text.quotedList formats
  | limit => "Limit must be at least 1"
  | maxPasses => "Max passes must be at least 1"
  | level => "Log level must be one of: " ++ Text.quotedList levelNames
  | unknownLevel name => "Invalid log level: " ++ name
  | levelNotNumber =>
    "int() argument must be a string, a bytes-like object or a real number, not 'function'"

/-- The truth value that a text spells for a variable. -/
def readFlag (v : Variable) (text : String) : Except Refusal Bool :=
  let value := Text.lower (Text.trim text)
  if yesWords.contains value then .ok true
  else if noWords.contains value then .ok false
  else .error (.flag v value)

/-- **The six spellings.** -/
theorem readFlag_eq_ok {v : Variable} {text : String} {b : Bool} :
    readFlag v text = .ok b ↔
      Text.lower (Text.trim text) ∈ if b then yesWords else noWords := by
  simp only [readFlag, List.contains_iff_mem]
  have disjoint : ∀ w, w ∈ yesWords → w ∉ noWords := by decide
  cases b <;> by_cases hy : Text.lower (Text.trim text) ∈ yesWords <;>
    by_cases hn : Text.lower (Text.trim text) ∈ noWords <;> simp_all

/-- The whole number that a text spells. -/
def readNumber (text : String) : Except Refusal Int := (Number.whole text).mapError .number

/-- The truth value of a variable, `usual` if it is not set. -/
def flagOf (env : Environment) (v : Variable) (usual : Bool) : Except Refusal Bool :=
  match env v with
  | some text => readFlag v text
  | none => .ok usual

/-- The whole number of a variable, `usual` if it is not set. -/
def numberOf (env : Environment) (v : Variable) (usual : Int) : Except Refusal Int :=
  match env v with
  | some text => readNumber text
  | none => .ok usual

/-- The text of a variable, `usual` if it is not set. -/
def textOf (env : Environment) (v : Variable) (usual : String) : String := (env v).getD usual

/-- The pieces of a text between commas, without blanks around them and without blank ones. -/
def readList (text : String) : List String :=
  ((Text.split ',' text).map Text.trim).filter (· != "")

/-- The refusal of the first condition that is met. -/
def refuseFirst : List (Bool × Refusal) → Except Refusal Unit
  | [] => .ok ()
  | (met, refusal) :: rest => if met then .error refusal else refuseFirst rest

/-- **Nothing is refused** exactly when no condition is met. -/
theorem refuseFirst_eq_ok {conditions : List (Bool × Refusal)} :
    refuseFirst conditions = .ok () ↔ ∀ condition ∈ conditions, condition.1 = false := by
  induction conditions with
  | nil => simp [refuseFirst]
  | cons condition rest ih => cases h : condition.1 <;> simp [refuseFirst, h, ih]

/-- What is given, or else what `otherwise` yields. -/
def given {α : Type} (value : Option α) (otherwise : Except Refusal α) : Except Refusal α :=
  match value with
  | some value => .ok value
  | none => otherwise

end Settings

end Relink
