import Runbook.ErrorCode
import Runbook.FileTree
import Runbook.Log.Level
import Runbook.Settings.Name
import Runbook.Settings.Source
import Runbook.Text.Blank

/-!
# Settings from the environment

A setting is read from one variable. Reading never fails: where a variable holds something of no
use, the built-in value is taken and the fault is noted, so that all faults can be told at once.
-/

namespace Runbook

/-- What is wrong with a variable. -/
inductive SettingError where
  | invalidValue (key expected value : String)
  | pathMissing (key : String) (path : Path)
  | outOfRange (key : String) (value least most : Nat)
  | invalidLogLevel (key value : String)
  | invalidRegion (key value : String)
  | invalidBucket (key value : String) (fault : BucketFault)
deriving DecidableEq, Repr

namespace SettingError

/-- The display text of an error. -/
def message : SettingError → String
  | invalidValue name expected value =>
      "Invalid value for " ++ name ++ ": expected " ++ expected ++ ", got '" ++ value ++ "'"
  | pathMissing name path => "Path not found for " ++ name ++ ": " ++ path.text
  | outOfRange name value least most =>
      "Value out of range for " ++ name ++ ": " ++ toString value ++ " (valid: "
        ++ toString least ++ "..=" ++ toString most ++ ")"
  | invalidLogLevel name value =>
      "Invalid log level for " ++ name ++ ": '" ++ value ++ "' (expected one of "
        ++ Text.commaJoin "|" LogLevel.names ++ ")"
  | invalidRegion name value => "Invalid AWS region for " ++ name ++ ": '" ++ value ++ "'"
  | invalidBucket name value fault =>
      "Invalid S3 bucket name for " ++ name ++ ": '" ++ value ++ "' (" ++ fault.message ++ ")"

/-- The catalogue's code for an error. -/
def code : SettingError → ErrorCode
  | pathMissing _ _ => .pathMissing
  | invalidRegion _ _ => .region
  | _ => .environment

end SettingError

/-- A setting as it was read, and what is wrong with its variable. -/
structure SettingReading (α : Type) where
  setting : Sourced α
  error : Option SettingError

namespace SettingReading

/-- What is wrong with the variable, as a list. -/
def errors (reading : SettingReading α) : List SettingError := reading.error.toList

/-- The value of a variable. -/
def found (name : String) (value : α) : SettingReading α := ⟨⟨value, .environment name⟩, none⟩

/-- What is built in, where no variable is set. -/
def builtIn (value : α) : SettingReading α := ⟨⟨value, .builtIn⟩, none⟩

/-- A reading whose value is checked where there is one. -/
def checked (reading : SettingReading (Option α)) (fault? : α → Option SettingError) :
    SettingReading (Option α) :=
  { reading with error := reading.error.or (reading.setting.value.bind fault?) }

end SettingReading

/-- The variables of a process. -/
structure Environment where
  table : Table String String

namespace Environment

/-- What the variables of this program begin with. -/
def lead : String := "DIGITO_"

/-- The full name of a variable of this program. -/
def fullName (name : String) : String := lead ++ name

/-- The value of a variable. -/
def get? (environment : Environment) (name : String) : Option String :=
  environment.table.get? name

/-- The variable that names the user's own directory. -/
def homeVariable : String := "HOME"

/-- The user's own directory, where the variable for it is set and not empty. Without it the program
asks the system's list of users, which is no part of the environment: it is left out here, and the
directory is unknown. -/
def home? (environment : Environment) : Option Path :=
  ((environment.get? homeVariable).filter fun home => !home.isEmpty).map Path.mk

/-- The reading of a variable of this program that may be unset. -/
def read (environment : Environment) (name : String) (fallback : α)
    (parse : String → String → SettingReading α) : SettingReading α :=
  match environment.get? (fullName name) with
  | some raw => parse (fullName name) raw
  | none => .builtIn fallback

/-- A text trimmed and in lower case. -/
def lowered (raw : String) : String :=
  String.ofList ((Text.trim raw.toList).map Text.toLowerAscii)

/-- The words for true. -/
def trueWords : List String := ["1", "true", "yes", "on"]

/-- The words for false. -/
def falseWords : List String := ["0", "false", "no", "off", ""]

/-- A truth value. -/
def flag (environment : Environment) (name : String) (fallback : Bool) : SettingReading Bool :=
  environment.read name fallback fun key raw =>
    if trueWords.contains (lowered raw) then .found key true
    else if falseWords.contains (lowered raw) then .found key false
    else
      ⟨⟨fallback, .environment key⟩,
        some (.invalidValue key "boolean (true/false/1/0/yes/no)" raw)⟩

/-- A number of at most `limit` that has to lie between two others. -/
def number (environment : Environment) (limit : Nat) (name : String)
    (fallback least most : Nat) : SettingReading Nat :=
  environment.read name fallback fun key raw =>
    match Text.natural? limit (Text.trim raw.toList) with
    | some n =>
        if least ≤ n ∧ n ≤ most then .found key n
        else ⟨⟨fallback, .environment key⟩, some (.outOfRange key n least most)⟩
    | none =>
        ⟨⟨fallback, .builtIn⟩, some (.invalidValue key "unsigned integer" raw)⟩

/-- What a path in the user's own directory begins with. -/
def homeLead : List Char := ['~', '/']

/-- A path as it is written, with the user's own directory put in. -/
def expand (environment : Environment) (raw : String) : Path :=
  match Text.dropLead homeLead raw.toList, environment.home? with
  | some rest, some home => home.join (String.ofList rest)
  | _, _ => ⟨raw⟩

/-- A path. -/
def path (environment : Environment) (name fallback : String) : SettingReading Path :=
  environment.read name (environment.expand fallback) fun key raw =>
    .found key (environment.expand raw)

/-- A path at which there has to be something. -/
def existingPath (environment : Environment) (files : Files) (name fallback : String) :
    SettingReading Path :=
  let reading := environment.path name fallback
  if files.present reading.setting.value then reading
  else { reading with error := some (.pathMissing (fullName name) reading.setting.value) }

/-- A level of the log in any case, or directives of a filter, which contain an equals sign. -/
def logLevel (environment : Environment) (name fallback : String) : SettingReading String :=
  environment.read name fallback fun key raw =>
    if LogLevel.names.contains (lowered raw) then .found key (lowered raw)
    else if raw.toList.contains '=' then .found key raw
    else ⟨⟨fallback, .environment key⟩, some (.invalidLogLevel key raw)⟩

/-- A comma-separated list. -/
def names (environment : Environment) (name : String) (fallback : List String) :
    SettingReading (List String) :=
  environment.read name fallback fun key raw =>
    .found key ((Text.commaItems raw.toList).map String.ofList)

/-- A text, trimmed; one that is blank counts as none. -/
def text (environment : Environment) (name : String) : SettingReading (Option String) :=
  environment.read name none fun key raw =>
    let trimmed := Text.trim raw.toList
    .found key (if trimmed.isEmpty then none else some (String.ofList trimmed))

/-- The name of a region. -/
def region (environment : Environment) (name : String) : SettingReading (Option String) :=
  (environment.text name).checked fun value =>
    if isRegionShaped value then none else some (.invalidRegion (fullName name) value)

/-- The name of a bucket. -/
def bucket (environment : Environment) (name : String) : SettingReading (Option String) :=
  (environment.text name).checked fun value =>
    (BucketFault.find? value).map (.invalidBucket (fullName name) value)

end Environment

end Runbook
