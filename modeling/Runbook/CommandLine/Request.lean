import Runbook.CommandLine.Argument
import Runbook.Settings.Basic

/-!
# Requests

What a command line asks for: to publish documents, to validate the whole store, or to check an
alarm. Some settings can be given at every level; the innermost one counts.
-/

namespace Runbook

/-- What is asked for. -/
inductive Request where
  | publish (manifest : Option Path) (dryRun : Bool) (names : List String)
  | validate (warnOnly : List String) (asJson : Bool)
  | checkAlarm (reference : String) (bindings : List String) (lookback : Nat)
deriving DecidableEq, Repr

/-- A request, and the settings that come with it. -/
structure Invocation where
  overrides : Overrides
  request : Request
deriving DecidableEq, Repr

namespace Invocation

/-- The options of every level. -/
def common : List OptionSpec :=
  [⟨"log-level", some 'l', .value⟩, ⟨"documents-root", none, .value⟩,
    ⟨"scripts-dir", none, .value⟩, ⟨"help", some 'h', .halt .help⟩]

/-- The option for a region. -/
def regionOption : OptionSpec := ⟨"region", some 'r', .value⟩

/-- The outermost level. -/
def program : Level :=
  ⟨common ++ [⟨"version", some 'V', .halt .version⟩],
    ["publish", "validate", "alarms", "help"], some 0⟩

/-- The level of publishing. -/
def publishLevel : Level :=
  ⟨common ++ [regionOption, ⟨"file-name", some 'f', .value⟩, ⟨"dry-run", none, .flag⟩], [], none⟩

/-- The level of validation. -/
def validateLevel : Level :=
  ⟨common ++ [⟨"warn-only", none, .values⟩, ⟨"json", none, .flag⟩], [], some 0⟩

/-- The level of alarms. -/
def alarmsLevel : Level := ⟨common, ["check", "help"], some 0⟩

/-- The level of checking an alarm. -/
def checkLevel : Level :=
  ⟨common ++ [regionOption, ⟨"var", none, .values⟩, ⟨"lookback", none, .value⟩], [], some 1⟩

/-- The commands that help can be asked for, from the outermost level on. -/
def helpTopics : List (List String) :=
  [[], ["publish"], ["validate"], ["alarms"], ["help"], ["alarms", "check"], ["alarms", "help"]]

/-- Why a request for help is none: because it is answered at once, or not known. -/
def helpOn (topic : List String) : Halt := if helpTopics.contains topic then .help else .misuse

/-- A value given at the innermost of some levels. -/
def innermost? (levels : List Given) (name : String) : Option String :=
  levels.reverse.findSome? fun given => given.value? name

/-- A path, which must not be empty. -/
def path? : Option String → Except Halt (Option Path)
  | none => .ok none
  | some text => if text.isEmpty then .error .misuse else .ok (some ⟨text⟩)

/-- The settings given at some levels. -/
def overridesOf (levels : List Given) : Except Halt Overrides := do
  let documentsRoot ← path? (innermost? levels "documents-root")
  let scriptsDirectory ← path? (innermost? levels "scripts-dir")
  return ⟨documentsRoot, scriptsDirectory, innermost? levels "region",
    innermost? levels "log-level"⟩

/-- The look-back where none is given. -/
def defaultLookback : Nat := 5

/-- A look-back: a number of 32 bits. A zero may have a minus sign. -/
def lookbackOf : Option String → Except Halt Nat
  | none => .ok defaultLookback
  | some text =>
      let number := match text.toList with
        | '-' :: '+' :: _ => none
        | '-' :: digits => Text.natural? 0 digits
        | digits => Text.natural? Text.maxHalfWord digits
      match number with
      | some n => .ok n
      | none => .error .misuse

/-- The services of a list of values, each of which is a list with commas between. -/
def servicesOf (values : List String) : List String :=
  values.flatMap fun value => (Text.splitOn ',' value.toList).map String.ofList

/-- The request to publish. -/
def readPublish (outer : List Given) (arguments : List String) : Except Halt Invocation := do
  let (given, _) ← publishLevel.read .none arguments
  let manifest ← path? (given.value? "file-name")
  let overrides ← overridesOf (outer ++ [given])
  return ⟨overrides, .publish manifest (given.has "dry-run") given.plain⟩

/-- The request to validate. -/
def readValidate (outer : List Given) (arguments : List String) : Except Halt Invocation := do
  let (given, _) ← validateLevel.read .none arguments
  let overrides ← overridesOf (outer ++ [given])
  return ⟨overrides, .validate (servicesOf (given.values "warn-only")) (given.has "json")⟩

/-- The request to check an alarm. -/
def readCheck (outer : List Given) (arguments : List String) : Except Halt Invocation := do
  let (given, _) ← checkLevel.read .none arguments
  let lookback ← lookbackOf (given.value? "lookback")
  let overrides ← overridesOf (outer ++ [given])
  match given.plain.head? with
  | some reference => return ⟨overrides, .checkAlarm reference (given.values "var") lookback⟩
  | none => throw .misuse

/-- The request about alarms. -/
def readAlarms (outer : List Given) (arguments : List String) : Except Halt Invocation := do
  match ← alarmsLevel.read .none arguments with
  | (given, some ("check", rest)) => readCheck (outer ++ [given]) rest
  | (_, some ("help", topic)) => throw (helpOn ("alarms" :: topic))
  | _ => throw .misuse

/-- The request of a command line. -/
def read (arguments : List String) : Except Halt Invocation := do
  match ← program.read .none arguments with
  | (given, some ("publish", rest)) => readPublish [given] rest
  | (given, some ("validate", rest)) => readValidate [given] rest
  | (given, some ("alarms", rest)) => readAlarms [given] rest
  | (_, some ("help", topic)) => throw (helpOn topic)
  | _ => throw .misuse

end Invocation

end Runbook
