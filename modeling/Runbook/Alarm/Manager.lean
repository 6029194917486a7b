import Runbook.Alarm.Error
import Runbook.Alarm.Record
import Runbook.Alarm.StackName
import Runbook.Alarm.Template
import Runbook.Metadata.Check

/-!
# Managing alarms

A manager deploys alarms as stacks, each under an identifier of its own, and tracks those that
came up. It asks whether their metrics have data, and in the end deletes all stacks it tracks.
-/

namespace Runbook

/-- How a manager works: where its templates are, where it stages them, what its run is called,
and how many stacks it deletes at a time. -/
structure AlarmSettings where
  root : Path
  bucket : String
  run : String
  parallelism : Nat
deriving DecidableEq, Repr

/-- A stack that a manager deployed and still owns. -/
structure DeployedAlarm where
  id : String
  reference : String
  stack : String
  template : String
deriving DecidableEq, Repr

/-- What became of the stacks in a teardown. -/
structure TeardownReport where
  deleted : List String
  failures : List (String × String)
deriving DecidableEq, Repr

namespace TeardownReport

/-- Was every stack deleted? -/
def isClean (report : TeardownReport) : Bool := report.failures.isEmpty

/-- The report on deletions in the order in which they ended: names and failures are sorted. -/
def ofResults (results : List (String × Except PortError Unit)) : TeardownReport :=
  let deleted := results.filterMap fun result =>
    match result.2 with
    | .ok () => some result.1
    | .error _ => none
  let failures := results.filterMap fun result =>
    match result.2 with
    | .ok () => none
    | .error cause => some (result.1, cause.message)
  ⟨deleted.mergeSort fun a b => !Ordered.before b a,
    failures.mergeSort fun a b => !Ordered.before b a⟩

/-- The report as a JSON object. -/
def toJson (report : TeardownReport) : Json :=
  Json.ofMembers
    [("deleted", Json.ofStrings report.deleted),
      ("failures", .array (report.failures.map fun failure =>
        Json.ofStrings [failure.1, failure.2]))]

end TeardownReport

/-- The metrics of the alarms in a template's text. -/
def alarmMetrics (template : String) : Except AlarmError AlarmMetrics :=
  match Yaml.parse? template with
  | none => .error .templateInvalid
  | some root =>
      let alarms := AlarmMetrics.ofTemplate root
      if alarms.entries.isEmpty then .error .noMetrics else .ok alarms

/-- A manager: its settings, the alarms it tracks by identifier, and the last number it gave. -/
structure AlarmManager where
  settings : AlarmSettings
  deployed : Table String DeployedAlarm
  ordinal : Nat

namespace AlarmManager

/-- A manager that tracks nothing. -/
def new (settings : AlarmSettings) : AlarmManager := ⟨settings, Table.empty, 0⟩

/-- Where the descriptor of an alarm lies. -/
def descriptorPath (root : Path) (tag : Tag) : Path :=
  [tag.service, tag.category, tag.name, tag.date, Tag.documentsDirectory,
    Tag.metadataFileName].foldl Path.join root

/-- The template that a reference names. -/
def loadTemplate (settings : AlarmSettings) (files : Files) (reference : String) :
    Except AlarmError String :=
  match (Tag.parse? reference).filter fun tag => tag.category? = some .alarm with
  | none => .error (.invalidReference reference)
  | some tag =>
      let path := descriptorPath settings.root tag
      if !files.isFile path then .error (.templateMissing reference path)
      else
        match MetadataFile.load files path with
        | .error cause => .error (.metadata cause)
        | .ok file =>
            match file.validateAlarm settings.root with
            | .error cause => .error (.metadata cause)
            | .ok metadata =>
                match files.read metadata.contentPath with
                | .error cause => .error (.templateRead metadata.contentPath cause)
                | .ok text => .ok text

/-- The template of a reference with its variables bound; all of them need a binding. -/
def renderTemplate (settings : AlarmSettings) (files : Files) (reference : String)
    (bindings : Table String String) : Except AlarmError String :=
  match loadTemplate settings files reference with
  | .error error => .error error
  | .ok template =>
      match AlarmTemplate.unbound template bindings with
      | [] => .ok (AlarmTemplate.render template bindings.entries)
      | missing => .error (.variablesMissing reference missing)

/-- The first number from `number` on whose text is not tracked, given that one of the `tries`
numbers after it is free where all before are taken. -/
def freeNumber (deployed : Table String DeployedAlarm) : Nat → Nat → Nat
  | 0, number => number
  | tries + 1, number =>
      if deployed.contains (toString number) then freeNumber deployed tries (number + 1)
      else number

/-- The identifier and the number of a new alarm. A given identifier must be free; otherwise the
number is the identifier. -/
def identify (manager : AlarmManager) (id : Option String) : Except AlarmError (String × Nat) :=
  match id with
  | some id =>
      match manager.deployed.get? id with
      | some tracked => .error (.alarmDuplicate id tracked.stack)
      | none => .ok (id, manager.ordinal + 1)
  | none =>
      let number := freeNumber manager.deployed manager.deployed.size (manager.ordinal + 1)
      .ok (toString number, number)

/-- The statuses of a stack that came up. -/
def goodStatuses : List String := ["CREATE_COMPLETE", "UPDATE_COMPLETE"]

/-- The status of a stack that is not there. -/
def absentStatus : String := "DOES_NOT_EXIST"

/-- The failures in a stack's history, one line each; why there are none to tell, otherwise. -/
def failureLines : Except PortError (List StackEvent) → List String
  | .ok events => (events.filter StackEvent.isFailure).map StackEvent.text
  | .error cause => ["stack events unavailable: " ++ cause.message]

/-- Did a stack come up? One that did not is deleted. -/
def checkStack (ports : AlarmPorts σ) (services : σ) (stack : String) :
    Except AlarmError Unit × σ :=
  match ports.stackStatus services stack with
  | (.error cause, services) => (.error (.stack stack cause), services)
  | (.ok status, services) =>
      let status := status.getD absentStatus
      if goodStatuses.contains status then (.ok (), services)
      else
        let (events, services) := ports.stackEvents services stack
        let (_, services) := ports.deleteStack services stack
        (.error (.stackFailed stack status (failureLines events)), services)

/-- Where a stack's template is staged. -/
def templateKey (stack : String) : String := "alarms/" ++ stack ++ ".yml"

/-- Stage a template, create its stack and look whether it came up. -/
def bringUp (ports : AlarmPorts σ) (services : σ) (bucket stack template : String) :
    Except AlarmError Unit × σ :=
  match ports.putObject services bucket (templateKey stack) template with
  | (.error cause, services) => (.error (.upload stack cause), services)
  | (.ok url, services) =>
      match ports.createStack services stack url with
      | (.error cause, services) => (.error (.stack stack cause), services)
      | (.ok (), services) => checkStack ports services stack

/-- Deploy the alarm of a reference. The answer is the identifier that it is tracked under. -/
def deploy (ports : AlarmPorts σ) (files : Files) (manager : AlarmManager) (services : σ)
    (reference : String) (bindings : Table String String) (id : Option String) :
    Except AlarmError String × AlarmManager × σ :=
  match renderTemplate manager.settings files reference bindings with
  | .error error => (.error error, manager, services)
  | .ok template =>
      match manager.identify id with
      | .error error => (.error error, manager, services)
      | .ok (id, number) =>
          let manager := { manager with ordinal := number }
          let stack := StackName.make reference manager.settings.run number
          match bringUp ports services manager.settings.bucket stack template with
          | (.error error, services) => (.error error, manager, services)
          | (.ok (), services) =>
              let alarm : DeployedAlarm := ⟨id, reference, stack, template⟩
              (.ok id, { manager with deployed := manager.deployed.insert id alarm }, services)

/-- Delete stacks one after the other, whatever becomes of each. -/
def deleteStacks (ports : AlarmPorts σ) (services : σ) :
    List String → List (String × Except PortError Unit) × σ
  | [] => ([], services)
  | stack :: rest =>
      let (result, services) := ports.deleteStack services stack
      let (results, services) := deleteStacks ports services rest
      ((stack, result) :: results, services)

/-- Delete the stacks of all tracked alarms; nothing is tracked afterwards. -/
def destroy (ports : AlarmPorts σ) (manager : AlarmManager) (services : σ) :
    TeardownReport × AlarmManager × σ :=
  let names := manager.deployed.values.map DeployedAlarm.stack
  let (results, services) := deleteStacks ports services names
  (TeardownReport.ofResults results, { manager with deployed := Table.empty }, services)

/-- How far back a metric is looked at, in seconds. -/
def window (metric : Metric) (lookback : Nat) : Int := (metric.period : Int) * (lookback : Int)

/-- The metrics without data, each under the logical name of its alarm. -/
def withoutData (ports : AlarmPorts σ) (now : Int) (lookback : Nat) (services : σ)
    (found : AlarmMetrics) : List (String × Metric) → Except AlarmError AlarmMetrics × σ
  | [] => (.ok found, services)
  | (name, metric) :: rest =>
      match ports.sampleCount services metric (now - window metric lookback) now with
      | (.error cause, services) => (.error (.metricQuery metric.label cause), services)
      | (.ok count, services) =>
          let found :=
            if count = 0 then found.insert name (((found.get? name).getD []) ++ [metric])
            else found
          withoutData ports now lookback services found rest

/-- The metrics without data of the tracked alarms, in the order of their identifiers. -/
def collectFrom (ports : AlarmPorts σ) (now : Int) (lookback : Nat) (services : σ)
    (found : AlarmMetrics) : List DeployedAlarm → Except AlarmError AlarmMetrics × σ
  | [] => (.ok found, services)
  | alarm :: rest =>
      match alarmMetrics alarm.template with
      | .error error => (.error error, services)
      | .ok metrics =>
          let listed := metrics.entries.flatMap fun entry =>
            entry.2.map fun metric => (entry.1, metric)
          match withoutData ports now lookback services found listed with
          | (.error error, services) => (.error error, services)
          | (.ok found, services) => collectFrom ports now lookback services found rest

/-- The metrics of tracked alarms that have no datapoint in their window before `now`. -/
def collectWithoutData (ports : AlarmPorts σ) (manager : AlarmManager) (services : σ) (now : Int)
    (lookback : Nat) : Except AlarmError AlarmMetrics × σ :=
  collectFrom ports now lookback services Table.empty manager.deployed.values

/-- The greatest number of a signed word. -/
def maxSigned : Nat := Nat.pow 2 63 - 1

/-- The most seconds of a span of time, which is a signed number of milliseconds. -/
def maxSpan : Nat := maxSigned / 1000

/-- The first second that a time can have, at the beginning of the year -262143. -/
def firstSecond : Int := -8334601228800

/-- Can a window be given? Its length is a signed number and a span of time, and its start is a
time. -/
def isWindow (start stop : Int) : Bool :=
  stop - start ≤ maxSigned && stop - start ≤ maxSpan && firstSecond ≤ start

/-- Can what a call asks for be given? -/
def isGivable : PortCall → Bool
  | .sampleCount _ start stop _ => isWindow start stop
  | _ => true

/-- The metrics without data, unless the check comes to a window that cannot be given: there the
program ends. -/
def collect? (ports : AlarmPorts σ) (manager : AlarmManager) (services : σ) (now : Int)
    (lookback : Nat) : Option (Except AlarmError AlarmMetrics × σ) :=
  let (result, recorded) := collectWithoutData ports.recorded manager ⟨services, []⟩ now lookback
  if recorded.calls.all isGivable then some (result, recorded.services) else none

end AlarmManager

end Runbook
