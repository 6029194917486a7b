import Runbook.Audit
import Runbook.Alarm.Binding
import Runbook.CommandLine.Failure
import Runbook.CommandLine.Request
import Runbook.Log.Filter
import Runbook.Publish.Publisher
import Runbook.Publish.Selection

/-!
# Running a request

From the arguments to the output. A run stops at the first of these that fails: reading the
arguments, reading the settings, setting up the log, and what is asked for.
-/

namespace Runbook

/-- What a run finds around it: files, variables, the services, a name of its own, and the time
in seconds. -/
structure Surroundings (σ : Type) where
  files : Files
  environment : Environment
  documents : DocumentService
  ports : AlarmPorts σ
  services : σ
  run : String
  now : Int

namespace Surroundings

/-- The error of a call that goes nowhere. -/
def unreachable (operation resource : String) : PortError :=
  .transport operation resource "no connection"

/-- Services that no call reaches. -/
def noPorts : AlarmPorts Unit where
  putObject _ _ key _ := (.error (unreachable "PutObject" key), ())
  createStack _ name _ := (.error (unreachable "CreateStack" name), ())
  stackStatus _ name := (.error (unreachable "DescribeStacks" name), ())
  stackEvents _ name := (.error (unreachable "DescribeStackEvents" name), ())
  deleteStack _ name := (.error (unreachable "DeleteStack" name), ())
  sampleCount _ metric _ _ := (.error (unreachable "GetMetricStatistics" metric.label), ())

/-- A run that cannot reach any service. -/
def offline (files : Files) (environment : Environment) (seed : Nat) : Surroundings Unit where
  files := files
  environment := environment
  documents := DocumentService.empty.failNext .describe "no connection"
  ports := noPorts
  services := ()
  run := StackName.runOf seed
  now := 0

/-- The store of the documents root. -/
def store (around : Surroundings σ) (settings : Settings) : Except Failure MetadataStore :=
  let root := settings.documentsRoot
  (MetadataStore.discover around.files root.value).mapError fun cause =>
    ⟨[], "failed to load documents from " ++ root.value.text ++ " (" ++ root.source.text ++ ")",
      cause.message :: cause.causes⟩

/-- What assembles documents: the snippets of the scripts directory, and no builder. -/
def assembler (around : Surroundings σ) (settings : Settings) : Except Failure Assembler :=
  let directory := settings.scriptsDirectory.value
  match Snippets.ofDirectory around.files directory with
  | .ok snippets => .ok ⟨snippets, Builders.empty⟩
  | .error cause =>
      .error ⟨[], "failed to index script snippets in " ++ directory.text,
        cause.message :: cause.causes⟩

/-- The documents that are named, in a manifest or else one by one. -/
def chosen (around : Surroundings σ) (store : MetadataStore) (manifest : Option Path)
    (names : List String) : Except Failure (List DocumentMetadata) :=
  let failed (context : String) (cause : MetadataError) : Failure :=
    ⟨[], context, cause.message :: cause.causes⟩
  match manifest, names with
  | some path, _ =>
      ((readManifest around.files path).bind store.select).mapError
        (failed ("failed to resolve documents from " ++ path.text))
  | none, [] => .error (.plain "nothing to publish: pass document names or --file-name")
  | none, names =>
      (store.select names).mapError (failed "failed to resolve requested documents")

/-- How many documents were created, updated and left alone, on one line. -/
def tally (report : PublishReport) : String :=
  toString (report.count .created) ++ " created, " ++ toString report.countUpdated
    ++ " updated, " ++ toString (report.count .unchanged) ++ " unchanged"

/-- Publish documents. -/
def publish (around : Surroundings σ) (settings : Settings) (manifest : Option Path)
    (dryRun : Bool) (names : List String) : Except Failure Report := do
  let store ← around.store settings
  let documents ← around.chosen store manifest names
  let assembler ← around.assembler settings
  let publisher : Publisher := ⟨assembler.content around.files, dryRun⟩
  match (publisher.publish around.documents documents).1 with
  | .ok report => return ⟨report.lines ++ [tally report], true⟩
  | .error cause =>
      throw ⟨[Failure.note cause.code], "publish aborted", cause.message :: cause.causes⟩

/-- The lines about a finding. -/
def findingLines (finding : Finding) : List String :=
  [finding.severity.name ++ "[" ++ finding.code.text ++ "]: " ++ finding.file.text,
    String.ofList (Text.indent (List.replicate 4 ' ') finding.message.toList)]

/-- The lines about an audit. -/
def auditLines (report : AuditReport) : List String :=
  report.findings.flatMap findingLines
    ++ [toString report.files ++ " files checked, " ++ toString report.errors.length
      ++ " errors, " ++ toString report.warnings.length ++ " warnings"]

/-- Validate the whole store. Services on the command line go before those of the settings. -/
def validate (around : Surroundings σ) (settings : Settings) (warnOnly : List String)
    (asJson : Bool) : Except Failure Report := do
  let store ← around.store settings
  let assembler ← around.assembler settings
  let services := if warnOnly.isEmpty then settings.warnOnly.value else warnOnly
  let report := Auditor.run ⟨assembler.content around.files, services⟩ store
  return ⟨if asJson then [report.toJson.renderIndented] else auditLines report, report.passed⟩

/-- The lines about metrics without data. -/
def metricLines (reference : String) (metrics : AlarmMetrics) : List String :=
  if metrics.entries.isEmpty then [reference ++ ": every alarm metric has data"]
  else
    metrics.entries.flatMap fun entry =>
      entry.2.map fun metric => entry.1 ++ ": no data for " ++ metric.label

/-- Deploy an alarm and look for metrics without data. -/
def deployAndCollect (around : Surroundings σ) (manager : AlarmManager) (reference : String)
    (bindings : Table String String) (lookback : Nat) :
    Except AlarmError AlarmMetrics × AlarmManager × σ :=
  match AlarmManager.deploy around.ports around.files manager around.services reference bindings
    none with
  | (.error cause, manager, services) => (.error cause, manager, services)
  | (.ok _, manager, services) =>
      let (metrics, services) :=
        manager.collectWithoutData around.ports services around.now lookback
      (metrics, manager, services)

/-- Check an alarm: deploy it, look for metrics without data, and delete what was deployed
whatever came of it. -/
def checkAlarm (around : Surroundings σ) (settings : Settings) (reference : String)
    (bindings : List String) (lookback : Nat) : Except Failure Report := do
  let bindings ← (Binding.parseAll bindings).mapError fun cause => .plain cause.message
  let settings ← (settings.alarmSettings around.run).mapError fun cause =>
    Failure.mk [] "alarm manager is not configured" (cause.message :: cause.causes)
  let (metrics, manager, services) :=
    around.deployAndCollect (AlarmManager.new settings) reference bindings lookback
  let (teardown, _, _) := AlarmManager.destroy around.ports manager services
  match metrics with
  | .ok metrics =>
      return ⟨metricLines reference metrics, metrics.entries.isEmpty && teardown.isClean⟩
  | .error cause =>
      throw ⟨[Failure.note cause.code], "alarm check failed for " ++ reference,
        cause.message :: cause.causes⟩

/-- The failure of settings with faults: each fault, then what the catalogue says about each
code. -/
def misconfigured (faults : List SettingError) : Failure :=
  let codes := (faults.map SettingError.code).eraseDups
  ⟨faults.map (fun fault => "[" ++ fault.code.text ++ "] " ++ fault.message)
      ++ codes.map (fun code => "\n" ++ Failure.note code),
    "refusing to start with " ++ toString faults.length ++ " configuration error(s)", []⟩

/-- Do what is asked for. -/
def perform (around : Surroundings σ) (invocation : Invocation) : Except Failure Report :=
  let (settings, faults) := Settings.load around.environment invocation.overrides
  if faults.isEmpty then
    match LogFilter.ofSetting settings.logLevel.value with
    | .error cause => .error ⟨[Failure.note cause.code], cause.message, []⟩
    | .ok _ =>
        match invocation.request with
        | .publish manifest dryRun names => around.publish settings manifest dryRun names
        | .validate warnOnly asJson => around.validate settings warnOnly asJson
        | .checkAlarm reference bindings lookback =>
            around.checkAlarm settings reference bindings lookback
  else .error (misconfigured faults)

/-- The name and version of the program. -/
def version : String := "digito 0.4.2"

/-- How the program is used. -/
def usage : List String :=
  ["Usage: digito [OPTIONS] publish [-r REGION] [-f FILE] [--dry-run] [NAME]...",
    "       digito [OPTIONS] validate [--warn-only SERVICE,...] [--json]",
    "       digito [OPTIONS] alarms check REFERENCE [--var NAME=VALUE] [--lookback N] [-r REGION]",
    "Options: -l LEVEL, --documents-root DIR, --scripts-dir DIR"]

/-- Run the program. -/
def output (around : Surroundings σ) (arguments : List String) : Output :=
  match Invocation.read arguments with
  | .error .misuse => ⟨2, "", Output.ofLines usage⟩
  | .error .help => ⟨0, Output.ofLines usage, ""⟩
  | .error .version => ⟨0, Output.ofLines [version], ""⟩
  | .ok invocation => Output.ofResult (around.perform invocation)

end Surroundings

end Runbook
