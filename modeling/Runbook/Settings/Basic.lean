import Runbook.Alarm.Manager
import Runbook.Settings.Environment

/-!
# Settings

All settings of the program, read from the environment and overridden by the command line. The
faults of all variables are gathered in the order in which the variables are read.
-/

namespace Runbook

/-- The settings that the command line gives. -/
structure Overrides where
  documentsRoot : Option Path
  scriptsDirectory : Option Path
  region : Option String
  logLevel : Option String
deriving DecidableEq, Repr

/-- No override at all. -/
def Overrides.none : Overrides := ⟨.none, .none, .none, .none⟩

/-- The settings of the program. -/
structure Settings where
  documentsRoot : Sourced Path
  scriptsDirectory : Sourced Path
  region : Sourced (Option String)
  logLevel : Sourced String
  jsonLogs : Sourced Bool
  maxAttempts : Sourced Nat
  alarmBucket : Sourced (Option String)
  pollSeconds : Sourced Nat
  maxPolls : Sourced Nat
  parallelism : Sourced Nat
  warnOnly : Sourced (List String)
deriving DecidableEq, Repr

namespace Settings

/-- The variable that names a region where the program's own does not. -/
def sharedRegion : String := "AWS_REGION"

/-- The variables that matter: those of the program by their short names, and the others. -/
def variableNames : List String :=
  (["DOCUMENTS_ROOT", "SCRIPTS_DIR", "REGION", "LOG_LEVEL", "JSON_LOGS", "AWS_MAX_ATTEMPTS",
    "ALARM_BUCKET", "STACK_POLL_INTERVAL_SECS", "STACK_POLL_MAX_ATTEMPTS",
    "TEARDOWN_PARALLELISM", "WARN_ONLY_SERVICES"].map Environment.fullName)
      ++ [sharedRegion, Environment.homeVariable]

/-- The region: the program's own variable, or else the shared one as it is. -/
def regionOf (environment : Environment) : SettingReading (Option String) :=
  let reading := environment.region "REGION"
  match reading.setting.value, environment.get? sharedRegion with
  | none, some region =>
      if region.isEmpty then reading
      else { reading with setting := ⟨some region, .environment sharedRegion⟩ }
  | _, _ => reading

/-- The settings, and what is wrong with the variables. -/
def load (environment : Environment) (overrides : Overrides) : Settings × List SettingError :=
  let documentsRoot := environment.path "DOCUMENTS_ROOT" "documents"
  let scriptsDirectory := environment.path "SCRIPTS_DIR" "documents/util/scripts/src"
  let region := regionOf environment
  let logLevel := environment.logLevel "LOG_LEVEL" "info"
  let jsonLogs := environment.flag "JSON_LOGS" false
  let maxAttempts := environment.number Text.maxHalfWord "AWS_MAX_ATTEMPTS" 20 1 50
  let alarmBucket := environment.bucket "ALARM_BUCKET"
  let pollSeconds := environment.number Text.maxWord "STACK_POLL_INTERVAL_SECS" 10 1 300
  let maxPolls := environment.number Text.maxHalfWord "STACK_POLL_MAX_ATTEMPTS" 90 1 1000
  let parallelism := environment.number Text.maxHalfWord "TEARDOWN_PARALLELISM" 10 1 64
  let warnOnly := environment.names "WARN_ONLY_SERVICES" []
  ({ documentsRoot := documentsRoot.setting.overriddenBy overrides.documentsRoot
     scriptsDirectory := scriptsDirectory.setting.overriddenBy overrides.scriptsDirectory
     region := region.setting.overriddenBy (overrides.region.map some)
     logLevel := logLevel.setting.overriddenBy overrides.logLevel
     jsonLogs := jsonLogs.setting
     maxAttempts := maxAttempts.setting
     alarmBucket := alarmBucket.setting
     pollSeconds := pollSeconds.setting
     maxPolls := maxPolls.setting
     parallelism := parallelism.setting
     warnOnly := warnOnly.setting },
    documentsRoot.errors ++ scriptsDirectory.errors ++ region.errors ++ logLevel.errors
      ++ jsonLogs.errors ++ maxAttempts.errors ++ alarmBucket.errors ++ pollSeconds.errors
      ++ maxPolls.errors ++ parallelism.errors ++ warnOnly.errors)

/-- How alarms are managed in a run. Without a bucket they cannot be. -/
def alarmSettings (settings : Settings) (run : String) : Except AlarmError AlarmSettings :=
  match settings.alarmBucket.value with
  | some bucket => .ok ⟨settings.documentsRoot.value, bucket, run, settings.parallelism.value⟩
  | none => .error .bucketMissing

end Settings

end Runbook
