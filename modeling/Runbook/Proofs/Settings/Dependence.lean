import Runbook.Settings.Basic

/-!
# What a setting depends on

A setting depends on the variables that it is read from, on the option of the command line that
overrides it, and on nothing else (`SettingField.same_load`).
-/

namespace Runbook

namespace Environment

variable {α : Type} {environment other : Environment} {name : String}

/-- A reading depends on its own variable only. -/
theorem read_congr {fallback : α} {parse : String → String → SettingReading α}
    (same : environment.get? (fullName name) = other.get? (fullName name)) :
    environment.read name fallback parse = other.read name fallback parse := by
  rw [read, read, same]

/-- Expanding a path depends on the home directory only. -/
theorem expand_congr (home : environment.get? homeVariable = other.get? homeVariable) :
    environment.expand = other.expand := by
  funext raw
  rw [expand, expand, home?, home?, home]

/-- A path depends on its own variable and on the home directory. -/
theorem path_congr {fallback : String}
    (same : environment.get? (fullName name) = other.get? (fullName name))
    (home : environment.get? homeVariable = other.get? homeVariable) :
    environment.path name fallback = other.path name fallback := by
  rw [path, path, expand_congr home, read_congr same]

/-- A text depends on its own variable only. -/
theorem text_congr (same : environment.get? (fullName name) = other.get? (fullName name)) :
    environment.text name = other.text name :=
  read_congr same

end Environment

/-- The settings by name. -/
inductive SettingField where
  | documentsRoot
  | scriptsDirectory
  | region
  | logLevel
  | jsonLogs
  | maxAttempts
  | alarmBucket
  | pollSeconds
  | maxPolls
  | parallelism
  | warnOnly
deriving DecidableEq, Repr

namespace SettingField

open Environment

/-- The variables that a setting is read from. -/
def readFrom : SettingField → List String
  | documentsRoot => [fullName "DOCUMENTS_ROOT", homeVariable]
  | scriptsDirectory => [fullName "SCRIPTS_DIR", homeVariable]
  | region => [fullName "REGION", Settings.sharedRegion]
  | logLevel => [fullName "LOG_LEVEL"]
  | jsonLogs => [fullName "JSON_LOGS"]
  | maxAttempts => [fullName "AWS_MAX_ATTEMPTS"]
  | alarmBucket => [fullName "ALARM_BUCKET"]
  | pollSeconds => [fullName "STACK_POLL_INTERVAL_SECS"]
  | maxPolls => [fullName "STACK_POLL_MAX_ATTEMPTS"]
  | parallelism => [fullName "TEARDOWN_PARALLELISM"]
  | warnOnly => [fullName "WARN_ONLY_SERVICES"]

/-- Two sets of settings have the same value in a field, from the same source. -/
def Same (field : SettingField) (settings others : Settings) : Prop :=
  match field with
  | documentsRoot => settings.documentsRoot = others.documentsRoot
  | scriptsDirectory => settings.scriptsDirectory = others.scriptsDirectory
  | region => settings.region = others.region
  | logLevel => settings.logLevel = others.logLevel
  | jsonLogs => settings.jsonLogs = others.jsonLogs
  | maxAttempts => settings.maxAttempts = others.maxAttempts
  | alarmBucket => settings.alarmBucket = others.alarmBucket
  | pollSeconds => settings.pollSeconds = others.pollSeconds
  | maxPolls => settings.maxPolls = others.maxPolls
  | parallelism => settings.parallelism = others.parallelism
  | warnOnly => settings.warnOnly = others.warnOnly

/-- Two command lines override a field alike, as all do where nothing overrides it. -/
def SameOverride (field : SettingField) (overrides others : Overrides) : Prop :=
  match field with
  | documentsRoot => overrides.documentsRoot = others.documentsRoot
  | scriptsDirectory => overrides.scriptsDirectory = others.scriptsDirectory
  | region => overrides.region = others.region
  | logLevel => overrides.logLevel = others.logLevel
  | _ => True

variable {environment other : Environment} {overrides others : Overrides}

/-- Every field is read from some variable. -/
theorem readFrom_ne_nil (field : SettingField) : field.readFrom ≠ [] := by
  cases field <;> exact List.cons_ne_nil _ _

/-- The same variables and the same override give the same setting. -/
theorem same_load (field : SettingField)
    (alike : ∀ name ∈ field.readFrom, environment.get? name = other.get? name)
    (override : field.SameOverride overrides others) :
    field.Same (Settings.load environment overrides).1 (Settings.load other others).1 := by
  have own := alike _ (field.readFrom.head_mem field.readFrom_ne_nil)
  cases field with
  | documentsRoot =>
      have home := alike homeVariable (by simp [SettingField.readFrom])
      have given : overrides.documentsRoot = others.documentsRoot := override
      simp only [Same, Settings.load, path_congr own home, given]
  | scriptsDirectory =>
      have home := alike homeVariable (by simp [SettingField.readFrom])
      have given : overrides.scriptsDirectory = others.scriptsDirectory := override
      simp only [Same, Settings.load, path_congr own home, given]
  | region =>
      have shared := alike Settings.sharedRegion (by simp [SettingField.readFrom])
      have given : overrides.region = others.region := override
      simp only [Same, Settings.load, Settings.regionOf, Environment.region, text_congr own, shared,
        given]
  | logLevel =>
      have given : overrides.logLevel = others.logLevel := override
      simp only [Same, Settings.load, Environment.logLevel, read_congr own, given]
  | jsonLogs => simp only [Same, Settings.load, Environment.flag, read_congr own]
  | alarmBucket => simp only [Same, Settings.load, Environment.bucket, text_congr own]
  | warnOnly => simp only [Same, Settings.load, Environment.names, read_congr own]
  | maxAttempts | pollSeconds | maxPolls | parallelism =>
      simp only [Same, Settings.load, Environment.number, read_congr own]

end SettingField

end Runbook
