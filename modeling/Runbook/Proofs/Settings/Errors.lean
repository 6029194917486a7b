import Runbook.Proofs.Settings.Demand
import Runbook.Proofs.Settings.Variable

/-!
# The errors of the settings

Loading the settings gives one error for each variable whose value is not as is asked, in the order
in which the variables are read, and no other error (`keys_load`). The command line has no part in
the errors, and the numbers lie within their bounds whatever the errors are (`inRange_load`).
-/

namespace Runbook

namespace Environment

variable {environment : Environment}

/-- A path is never refused. -/
theorem errors_path (environment : Environment) (name fallback : String) :
    (environment.path name fallback).errors = [] := by
  unfold path read
  cases environment.get? (fullName name) <;> rfl

/-- A reading that answers has one error, under its key, where its variable is refused, and else
none. -/
theorem Answers.keys_eq {α : Type} {asked : CheckedVariable} {reading : SettingReading α}
    (answers : environment.Answers asked reading) : reading.errors.map SettingError.key =
      ([asked].filter fun asked => environment.Refuses asked).map fun asked =>
        fullName asked.name := by
  rw [answers]
  split <;> simp [*]

end Environment

namespace Settings

open Environment

/-- The variables that are checked, in the order in which they are read. -/
def checkedVariables : List CheckedVariable :=
  [⟨"REGION", .region⟩, ⟨"LOG_LEVEL", .logLevel⟩, ⟨"JSON_LOGS", .flag⟩,
    ⟨"AWS_MAX_ATTEMPTS", .number 1 50⟩, ⟨"ALARM_BUCKET", .bucket⟩,
    ⟨"STACK_POLL_INTERVAL_SECS", .number 1 300⟩, ⟨"STACK_POLL_MAX_ATTEMPTS", .number 1 1000⟩,
    ⟨"TEARDOWN_PARALLELISM", .number 1 64⟩]

/-- The shared region has no part in the errors. -/
theorem errors_regionOf (environment : Environment) :
    (regionOf environment).errors = (environment.region "REGION").errors := by
  unfold regionOf
  dsimp only
  split
  · split <;> rfl
  · rfl

/-- The errors are one for each checked variable that is set to a value not as is asked, and have
the key of this variable. -/
theorem keys_load (environment : Environment) (overrides : Overrides) :
    (load environment overrides).2.map SettingError.key =
      (checkedVariables.filter fun asked => environment.Refuses asked).map fun asked =>
        fullName asked.name := by
  have attempts := answers_number environment "AWS_MAX_ATTEMPTS" 20 1
    (show 50 ≤ Text.maxHalfWord by decide)
  have seconds := answers_number environment "STACK_POLL_INTERVAL_SECS" 10 1
    (show 300 ≤ Text.maxWord by decide)
  have polls := answers_number environment "STACK_POLL_MAX_ATTEMPTS" 90 1
    (show 1000 ≤ Text.maxHalfWord by decide)
  have parallel := answers_number environment "TEARDOWN_PARALLELISM" 10 1
    (show 64 ≤ Text.maxHalfWord by decide)
  simp only [load, errors_path, errors_names, errors_regionOf, List.nil_append, List.append_nil,
    List.map_append, (answers_region environment _).keys_eq,
    (answers_logLevel environment _ _).keys_eq, (answers_flag environment _ _).keys_eq,
    attempts.keys_eq, (answers_bucket environment _).keys_eq, seconds.keys_eq, polls.keys_eq,
    parallel.keys_eq]
  simp only [← List.map_append, ← List.filter_append]
  rfl

/-- The numbers among the settings lie within their bounds. -/
structure InRange (settings : Settings) : Prop where
  maxAttempts : 1 ≤ settings.maxAttempts.value ∧ settings.maxAttempts.value ≤ 50
  pollSeconds : 1 ≤ settings.pollSeconds.value ∧ settings.pollSeconds.value ≤ 300
  maxPolls : 1 ≤ settings.maxPolls.value ∧ settings.maxPolls.value ≤ 1000
  parallelism : 1 ≤ settings.parallelism.value ∧ settings.parallelism.value ≤ 64

/-- Whatever the environment and the overrides, the settings are within their ranges. -/
theorem inRange_load (environment : Environment) (overrides : Overrides) :
    (load environment overrides).1.InRange where
  maxAttempts := number_within environment _ _ (by decide)
  pollSeconds := number_within environment _ _ (by decide)
  maxPolls := number_within environment _ _ (by decide)
  parallelism := number_within environment _ _ (by decide)

/-- Loading gives one error for each checked variable that is set to a value not as is asked, in the
order in which they are read, whatever the command line says. Each setting depends on its own
variables and its own override only, and the numbers lie within their bounds in any case. -/
theorem load_exact (environment : Environment) (overrides : Overrides) :
    let loaded := load environment overrides
    loaded.2.map SettingError.key = (checkedVariables.filter fun asked =>
        environment.Refuses asked).map (fun asked => fullName asked.name) ∧
      (∀ others, (load environment others).2 = loaded.2) ∧
      (∀ (field : SettingField) (other : Environment) (others : Overrides),
        (∀ name ∈ field.readFrom, environment.get? name = other.get? name) →
          field.SameOverride overrides others → field.Same loaded.1 (load other others).1) ∧
      loaded.1.InRange :=
  ⟨keys_load environment overrides, fun _ => rfl,
    fun field _ _ alike override => field.same_load alike override,
    inRange_load environment overrides⟩

/-- A level that is none and a number out of its bounds are two errors, although the command line
overrides the level, and other variables are not affected. -/
theorem load_exact_two_errors :
    let environment : Environment := ⟨Table.ofList [("DIGITO_LOG_LEVEL", "chatty"),
      ("DIGITO_AWS_MAX_ATTEMPTS", " +7 "), ("DIGITO_TEARDOWN_PARALLELISM", "0")]⟩
    let corrected := environment.set "DIGITO_TEARDOWN_PARALLELISM" "4"
    let overrides : Overrides := ⟨none, none, none, some "debug"⟩
    (load environment overrides).2.map SettingError.key =
        ["DIGITO_LOG_LEVEL", "DIGITO_TEARDOWN_PARALLELISM"] ∧
      (load environment Overrides.none).2 = (load environment overrides).2 ∧
      (∀ name ∈ SettingField.maxAttempts.readFrom, environment.get? name = corrected.get? name) ∧
      SettingField.maxAttempts.SameOverride overrides Overrides.none ∧
      SettingField.maxAttempts.Same (load environment overrides).1
        (load corrected Overrides.none).1 ∧
      (load environment overrides).1.maxAttempts.value = 7 ∧
      (load environment overrides).1.InRange := by
  intro environment corrected overrides
  obtain ⟨keys, unaffected, fields, inRange⟩ := load_exact environment overrides
  have same : ∀ name ∈ SettingField.maxAttempts.readFrom,
      environment.get? name = corrected.get? name := by
    intro name member
    obtain rfl := List.mem_singleton.1 member
    exact (get?_set_of_ne (by decide)).symm
  exact ⟨keys.trans (by decide), unaffected _, same, trivial,
    fields .maxAttempts corrected Overrides.none same trivial, by decide, inRange⟩

end Settings

end Runbook
