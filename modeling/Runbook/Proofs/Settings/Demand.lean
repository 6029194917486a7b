import Runbook.Proofs.Text.Number
import Runbook.Settings.Basic

/-!
# What is asked of the values of variables

Some variables are checked. What is asked of the value of each is said here without the readers
(`Demand.Admits`), and a reader has one error exactly for a value that is not admitted
(`answers_region` and the like). A number that is read lies within its bounds, whatever the
variable holds (`number_within`).
-/

namespace Runbook

/-- The variable that an error is about. -/
def SettingError.key : SettingError → String
  | invalidValue key _ _ | pathMissing key _ | outOfRange key _ _ _ | invalidLogLevel key _
  | invalidRegion key _ | invalidBucket key _ _ => key

namespace SettingReading

variable {α : Type} {name : String} {value : α} {setting : Sourced α} {error : SettingError}

/-- A value that is found is no error. -/
@[simp] theorem errors_found : (found name value).errors = [] := rfl

/-- A default is no error. -/
@[simp] theorem errors_builtIn : (builtIn value).errors = [] := rfl

/-- A reading without an error has none. -/
@[simp] theorem errors_none : (mk setting none).errors = [] := rfl

/-- A reading with an error has the one. -/
@[simp] theorem errors_some : (mk setting (some error)).errors = [error] := rfl

end SettingReading

/-- What can be asked of the value of a variable. -/
inductive Demand where
  | region
  | logLevel
  | flag
  | number (least most : Nat)
  | bucket
deriving DecidableEq, Repr

namespace Demand

open Environment

/-- A text without the blanks at its ends. -/
def trimmed (raw : String) : String := String.ofList (Text.trim raw.toList)

/-- Is a value as is asked? A region and a bucket may also be left blank. A log level is one of the
six words in any case, or directives. -/
def Admits : Demand → String → Prop
  | region, raw => trimmed raw = "" ∨ isRegionShaped (trimmed raw) = true
  | logLevel, raw => lowered raw ∈ LogLevel.names ∨ '=' ∈ raw.toList
  | flag, raw => lowered raw ∈ trueWords ∨ lowered raw ∈ falseWords
  | number least most, raw => ∃ n, Text.Writes (Text.trim raw.toList) n ∧ least ≤ n ∧ n ≤ most
  | bucket, raw => trimmed raw = "" ∨ BucketFault.find? (trimmed raw) = none

/-- A number is admitted when it is read and lies within the bounds. -/
theorem admits_number_iff {least most limit : Nat} (room : most ≤ limit) {raw : String} :
    (number least most).Admits raw ↔
      ∃ n, Text.natural? limit (Text.trim raw.toList) = some n ∧ least ≤ n ∧ n ≤ most := by
  simp only [Admits, Text.natural?_eq_some_iff]
  constructor
  · rintro ⟨n, writes, above, below⟩
    exact ⟨n, ⟨writes, Nat.le_trans below room⟩, above, below⟩
  · rintro ⟨n, ⟨writes, _⟩, above, below⟩
    exact ⟨n, writes, above, below⟩

instance (demand : Demand) (raw : String) : Decidable (demand.Admits raw) :=
  match demand with
  | region => inferInstanceAs (Decidable (_ ∨ _))
  | logLevel => inferInstanceAs (Decidable (_ ∨ _))
  | flag => inferInstanceAs (Decidable (_ ∨ _))
  | number least most =>
      decidable_of_iff (∃ n ∈ Text.natural? most (Text.trim raw.toList), least ≤ n ∧ n ≤ most)
        (by rw [admits_number_iff (Nat.le_refl most)]; rfl)
  | bucket => inferInstanceAs (Decidable (_ ∨ _))

end Demand

/-- A variable with what is asked of its value. -/
structure CheckedVariable where
  name : String
  demand : Demand

namespace Environment

variable {α : Type} {environment : Environment} {name : String} {demand : Demand}

/-- A variable is set to a value that is not as is asked. -/
def Refuses (environment : Environment) (asked : CheckedVariable) : Prop :=
  ∃ raw, environment.get? (fullName asked.name) = some raw ∧ ¬ asked.demand.Admits raw

instance (asked : CheckedVariable) : Decidable (environment.Refuses asked) :=
  decidable_of_iff
    (∃ raw ∈ environment.get? (fullName asked.name), ¬ asked.demand.Admits raw) Iff.rfl

/-- A variable that is not set is not refused. -/
theorem not_refuses_of_unset (unset : environment.get? (fullName name) = none) :
    ¬ environment.Refuses ⟨name, demand⟩ := by
  rintro ⟨raw, set, _⟩
  rw [unset] at set
  cases set

/-- A variable that is set is refused where its value is not admitted. -/
theorem refuses_iff_of_set {raw : String} (set : environment.get? (fullName name) = some raw) :
    environment.Refuses ⟨name, demand⟩ ↔ ¬ demand.Admits raw := by
  simp [Refuses, set]

/-- A reading answers a demand: it has one error, with the key of the variable, where the variable
is set to a value that is not as is asked, and none elsewhere. -/
def Answers (environment : Environment) (asked : CheckedVariable) (reading : SettingReading α) :
    Prop :=
  reading.errors.map SettingError.key =
    if environment.Refuses asked then [fullName asked.name] else []

/-- A reading answers a demand when it does so for each value of the variable. -/
theorem answers_read {fallback : α} {parse : String → String → SettingReading α}
    (each : ∀ raw, (parse (fullName name) raw).errors.map SettingError.key =
      if demand.Admits raw then [] else [fullName name]) :
    environment.Answers ⟨name, demand⟩ (environment.read name fallback parse) := by
  unfold Answers read
  cases found : environment.get? (fullName name) with
  | none => exact (if_neg (not_refuses_of_unset found)).symm
  | some raw =>
      dsimp only
      rw [each raw]
      simp only [refuses_iff_of_set found]
      split <;> simp [*]

/-- A flag is read as it is asked for. -/
theorem answers_flag (environment : Environment) (name : String) (fallback : Bool) :
    environment.Answers ⟨name, .flag⟩ (environment.flag name fallback) := by
  refine answers_read fun raw => ?_
  simp only [Demand.Admits, List.contains_iff_mem]
  split
  · simp [*]
  · split <;> simp [*, SettingError.key]

/-- A log level is read as it is asked for. -/
theorem answers_logLevel (environment : Environment) (name fallback : String) :
    environment.Answers ⟨name, .logLevel⟩ (environment.logLevel name fallback) := by
  refine answers_read fun raw => ?_
  simp only [Demand.Admits, List.contains_iff_mem]
  split
  · simp [*]
  · split <;> simp [*, SettingError.key]

/-- A number is read as it is asked for, where the bound on it is within what can be held. -/
theorem answers_number (environment : Environment) (name : String) (fallback least : Nat)
    {most limit : Nat} (room : most ≤ limit) :
    environment.Answers ⟨name, .number least most⟩
      (environment.number limit name fallback least most) := by
  refine answers_read fun raw => ?_
  simp only [Demand.admits_number_iff room]
  split
  · split <;> simp [*, SettingError.key]
  · simp [*, SettingError.key]

/-- A text is read trimmed, and an empty one as none. -/
theorem text_eq (environment : Environment) (name : String) : environment.text name =
    environment.read name none fun key raw =>
      .found key (if Demand.trimmed raw = "" then none else some (Demand.trimmed raw)) := by
  simp only [text, Demand.trimmed, String.ofList_eq_empty_iff, List.isEmpty_iff]

/-- A check of a text is a check of the variable's value where this is not blank. -/
theorem checked_text (environment : Environment) (name : String)
    (fault? : String → Option SettingError) :
    (environment.text name).checked fault? = environment.read name none fun key raw =>
      if Demand.trimmed raw = "" then .found key none
      else ⟨⟨some (Demand.trimmed raw), .environment key⟩, fault? (Demand.trimmed raw)⟩ := by
  rw [text_eq]
  unfold read
  cases environment.get? (fullName name) with
  | none => rfl
  | some raw =>
      dsimp only
      split <;> rfl

/-- A region is read as it is asked for. -/
theorem answers_region (environment : Environment) (name : String) :
    environment.Answers ⟨name, .region⟩ (environment.region name) := by
  rw [region, checked_text]
  refine answers_read fun raw => ?_
  simp only [Demand.Admits]
  split
  · simp [*]
  · split <;> simp [*, SettingError.key]

/-- A bucket is read as it is asked for. -/
theorem answers_bucket (environment : Environment) (name : String) :
    environment.Answers ⟨name, .bucket⟩ (environment.bucket name) := by
  rw [bucket, checked_text]
  refine answers_read fun raw => ?_
  simp only [Demand.Admits]
  split
  · simp [*]
  · rcases Option.eq_none_or_eq_some (BucketFault.find? (Demand.trimmed raw)) with
      sound | ⟨fault, found⟩ <;> simp [*, SettingError.key]

/-- What holds of the built-in value and of each that is read holds of the setting. -/
theorem holds_read (Good : α → Prop) {fallback : α} {parse : String → String → SettingReading α}
    (builtIn : Good fallback) (each : ∀ raw, Good (parse (fullName name) raw).setting.value) :
    Good (environment.read name fallback parse).setting.value := by
  unfold read
  cases environment.get? (fullName name) with
  | none => exact builtIn
  | some raw => exact each raw

/-- A number lies within its bounds, whatever the variable holds, if the built-in one does. -/
theorem number_within (environment : Environment) (limit : Nat) (name : String)
    {fallback least most : Nat} (builtIn : least ≤ fallback ∧ fallback ≤ most) :
    least ≤ (environment.number limit name fallback least most).setting.value ∧
      (environment.number limit name fallback least most).setting.value ≤ most := by
  refine holds_read (fun n => least ≤ n ∧ n ≤ most) builtIn fun raw => ?_
  split
  · split
    · assumption
    · exact builtIn
  · exact builtIn

/-- A level of the log is one of the six words or has directives, whatever the variable holds, if
the built-in one is. -/
theorem logLevel_known (environment : Environment) (name : String) {fallback : String}
    (builtIn : fallback ∈ LogLevel.names) :
    (environment.logLevel name fallback).setting.value ∈ LogLevel.names ∨
      '=' ∈ (environment.logLevel name fallback).setting.value.toList := by
  refine holds_read (fun level => level ∈ LogLevel.names ∨ '=' ∈ level.toList) (.inl builtIn)
    fun raw => ?_
  split
  · rename_i word
    exact .inl (List.contains_iff_mem.1 word)
  · split
    · rename_i directives
      exact .inr (List.contains_iff_mem.1 directives)
    · exact .inl builtIn

/-- A text is that of its variable without the blanks at the ends, where this is not empty. -/
theorem text_eq_some_iff {value : String} :
    (environment.text name).setting.value = some value ↔ value ≠ "" ∧
      ∃ raw, environment.get? (fullName name) = some raw ∧ Demand.trimmed raw = value := by
  rw [text_eq]
  unfold read
  cases environment.get? (fullName name) with
  | none => simp [SettingReading.builtIn]
  | some raw =>
      by_cases blank : Demand.trimmed raw = ""
      · simp [SettingReading.found, blank, eq_comm]
      · simp only [SettingReading.found, if_neg blank, Option.some.injEq, exists_eq_left',
          iff_and_self]
        rintro rfl
        exact blank

end Environment

end Runbook
