import Runbook.Proofs.Settings.Errors

/-!
# Settings without errors

Settings that are loaded without errors and without the command line are valid, but for one way in:
the region that the shared variable names is taken as it is. So the region is valid exactly where
the program's own variable names one, or the shared variable names none or a valid one
(`valid_iff_of_no_errors`).
-/

namespace Runbook.Settings

open Environment

variable {environment : Environment} {asked : CheckedVariable} {raw : String}

/-- Where there are no errors each checked variable that is set has a value as is asked. -/
theorem admits_of_no_errors {overrides : Overrides} (clean : (load environment overrides).2 = [])
    (checked : asked ∈ checkedVariables) (set : environment.get? (fullName asked.name) = some raw) :
    asked.demand.Admits raw := by
  have keys := keys_load environment overrides
  rw [clean, List.map_nil, eq_comm, List.map_eq_nil_iff, List.filter_eq_nil_iff] at keys
  refine Decidable.byContradiction fun refused => ?_
  exact keys asked checked (decide_eq_true ⟨raw, set, refused⟩)

/-- The program's own variable names a region. -/
def NamesRegion (environment : Environment) : Prop :=
  ∃ raw, environment.get? (fullName "REGION") = some raw ∧ Demand.trimmed raw ≠ ""

/-- The environment names a region where the variable is set to a text that is not blank. -/
theorem namesRegion_iff : NamesRegion environment ↔
    ∃ value, (environment.text "REGION").setting.value = some value := by
  simp only [NamesRegion, text_eq_some_iff]
  constructor
  · rintro ⟨raw, set, filled⟩
    exact ⟨_, filled, raw, set, rfl⟩
  · rintro ⟨_, filled, raw, set, rfl⟩
    exact ⟨raw, set, filled⟩

/-- Where the program's own variable names a region, the shared one is not looked at. -/
theorem regionOf_of_namesRegion (names : NamesRegion environment) :
    (regionOf environment).setting = (environment.text "REGION").setting := by
  obtain ⟨value, own⟩ := namesRegion_iff.1 names
  have reading : (environment.region "REGION").setting.value = some value := own
  simp only [regionOf, reading]
  rfl

/-- Where it names none, the region is what the shared variable holds. -/
theorem regionOf_of_not_namesRegion (unnamed : ¬ NamesRegion environment) :
    (regionOf environment).setting.value =
      (environment.get? sharedRegion).filter fun region => !region.isEmpty := by
  have reading : (environment.region "REGION").setting.value = none := by
    refine Option.eq_none_iff_forall_ne_some.2 fun value own => ?_
    exact unnamed (namesRegion_iff.2 ⟨value, own⟩)
  simp only [regionOf, reading]
  cases environment.get? sharedRegion with
  | none => exact reading
  | some region =>
      dsimp only
      split
      · rename_i blank
        simp [Option.filter_some, blank, reading]
      · rename_i filled
        simp [Option.filter_some, filled]

/-- Settings that are loaded without errors and without the command line have a valid bucket, a
known level of the log and numbers within their bounds. Their region is valid exactly where the
program's own variable names one, or what the shared one holds is empty or valid. -/
theorem valid_iff_of_no_errors (clean : (load environment Overrides.none).2 = []) :
    let settings := (load environment Overrides.none).1
    (∀ bucket, settings.alarmBucket.value = some bucket → BucketFault.find? bucket = none) ∧
      settings.InRange ∧
      (settings.logLevel.value ∈ LogLevel.names ∨ '=' ∈ settings.logLevel.value.toList) ∧
      ((∀ region, settings.region.value = some region → isRegionShaped region = true) ↔
        NamesRegion environment ∨ ∀ shared, environment.get? sharedRegion = some shared →
          shared = "" ∨ isRegionShaped shared = true) := by
  intro settings
  refine ⟨fun bucket is => ?_, inRange_load environment _,
    logLevel_known environment _ (by decide), ?_⟩
  · obtain ⟨filled, raw, set, rfl⟩ := text_eq_some_iff.1 is
    have checked : ⟨"ALARM_BUCKET", .bucket⟩ ∈ checkedVariables := by simp [checkedVariables]
    have admits : Demand.bucket.Admits raw := admits_of_no_errors clean checked set
    exact admits.resolve_left filled
  · have taken : settings.region.value = (regionOf environment).setting.value := rfl
    rw [taken]
    by_cases names : NamesRegion environment
    · refine iff_of_true (fun region is => ?_) (.inl names)
      rw [regionOf_of_namesRegion names] at is
      obtain ⟨filled, raw, set, rfl⟩ := text_eq_some_iff.1 is
      have checked : ⟨"REGION", .region⟩ ∈ checkedVariables := by simp [checkedVariables]
      have admits : Demand.region.Admits raw := admits_of_no_errors clean checked set
      exact admits.resolve_left filled
    · rw [regionOf_of_not_namesRegion names, or_iff_right names]
      simp only [Option.filter_eq_some_iff, and_imp, Decidable.or_iff_not_imp_left,
        Bool.not_eq_true', String.isEmpty_eq_false_iff, ne_eq]

/-- The program's own variable names a region, so that what the shared one holds does no harm. -/
theorem valid_named_region :
    let environment : Environment := ⟨Table.ofList [("DIGITO_REGION", " us-gov-west-1 "),
      ("AWS_REGION", "not a region"), ("DIGITO_ALARM_BUCKET", "my.bucket.01")]⟩
    let settings := (load environment Overrides.none).1
    (load environment Overrides.none).2 = [] ∧
      settings.region.value = some "us-gov-west-1" ∧
      (∀ region, settings.region.value = some region → isRegionShaped region = true) ∧
      ∀ bucket, settings.alarmBucket.value = some bucket → BucketFault.find? bucket = none := by
  intro environment settings
  have clean : (load environment Overrides.none).2 = [] := by decide
  obtain ⟨bucket, -, -, region⟩ := valid_iff_of_no_errors clean
  have names : NamesRegion environment := ⟨" us-gov-west-1 ", by decide, by decide⟩
  exact ⟨clean, by decide, region.2 (.inl names), bucket⟩

/-- What the shared variable holds becomes the region without a check and without an error. -/
theorem shared_region_unchecked :
    let environment : Environment := ⟨Table.ofList [(sharedRegion, "not a region")]⟩
    (load environment Overrides.none).2 = [] ∧
      (load environment Overrides.none).1.region.value = some "not a region" ∧
      isRegionShaped "not a region" = false := by
  decide

end Runbook.Settings
