import Runbook.Proofs.Settings.Dependence

/-!
# Setting a variable

A setting depends on the variables that it is read from and on no other. So the variable with the
services that only warn, which never has a fault, changes this one setting (`load_set_warnOnly`).
-/

namespace Runbook

namespace Environment

variable {environment : Environment} {key name value : String}

/-- The variables, one of them set. -/
def set (environment : Environment) (key value : String) : Environment :=
  ⟨environment.table.insert key value⟩

/-- A variable that is set has the value, and the others are as before. -/
theorem get?_set : (environment.set key value).get? name =
    if name = key then some value else environment.get? name :=
  Table.get?_insert _ _ _ _

/-- Setting a variable leaves the others. -/
theorem get?_set_of_ne (differs : name ≠ key) :
    (environment.set key value).get? name = environment.get? name := by
  rw [get?_set, if_neg differs]

/-- Setting a variable leaves the readings of others. -/
theorem read_set_of_ne {α : Type} {fallback : α} {parse : String → String → SettingReading α}
    (differs : fullName name ≠ key) : (environment.set key value).read name fallback parse =
      environment.read name fallback parse :=
  read_congr (get?_set_of_ne differs)

/-- Setting a variable leaves paths that neither it nor the home directory is about. -/
theorem path_set {fallback : String} (differs : fullName name ≠ key)
    (apart : homeVariable ≠ key) :
    (environment.set key value).path name fallback = environment.path name fallback :=
  path_congr (get?_set_of_ne differs) (get?_set_of_ne apart)

/-- The names of a list are those between its commas, whatever else is set. -/
theorem names_set (environment : Environment) (name list : String) (fallback : List String) :
    (environment.set (fullName name) list).names name fallback =
      .found (fullName name) (splitNames list) := by
  rw [names, read, get?_set, if_pos rfl]
  rfl

/-- A list of names is never refused. -/
theorem errors_names (environment : Environment) (name : String) (fallback : List String) :
    (environment.names name fallback).errors = [] := by
  rw [names, read]
  cases environment.get? (fullName name) <;> rfl

end Environment

namespace Settings

/-- The variable with the services whose findings only warn. -/
def warnOnlyVariable : String := Environment.fullName "WARN_ONLY_SERVICES"

/-- Setting the variable changes the list of services and nothing else. -/
theorem load_set_warnOnly (environment : Environment) (overrides : Overrides) (list : String) :
    load (environment.set warnOnlyVariable list) overrides =
      ({ (load environment overrides).1 with
          warnOnly := ⟨splitNames list, .environment warnOnlyVariable⟩ },
        (load environment overrides).2) := by
  rw [load]
  simp (disch := decide) only [Environment.path_set, regionOf, Environment.region,
    Environment.bucket, Environment.text, Environment.logLevel, Environment.flag,
    Environment.number, Environment.read_set_of_ne, Environment.get?_set_of_ne,
    Environment.errors_names, List.append_nil]
  rw [load, Environment.errors_names, List.append_nil, warnOnlyVariable, Environment.names_set]
  rfl

end Settings

end Runbook
