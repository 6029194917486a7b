import Runbook.Proofs.Alarm.Deployment
import Runbook.Proofs.Alarm.Naming

/-!
# The managers there can be

`Reachable` are the managers that deployments and teardowns lead to, whatever services they meet on
the way. All their stacks are different: a new stack carries a greater number than every stack that
is tracked already (`Reachable.trackedStacks_nodup`).
-/

namespace Runbook.AlarmManager

/-- The stacks of the tracked alarms, in the order of the identifiers. -/
def trackedStacks (manager : AlarmManager) : List String :=
  manager.deployed.values.map DeployedAlarm.stack

/-- The managers that deployments and teardowns lead to. Each call can meet other services. -/
inductive Reachable (settings : AlarmSettings) : AlarmManager → Prop where
  | start : Reachable settings (new settings)
  | deploy {σ : Type} {manager next : AlarmManager} {services after : σ}
      {result : Except AlarmError String} (reachable : Reachable settings manager)
      (ports : AlarmPorts σ) (files : Files) (reference : String)
      (bindings : Table String String) (id : Option String)
      (ran : AlarmManager.deploy ports files manager services reference bindings id =
        (result, next, after)) : Reachable settings next
  | destroy {σ : Type} {manager next : AlarmManager} {services after : σ}
      {report : TeardownReport} (reachable : Reachable settings manager) (ports : AlarmPorts σ)
      (ran : AlarmManager.destroy ports manager services = (report, next, after)) :
      Reachable settings next

/-- Each tracked stack has a number of its own, none above the last one given. -/
structure Numbered (settings : AlarmSettings) (manager : AlarmManager) : Prop where
  configured : manager.settings = settings
  numbered : ∀ id alarm, manager.deployed.get? id = some alarm →
    ∃ reference number, number ≤ manager.ordinal ∧
      alarm.stack = StackName.make reference settings.run number
  apart : ∀ id other alarm another, manager.deployed.get? id = some alarm →
    manager.deployed.get? other = some another → alarm.stack = another.stack → id = other

variable {settings : AlarmSettings} {manager next : AlarmManager}

/-- A greater last number changes nothing. -/
theorem Numbered.raise {number : Nat} (numbered : Numbered settings manager)
    (above : manager.ordinal < number) :
    Numbered settings { manager with ordinal := number } where
  configured := numbered.configured
  numbered id alarm tracked := by
    obtain ⟨reference, old, bounded, same⟩ := numbered.numbered id alarm tracked
    exact ⟨reference, old, by show old ≤ number; omega, same⟩
  apart := numbered.apart

/-- The stack of a new alarm is unlike all that are tracked. -/
theorem Numbered.insert {number : Nat} {key reference another template : String}
    (numbered : Numbered settings manager) (above : manager.ordinal < number) :
    Numbered settings
      { manager with
        ordinal := number
        deployed := manager.deployed.insert key
          ⟨key, another, StackName.make reference settings.run number, template⟩ } := by
  have fresh (id : String) (alarm : DeployedAlarm)
      (tracked : manager.deployed.get? id = some alarm) :
      alarm.stack ≠ StackName.make reference settings.run number := by
    intro same
    obtain ⟨_, old, bounded, named⟩ := numbered.numbered id alarm tracked
    have equal := StackName.number_eq_of_make_eq (named.symm.trans same)
    omega
  refine ⟨numbered.configured, fun id alarm tracked => ?_,
    fun id other alarm second tracked found same => ?_⟩
  · rw [Table.get?_insert] at tracked
    split at tracked
    · cases tracked
      exact ⟨reference, number, Nat.le_refl _, rfl⟩
    · exact (numbered.raise above).numbered id alarm tracked
  · rw [Table.get?_insert] at tracked found
    split at tracked <;> split at found
    · rename_i here there
      rw [here, there]
    · cases tracked
      exact absurd same.symm (fresh other second found)
    · cases found
      exact absurd same (fresh id alarm tracked)
    · exact numbered.apart id other alarm second tracked found same

/-- Every deployment is one of the listed cases. -/
theorem exists_deployment_of_deploy {σ : Type} {ports : AlarmPorts σ} {files : Files}
    {services after : σ} {reference : String} {bindings : Table String String}
    {id : Option String} {result : Except AlarmError String}
    (ran : deploy ports files manager services reference bindings id = (result, next, after)) :
    ∃ calls, Deployment files manager reference bindings id calls result next := by
  obtain ⟨calls, answer, last, left, -, deployment, trace⟩ :=
    exists_deployment ports files manager ⟨services, []⟩ reference bindings id
  rw [deployment.deploy_eq trace] at ran
  cases ran
  exact ⟨calls, deployment⟩

/-- In every manager that is reached, each tracked stack has a number of its own. -/
theorem Reachable.numbered (reachable : Reachable settings manager) :
    Numbered settings manager := by
  induction reachable with
  | start =>
      exact ⟨rfl, fun _ _ tracked => by simp [new] at tracked,
        fun _ _ _ _ tracked => by simp [new] at tracked⟩
  | deploy _ _ _ _ _ _ ran ih =>
      obtain ⟨calls, deployment⟩ := exists_deployment_of_deploy ran
      cases deployment with
      | notRendered | notIdentified => exact ih
      | failed rendered identified attempt =>
          exact ih.raise (fresh_of_identify identified).1
      | tracked rendered identified attempt =>
          obtain rfl := ih.configured
          exact ih.insert (fresh_of_identify identified).1
  | destroy _ _ ran ih =>
      cases ran
      exact ⟨ih.configured, fun _ _ tracked => by simp at tracked,
        fun _ _ _ _ tracked => by simp at tracked⟩

/-- The tracked stacks are all different. -/
theorem Reachable.trackedStacks_nodup (reachable : Reachable settings manager) :
    manager.trackedStacks.Nodup :=
  Table.nodup_map_values reachable.numbered.apart

end Runbook.AlarmManager
