import Runbook.Alarm.Manager
import Runbook.Proofs.Alarm.Record

/-!
# What a teardown does

A teardown calls for the deletion of every tracked stack, once and in the order of the identifiers,
whatever the services answer (`exists_teardown`).
-/

namespace Runbook.AlarmManager

variable {σ : Type}

/-- The calls for deletions with their answers. -/
def deletions (results : List (String × Except PortError Unit)) : List PortCall :=
  results.map fun result => .deleteStack result.1 result.2

/-- Deleting stacks is calling for the deletion of each. -/
theorem exists_deletions (ports : AlarmPorts σ) (recorded : Recorded σ) (names : List String) :
    ∃ results services,
      deleteStacks ports.recorded recorded names =
        (results, ⟨services, recorded.calls ++ deletions results⟩) ∧
      results.map Prod.fst = names ∧
      ports.Trace recorded.services (deletions results) services := by
  induction names generalizing recorded with
  | nil => exact ⟨[], recorded.services, by simp [deleteStacks, deletions], rfl, .none⟩
  | cons stack rest ih =>
      rcases removed : ports.deleteStack recorded.services stack with ⟨result, between⟩
      obtain ⟨results, services, ran, listed, trace⟩ :=
        ih ⟨between, recorded.calls ++ [.deleteStack stack result]⟩
      refine ⟨(stack, result) :: results, services, ?_, by rw [List.map_cons, listed],
        .call removed trace⟩
      simp only [AlarmPorts.recorded, Recorded.note] at ran
      simp only [deleteStacks, AlarmPorts.recorded, Recorded.note, removed, ran, deletions,
        List.map_cons, List.append_assoc, List.cons_append, List.nil_append]

/-- A teardown calls for the deletion of the tracked stacks and reports the answers. -/
theorem exists_teardown (ports : AlarmPorts σ) (manager : AlarmManager) (recorded : Recorded σ) :
    ∃ results services,
      destroy ports.recorded manager recorded =
        (TeardownReport.ofResults results, { manager with deployed := Table.empty },
          ⟨services, recorded.calls ++ deletions results⟩) ∧
      results.map Prod.fst = manager.deployed.values.map DeployedAlarm.stack ∧
      ports.Trace recorded.services (deletions results) services := by
  obtain ⟨results, services, ran, listed, trace⟩ :=
    exists_deletions ports recorded (manager.deployed.values.map DeployedAlarm.stack)
  exact ⟨results, services, by simp only [destroy, ran], listed, trace⟩

/-- Where the services give the answers, deleting has them as its results. -/
theorem deleteStacks_eq {ports : AlarmPorts σ} {before after : σ}
    {results : List (String × Except PortError Unit)}
    (trace : ports.Trace before (deletions results) after) :
    deleteStacks ports before (results.map Prod.fst) = (results, after) := by
  induction results generalizing before with
  | nil =>
      obtain _ | _ := trace
      rfl
  | cons result rest ih =>
      obtain _ | ⟨removed, later⟩ := trace
      simp only [AlarmPorts.Answers] at removed
      simp only [List.map_cons, deleteStacks, removed, ih later]

/-- The record changes nothing: the services underneath are asked and answer as without it. -/
theorem destroy_recorded (ports : AlarmPorts σ) (manager : AlarmManager) (recorded : Recorded σ) :
    destroy ports manager recorded.services =
      let run := destroy ports.recorded manager recorded
      (run.1, run.2.1, run.2.2.services) := by
  obtain ⟨results, services, ran, listed, trace⟩ := exists_teardown ports manager recorded
  rw [ran]
  simp only [destroy, ← listed, deleteStacks_eq trace]

end Runbook.AlarmManager
