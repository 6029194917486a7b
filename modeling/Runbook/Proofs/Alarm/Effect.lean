import Runbook.Alarm.Service
import Runbook.Proofs.Alarm.Deployment
import Runbook.Proofs.Alarm.Teardown
import Runbook.Proofs.Table

/-!
# What is left in the services in memory

An attempt to bring up a new stack leaves all other stacks and objects as they are. The stack is
live with a good status where the attempt succeeds; where it fails the stack is gone, or its
deletion failed (`Attempt.left`). A teardown leaves of the stacks it deletes those whose deletion
failed (`left_of_deletions`).
-/

namespace Runbook

namespace AlarmServices

variable {services after : AlarmServices}

/-- Storing an object touches no stack. -/
theorem putObject_cases {bucket key body : String} {answer : Except PortError String}
    (stored : services.putObject bucket key body = (answer, after)) :
    after.live = services.live ∧
      ((∃ cause, answer = .error cause) ∧ after.objects = services.objects ∨
        (∃ url, answer = .ok url) ∧
          after.objects = services.objects.insert (bucket, key) body) := by
  simp only [putObject] at stored
  split at stored
  · cases stored
    exact ⟨rfl, Or.inl ⟨⟨_, rfl⟩, rfl⟩⟩
  · cases stored
    exact ⟨rfl, Or.inr ⟨⟨_, rfl⟩, rfl⟩⟩

/-- A stack with a new name is created. -/
theorem createStack_of_fresh {name url : String} {answer : Except PortError Unit}
    (fresh : services.live.get? name = none)
    (made : services.createStack name url = (answer, after)) :
    answer = .ok () ∧ after.objects = services.objects ∧
      ∃ outcome, after.live = services.live.insert name outcome := by
  have absent : (services.note (.create name url)).live.contains name = false :=
    Table.contains_eq_false_iff.2 fresh
  simp only [createStack, absent, Bool.false_eq_true, ↓reduceIte] at made
  cases made
  exact ⟨rfl, rfl, _, rfl⟩

/-- The status of a live stack is told. -/
theorem stackStatus_of_live {name : String} {answer : Except PortError (Option String)}
    {outcome : StackOutcome} (live : services.live.get? name = some outcome)
    (asked : services.stackStatus name = (answer, after)) :
    answer = .ok (some outcome.status) ∧ after.live = services.live ∧
      after.objects = services.objects := by
  have told : (services.note (.status name)).live.get? name = some outcome := live
  simp only [stackStatus, told] at asked
  cases asked
  exact ⟨rfl, rfl, rfl⟩

/-- Telling the history changes neither stacks nor objects. -/
theorem stackEvents_cases {name : String} {answer : Except PortError (List StackEvent)}
    (asked : services.stackEvents name = (answer, after)) :
    after.live = services.live ∧ after.objects = services.objects := by
  simp only [stackEvents] at asked
  split at asked <;> cases asked <;> exact ⟨rfl, rfl⟩

/-- A deletion removes the stack or fails. -/
theorem deleteStack_cases {name : String} {answer : Except PortError Unit}
    (removed : services.deleteStack name = (answer, after)) :
    after.objects = services.objects ∧
      (after.live = services.live.erase name ∨
        after.live = services.live ∧ ∃ cause, answer = .error cause) := by
  simp only [deleteStack] at removed
  split at removed
  · cases removed
    exact ⟨rfl, Or.inr ⟨rfl, _, rfl⟩⟩
  · cases removed
    exact ⟨rfl, Or.inl rfl⟩

end AlarmServices

namespace AlarmManager

variable {before after : AlarmServices} {calls : List PortCall}

/-- What an attempt at a stack leaves behind. -/
structure Left (before : AlarmServices) (bucket stack template : String) (calls : List PortCall)
    (result : Except AlarmError Unit) (after : AlarmServices) : Prop where
  live_other : ∀ other, other ≠ stack → after.live.get? other = before.live.get? other
  object_other : ∀ place, place ≠ (bucket, templateKey stack) →
    after.objects.get? place = before.objects.get? place
  up : result = .ok () →
    (∃ outcome, after.live.get? stack = some outcome ∧
      goodStatuses.contains outcome.status = true) ∧
    after.objects.get? (bucket, templateKey stack) = some template
  down : ∀ error, result = .error error →
    after.live.get? stack = none ∨ ∃ cause, .deleteStack stack (.error cause) ∈ calls
  created : ∀ name url cause, .createStack name url (.error cause) ∉ calls

/-- A stack that is looked at is up and stays; or it is deleted, unless that fails. -/
theorem Check.cases_of_live {stack : String} {result : Except AlarmError Unit}
    (check : Check stack calls result) (trace : AlarmServices.ports.Trace before calls after)
    {outcome : StackOutcome} (live : before.live.get? stack = some outcome) :
    after.objects = before.objects ∧
      (result = .ok () ∧ after.live = before.live ∧
          goodStatuses.contains outcome.status = true ∨
        (∃ error, result = .error error) ∧
          (after.live = before.live.erase stack ∨
            after.live = before.live ∧ ∃ cause, .deleteStack stack (.error cause) ∈ calls)) := by
  cases check with
  | unanswered cause =>
      obtain _ | ⟨asked, -⟩ := trace
      obtain ⟨answered, -⟩ := AlarmServices.stackStatus_of_live live asked
      cases answered
  | up good =>
      obtain _ | ⟨asked, _ | _⟩ := trace
      obtain ⟨answered, lives, objects⟩ := AlarmServices.stackStatus_of_live live asked
      cases answered
      exact ⟨objects, Or.inl ⟨rfl, lives, good⟩⟩
  | down bad events deleted =>
      obtain _ | ⟨asked, _ | ⟨listed, _ | ⟨removed, _ | _⟩⟩⟩ := trace
      obtain ⟨-, afterStatus, objectsStatus⟩ := AlarmServices.stackStatus_of_live live asked
      obtain ⟨afterEvents, objectsEvents⟩ := AlarmServices.stackEvents_cases listed
      obtain ⟨objects, gone⟩ := AlarmServices.deleteStack_cases removed
      rw [afterEvents, afterStatus] at gone
      refine ⟨objects.trans (objectsEvents.trans objectsStatus), Or.inr ⟨⟨_, rfl⟩, ?_⟩⟩
      rcases gone with erased | ⟨kept, cause, rfl⟩
      · exact Or.inl erased
      · exact Or.inr ⟨kept, cause, by simp⟩

/-- An attempt at a stack with a new name. -/
theorem Attempt.left {bucket stack template : String} {result : Except AlarmError Unit}
    (attempt : Attempt bucket stack template calls result)
    (trace : AlarmServices.ports.Trace before calls after)
    (fresh : before.live.get? stack = none) :
    Left before bucket stack template calls result after := by
  cases attempt with
  | uploadFailed cause =>
      obtain _ | ⟨stored, _ | _⟩ := trace
      obtain ⟨live, ⟨-, objects⟩ | ⟨⟨_, answered⟩, -⟩⟩ := AlarmServices.putObject_cases stored
      · exact ⟨fun _ _ => by rw [live], fun _ _ => by rw [objects], nofun,
          fun _ _ => Or.inl (by rw [live, fresh]), by simp⟩
      · cases answered
  | createFailed url cause =>
      obtain _ | ⟨stored, _ | ⟨made, _ | _⟩⟩ := trace
      obtain ⟨live, -⟩ := AlarmServices.putObject_cases stored
      rw [← live] at fresh
      obtain ⟨answered, -⟩ := AlarmServices.createStack_of_fresh fresh made
      cases answered
  | created url check =>
      obtain _ | ⟨stored, _ | ⟨made, checked⟩⟩ := trace
      obtain ⟨live, ⟨⟨_, answered⟩, -⟩ | ⟨-, objects⟩⟩ := AlarmServices.putObject_cases stored
      · cases answered
      rw [← live] at fresh
      obtain ⟨-, objectsCreate, outcome, liveCreate⟩ :=
        AlarmServices.createStack_of_fresh fresh made
      obtain ⟨objectsCheck, ends⟩ := check.cases_of_live checked
        (show _ = some outcome by rw [liveCreate, Table.get?_insert_self])
      rw [objectsCreate, objects] at objectsCheck
      rw [liveCreate, live] at ends
      refine ⟨fun other differs => ?_, fun place differs => ?_, fun good => ⟨?_, ?_⟩,
        fun error bad => ?_, by simp [check.createStack_not_mem]⟩
      · rcases ends with ⟨-, lives, -⟩ | ⟨-, lives | ⟨lives, -⟩⟩ <;>
          simp [lives, Table.get?_erase, Table.get?_insert, differs]
      · rw [objectsCheck, Table.get?_insert, if_neg differs]
      · rcases ends with ⟨-, lives, up⟩ | ⟨⟨_, bad⟩, -⟩
        · exact ⟨outcome, by rw [lives, Table.get?_insert_self], up⟩
        · rw [good] at bad
          cases bad
      · rw [objectsCheck, Table.get?_insert_self]
      · rcases ends with ⟨good, -⟩ | ⟨-, lives | ⟨-, cause, failed⟩⟩
        · rw [good] at bad
          cases bad
        · exact Or.inl (by rw [lives, Table.get?_erase, if_pos rfl])
        · exact Or.inr ⟨cause, by simp [failed]⟩

/-- Deletions remove the stacks that they name, unless they fail, and nothing else. -/
theorem left_of_deletions {results : List (String × Except PortError Unit)}
    (trace : AlarmServices.ports.Trace before (deletions results) after) :
    after.objects = before.objects ∧
      ∀ stack outcome, after.live.get? stack = some outcome →
        before.live.get? stack = some outcome ∧
          (stack ∈ results.map Prod.fst →
            ∃ cause, .deleteStack stack (.error cause) ∈ deletions results) := by
  induction results generalizing before with
  | nil =>
      obtain _ | _ := trace
      exact ⟨rfl, fun _ _ live => ⟨live, by simp⟩⟩
  | cons result rest ih =>
      obtain _ | ⟨removed, later⟩ := trace
      obtain ⟨objects, gone⟩ := AlarmServices.deleteStack_cases removed
      obtain ⟨objectsLater, left⟩ := ih later
      refine ⟨objectsLater.trans objects, fun stack outcome live => ?_⟩
      obtain ⟨between, failed⟩ := left stack outcome live
      rcases gone with erased | ⟨kept, cause, answered⟩
      · rw [erased, Table.get?_erase] at between
        split at between
        · cases between
        · rename_i differs
          refine ⟨between, fun listed => ?_⟩
          obtain ⟨cause, member⟩ := failed (by simpa [differs] using listed)
          exact ⟨cause, List.mem_cons_of_mem _ member⟩
      · rw [kept] at between
        refine ⟨between, fun listed => ?_⟩
        rcases List.mem_cons.1 listed with same | listed
        · exact ⟨cause, by simp [deletions, same, answered]⟩
        · obtain ⟨cause, member⟩ := failed listed
          exact ⟨cause, List.mem_cons_of_mem _ member⟩

end AlarmManager

end Runbook
