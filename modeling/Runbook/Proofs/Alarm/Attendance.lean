import Runbook.Alarm.Service
import Runbook.Proofs.Alarm.Deployment
import Runbook.Proofs.Alarm.Loading
import Runbook.Proofs.Table

/-!
# Which created stacks are attended to

A stack that a deployment creates is to end up tracked, or its deletion is to be called for. That
is so whatever the services answer, with one exception: where the question for the status of the
new stack gets no answer, nothing is tracked and nothing is deleted (`attended_iff_answered`).
-/

namespace Runbook.AlarmManager

variable {σ : Type} {calls : List PortCall}

/-- A check ends well or calls for the deletion exactly where the stack's status is told. -/
theorem Check.attended_iff {stack : String} {result : Except AlarmError Unit}
    (check : Check stack calls result) :
    (result = .ok () ∨ ∃ answer, .deleteStack stack answer ∈ calls) ↔
      ∀ cause, .stackStatus stack (.error cause) ∉ calls := by
  cases check <;> simp

/-- What an attempt creates is its own stack, and that stack is checked. -/
theorem Attempt.attended_iff {bucket stack template name url : String}
    {result : Except AlarmError Unit} (attempt : Attempt bucket stack template calls result)
    (created : .createStack name url (.ok ()) ∈ calls) :
    name = stack ∧
      ((result = .ok () ∨ ∃ answer, .deleteStack name answer ∈ calls) ↔
        ∀ cause, .stackStatus name (.error cause) ∉ calls) := by
  cases attempt with
  | uploadFailed | createFailed => simp at created
  | created url check =>
      obtain ⟨rfl, rfl⟩ : name = stack ∧ _ := by
        simpa [check.createStack_not_mem] using created
      simpa using check.attended_iff

/-- A stack that was created during a deployment is tracked afterwards or its deletion was called
for, exactly where it was tracked before or the question for its status was answered. -/
theorem attended_iff_answered (ports : AlarmPorts σ) (files : Files) (manager : AlarmManager)
    (services : σ) (reference : String) (bindings : Table String String) (id : Option String)
    {result : Except AlarmError String} {next : AlarmManager} {after : Recorded σ}
    (ran : deploy ports.recorded files manager ⟨services, []⟩ reference bindings id =
      (result, next, after))
    {stack url : String} (created : .createStack stack url (.ok ()) ∈ after.calls) :
    (next.Tracks stack ∨ ∃ answer, .deleteStack stack answer ∈ after.calls) ↔
      (manager.Tracks stack ∨ ∀ cause, .stackStatus stack (.error cause) ∉ after.calls) := by
  obtain ⟨calls, noted, deployment, -⟩ := deployment_of_deploy ran
  rw [List.nil_append] at noted
  rw [noted] at created ⊢
  cases deployment with
  | notRendered | notIdentified => simp at created
  | failed rendered identified attempt =>
      -- What is tracked stays as it is, and the attempt has no good result.
      have attended := (attempt.attended_iff created).2
      simp only [reduceCtorEq, false_or] at attended
      exact or_congr Iff.rfl attended
  | tracked rendered identified attempt =>
      obtain ⟨rfl, attended⟩ := attempt.attended_iff created
      exact iff_of_true (Or.inl ⟨_, _, Table.get?_insert_self _ _ _, rfl⟩)
        (Or.inr (attended.1 (Or.inl rfl)))

/-- A stack that rolled back is not tracked; its deletion was called for. -/
theorem attended_when_rolled_back :
    let stack := "rds-alarm-cpu-1-ab12cd34-1"
    let services := AlarmServices.empty.pushOutcome ⟨"ROLLBACK_COMPLETE", []⟩
    let run := deploy AlarmServices.ports.recorded (sampleFiles "Limit: 5") (new sampleSettings)
      ⟨services, []⟩ "rds:alarm:cpu:1" Table.empty none
    .createStack stack (AlarmServices.objectUrl "bucket" (templateKey stack)) (.ok ()) ∈
        run.2.2.calls ∧
      (run.2.1.Tracks stack ∨ ∃ answer, .deleteStack stack answer ∈ run.2.2.calls) := by
  intro stack services run
  let url := AlarmServices.objectUrl "bucket" (templateKey stack)
  have calls : run.2.2.calls =
      [.putObject "bucket" (templateKey stack) "Limit: 5" (.ok url),
        .createStack stack url (.ok ()), .stackStatus stack (.ok (some "ROLLBACK_COMPLETE")),
        .stackEvents stack (.ok []), .deleteStack stack (.ok ())] := by
    simp only [run, deploy_sampleFiles_new _ _ renderTemplate_sampleFiles]
    rfl
  have created : .createStack stack url (.ok ()) ∈ run.2.2.calls := by simp [calls]
  have answered (cause : PortError) : .stackStatus stack (.error cause) ∉ run.2.2.calls := by
    simp [calls]
  have ran : run = (run.1, run.2.1, run.2.2) := rfl
  exact ⟨created, (attended_iff_answered AlarmServices.ports (sampleFiles "Limit: 5")
    (new sampleSettings) services "rds:alarm:cpu:1" Table.empty none ran created).2
    (Or.inr answered)⟩

/-- Services that lose the next question for a status. -/
def silentServices : ScriptedServices :=
  { ScriptedServices.empty with
    queued.stackStatus :=
      [.error (.transport "DescribeStacks" "rds-alarm-cpu-1-ab12cd34-1" "timeout")] }

/-- A stack whose status cannot be asked for is neither tracked nor deleted, and tearing down
leaves it live. -/
theorem unattended_when_silent :
    let stack := "rds-alarm-cpu-1-ab12cd34-1"
    let run := deploy ScriptedServices.ports.recorded (sampleFiles "Limit: 5")
      (new sampleSettings) ⟨silentServices, []⟩ "rds:alarm:cpu:1" Table.empty none
    let torn := destroy ScriptedServices.ports.recorded run.2.1 run.2.2
    .createStack stack (AlarmServices.objectUrl "bucket" (templateKey stack)) (.ok ()) ∈
        run.2.2.calls ∧
      ¬ (run.2.1.Tracks stack ∨ ∃ answer, .deleteStack stack answer ∈ run.2.2.calls) ∧
      torn.2.2.services.services.live.contains stack = true := by
  intro stack run torn
  let url := AlarmServices.objectUrl "bucket" (templateKey stack)
  let cause : PortError := .transport "DescribeStacks" stack "timeout"
  have left : run = (.error (.stack stack cause), ⟨sampleSettings, Table.empty, 1⟩,
      ⟨⟨{ AlarmServices.empty with
            live := Table.empty.insert stack AlarmServices.success
            objects := Table.empty.insert ("bucket", templateKey stack) "Limit: 5"
            calls := [.create stack url] }, ScriptedServices.empty.queued⟩,
        [.putObject "bucket" (templateKey stack) "Limit: 5" (.ok url),
          .createStack stack url (.ok ()), .stackStatus stack (.error cause)]⟩) := by
    simp only [run, deploy_sampleFiles_new _ _ renderTemplate_sampleFiles]
    rfl
  simp only [torn, left]
  exact ⟨by simp [url], by simp [Tracks], rfl⟩

end Runbook.AlarmManager
