import Runbook.Alarm.Manager
import Runbook.Proofs.Alarm.Record

/-!
# What a deployment does

`Check`, `Attempt` and `Deployment` list what looking at a stack, bringing it up and deploying an
alarm can do, whatever the services answer: the calls with their answers, and the result. There is
always such a case (`exists_deployment`), and where the services give the answers of a case it is
what happens (`Deployment.deploy_eq`).
-/

namespace Runbook.AlarmManager

variable {σ : Type}

/-- Is a stack tracked? -/
def Tracks (manager : AlarmManager) (stack : String) : Prop :=
  ∃ id alarm, manager.deployed.get? id = some alarm ∧ alarm.stack = stack

/-- What looking at a stack can do. -/
inductive Check (stack : String) : List PortCall → Except AlarmError Unit → Prop where
  | unanswered (cause : PortError) :
      Check stack [.stackStatus stack (.error cause)] (.error (.stack stack cause))
  | up {status : Option String} (good : goodStatuses.contains (status.getD absentStatus) = true) :
      Check stack [.stackStatus stack (.ok status)] (.ok ())
  | down {status : Option String} (bad : goodStatuses.contains (status.getD absentStatus) = false)
      (events : Except PortError (List StackEvent)) (deleted : Except PortError Unit) :
      Check stack
        [.stackStatus stack (.ok status), .stackEvents stack events, .deleteStack stack deleted]
        (.error (.stackFailed stack (status.getD absentStatus) (failureLines events)))

/-- Looking at a stack creates none. -/
theorem Check.createStack_not_mem {stack : String} {calls : List PortCall}
    {result : Except AlarmError Unit} (check : Check stack calls result) (name url : String)
    (answer : Except PortError Unit) : .createStack name url answer ∉ calls := by
  cases check <;> simp

/-- What bringing up a stack can do. -/
inductive Attempt (bucket stack template : String) :
    List PortCall → Except AlarmError Unit → Prop where
  | uploadFailed (cause : PortError) :
      Attempt bucket stack template
        [.putObject bucket (templateKey stack) template (.error cause)]
        (.error (.upload stack cause))
  | createFailed (url : String) (cause : PortError) :
      Attempt bucket stack template
        [.putObject bucket (templateKey stack) template (.ok url),
          .createStack stack url (.error cause)]
        (.error (.stack stack cause))
  | created (url : String) {calls : List PortCall} {result : Except AlarmError Unit}
      (check : Check stack calls result) :
      Attempt bucket stack template
        (.putObject bucket (templateKey stack) template (.ok url) ::
          .createStack stack url (.ok ()) :: calls)
        result

/-- What deploying an alarm can do. -/
inductive Deployment (files : Files) (manager : AlarmManager) (reference : String)
    (bindings : Table String String) (id : Option String) :
    List PortCall → Except AlarmError String → AlarmManager → Prop where
  | notRendered {error : AlarmError}
      (refused : renderTemplate manager.settings files reference bindings = .error error) :
      Deployment files manager reference bindings id [] (.error error) manager
  | notIdentified {template : String} {error : AlarmError}
      (rendered : renderTemplate manager.settings files reference bindings = .ok template)
      (refused : manager.identify id = .error error) :
      Deployment files manager reference bindings id [] (.error error) manager
  | failed {template key : String} {number : Nat} {calls : List PortCall} {error : AlarmError}
      (rendered : renderTemplate manager.settings files reference bindings = .ok template)
      (identified : manager.identify id = .ok (key, number))
      (attempt : Attempt manager.settings.bucket
        (StackName.make reference manager.settings.run number) template calls (.error error)) :
      Deployment files manager reference bindings id calls (.error error)
        { manager with ordinal := number }
  | tracked {template key : String} {number : Nat} {calls : List PortCall}
      (rendered : renderTemplate manager.settings files reference bindings = .ok template)
      (identified : manager.identify id = .ok (key, number))
      (attempt : Attempt manager.settings.bucket
        (StackName.make reference manager.settings.run number) template calls (.ok ())) :
      Deployment files manager reference bindings id calls (.ok key)
        { manager with
          ordinal := number
          deployed := manager.deployed.insert key
            ⟨key, reference, StackName.make reference manager.settings.run number, template⟩ }

/-! ### There is always a case -/

/-- A check of a stack makes a run of calls and answers as `Check` says, whatever the ports
answer. -/
theorem exists_check (ports : AlarmPorts σ) (recorded : Recorded σ) (stack : String) :
    ∃ calls result services,
      checkStack ports.recorded recorded stack = (result, ⟨services, recorded.calls ++ calls⟩) ∧
      Check stack calls result ∧ ports.Trace recorded.services calls services := by
  rcases asked : ports.stackStatus recorded.services stack with ⟨cause | status, services⟩
  · refine ⟨_, _, services, ?_, .unanswered cause, .call asked .none⟩
    simp only [checkStack, AlarmPorts.recorded, Recorded.note, asked]
  · cases good : goodStatuses.contains (status.getD absentStatus) with
    | true =>
        refine ⟨_, _, services, ?_, .up good, .call asked .none⟩
        simp only [checkStack, AlarmPorts.recorded, Recorded.note, asked, good, ↓reduceIte]
    | false =>
        rcases told : ports.stackEvents services stack with ⟨events, afterEvents⟩
        rcases removed : ports.deleteStack afterEvents stack with ⟨deleted, afterDelete⟩
        refine ⟨_, _, afterDelete, ?_, .down good events deleted,
          .call asked (.call told (.call removed .none))⟩
        simp only [checkStack, AlarmPorts.recorded, Recorded.note, asked, good, told, removed,
          Bool.false_eq_true, ↓reduceIte, List.append_assoc, List.cons_append, List.nil_append]

/-- Bringing a stack up makes a run of calls and ends as `Attempt` says, whatever the ports
answer. -/
theorem exists_attempt (ports : AlarmPorts σ) (recorded : Recorded σ)
    (bucket stack template : String) :
    ∃ calls result services,
      bringUp ports.recorded recorded bucket stack template =
        (result, ⟨services, recorded.calls ++ calls⟩) ∧
      Attempt bucket stack template calls result ∧
      ports.Trace recorded.services calls services := by
  rcases stored : ports.putObject recorded.services bucket (templateKey stack) template with
    ⟨cause | url, afterPut⟩
  · refine ⟨_, _, afterPut, ?_, .uploadFailed cause, .call stored .none⟩
    simp only [bringUp, AlarmPorts.recorded, Recorded.note, stored]
  · rcases made : ports.createStack afterPut stack url with ⟨cause | _, afterCreate⟩
    · refine ⟨_, _, afterCreate, ?_, .createFailed url cause, .call stored (.call made .none)⟩
      simp only [bringUp, AlarmPorts.recorded, Recorded.note, stored, made, List.append_assoc,
        List.cons_append, List.nil_append]
    · obtain ⟨calls, result, services, checked, check, trace⟩ :=
        exists_check ports ⟨afterCreate, recorded.calls ++
          [.putObject bucket (templateKey stack) template (.ok url),
            .createStack stack url (.ok ())]⟩ stack
      refine ⟨_, result, services, ?_, .created url check, .call stored (.call made trace)⟩
      simp only [List.append_assoc, List.cons_append, List.nil_append] at checked
      simp only [bringUp, AlarmPorts.recorded, Recorded.note, stored, made, List.append_assoc,
        List.cons_append, List.nil_append]
      exact checked

/-- Deploying an alarm is one of the listed cases, whatever the services answer. -/
theorem exists_deployment (ports : AlarmPorts σ) (files : Files) (manager : AlarmManager)
    (recorded : Recorded σ) (reference : String) (bindings : Table String String)
    (id : Option String) :
    ∃ calls result next services,
      deploy ports.recorded files manager recorded reference bindings id =
        (result, next, ⟨services, recorded.calls ++ calls⟩) ∧
      Deployment files manager reference bindings id calls result next ∧
      ports.Trace recorded.services calls services := by
  cases rendered : renderTemplate manager.settings files reference bindings with
  | error error =>
      refine ⟨[], _, manager, recorded.services, ?_, .notRendered rendered, .none⟩
      simp only [deploy, rendered, List.append_nil]
  | ok template =>
      cases identified : manager.identify id with
      | error error =>
          refine ⟨[], _, manager, recorded.services, ?_, .notIdentified rendered identified, .none⟩
          simp only [deploy, rendered, identified, List.append_nil]
      | ok found =>
          obtain ⟨key, number⟩ := found
          obtain ⟨calls, result, services, brought, attempt, trace⟩ :=
            exists_attempt ports recorded manager.settings.bucket
              (StackName.make reference manager.settings.run number) template
          cases result with
          | error error =>
              refine ⟨calls, _, _, services, ?_, .failed rendered identified attempt, trace⟩
              simp only [deploy, rendered, identified, brought]
          | ok done =>
              refine ⟨calls, _, _, services, ?_, .tracked rendered identified attempt, trace⟩
              simp only [deploy, rendered, identified, brought]

/-- What a deployment came to is one of the listed cases. -/
theorem deployment_of_deploy {ports : AlarmPorts σ} {files : Files} {manager next : AlarmManager}
    {recorded after : Recorded σ} {reference : String} {bindings : Table String String}
    {id : Option String} {result : Except AlarmError String}
    (ran : deploy ports.recorded files manager recorded reference bindings id =
      (result, next, after)) :
    ∃ calls, after.calls = recorded.calls ++ calls ∧
      Deployment files manager reference bindings id calls result next ∧
      ports.Trace recorded.services calls after.services := by
  obtain ⟨calls, answer, last, services, same, deployment, trace⟩ :=
    exists_deployment ports files manager recorded reference bindings id
  rw [same] at ran
  cases ran
  exact ⟨calls, rfl, deployment, trace⟩

/-! ### A case is what happens -/

variable {ports : AlarmPorts σ} {before after : σ} {calls : List PortCall}

/-- Ports that give the answers of a check lead the program to its result. -/
theorem Check.checkStack_eq {stack : String} {result : Except AlarmError Unit}
    (check : Check stack calls result) (trace : ports.Trace before calls after) :
    checkStack ports before stack = (result, after) := by
  cases check with
  | unanswered cause =>
      obtain _ | ⟨asked, _ | _⟩ := trace
      simp only [AlarmPorts.Answers] at asked
      simp only [checkStack, asked]
  | up good =>
      obtain _ | ⟨asked, _ | _⟩ := trace
      simp only [AlarmPorts.Answers] at asked
      simp only [checkStack, asked, good, ↓reduceIte]
  | down bad events deleted =>
      obtain _ | ⟨asked, _ | ⟨told, _ | ⟨removed, _ | _⟩⟩⟩ := trace
      simp only [AlarmPorts.Answers] at asked told removed
      simp only [checkStack, asked, bad, told, removed, Bool.false_eq_true, ↓reduceIte]

/-- Ports that give the answers of an attempt lead the program to its result. -/
theorem Attempt.bringUp_eq {bucket stack template : String} {result : Except AlarmError Unit}
    (attempt : Attempt bucket stack template calls result)
    (trace : ports.Trace before calls after) :
    bringUp ports before bucket stack template = (result, after) := by
  cases attempt with
  | uploadFailed cause =>
      obtain _ | ⟨stored, _ | _⟩ := trace
      simp only [AlarmPorts.Answers] at stored
      simp only [bringUp, stored]
  | createFailed url cause =>
      obtain _ | ⟨stored, _ | ⟨made, _ | _⟩⟩ := trace
      simp only [AlarmPorts.Answers] at stored made
      simp only [bringUp, stored, made]
  | created url check =>
      obtain _ | ⟨stored, _ | ⟨made, checked⟩⟩ := trace
      simp only [AlarmPorts.Answers] at stored made
      simp only [bringUp, stored, made]
      exact check.checkStack_eq checked

/-- Where the services give the answers of a case, deploying has the result of that case. -/
theorem Deployment.deploy_eq {files : Files} {manager next : AlarmManager} {reference : String}
    {bindings : Table String String} {id : Option String} {result : Except AlarmError String}
    (deployment : Deployment files manager reference bindings id calls result next)
    (trace : ports.Trace before calls after) :
    deploy ports files manager before reference bindings id = (result, next, after) := by
  cases deployment with
  | notRendered refused =>
      obtain _ | _ := trace
      simp only [deploy, refused]
  | notIdentified rendered refused =>
      obtain _ | _ := trace
      simp only [deploy, rendered, refused]
  | failed rendered identified attempt =>
      simp only [deploy, rendered, identified, attempt.bringUp_eq trace]
  | tracked rendered identified attempt =>
      simp only [deploy, rendered, identified, attempt.bringUp_eq trace]

/-- The record changes nothing: the services underneath are asked and answer as without it. -/
theorem deploy_recorded (ports : AlarmPorts σ) (files : Files) (manager : AlarmManager)
    (recorded : Recorded σ) (reference : String) (bindings : Table String String)
    (id : Option String) :
    deploy ports files manager recorded.services reference bindings id =
      let run := deploy ports.recorded files manager recorded reference bindings id
      (run.1, run.2.1, run.2.2.services) := by
  obtain ⟨calls, result, next, services, ran, deployment, trace⟩ :=
    exists_deployment ports files manager recorded reference bindings id
  rw [ran]
  exact deployment.deploy_eq trace

end Runbook.AlarmManager
