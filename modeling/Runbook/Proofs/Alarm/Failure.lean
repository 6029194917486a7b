import Runbook.Proofs.Alarm.Effect
import Runbook.Proofs.Alarm.Loading

/-!
# What a failed deployment leaves

A deployment that fails leaves the tracked alarms as they are. A refusal is found before anything
is uploaded and leaves the services and the number as they are too; a failed upload reaches no
stack; and for a stack that did not come up the calls are known one by one, and so are the failures
that are told (`traceless_of_error`). Services in memory always have the history of a stack they
created, so what is told there are the failures among its events.
-/

namespace Runbook

/-- Is this an error that is found before the services are called? -/
def AlarmError.isRefusal : AlarmError → Bool
  | .invalidReference _ | .templateMissing _ _ | .metadata _ | .templateRead _ _
  | .variablesMissing _ _ | .alarmDuplicate _ _ => true
  | _ => false

namespace AlarmServices

variable {services after : AlarmServices}

/-- Storing an object uses up no outcome. -/
theorem outcomes_of_putObject {bucket key body : String} {answer : Except PortError String}
    (stored : services.putObject bucket key body = (answer, after)) :
    after.outcomes = services.outcomes := by
  simp only [putObject] at stored
  split at stored <;> cases stored <;> rfl

/-- A created stack comes to the next outcome. -/
theorem live_of_createStack {name url : String}
    (made : services.createStack name url = (.ok (), after)) :
    after.live.get? name = some (services.outcomes.head?.getD success) := by
  simp only [createStack] at made
  split at made
  · cases made
  · cases made
    exact Table.get?_insert_self _ _ _

/-- The history of a live stack is told. -/
theorem stackEvents_of_live {name : String} {answer : Except PortError (List StackEvent)}
    {outcome : StackOutcome} (live : services.live.get? name = some outcome)
    (asked : services.stackEvents name = (answer, after)) : answer = .ok outcome.events := by
  have told : (services.note (.events name)).live.get? name = some outcome := live
  simp only [stackEvents, told] at asked
  cases asked
  rfl

end AlarmServices

namespace AlarmManager

variable {σ : Type} {files : Files} {manager next : AlarmManager} {reference : String}
  {bindings : Table String String} {id : Option String} {calls : List PortCall}
  {error : AlarmError}

/-! ### Refusals -/

/-- A template that is not loaded is refused, and not for missing variables. -/
theorem isRefusal_of_loadTemplate {settings : AlarmSettings}
    (refused : loadTemplate settings files reference = .error error) :
    error.isRefusal = true ∧ ∀ named names, error ≠ .variablesMissing named names := by
  simp only [loadTemplate] at refused
  split at refused
  · cases refused
    exact ⟨rfl, by simp⟩
  · split at refused
    · cases refused
      exact ⟨rfl, by simp⟩
    · split at refused
      · cases refused
        exact ⟨rfl, by simp⟩
      · split at refused
        · cases refused
          exact ⟨rfl, by simp⟩
        · split at refused <;> cases refused
          exact ⟨rfl, by simp⟩

/-- A template is not rendered where it cannot be loaded or variables have no binding. -/
theorem renderTemplate_eq_error {settings : AlarmSettings}
    (refused : renderTemplate settings files reference bindings = .error error) :
    loadTemplate settings files reference = .error error ∨
      ∃ template, loadTemplate settings files reference = .ok template ∧
        error = .variablesMissing reference (AlarmTemplate.unbound template bindings) := by
  simp only [renderTemplate] at refused
  split at refused
  · rename_i cause failed
    cases refused
    exact Or.inl failed
  · rename_i template loaded
    split at refused
    · cases refused
    · cases refused
      exact Or.inr ⟨template, loaded, rfl⟩

/-- An identifier is refused where it is taken. -/
theorem identify_eq_error (refused : manager.identify id = .error error) :
    ∃ key tracked, id = some key ∧ manager.deployed.get? key = some tracked ∧
      error = .alarmDuplicate key tracked.stack := by
  cases id with
  | none => cases refused
  | some key =>
      simp only [identify] at refused
      split at refused
      · rename_i tracked found
        cases refused
        exact ⟨key, tracked, rfl, found, rfl⟩
      · cases refused

/-- An attempt at a stack does not end in a refusal. -/
theorem Attempt.not_isRefusal {bucket stack template : String}
    (attempt : Attempt bucket stack template calls (.error error)) : error.isRefusal = false := by
  cases attempt with
  | uploadFailed | createFailed => rfl
  | created url check => cases check <;> rfl

/-! ### The errors of a deployment -/

/-- A deployment that fails leaves the tracked alarms as they were. -/
theorem Deployment.deployed_eq
    (deployment : Deployment files manager reference bindings id calls (.error error) next) :
    next.deployed = manager.deployed := by
  cases deployment <;> rfl

/-- A refused deployment calls no service and leaves the manager as it is. -/
theorem Deployment.refused
    (deployment : Deployment files manager reference bindings id calls (.error error) next)
    (refusal : error.isRefusal = true) : calls = [] ∧ next = manager := by
  cases deployment with
  | notRendered | notIdentified => exact ⟨rfl, rfl⟩
  | failed rendered identified attempt =>
      rw [attempt.not_isRefusal] at refusal
      cases refusal

/-- Variables are missing for a template that was loaded. -/
theorem Deployment.missing {named : String} {names : List String}
    (deployment : Deployment files manager reference bindings id calls
      (.error (.variablesMissing named names)) next) :
    ∃ template, loadTemplate manager.settings files reference = .ok template ∧
      named = reference ∧ names = AlarmTemplate.unbound template bindings := by
  cases deployment with
  | notRendered refused =>
      rcases renderTemplate_eq_error refused with failed | ⟨template, loaded, same⟩
      · exact absurd rfl ((isRefusal_of_loadTemplate failed).2 named names)
      · cases same
        exact ⟨template, loaded, rfl, rfl⟩
  | notIdentified _ refused =>
      obtain ⟨_, _, _, _, same⟩ := identify_eq_error refused
      cases same
  | failed rendered identified attempt =>
      have refusal := attempt.not_isRefusal
      cases refusal

/-- An error that is no refusal is that of an attempt at the stack with the next number. -/
theorem Deployment.attempted
    (deployment : Deployment files manager reference bindings id calls (.error error) next)
    (late : error.isRefusal = false) :
    ∃ key number template, manager.identify id = .ok (key, number) ∧
      Attempt manager.settings.bucket (StackName.make reference manager.settings.run number)
        template calls (.error error) := by
  cases deployment with
  | notRendered refused =>
      rcases renderTemplate_eq_error refused with failed | ⟨_, _, same⟩
      · rw [(isRefusal_of_loadTemplate failed).1] at late
        cases late
      · cases same
        cases late
  | notIdentified _ refused =>
      obtain ⟨_, _, _, _, same⟩ := identify_eq_error refused
      cases same
      cases late
  | failed rendered identified attempt => exact ⟨_, _, _, identified, attempt⟩

/-- An attempt whose upload fails consists of the upload. -/
theorem Attempt.calls_of_upload {bucket stack template named : String} {cause : PortError}
    (attempt : Attempt bucket stack template calls (.error (.upload named cause))) :
    named = stack ∧ calls = [.putObject bucket (templateKey stack) template (.error cause)] := by
  cases attempt with
  | uploadFailed => exact ⟨rfl, rfl⟩
  | created url check => cases check

/-- An attempt at a stack that does not come up looks at it, asks for its history and deletes it. -/
theorem Attempt.calls_of_stackFailed {bucket stack template named status : String}
    {lines : List String}
    (attempt : Attempt bucket stack template calls (.error (.stackFailed named status lines))) :
    named = stack ∧ ∃ url told history deleted,
      calls = [.putObject bucket (templateKey stack) template (.ok url),
        .createStack stack url (.ok ()), .stackStatus stack (.ok told),
        .stackEvents stack history, .deleteStack stack deleted] ∧
      status = told.getD absentStatus ∧ goodStatuses.contains status = false ∧
      lines = failureLines history := by
  cases attempt with
  | created url check =>
      cases check with
      | down bad history deleted => exact ⟨rfl, url, _, history, deleted, rfl, rfl, bad, rfl⟩

/-- In memory, a stack that does not come up comes to the next outcome laid out, and what is told
are the failures among its events. -/
theorem exists_outcome_of_stackFailed {before after : AlarmServices}
    {bucket stack template url status : String} {told : Option String}
    {history : Except PortError (List StackEvent)} {deleted : Except PortError Unit}
    (trace : AlarmServices.ports.Trace before
      [.putObject bucket (templateKey stack) template (.ok url),
        .createStack stack url (.ok ()), .stackStatus stack (.ok told),
        .stackEvents stack history, .deleteStack stack deleted] after)
    (named : status = told.getD absentStatus) (bad : goodStatuses.contains status = false) :
    ∃ outcome, before.outcomes.head? = some outcome ∧ status = outcome.status ∧
      history = .ok outcome.events := by
  obtain _ | ⟨stored, _ | ⟨made, _ | ⟨asked, _ | ⟨listed, -⟩⟩⟩⟩ := trace
  have live := AlarmServices.live_of_createStack made
  rw [AlarmServices.outcomes_of_putObject stored] at live
  obtain ⟨answered, kept, -⟩ := AlarmServices.stackStatus_of_live live asked
  rw [← kept] at live
  have events := AlarmServices.stackEvents_of_live live listed
  cases answered
  -- A stack for which nothing is laid out would have come up.
  cases laid : before.outcomes.head? with
  | none =>
      rw [laid] at named
      subst named
      exact absurd bad (by decide)
  | some outcome =>
      rw [laid] at named events
      exact ⟨outcome, rfl, named, events⟩

/-- A failed deployment tracks nothing new. A refusal leaves the manager and the services as they
are; missing variables are those of the template without a binding, in ascending order; a failed
upload is the only call; and for a stack that did not come up the calls are listed and the failures
in its history are told in order. Services in memory know the history of every stack they create. -/
theorem traceless_of_error (files : Files) (manager : AlarmManager) (reference : String)
    (bindings : Table String String) (id : Option String) :
    (∀ {σ : Type} (ports : AlarmPorts σ) (recorded after : Recorded σ) (next : AlarmManager)
        (error : AlarmError),
      deploy ports.recorded files manager recorded reference bindings id =
        (.error error, next, after) →
      next.deployed = manager.deployed ∧
        (error.isRefusal = true → next = manager ∧ after = recorded) ∧
        (∀ named names, error = .variablesMissing named names →
          ∃ template, loadTemplate manager.settings files reference = .ok template ∧
            named = reference ∧
            names.Pairwise (fun first second => Ordered.before first second = true) ∧
            ∀ name, name ∈ names ↔
              name ∈ AlarmTemplate.variableNames template ∧ name ∉ bindings.keys) ∧
        (∀ stack cause, error = .upload stack cause →
          ∃ template, after.calls = recorded.calls ++
            [.putObject manager.settings.bucket (templateKey stack) template (.error cause)]) ∧
        ∀ stack status lines, error = .stackFailed stack status lines →
          ∃ template url told history deleted,
            after.calls = recorded.calls ++
              [.putObject manager.settings.bucket (templateKey stack) template (.ok url),
                .createStack stack url (.ok ()), .stackStatus stack (.ok told),
                .stackEvents stack history, .deleteStack stack deleted] ∧
            status = told.getD absentStatus ∧
            (∀ events, history = .ok events →
              lines = (events.filter StackEvent.isFailure).map StackEvent.text) ∧
            ∀ cause, history = .error cause →
              lines = ["stack events unavailable: " ++ cause.message]) ∧
      ∀ (recorded after : Recorded AlarmServices) (next : AlarmManager) (stack status : String)
        (lines : List String),
        deploy AlarmServices.ports.recorded files manager recorded reference bindings id =
          (.error (.stackFailed stack status lines), next, after) →
        ∃ outcome, recorded.services.outcomes.head? = some outcome ∧ status = outcome.status ∧
          lines = (outcome.events.filter StackEvent.isFailure).map StackEvent.text := by
  refine ⟨fun ports recorded after next error ran => ?_,
    fun recorded after next stack status lines ran => ?_⟩
  · obtain ⟨calls, noted, deployment, trace⟩ := deployment_of_deploy ran
    refine ⟨deployment.deployed_eq, fun refusal => ?_, ?_, ?_, ?_⟩
    · obtain ⟨rfl, unchanged⟩ := deployment.refused refusal
      obtain ⟨services, others⟩ := after
      obtain rfl : others = recorded.calls := by simpa using noted
      cases trace
      exact ⟨unchanged, rfl⟩
    · rintro named names rfl
      obtain ⟨template, loaded, same, rfl⟩ := deployment.missing
      refine ⟨template, loaded, same, (sortedDistinct_pairwise _).filter _, fun name => ?_⟩
      have unbound : bindings.contains name = false ↔ name ∉ bindings.keys := by
        rw [Table.mem_keys_iff, ← Table.contains_eq_true_iff, Bool.not_eq_true]
      simp [AlarmTemplate.unbound, unbound]
    · rintro stack cause rfl
      obtain ⟨_, _, template, _, attempt⟩ := deployment.attempted rfl
      obtain ⟨rfl, listed⟩ := attempt.calls_of_upload
      exact ⟨template, by rw [noted, listed]⟩
    · rintro stack status lines rfl
      obtain ⟨_, _, template, _, attempt⟩ := deployment.attempted rfl
      obtain ⟨rfl, url, told, history, deleted, listed, answered, -, rfl⟩ :=
        attempt.calls_of_stackFailed
      refine ⟨template, url, told, history, deleted, by rw [noted, listed], answered, ?_, ?_⟩
      · rintro events rfl
        rfl
      · rintro cause rfl
        rfl
  · obtain ⟨calls, -, deployment, trace⟩ := deployment_of_deploy ran
    obtain ⟨_, _, template, _, attempt⟩ := deployment.attempted rfl
    obtain ⟨rfl, url, told, history, deleted, listed, answered, bad, reported⟩ :=
      attempt.calls_of_stackFailed
    rw [listed] at trace
    obtain ⟨outcome, laid, same, rfl⟩ := exists_outcome_of_stackFailed trace answered bad
    exact ⟨outcome, laid, same, reported⟩

/-- A stack that rolled back after two of its resources failed: the two failures are told, nothing
is tracked, and the stack was deleted. -/
theorem traceless_of_error_when_rolled_back :
    let stack := "rds-alarm-cpu-1-ab12cd34-1"
    let history : List StackEvent := [⟨"Alarm", "CREATE_FAILED", some "bad metric"⟩,
      ⟨"Topic", "CREATE_COMPLETE", none⟩, ⟨"Role", "DELETE_FAILED", none⟩]
    let start : Recorded AlarmServices :=
      ⟨AlarmServices.empty.pushOutcome ⟨"ROLLBACK_COMPLETE", history⟩, []⟩
    let run := deploy AlarmServices.ports.recorded (sampleFiles "Limit: 5") (new sampleSettings)
      start "rds:alarm:cpu:1" Table.empty none
    ∃ lines, run.1 = .error (.stackFailed stack "ROLLBACK_COMPLETE" lines) ∧
      lines = ["Alarm CREATE_FAILED: bad metric", "Role DELETE_FAILED: "] ∧
      run.2.1.deployed = Table.empty ∧
      ∃ deleted, .deleteStack stack deleted ∈ run.2.2.calls := by
  intro stack history start run
  have failed : run.1 = .error (.stackFailed stack "ROLLBACK_COMPLETE"
      (failureLines (.ok history))) := by
    simp only [run, deploy_sampleFiles_new _ _ renderTemplate_sampleFiles]
    rfl
  have ran : run = (.error (.stackFailed stack "ROLLBACK_COMPLETE" (failureLines (.ok history))),
      run.2.1, run.2.2) := by rw [← failed]
  obtain ⟨always, inMemory⟩ := traceless_of_error (sampleFiles "Limit: 5") (new sampleSettings)
    "rds:alarm:cpu:1" Table.empty none
  obtain ⟨untracked, -, -, -, down⟩ := always AlarmServices.ports start _ _ _ ran
  obtain ⟨_, _, _, _, deleted, calls, -⟩ := down _ _ _ rfl
  obtain ⟨outcome, laid, -, told⟩ := inMemory start _ _ _ _ _ ran
  have same : outcome = ⟨"ROLLBACK_COMPLETE", history⟩ := (Option.some.inj laid).symm
  have lines : (history.filter StackEvent.isFailure).map StackEvent.text =
      ["Alarm CREATE_FAILED: bad metric", "Role DELETE_FAILED: "] := by decide +kernel
  refine ⟨_, failed, ?_, untracked, deleted, by simp [calls]⟩
  rw [told, same, lines]

/-- Where the history of a stack cannot be asked for, none of the failures in it is told. -/
theorem untold_when_history_is_silent :
    let stack := "rds-alarm-cpu-1-ab12cd34-1"
    let history : List StackEvent := [⟨"Alarm", "CREATE_FAILED", some "bad metric"⟩]
    let services : ScriptedServices :=
      { ScriptedServices.empty with
        services := AlarmServices.empty.pushOutcome ⟨"ROLLBACK_COMPLETE", history⟩
        queued.stackEvents := [.transport "DescribeStackEvents" stack "timeout"] }
    let run := deploy ScriptedServices.ports.recorded (sampleFiles "Limit: 5") (new sampleSettings)
      ⟨services, []⟩ "rds:alarm:cpu:1" Table.empty none
    ∃ lines, run.1 = .error (.stackFailed stack "ROLLBACK_COMPLETE" lines) ∧
      lines = ["stack events unavailable: DescribeStackEvents for 'rds-alarm-cpu-1-ab12cd34-1' " ++
        "did not reach the service: timeout"] ∧
      lines ≠ (history.filter StackEvent.isFailure).map StackEvent.text := by
  intro stack history services run
  let cause : PortError := .transport "DescribeStackEvents" stack "timeout"
  have failed : run.1 = .error (.stackFailed stack "ROLLBACK_COMPLETE"
      (failureLines (.error cause))) := by
    simp only [run, deploy_sampleFiles_new _ _ renderTemplate_sampleFiles]
    rfl
  have told : failureLines (.error cause) =
      ["stack events unavailable: DescribeStackEvents for 'rds-alarm-cpu-1-ab12cd34-1' " ++
        "did not reach the service: timeout"] := by decide
  refine ⟨_, failed, told, ?_⟩
  rw [told]
  decide +kernel

end AlarmManager

end Runbook
