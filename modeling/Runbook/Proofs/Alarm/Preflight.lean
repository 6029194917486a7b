import Runbook.Alarm.Service
import Runbook.Proofs.Alarm.Deployment
import Runbook.Proofs.Alarm.Loading
import Runbook.Proofs.Alarm.Template

/-!
# What is deployed has no variables

A deployment whose bindings name all variables of the template is not refused for them, and uploads
and tracks the rendered template. This has no variables, where none of the template's variables
holds an opener and the values fit (`no_variables_deployed`). A variable inside a variable may stay
(`variable_deployed_when_nested`): its name is read up to the first closing brace, opener and all,
and binding the inner variable before the outer one leaves nothing of the outer token to replace.
-/

namespace Runbook.AlarmManager

variable {σ : Type} {calls : List PortCall} {stack : String} {result : Except AlarmError Unit}

/-- Looking at a stack uploads nothing. -/
theorem Check.putObject_not_mem (check : Check stack calls result) (bucket key body : String)
    (answer : Except PortError String) : .putObject bucket key body answer ∉ calls := by
  cases check <;> simp

/-- An attempt uploads its template and nothing else. -/
theorem Attempt.putObject_mem_iff {bucket template : String}
    (attempt : Attempt bucket stack template calls result) {place key body : String} :
    (∃ answer, .putObject place key body answer ∈ calls) ↔
      place = bucket ∧ key = templateKey stack ∧ body = template := by
  cases attempt with
  | uploadFailed | createFailed => simp
  | created url check => simp [check.putObject_not_mem]

/-- An attempt does not fail for want of bindings. -/
theorem Attempt.ne_variablesMissing {bucket template : String}
    (attempt : Attempt bucket stack template calls result) (reference : String)
    (names : List String) : result ≠ .error (.variablesMissing reference names) := by
  cases attempt with
  | uploadFailed | createFailed => simp
  | created url check => cases check <;> simp

/-- No choice of an alarm's id fails for missing variables. -/
theorem ne_variablesMissing_of_identify {manager : AlarmManager} {id : Option String}
    {error : AlarmError} (refused : manager.identify id = .error error) (reference : String)
    (names : List String) : error ≠ .variablesMissing reference names := by
  rintro rfl
  cases id with
  | none => cases refused
  | some id =>
      simp only [identify] at refused
      split at refused <;> cases refused

/-- A deployment whose template can be rendered uploads the rendered text, unless the identifier
is taken, and uploads and tracks nothing else. -/
theorem Deployment.of_rendered {files : Files} {manager next : AlarmManager}
    {reference rendered : String} {bindings : Table String String} {id : Option String}
    {result : Except AlarmError String}
    (deployment : Deployment files manager reference bindings id calls result next)
    (done : renderTemplate manager.settings files reference bindings = .ok rendered) :
    (∀ names, result ≠ .error (.variablesMissing reference names)) ∧
      (∀ found, manager.identify id = .ok found → ∃ key answer,
        .putObject manager.settings.bucket key rendered answer ∈ calls) ∧
      (∀ bucket key body answer, .putObject bucket key body answer ∈ calls → body = rendered) ∧
      ∀ key, result = .ok key →
        ∃ alarm, next.deployed.get? key = some alarm ∧ alarm.template = rendered := by
  cases deployment with
  | notRendered refused =>
      rw [done] at refused
      cases refused
  | notIdentified _ refused =>
      refine ⟨fun names same => ?_, fun _ identified => ?_, by simp, by simp⟩
      · exact ne_variablesMissing_of_identify refused reference names (Except.error.inj same)
      · rw [refused] at identified
        cases identified
  | failed other identified attempt =>
      obtain rfl := Except.ok.inj (done.symm.trans other)
      refine ⟨fun names same => ?_, fun _ _ => ?_, fun _ _ _ _ stored => ?_, by simp⟩
      · exact attempt.ne_variablesMissing reference names (by simpa using same)
      · exact ⟨_, attempt.putObject_mem_iff.2 ⟨rfl, rfl, rfl⟩⟩
      · exact (attempt.putObject_mem_iff.1 ⟨_, stored⟩).2.2
  | tracked other identified attempt =>
      obtain rfl := Except.ok.inj (done.symm.trans other)
      refine ⟨by simp, fun _ _ => ?_, fun _ _ _ _ stored => ?_, fun key same => ?_⟩
      · exact ⟨_, attempt.putObject_mem_iff.2 ⟨rfl, rfl, rfl⟩⟩
      · exact (attempt.putObject_mem_iff.1 ⟨_, stored⟩).2.2
      · cases same
        exact ⟨_, Table.get?_insert_self _ _ _, rfl⟩

/-- With all variables bound, what is deployed is the rendered template, which has no variables. -/
theorem no_variables_deployed (ports : AlarmPorts σ) (files : Files) (manager : AlarmManager)
    (services : σ) (reference : String) (bindings : Table String String) (id : Option String)
    {template : String} (loaded : loadTemplate manager.settings files reference = .ok template)
    (bound : ∀ name ∈ AlarmTemplate.variableNames template, bindings.contains name = true)
    (flat : AlarmTemplate.Flat template.toList)
    (fits : ∀ binding ∈ bindings.entries,
      AlarmTemplate.Fits binding.2.toList template.toList)
    {result : Except AlarmError String} {next : AlarmManager} {after : Recorded σ}
    (ran : deploy ports.recorded files manager ⟨services, []⟩ reference bindings id =
      (result, next, after)) :
    let rendered := AlarmTemplate.render template bindings.entries
    AlarmTemplate.variableNames rendered = [] ∧
      (∀ names, result ≠ .error (.variablesMissing reference names)) ∧
      (∀ found, manager.identify id = .ok found → ∃ key answer,
        .putObject manager.settings.bucket key rendered answer ∈ after.calls) ∧
      (∀ bucket key body answer, .putObject bucket key body answer ∈ after.calls →
        body = rendered) ∧
      ∀ key, result = .ok key →
        ∃ alarm, next.deployed.get? key = some alarm ∧ alarm.template = rendered := by
  intro rendered
  have complete : AlarmTemplate.unbound template bindings = [] :=
    List.filter_eq_nil_iff.2 fun name member => by simp [bound name member]
  have done : renderTemplate manager.settings files reference bindings = .ok rendered := by
    simp only [renderTemplate, loaded, complete, rendered]
  obtain ⟨calls, noted, deployment, -⟩ := deployment_of_deploy ran
  rw [List.nil_append] at noted
  rw [noted]
  exact ⟨AlarmTemplate.variableNames_render_eq_nil complete flat fits,
    deployment.of_rendered done⟩

/-- A template with one variable. -/
def limitTemplate : String := "Limit: $\x7bLimit\x7d"

def limitBindings : Table String String := Table.ofList [("Limit", "5")]

/-- A template with one variable, deployed with a value for it. -/
theorem no_variables_deployed_limit :
    let run := deploy AlarmServices.ports.recorded (sampleFiles limitTemplate)
      (new sampleSettings) ⟨AlarmServices.empty, []⟩ "rds:alarm:cpu:1" limitBindings none
    ∃ key answer, .putObject "bucket" key "Limit: 5" answer ∈ run.2.2.calls ∧
      AlarmTemplate.variableNames "Limit: 5" = [] := by
  intro run
  have bodies : AlarmTemplate.bodies limitTemplate.toList = ["Limit".toList] := by
    simp [limitTemplate, AlarmTemplate.bodies, AlarmTemplate.untilBrace]
  have names : AlarmTemplate.variableNames limitTemplate = ["Limit"] := by
    rw [AlarmTemplate.variableNames, bodies]
    decide
  have entries : limitBindings.entries = [("Limit", "5")] := by decide
  have filled : AlarmTemplate.render limitTemplate limitBindings.entries = "Limit: 5" := by
    decide +kernel
  have bound : ∀ name ∈ AlarmTemplate.variableNames limitTemplate,
      limitBindings.contains name = true := by
    rw [names]
    decide
  have flat : AlarmTemplate.Flat limitTemplate.toList := by
    rw [AlarmTemplate.Flat, bodies]
    decide
  have fits : ∀ binding ∈ limitBindings.entries,
      AlarmTemplate.Fits binding.2.toList limitTemplate.toList := by
    rw [entries]
    rintro binding (_ | ⟨_, listed⟩)
    · exact ⟨by decide, by decide, fun _ => ⟨'5', [], rfl, by decide⟩⟩
    · cases listed
  have ran : run = (run.1, run.2.1, run.2.2) := rfl
  obtain ⟨without, -, uploaded, -⟩ := no_variables_deployed AlarmServices.ports
    (sampleFiles limitTemplate) (new sampleSettings) AlarmServices.empty "rds:alarm:cpu:1"
    limitBindings none (loadTemplate_sampleFiles limitTemplate) bound flat fits ran
  rw [filled] at without uploaded
  obtain ⟨key, answer, stored⟩ := uploaded ("1", 1) rfl
  exact ⟨key, answer, stored, without⟩

/-- A template with a variable in a variable. -/
def nestedTemplate : String := "Role: $\x7bRole$\x7bEnv\x7d\x7d in $\x7bEnv\x7d"

/-- Both variables of the template have a value. -/
def nestedBindings : Table String String := Table.ofList [("Env", "prod"), ("Role$\x7bEnv", "db")]

/-- Every variable of the nested template is bound. -/
theorem unbound_nested : AlarmTemplate.unbound nestedTemplate nestedBindings = [] := by
  have bodies : AlarmTemplate.bodies nestedTemplate.toList =
      ["Role$\x7bEnv".toList, "Env".toList] := by
    simp [nestedTemplate, AlarmTemplate.bodies, AlarmTemplate.untilBrace]
  rw [AlarmTemplate.unbound, AlarmTemplate.variableNames, bodies]
  decide

/-- Yet a variable is left in what is rendered. -/
theorem renderTemplate_nested :
    renderTemplate sampleSettings (sampleFiles nestedTemplate) "rds:alarm:cpu:1" nestedBindings =
      .ok "Role: $\x7bRoleprod\x7d in prod" := by
  have rendered : AlarmTemplate.render nestedTemplate nestedBindings.entries =
      "Role: $\x7bRoleprod\x7d in prod" := by decide +kernel
  simp only [renderTemplate, loadTemplate_sampleFiles, unbound_nested, rendered]

/-- A template all of whose variables are bound is deployed with a variable in it. -/
theorem variable_deployed_when_nested :
    let run := deploy AlarmServices.ports.recorded (sampleFiles nestedTemplate)
      (new sampleSettings) ⟨AlarmServices.empty, []⟩ "rds:alarm:cpu:1" nestedBindings none
    AlarmTemplate.unbound nestedTemplate nestedBindings = [] ∧
      ∃ alarm, run.1 = .ok "1" ∧ run.2.1.deployed.get? "1" = some alarm ∧
        run.2.2.services.object? "bucket" (templateKey alarm.stack) = some alarm.template ∧
        AlarmTemplate.variableNames alarm.template = ["Roleprod"] := by
  intro run
  let text := "Role: $\x7bRoleprod\x7d in prod"
  have left : AlarmTemplate.variableNames text = ["Roleprod"] := by
    have bodies : AlarmTemplate.bodies text.toList = ["Roleprod".toList] := by
      simp [text, AlarmTemplate.bodies, AlarmTemplate.untilBrace]
    rw [AlarmTemplate.variableNames, bodies]
    decide
  simp only [run, deploy_sampleFiles_new _ _ renderTemplate_nested]
  exact ⟨unbound_nested, ⟨"1", "rds:alarm:cpu:1", "rds-alarm-cpu-1-ab12cd34-1", text⟩, rfl, rfl,
    rfl, left⟩

end Runbook.AlarmManager
