import Runbook.Rules.Basic

/-!
# Checking documents against rules

All violations are reported, in a fixed order, except that a missing top-level element hides
everything below it. Whether a parameter's description agrees with its default is reported once:
a parameter that disagrees with its own description is not reported again for disagreeing with
the rule.
-/

namespace Runbook

/-- Is a name in Pascal case: led by an upper-case letter, of mixed case, and without
underscores? -/
def isPascalCase (name : String) : Bool :=
  let chars := name.toList
  chars.head?.any Text.isUpperCase && !chars.contains '_' && chars.any Text.hasLowerForm &&
    chars.any Text.hasUpperForm

/-- How a description says that a parameter must be given. -/
def requiredMark : String := "(Required)"

/-- How a description says that a parameter may be left out. -/
def optionalMark : String := "(Optional)"

/-- How a text refers to a stored parameter. -/
def parameterReference : String := "ssm:\x7b\x7b"

namespace DeclaredParameter

/-- Does the description's mark disagree with the presence of a default? -/
def contradictsItself (parameter : DeclaredParameter) : Bool :=
  match parameter.description with
  | some description =>
      if description.startsWith requiredMark then parameter.hasDefault
      else if description.startsWith optionalMark then !parameter.hasDefault
      else false
  | none => false

/-- What is wrong with the name. -/
def nameFindings (parameter : DeclaredParameter) : List String :=
  if isPascalCase parameter.name then []
  else [s!"Parameter '{parameter.name}' must be PascalCase"]

/-- What is wrong with the description. -/
def descriptionFindings (parameter : DeclaredParameter) : List String :=
  let name := parameter.name
  match parameter.description with
  | some description =>
      if description.startsWith requiredMark then
        if parameter.hasDefault then
          [s!"Parameter '{name}' is marked {requiredMark} but declares a default"]
        else []
      else if description.startsWith optionalMark then
        if parameter.hasDefault then []
        else [s!"Parameter '{name}' is marked {optionalMark} but has no default"]
      else
        [s!"Description of parameter '{name}' must start with {requiredMark} or {optionalMark}"]
  | none => [s!"Parameter '{name}' has no description"]

/-- What is wrong with the type. -/
def typeFindings (parameter : DeclaredParameter) : List String :=
  match parameter.type with
  | none => [s!"Parameter '{parameter.name}' has no type"]
  | some type =>
      if type = "SecureString" then
        [s!"Parameter '{parameter.name}' must not use type SecureString"]
      else []

/-- Does the default refer to a stored parameter? Only a default that is a string can. -/
def defaultRefers (parameter : DeclaredParameter) : Bool :=
  (parameter.default?.bind Yaml.asString).any fun text =>
    Text.contains parameterReference.toList text.toList

/-- What is wrong with the default. -/
def defaultFindings (parameter : DeclaredParameter) : List String :=
  if parameter.defaultRefers then
    [s!"Default of parameter '{parameter.name}' must not reference another parameter"]
  else []

/-- All that is wrong with a declared parameter by itself. -/
def findings (parameter : DeclaredParameter) : List String :=
  parameter.nameFindings ++ parameter.descriptionFindings ++ parameter.typeFindings ++
    parameter.defaultFindings

end DeclaredParameter

/-- What is wrong with a parameter that matches one that a rule expects. `settled` says that the
presence of its default was reported already. -/
def ExpectedParameter.findings (expected : ExpectedParameter) (settled : Bool)
    (parameter : DeclaredParameter) : List String :=
  let name := parameter.name
  let found := parameter.type.getD "none"
  (if parameter.type = some expected.type then []
   else [s!"Parameter '{name}' must have type '{expected.type}', found '{found}'"]) ++
  (if settled then []
   else if expected.required && parameter.hasDefault then
     [s!"Parameter '{name}' must be required and have no default"]
   else if !expected.required && !parameter.hasDefault then
     [s!"Parameter '{name}' must be optional and declare a default"]
   else [])

namespace Rule

/-- The top-level elements that are missing. -/
def elementViolations (rule : Rule) (document : Document) (file : Path) : List Violation :=
  (rule.elements.filter fun element => !document.hasElement element).map fun element =>
    ⟨element, file, s!"Required top-level element '{element}' is missing"⟩

/-- What is wrong with the declared parameters by themselves. -/
def syntaxViolations (parameters : List DeclaredParameter) (file : Path) : List Violation :=
  parameters.flatMap fun parameter =>
    parameter.findings.map fun message => ⟨parameter.name, file, message⟩

/-- The names of the parameters that disagree with their own descriptions. -/
def contradictory (parameters : List DeclaredParameter) : List String :=
  (parameters.filter DeclaredParameter.contradictsItself).map DeclaredParameter.name

/-- What is wrong with the declared parameters as the rule expects them. -/
def parameterViolations (rule : Rule) (parameters : List DeclaredParameter) (file : Path) :
    List Violation :=
  rule.parameters.flatMap fun expected =>
    let matching := parameters.filter fun parameter => expected.name.holds parameter.name
    if matching.isEmpty then
      [⟨expected.name.source, file,
        s!"Required parameter '{expected.name.source}' is not declared"⟩]
    else
      matching.flatMap fun parameter =>
        (expected.findings ((contradictory parameters).contains parameter.name) parameter).map
          fun message => ⟨parameter.name, file, message⟩

/-- The outputs that are missing. -/
def outputViolations (rule : Rule) (document : Document) (file : Path) : List Violation :=
  (rule.outputs.filter fun pattern => !document.outputNames.any pattern.holds).map fun pattern =>
    ⟨pattern.source, file, s!"No output matches required pattern '{pattern.source}'"⟩

/-- Does a step match one of the patterns? -/
def groupSatisfied (document : Document) (group : List NamePattern) : Bool :=
  group.any fun pattern => document.stepNames.any pattern.holds

/-- The step groups that no step satisfies. -/
def stepViolations (rule : Rule) (document : Document) (file : Path) : List Violation :=
  (rule.stepGroups.filter fun group => !groupSatisfied document group).map fun group =>
    let alternatives := Text.commaJoin " | " (group.map NamePattern.source)
    ⟨alternatives, file, s!"Document must contain one of the steps: {alternatives}"⟩

end Rule

/-- The parameter that asks for a rollback. -/
def isRollback : String := "IsRollback"

/-- The parameter that names the execution to roll back. -/
def previousExecutionId : String := "PreviousExecutionId"

/-- The steps of a document that can roll back. -/
def rollbackSteps : List String := ["CheckIsRollback", "SelectExecutionMode"]

/-- What is wrong with the rollback branch: its two parameters come together, and with them
come its steps, one of them for every other parameter. -/
def rollbackViolations (document : Document) (file : Path) : List Violation :=
  let rollback := (document.parameter? isRollback).isSome
  let previous := (document.parameter? previousExecutionId).isSome
  let apart (declared absent : String) : List Violation :=
    [⟨absent, file, s!"Parameter '{declared}' is declared but '{absent}' is missing"⟩]
  let together :=
    if rollback && !previous then apart isRollback previousExecutionId
    else if previous && !rollback then apart previousExecutionId isRollback
    else []
  if rollback then
    let steps := document.stepNames
    let missing := (rollbackSteps.filter fun step => !steps.contains step).map fun step =>
      Violation.mk step file s!"Rollback-capable document must contain step '{step}'"
    let others := document.parameters.filter fun parameter =>
      parameter.name ≠ isRollback && parameter.name ≠ previousExecutionId
    let unasserted := (others.filter fun parameter => !steps.contains ("Assert" ++ parameter.name)).map
      fun parameter =>
        let step := "Assert" ++ parameter.name
        Violation.mk step file
          s!"Step '{step}' is required to compare parameter '{parameter.name}' with the previous execution"
    together ++ missing ++ unasserted
  else together

/-- Checks documents: a rule, and checks of a category's own that come after it. -/
structure RuleSet where
  rule : Rule
  custom : Document → Path → List Violation

namespace RuleSet

/-- A rule alone. -/
def plain (rule : Rule) : RuleSet := ⟨rule, fun _ _ => []⟩

/-- The checks of remediation documents. -/
def sop : RuleSet := plain Rule.sop

/-- The checks of fault-injection documents. -/
def test : RuleSet := ⟨Rule.test, rollbackViolations⟩

/-- The checks of a category, where it has any. -/
def ofCategory? : Category → Option RuleSet
  | .sop => some sop
  | .test => some test
  | .alarm => none
  | .util => none

/-- All violations of a document. -/
def violations (checks : RuleSet) (document : Document) (file : Path) : List Violation :=
  let missing := checks.rule.elementViolations document file
  if missing.isEmpty then
    let parameters := document.parameters
    Rule.syntaxViolations parameters file ++ checks.rule.parameterViolations parameters file ++
      checks.rule.outputViolations document file ++ checks.rule.stepViolations document file ++
      checks.custom document file
  else missing

end RuleSet

end Runbook
