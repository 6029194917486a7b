import Runbook.Proofs.Text.Occurrence
import Runbook.Rules.Check

/-!
# Documents that conform to a rule

What a rule demands is said on the values of a document: the keys of its mappings, the parameters
it declares, and the names of its steps and outputs. `violations_exact` says that the checks find
nothing wrong exactly with the documents that conform. A parameter that disagrees with its own
description is not compared with the rule in that respect, but it is a violation already
(`contradictory_eq_nil`); so nothing is missed.
-/

namespace Runbook

namespace Yaml

/-- The value is a mapping, below its tags, with an entry for an untagged key. -/
def HasKey (value : Yaml) (key : String) : Prop :=
  ∃ entries inner, value.asMapping = some entries ∧ (.string key, inner) ∈ entries

/-- An entry is found where one has the key. -/
theorem lookupEntry_isSome_iff {key : String} {entries : List (Yaml × Yaml)} :
    (lookupEntry key entries).isSome = true ↔ ∃ inner, (.string key, inner) ∈ entries := by
  fun_induction lookupEntry key entries with
  | case1 => simp
  | case2 value rest => simp
  | case3 name value rest differs ih => simp [ih, Ne.symm differs]
  | case4 head rest other ih =>
      have elsewhere : ∀ inner, (.string key, inner) ≠ head := fun inner same =>
        other key inner same.symm
      simp [ih, elsewhere]

/-- A value is under a key exactly where the mapping has it. -/
theorem get?_isSome_iff {value : Yaml} {key : String} :
    (value.get? key).isSome = true ↔ value.HasKey key := by
  cases entries : value.asMapping with
  | none => simp [get?, HasKey, entries]
  | some entries => simp [get?, HasKey, entries, lookupEntry_isSome_iff]

instance (value : Yaml) (key : String) : Decidable (value.HasKey key) :=
  decidable_of_iff _ get?_isSome_iff

end Yaml

namespace Document

/-- The document declares a parameter: its definition stands among the `parameters`, under a key
that reads as its name. -/
def Declares (document : Document) (parameter : DeclaredParameter) : Prop :=
  ∃ declarations entries key, document.root.get? "parameters" = some declarations ∧
    declarations.asMapping = some entries ∧ (key, parameter.definition) ∈ entries ∧
      key.asString = some parameter.name

/-- The document declares a parameter of that name. -/
def DeclaresName (document : Document) (name : String) : Prop :=
  ∃ parameter, document.Declares parameter ∧ parameter.name = name

/-- One of the `mainSteps` has the name. -/
def HasStep (document : Document) (name : String) : Prop :=
  ∃ steps items step, document.root.get? "mainSteps" = some steps ∧
    steps.asSequence = some items ∧ step ∈ items ∧ stepName? step = some name

/-- One of the `outputs` has the name. -/
def HasOutput (document : Document) (name : String) : Prop :=
  ∃ outputs items output, document.root.get? "outputs" = some outputs ∧
    outputs.asSequence = some items ∧ output ∈ items ∧ outputName? output = some name

/-- An element is there exactly where the root has its key. -/
theorem hasElement_iff {document : Document} {key : String} :
    document.hasElement key = true ↔ document.root.HasKey key :=
  Yaml.get?_isSome_iff

/-- An item of what may be a list is one where there is a value and it is a list. -/
private theorem mem_getD_bind {α β : Type} {found : Option α} {items? : α → Option (List β)}
    {item : β} : item ∈ (found.bind items?).getD [] ↔
      ∃ value items, found = some value ∧ items? value = some items ∧ item ∈ items := by
  cases found with
  | none => simp
  | some value => cases items : items? value <;> simp [items]

/-- The parameters of a document are those that it declares. -/
theorem mem_parameters_iff {document : Document} {parameter : DeclaredParameter} :
    parameter ∈ document.parameters ↔ document.Declares parameter := by
  simp only [parameters, List.mem_filterMap, mem_getD_bind, Option.map_eq_some_iff]
  constructor
  · rintro ⟨⟨key, definition⟩, ⟨declarations, entries, found, mapping, member⟩, name, named, rfl⟩
    exact ⟨declarations, entries, key, found, mapping, member, named⟩
  · rintro ⟨declarations, entries, key, found, mapping, member, named⟩
    exact ⟨(key, parameter.definition), ⟨declarations, entries, found, mapping, member⟩,
      parameter.name, named, rfl⟩

/-- The names of steps are those of the steps there are. -/
theorem mem_stepNames_iff {document : Document} {name : String} :
    name ∈ document.stepNames ↔ document.HasStep name := by
  simp only [stepNames, List.mem_filterMap, mem_getD_bind]
  constructor
  · rintro ⟨step, ⟨steps, items, found, sequence, member⟩, named⟩
    exact ⟨steps, items, step, found, sequence, member, named⟩
  · rintro ⟨steps, items, step, found, sequence, member, named⟩
    exact ⟨step, ⟨steps, items, found, sequence, member⟩, named⟩

/-- The names of outputs are those of the outputs there are. -/
theorem mem_outputNames_iff {document : Document} {name : String} :
    name ∈ document.outputNames ↔ document.HasOutput name := by
  simp only [outputNames, List.mem_filterMap, mem_getD_bind]
  constructor
  · rintro ⟨output, ⟨outputs, items, found, sequence, member⟩, named⟩
    exact ⟨outputs, items, output, found, sequence, member, named⟩
  · rintro ⟨outputs, items, output, found, sequence, member, named⟩
    exact ⟨output, ⟨outputs, items, found, sequence, member⟩, named⟩

/-- A parameter is found exactly where its name is declared. -/
theorem parameter?_isSome_iff {document : Document} {name : String} :
    (document.parameter? name).isSome = true ↔ document.DeclaresName name := by
  simp [parameter?, DeclaresName, mem_parameters_iff]

end Document

namespace DeclaredParameter

/-- The parameter has a key for its default, whatever stands under it. -/
def HasDefault (parameter : DeclaredParameter) : Prop := parameter.definition.HasKey "default"

/-- A parameter has a default where the key is there. -/
theorem hasDefault_iff {parameter : DeclaredParameter} :
    parameter.hasDefault = true ↔ parameter.HasDefault :=
  Yaml.get?_isSome_iff

/-- A declared parameter as it has to be by itself. -/
structure WellFormed (parameter : DeclaredParameter) : Prop where
  name : isPascalCase parameter.name = true
  description : ∃ text, parameter.description = some text ∧
    (requiredMark.toList <+: text.toList ∧ ¬ parameter.HasDefault ∨
      optionalMark.toList <+: text.toList ∧ parameter.HasDefault)
  type : ∃ type, parameter.type = some type ∧ type ≠ "SecureString"
  default : ∀ text, parameter.default?.bind Yaml.asString = some text →
    ¬ parameterReference.toList <:+: text.toList

/-! ### What is wrong with a parameter by itself -/

/-- Nothing is found in a name exactly where it is written in Pascal case. -/
theorem nameFindings_eq_nil_iff {parameter : DeclaredParameter} :
    parameter.nameFindings = [] ↔ isPascalCase parameter.name = true := by
  simp [nameFindings]

/-- No description begins with both marks. -/
theorem not_optional_of_required {text : String} (required : text.startsWith requiredMark = true) :
    text.startsWith optionalMark = false := by
  rw [← Bool.not_eq_true]
  intro optional
  obtain ⟨after, begins⟩ := String.startsWith_string_iff.1 required
  obtain ⟨rest, starts⟩ := String.startsWith_string_iff.1 optional
  rw [← starts] at begins
  simp [requiredMark, optionalMark] at begins

/-- Nothing is found in a description exactly where it is a text with the mark that the default
calls for. -/
theorem descriptionFindings_eq_nil_iff {parameter : DeclaredParameter} :
    parameter.descriptionFindings = [] ↔ ∃ text, parameter.description = some text ∧
      (requiredMark.toList <+: text.toList ∧ ¬ parameter.HasDefault ∨
        optionalMark.toList <+: text.toList ∧ parameter.HasDefault) := by
  rw [descriptionFindings, ← hasDefault_iff]
  cases parameter.description with
  | none => simp
  | some text =>
      simp only [Option.some.injEq, exists_eq_left', ← String.startsWith_string_iff]
      cases required : text.startsWith requiredMark with
      | true =>
          have optional := not_optional_of_required required
          cases parameter.hasDefault <;> simp [optional]
      | false =>
          cases text.startsWith optionalMark <;> cases parameter.hasDefault <;> simp

/-- Nothing is found in a type exactly where it is there and keeps no secret. -/
theorem typeFindings_eq_nil_iff {parameter : DeclaredParameter} :
    parameter.typeFindings = [] ↔
      ∃ type, parameter.type = some type ∧ type ≠ "SecureString" := by
  rw [typeFindings]
  cases parameter.type <;> simp

/-- Nothing is found in a default exactly where it is no text with a reference. -/
theorem defaultFindings_eq_nil_iff {parameter : DeclaredParameter} :
    parameter.defaultFindings = [] ↔ ∀ text, parameter.default?.bind Yaml.asString = some text →
      ¬ parameterReference.toList <:+: text.toList := by
  rw [defaultFindings, defaultRefers]
  cases parameter.default?.bind Yaml.asString <;> simp [Text.contains_iff_infix]

/-- Nothing is found in a parameter exactly where it is well formed. -/
theorem findings_eq_nil_iff {parameter : DeclaredParameter} :
    parameter.findings = [] ↔ parameter.WellFormed := by
  simp only [findings, List.append_eq_nil_iff, nameFindings_eq_nil_iff,
    descriptionFindings_eq_nil_iff, typeFindings_eq_nil_iff, defaultFindings_eq_nil_iff]
  constructor
  · rintro ⟨⟨⟨name, description⟩, type⟩, default⟩
    exact ⟨name, description, type, default⟩
  · rintro ⟨name, description, type, default⟩
    exact ⟨⟨⟨name, description⟩, type⟩, default⟩

/-- A parameter that disagrees with its own description has a finding. -/
theorem descriptionFindings_ne_nil {parameter : DeclaredParameter}
    (contradicts : parameter.contradictsItself = true) : parameter.descriptionFindings ≠ [] := by
  rw [contradictsItself] at contradicts
  rw [descriptionFindings]
  split at contradicts
  · split at contradicts
    · simp_all
    · split at contradicts <;> simp_all
  · cases contradicts

end DeclaredParameter

/-- The document declares what a rule expects, and all that it declares under such a name is as the
rule expects it. -/
structure ExpectedParameter.Met (expected : ExpectedParameter) (document : Document) : Prop where
  declared : ∃ parameter, document.Declares parameter ∧ expected.name.holds parameter.name = true
  type : ∀ parameter, document.Declares parameter → expected.name.holds parameter.name = true →
    parameter.type = some expected.type
  default : ∀ parameter, document.Declares parameter → expected.name.holds parameter.name = true →
    (parameter.HasDefault ↔ expected.required = false)

/-- The document has all that a rule demands. -/
structure Rule.Satisfied (rule : Rule) (document : Document) : Prop where
  elements : ∀ element ∈ rule.elements, document.root.HasKey element
  parameters : ∀ parameter, document.Declares parameter → parameter.WellFormed
  expected : ∀ expected ∈ rule.parameters, expected.Met document
  outputs : ∀ pattern ∈ rule.outputs, ∃ name, document.HasOutput name ∧ pattern.holds name = true
  steps : ∀ group ∈ rule.stepGroups,
    ∃ pattern ∈ group, ∃ name, document.HasStep name ∧ pattern.holds name = true

/-- A rollback is wired: its two parameters come together, and with them the steps that choose the
execution and compare every other parameter. -/
structure Document.RollbackWired (document : Document) : Prop where
  together : document.DeclaresName isRollback ↔ document.DeclaresName previousExecutionId
  steps : document.DeclaresName isRollback →
    document.HasStep "CheckIsRollback" ∧ document.HasStep "SelectExecutionMode"
  asserts : document.DeclaresName isRollback → ∀ parameter, document.Declares parameter →
    parameter.name ≠ isRollback → parameter.name ≠ previousExecutionId →
      document.HasStep ("Assert" ++ parameter.name)

/-! ### What is wrong with a parameter that a rule expects -/

/-- Nothing is missed in a parameter exactly where it has the type, and a default unless it is
required. -/
theorem ExpectedParameter.findings_eq_nil_iff {expected : ExpectedParameter}
    {parameter : DeclaredParameter} :
    expected.findings false parameter = [] ↔
      parameter.type = some expected.type ∧ (parameter.HasDefault ↔ expected.required = false) := by
  rw [findings, ← DeclaredParameter.hasDefault_iff]
  cases expected.required <;> cases parameter.hasDefault <;> simp

namespace Rule

variable {rule : Rule} {document : Document} {file : Path}

/-- There is one violation for each element that is missing, in the order of the rule. -/
theorem elementViolations_eq (rule : Rule) (document : Document) (file : Path) :
    rule.elementViolations document file =
      (rule.elements.filter fun element => ¬ document.root.HasKey element).map fun element =>
        ⟨element, file, s!"Required top-level element '{element}' is missing"⟩ := by
  have same : (fun element => !document.hasElement element) =
      fun element => decide (¬ document.root.HasKey element) := by
    funext element
    simp [← Document.hasElement_iff]
  rw [elementViolations, same]

/-- No element is missed exactly where all are there. -/
theorem elementViolations_eq_nil_iff :
    rule.elementViolations document file = [] ↔
      ∀ element ∈ rule.elements, document.root.HasKey element := by
  simp [elementViolations_eq]

/-- The parameters have no violations of syntax exactly where each is well formed. -/
theorem syntaxViolations_eq_nil_iff :
    syntaxViolations document.parameters file = [] ↔
      ∀ parameter, document.Declares parameter → parameter.WellFormed := by
  simp [syntaxViolations, Document.mem_parameters_iff, DeclaredParameter.findings_eq_nil_iff]

/-- Where the parameters are in order by themselves, none escapes the comparison with the rule. -/
theorem contradictory_eq_nil {parameters : List DeclaredParameter}
    (fine : syntaxViolations parameters file = []) : contradictory parameters = [] := by
  simp only [syntaxViolations, List.flatMap_eq_nil_iff, List.map_eq_nil_iff] at fine
  simp only [contradictory, List.map_eq_nil_iff, List.filter_eq_nil_iff]
  intro parameter member contradicts
  have none := fine parameter member
  simp only [DeclaredParameter.findings, List.append_eq_nil_iff] at none
  exact DeclaredParameter.descriptionFindings_ne_nil contradicts none.1.1.2

/-- Where no parameter contradicts itself, none is missed exactly where all that are expected are
met. -/
theorem parameterViolations_eq_nil_iff (agree : contradictory document.parameters = []) :
    rule.parameterViolations document.parameters file = [] ↔
      ∀ expected ∈ rule.parameters, expected.Met document := by
  simp only [parameterViolations, agree, List.contains_nil, List.flatMap_eq_nil_iff]
  refine forall₂_congr fun expected _ => ?_
  split
  · rename_i empty
    simp only [List.isEmpty_iff, List.filter_eq_nil_iff, Document.mem_parameters_iff] at empty
    simp only [List.cons_ne_nil, false_iff]
    rintro ⟨⟨parameter, declared, named⟩, _, _⟩
    exact empty parameter declared named
  · rename_i nonempty
    obtain ⟨found, member⟩ := List.exists_mem_of_ne_nil _ (mt List.isEmpty_iff.2 nonempty)
    obtain ⟨declared, named⟩ := List.mem_filter.1 member
    rw [Document.mem_parameters_iff] at declared
    simp only [List.flatMap_eq_nil_iff, List.map_eq_nil_iff, List.mem_filter,
      Document.mem_parameters_iff, ExpectedParameter.findings_eq_nil_iff, and_imp]
    constructor
    · intro fine
      exact ⟨⟨found, declared, named⟩, fun parameter there matching =>
        (fine parameter there matching).1, fun parameter there matching =>
        (fine parameter there matching).2⟩
    · intro met parameter there matching
      exact ⟨met.type parameter there matching, met.default parameter there matching⟩

/-- No output is missed exactly where every pattern holds of one. -/
theorem outputViolations_eq_nil_iff :
    rule.outputViolations document file = [] ↔
      ∀ pattern ∈ rule.outputs, ∃ name, document.HasOutput name ∧ pattern.holds name = true := by
  simp [outputViolations, Document.mem_outputNames_iff]

/-- No step is missed exactly where some pattern of every group holds of one. -/
theorem stepViolations_eq_nil_iff :
    rule.stepViolations document file = [] ↔
      ∀ group ∈ rule.stepGroups,
        ∃ pattern ∈ group, ∃ name, document.HasStep name ∧ pattern.holds name = true := by
  simp [stepViolations, groupSatisfied, Document.mem_stepNames_iff]

end Rule

/-! ### What is wrong with a rollback -/

section

variable {document : Document} {file : Path}

/-- With a parameter for rollbacks the other one, the two steps and an assertion for each further
parameter must be there. -/
theorem rollbackViolations_of_declared (declared : document.DeclaresName isRollback) :
    rollbackViolations document file = [] ↔ document.DeclaresName previousExecutionId ∧
      (document.HasStep "CheckIsRollback" ∧ document.HasStep "SelectExecutionMode") ∧
        ∀ parameter, document.Declares parameter → parameter.name ≠ isRollback →
          parameter.name ≠ previousExecutionId → document.HasStep ("Assert" ++ parameter.name) := by
  have rollback := Document.parameter?_isSome_iff.2 declared
  rw [rollbackViolations, ← @Document.parameter?_isSome_iff document previousExecutionId]
  simp only [rollback, Bool.true_and, Bool.not_true, Bool.and_false, Bool.false_eq_true, ↓reduceIte,
    List.append_eq_nil_iff, List.map_eq_nil_iff, List.filter_eq_nil_iff, List.mem_filter, ne_eq,
    Bool.and_eq_true, decide_eq_true_eq, Bool.not_eq_true', Bool.not_eq_false,
    List.contains_iff_mem,
    Document.mem_stepNames_iff, Document.mem_parameters_iff, and_imp, and_assoc]
  cases document.parameter? previousExecutionId <;> simp [rollbackSteps, and_assoc]

/-- Without a parameter for rollbacks the other one must not be there. -/
theorem rollbackViolations_of_undeclared (undeclared : ¬ document.DeclaresName isRollback) :
    rollbackViolations document file = [] ↔ ¬ document.DeclaresName previousExecutionId := by
  have rollback := mt Document.parameter?_isSome_iff.1 undeclared
  rw [rollbackViolations, ← @Document.parameter?_isSome_iff document previousExecutionId]
  simp [rollback]

/-- Rollbacks have no violations exactly where they are wired. -/
theorem rollbackViolations_eq_nil_iff :
    rollbackViolations document file = [] ↔ document.RollbackWired := by
  by_cases declared : document.DeclaresName isRollback
  · rw [rollbackViolations_of_declared declared]
    constructor
    · rintro ⟨previous, steps, asserts⟩
      exact ⟨iff_of_true declared previous, fun _ => steps, fun _ => asserts⟩
    · intro wired
      exact ⟨wired.together.1 declared, wired.steps declared, wired.asserts declared⟩
  · rw [rollbackViolations_of_undeclared declared]
    constructor
    · intro previous
      exact ⟨iff_of_false declared previous, fun there => absurd there declared,
        fun there => absurd there declared⟩
    · intro wired
      exact mt wired.together.2 declared

end

namespace RuleSet

/-- A rule set finds nothing exactly where its rule is satisfied and its own checks find nothing. -/
theorem violations_eq_nil_iff {checks : RuleSet} {document : Document} {file : Path} :
    checks.violations document file = [] ↔
      checks.rule.Satisfied document ∧ checks.custom document file = [] := by
  rw [violations]
  split
  · rename_i complete
    rw [List.isEmpty_iff, Rule.elementViolations_eq_nil_iff] at complete
    simp only [List.append_eq_nil_iff]
    constructor
    · rintro ⟨⟨⟨⟨fine, expected⟩, outputs⟩, steps⟩, custom⟩
      rw [Rule.parameterViolations_eq_nil_iff (Rule.contradictory_eq_nil fine)] at expected
      exact ⟨⟨complete, Rule.syntaxViolations_eq_nil_iff.1 fine, expected,
        Rule.outputViolations_eq_nil_iff.1 outputs, Rule.stepViolations_eq_nil_iff.1 steps⟩, custom⟩
    · rintro ⟨⟨_, parameters, expected, outputs, steps⟩, custom⟩
      have fine := (@Rule.syntaxViolations_eq_nil_iff document file).2 parameters
      refine ⟨⟨⟨⟨fine, ?_⟩, Rule.outputViolations_eq_nil_iff.2 outputs⟩,
        Rule.stepViolations_eq_nil_iff.2 steps⟩, custom⟩
      exact (Rule.parameterViolations_eq_nil_iff (Rule.contradictory_eq_nil fine)).2 expected
  · rename_i incomplete
    rw [List.isEmpty_iff] at incomplete
    simp only [incomplete, false_iff]
    exact fun conforms => incomplete (Rule.elementViolations_eq_nil_iff.2 conforms.1.elements)

/-- A missing element is reported alone, with the others that are missing. -/
theorem violations_of_missing {checks : RuleSet} {document : Document} {file : Path}
    {element : String} (demanded : element ∈ checks.rule.elements)
    (missing : ¬ document.root.HasKey element) :
    checks.violations document file = checks.rule.elementViolations document file := by
  have some : ¬ (checks.rule.elementViolations document file).isEmpty = true := by
    rw [List.isEmpty_iff, Rule.elementViolations_eq_nil_iff]
    exact fun complete => missing (complete element demanded)
  rw [violations, if_neg some]

/-- Where no element is missing, every check reports what it finds. -/
theorem violations_of_complete {checks : RuleSet} {document : Document} {file : Path}
    (complete : ∀ element ∈ checks.rule.elements, document.root.HasKey element) :
    checks.violations document file =
      Rule.syntaxViolations document.parameters file ++
        checks.rule.parameterViolations document.parameters file ++
        checks.rule.outputViolations document file ++ checks.rule.stepViolations document file ++
        checks.custom document file := by
  rw [violations, if_pos (List.isEmpty_iff.2 (Rule.elementViolations_eq_nil_iff.2 complete))]

/-- The checks of a rule find nothing exactly with the documents that have all that the rule
demands, and the checks of fault-injection documents exactly with those that moreover wire their
rollback. Missing elements are reported one by one in the order of the rule, and nothing else with
them. -/
theorem violations_exact (document : Document) (file : Path) :
    (∀ rule, (plain rule).violations document file = [] ↔ rule.Satisfied document) ∧
      (test.violations document file = [] ↔
        Rule.test.Satisfied document ∧ document.RollbackWired) ∧
      ∀ checks : RuleSet, (∃ element ∈ checks.rule.elements, ¬ document.root.HasKey element) →
        checks.violations document file =
          (checks.rule.elements.filter fun element => ¬ document.root.HasKey element).map
            fun element =>
              ⟨element, file, s!"Required top-level element '{element}' is missing"⟩ := by
  refine ⟨fun rule => ?_, ?_, ?_⟩
  · rw [violations_eq_nil_iff]
    exact and_iff_left rfl
  · rw [violations_eq_nil_iff]
    exact and_congr_right fun _ => rollbackViolations_eq_nil_iff
  · rintro checks ⟨element, demanded, missing⟩
    rw [violations_of_missing demanded missing, Rule.elementViolations_eq]

end RuleSet

end Runbook
