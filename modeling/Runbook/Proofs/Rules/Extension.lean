import Runbook.Proofs.Rules.Conformity
import Runbook.Proofs.Yaml.Change

/-!
# Further steps and outputs

What the checks see of a document is which elements it has, its parameters, and the names of its
steps and outputs; and of a default they see whether there is one and whether it is a string that
refers to a stored parameter. A document that is as good as another one in these respects is
reported for a part of what the other one is reported for, in the same order
(`AsGoodAs.violations_sublist`). An item that is put into a sequence of a document, whatever it is,
leaves the document as good as it was.
-/

namespace Runbook

/-- The parameter is seen as another one is, except that its default may refer to nothing where the
other one's does. -/
structure DeclaredParameter.AsGoodAs (better parameter : DeclaredParameter) : Prop where
  name : better.name = parameter.name
  description : better.description = parameter.description
  type : better.type = parameter.type
  hasDefault : better.hasDefault = parameter.hasDefault
  refers : better.defaultRefers = true → parameter.defaultRefers = true

/-- The document has the elements and, one by one, the parameters of another one, and at least its
steps and outputs. -/
structure Document.AsGoodAs (better document : Document) : Prop where
  elements : ∀ key, better.hasElement key = document.hasElement key
  parameters : ∃ change : DeclaredParameter → DeclaredParameter,
    (∀ parameter, (change parameter).AsGoodAs parameter) ∧
      better.parameters = document.parameters.map change
  steps : document.stepNames ⊆ better.stepNames
  outputs : document.outputNames ⊆ better.outputNames

/-! ### Parameters -/

namespace DeclaredParameter.AsGoodAs

variable {better parameter : DeclaredParameter}

/-- A parameter is as good as itself. -/
theorem refl (parameter : DeclaredParameter) : parameter.AsGoodAs parameter :=
  ⟨rfl, rfl, rfl, rfl, id⟩

/-- One as good contradicts itself exactly where the parameter does. -/
theorem contradictsItself_eq (good : better.AsGoodAs parameter) :
    better.contradictsItself = parameter.contradictsItself := by
  rw [contradictsItself, contradictsItself, good.description, good.hasDefault]

/-- Nothing further is found in one as good. -/
theorem findings_sublist (good : better.AsGoodAs parameter) :
    better.findings.Sublist parameter.findings := by
  have name : better.nameFindings = parameter.nameFindings := by
    rw [nameFindings, nameFindings, good.name]
  have description : better.descriptionFindings = parameter.descriptionFindings := by
    rw [descriptionFindings, descriptionFindings, good.name, good.description, good.hasDefault]
  have type : better.typeFindings = parameter.typeFindings := by
    rw [typeFindings, typeFindings, good.name, good.type]
  rw [findings, findings, name, description, type]
  apply List.Sublist.append (List.Sublist.refl _)
  rw [defaultFindings, defaultFindings, good.name]
  by_cases refers : better.defaultRefers = true
  · rw [if_pos refers, if_pos (good.refers refers)]
  · rw [if_neg refers]
    exact List.nil_sublist _

/-- What is missed in one as good is what was missed. -/
theorem expected_findings_eq (good : better.AsGoodAs parameter) (expected : ExpectedParameter)
    (settled : Bool) : expected.findings settled better = expected.findings settled parameter := by
  rw [ExpectedParameter.findings, ExpectedParameter.findings, good.name, good.type,
    good.hasDefault]

end DeclaredParameter.AsGoodAs

section

variable {change : DeclaredParameter → DeclaredParameter}
  (good : ∀ parameter, (change parameter).AsGoodAs parameter)
include good

/-- Parameters as good have no further violations of syntax. -/
theorem syntaxViolations_map_sublist (parameters : List DeclaredParameter) (file : Path) :
    (Rule.syntaxViolations (parameters.map change) file).Sublist
      (Rule.syntaxViolations parameters file) := by
  induction parameters with
  | nil => exact List.Sublist.refl _
  | cons parameter rest ih =>
      rw [Rule.syntaxViolations, List.map_cons, List.flatMap_cons, Rule.syntaxViolations,
        List.flatMap_cons, (good parameter).name]
      exact ((good parameter).findings_sublist.map _).append ih

/-- Parameters as good contradict themselves under the same names. -/
theorem contradictory_map (parameters : List DeclaredParameter) :
    Rule.contradictory (parameters.map change) = Rule.contradictory parameters := by
  rw [Rule.contradictory, Rule.contradictory, List.filter_map, List.map_map]
  have same : DeclaredParameter.contradictsItself ∘ change = DeclaredParameter.contradictsItself :=
    funext fun parameter => (good parameter).contradictsItself_eq
  have named : DeclaredParameter.name ∘ change = DeclaredParameter.name :=
    funext fun parameter => (good parameter).name
  rw [same, named]

/-- What is missed in parameters as good is what was missed. -/
theorem parameterViolations_map (rule : Rule) (parameters : List DeclaredParameter)
    (file : Path) :
    rule.parameterViolations (parameters.map change) file =
      rule.parameterViolations parameters file := by
  rw [Rule.parameterViolations, Rule.parameterViolations, contradictory_map good]
  apply List.flatMap_congr
  intro expected _
  have matching :
      (parameters.map change).filter (fun parameter => expected.name.holds parameter.name) =
        (parameters.filter fun parameter => expected.name.holds parameter.name).map change := by
    rw [List.filter_map]
    congr 1
    apply List.filter_congr
    intro parameter _
    rw [Function.comp_apply, (good parameter).name]
  simp only [matching, List.isEmpty_map, List.flatMap_map]
  congr 1
  apply List.flatMap_congr
  intro parameter _
  rw [(good parameter).name, (good parameter).expected_findings_eq]

end

/-! ### Documents -/

namespace Document.AsGoodAs

variable {better document : Document}

/-- A document as good misses the same elements. -/
theorem elementViolations_eq (good : better.AsGoodAs document) (rule : Rule) (file : Path) :
    rule.elementViolations better file = rule.elementViolations document file := by
  rw [Rule.elementViolations, Rule.elementViolations]
  simp only [good.elements]

/-- An output of the one document is an output of the other, so that what is not matched there is
not matched here. -/
theorem outputViolations_sublist (good : better.AsGoodAs document) (rule : Rule) (file : Path) :
    (rule.outputViolations better file).Sublist (rule.outputViolations document file) := by
  apply List.Sublist.map
  apply List.monotone_filter_right
  intro pattern unmatched
  simp only [Bool.not_eq_true', List.any_eq_false] at unmatched ⊢
  exact fun name listed => unmatched name (good.outputs listed)

/-- A document as good misses no further steps. -/
theorem stepViolations_sublist (good : better.AsGoodAs document) (rule : Rule) (file : Path) :
    (rule.stepViolations better file).Sublist (rule.stepViolations document file) := by
  apply List.Sublist.map
  apply List.monotone_filter_right
  intro group unsatisfied
  simp only [Rule.groupSatisfied, Bool.not_eq_true', List.any_eq_false, Bool.not_eq_true]
    at unsatisfied ⊢
  exact fun pattern alternative name listed =>
    unsatisfied pattern alternative name (good.steps listed)

/-- A document as good declares the same names. -/
theorem parameter?_isSome_eq (good : better.AsGoodAs document) (name : String) :
    (better.parameter? name).isSome = (document.parameter? name).isSome := by
  obtain ⟨change, alike, parameters⟩ := good.parameters
  rw [Bool.eq_iff_iff, Document.parameter?, Document.parameter?, parameters, List.find?_map,
    Option.isSome_map]
  have named : (fun parameter => decide (parameter.name = name)) ∘ change =
      fun parameter => decide (DeclaredParameter.name parameter = name) :=
    funext fun parameter => by rw [Function.comp_apply, (alike parameter).name]
  rw [named]

/-- A document as good has no further violations of rollbacks. -/
theorem rollbackViolations_sublist (good : better.AsGoodAs document) (file : Path) :
    (rollbackViolations better file).Sublist (rollbackViolations document file) := by
  have missing (name : String) (absent : (!better.stepNames.contains name) = true) :
      (!document.stepNames.contains name) = true := by
    simp only [Bool.not_eq_true', List.contains_eq_mem, decide_eq_false_iff_not] at absent ⊢
    exact fun there => absent (good.steps there)
  obtain ⟨change, alike, parameters⟩ := good.parameters
  simp only [rollbackViolations, good.parameter?_isSome_eq, parameters]
  split
  · apply List.Sublist.append
    · apply List.Sublist.append (List.Sublist.refl _)
      exact (List.monotone_filter_right _ fun step => missing step).map _
    · have named (parameter : DeclaredParameter) := (alike parameter).name
      simp only [List.filter_map, List.map_map, Function.comp_def, named]
      exact (List.monotone_filter_right _ fun parameter => missing _).map _
  · exact List.Sublist.refl _

/-- Checks whose own pass reports no more report no more. -/
theorem violations_sublist (good : better.AsGoodAs document) {checks : RuleSet} {file : Path}
    (custom : (checks.custom better file).Sublist (checks.custom document file)) :
    (checks.violations better file).Sublist (checks.violations document file) := by
  obtain ⟨change, alike, parameters⟩ := good.parameters
  rw [RuleSet.violations, RuleSet.violations, good.elementViolations_eq]
  split
  · apply List.Sublist.append _ custom
    apply List.Sublist.append _ (good.stepViolations_sublist checks.rule file)
    apply List.Sublist.append _ (good.outputViolations_sublist checks.rule file)
    rw [parameters, parameterViolations_map alike]
    exact (syntaxViolations_map_sublist alike _ file).append (List.Sublist.refl _)
  · exact List.Sublist.refl _

end Document.AsGoodAs

/-! ### Items -/

namespace Document

/-- The document with an item put into the sequence under a key; where no sequence is, it stays as
it is. -/
def insertItem (document : Document) (key : String) (position : Nat) (item : Yaml) : Document :=
  ⟨document.root.changeUnder key (·.insertItem position item)⟩

section

variable (document : Document) (key : String) (position : Nat) (item : Yaml)

/-- The item stands at its position, and no other sequence has changed. -/
theorem asSequence_insertItem (other : String) :
    ((document.insertItem key position item).root.get? other).bind Yaml.asSequence =
      if other = key then
        ((document.root.get? key).bind Yaml.asSequence).map (·.insertIdx position item)
      else (document.root.get? other).bind Yaml.asSequence := by
  rw [insertItem, Yaml.get?_changeUnder]
  split
  · cases document.root.get? key with
    | none => rfl
    | some value => exact value.asSequence_insertItem position item
  · rfl

/-- Mappings stay as they are. -/
theorem asMapping_insertItem (other : String) :
    ((document.insertItem key position item).root.get? other).bind Yaml.asMapping =
      (document.root.get? other).bind Yaml.asMapping := by
  rw [insertItem, Yaml.get?_changeUnder]
  split
  · rename_i same
    subst same
    cases document.root.get? other with
    | none => rfl
    | some value => exact value.asMapping_insertItem position item
  · rfl

/-- What was read from the items of a sequence is still read from them. -/
theorem filterMap_insertItem_subset {α : Type} (read : Yaml → Option α) (other : String) :
    (((document.root.get? other).bind Yaml.asSequence).getD []).filterMap read ⊆
      ((((document.insertItem key position item).root.get? other).bind
        Yaml.asSequence).getD []).filterMap read := by
  rw [asSequence_insertItem]
  split
  · rename_i same
    subst same
    cases (document.root.get? other).bind Yaml.asSequence with
    | none => exact List.Subset.refl _
    | some items => exact ((items.sublist_insertIdx position item).filterMap read).subset
  · exact List.Subset.refl _

/-- A document with one more item is as good. -/
theorem asGoodAs_insertItem : (document.insertItem key position item).AsGoodAs document where
  elements other := by
    rw [hasElement, hasElement, insertItem, Yaml.get?_changeUnder]
    split
    · rename_i same
      rw [same, Option.isSome_map]
    · rfl
  parameters := by
    refine ⟨id, DeclaredParameter.AsGoodAs.refl, ?_⟩
    rw [parameters, parameters, asMapping_insertItem, List.map_id]
  steps := document.filterMap_insertItem_subset key position item stepName? "mainSteps"
  outputs := document.filterMap_insertItem_subset key position item outputName? "outputs"

end

end Document

namespace RuleSet

/-- An item put anywhere into a sequence of a document, such as its steps or its outputs, adds no
violation: what is then reported was reported before, in the same order. -/
theorem insertItem_sublist (document : Document) (file : Path) (key : String) (position : Nat)
    (item : Yaml) :
    (∀ rule, ((plain rule).violations (document.insertItem key position item) file).Sublist
      ((plain rule).violations document file)) ∧
    (test.violations (document.insertItem key position item) file).Sublist
      (test.violations document file) := by
  have good := document.asGoodAs_insertItem key position item
  constructor
  · intro rule
    exact good.violations_sublist (List.Sublist.refl _)
  · exact good.violations_sublist (good.rollbackViolations_sublist file)

end RuleSet

end Runbook
