import Mathlib.Data.List.Nodup
import Runbook.Proofs.Rules.Conformity

/-!
# The presence of a default is reported once

Two passes look at whether a parameter has a default: the one compares it with the mark of the
description, the other with what the rule expects under the parameter's name. `presence_exact` says
what the two report together on one parameter. A parameter that disagrees with its own mark is
reported for that, and never again, whatever the rule expects of it; any other parameter is
reported once for every entry of the rule that matches its name and expects the opposite.
-/

namespace Runbook

/-- What is said of a parameter whose mark disagrees with the presence of its default. -/
def markMessage (name : String) (hasDefault : Bool) : String :=
  if hasDefault then s!"Parameter '{name}' is marked {requiredMark} but declares a default"
  else s!"Parameter '{name}' is marked {optionalMark} but has no default"

/-- What is said of a parameter of which a rule expects the opposite. -/
def oppositeMessage (name : String) (hasDefault : Bool) : String :=
  if hasDefault then s!"Parameter '{name}' must be required and have no default"
  else s!"Parameter '{name}' must be optional and declare a default"

/-- All that is ever said of the presence of the default of a parameter. -/
def presenceMessages (name : String) : List String :=
  [markMessage name true, markMessage name false,
    oppositeMessage name true, oppositeMessage name false]

/-- The violation is about the presence of the default of the parameter of that name. -/
def Violation.OnPresence (name : String) (violation : Violation) : Prop :=
  violation.identifier = name ∧ violation.message ∈ presenceMessages name

instance (name : String) : DecidablePred (Violation.OnPresence name) := fun violation =>
  inferInstanceAs (Decidable (violation.identifier = name ∧
    violation.message ∈ presenceMessages name))

namespace DeclaredParameter

/-- The description is marked as required and there is a default, or it is marked as optional and
there is none. -/
def MarkDisagrees (parameter : DeclaredParameter) : Prop :=
  ∃ text, parameter.description = some text ∧
    (requiredMark.toList <+: text.toList ∧ parameter.HasDefault ∨
      optionalMark.toList <+: text.toList ∧ ¬ parameter.HasDefault)

/-- A parameter contradicts itself where its mark says one thing and its default another. -/
theorem contradictsItself_iff {parameter : DeclaredParameter} :
    parameter.contradictsItself = true ↔ parameter.MarkDisagrees := by
  rw [contradictsItself, MarkDisagrees, ← hasDefault_iff]
  cases parameter.description with
  | none => simp
  | some text =>
      simp only [Option.some.injEq, exists_eq_left', ← String.startsWith_string_iff]
      by_cases required : text.startsWith requiredMark = true
      · simp [required, not_optional_of_required required]
      · simp [required]

/-- The description is marked as required and there is no default, or it is marked as optional and
there is one. -/
def MarkAgrees (parameter : DeclaredParameter) : Prop :=
  ∃ text, parameter.description = some text ∧
    (requiredMark.toList <+: text.toList ∧ ¬ parameter.HasDefault ∨
      optionalMark.toList <+: text.toList ∧ parameter.HasDefault)

/-- A mark that agrees does not disagree, for no text begins with both. -/
theorem MarkAgrees.not_markDisagrees {parameter : DeclaredParameter}
    (agrees : parameter.MarkAgrees) : ¬ parameter.MarkDisagrees := by
  rw [← contradictsItself_iff]
  intro contradicts
  exact descriptionFindings_ne_nil contradicts (descriptionFindings_eq_nil_iff.2 agrees)

end DeclaredParameter

/-- The entry of a rule is for the parameter's name and expects a default where there is none, or
none where there is one. -/
def ExpectedParameter.Opposes (expected : ExpectedParameter) (parameter : DeclaredParameter) :
    Prop :=
  expected.name.holds parameter.name = true ∧ (expected.required = true ↔ parameter.HasDefault)

instance (expected : ExpectedParameter) (parameter : DeclaredParameter) :
    Decidable (expected.Opposes parameter) :=
  decidable_of_iff (expected.name.holds parameter.name = true ∧
    (expected.required = true ↔ parameter.hasDefault = true))
    (by rw [ExpectedParameter.Opposes, DeclaredParameter.hasDefault_iff])

/-! ### Messages -/

/-- What is said of a parameter's name, type and default is not said of the presence of the
default. -/
theorem not_mem_presenceMessages (name : String) :
    s!"Parameter '{name}' must be PascalCase" ∉ presenceMessages name ∧
      s!"Parameter '{name}' has no description" ∉ presenceMessages name ∧
      s!"Description of parameter '{name}' must start with {requiredMark} or {optionalMark}" ∉
        presenceMessages name ∧
      s!"Parameter '{name}' has no type" ∉ presenceMessages name ∧
      s!"Parameter '{name}' must not use type SecureString" ∉ presenceMessages name ∧
      s!"Default of parameter '{name}' must not reference another parameter" ∉
        presenceMessages name := by
  simp [presenceMessages, markMessage, oppositeMessage, requiredMark, optionalMark, toString,
    ← String.toList_inj]

/-- What is said of a type that a rule does not expect is not said of the presence of a default. -/
theorem type_not_mem_presenceMessages (name type found : String) :
    s!"Parameter '{name}' must have type '{type}', found '{found}'" ∉ presenceMessages name := by
  simp [presenceMessages, markMessage, oppositeMessage, requiredMark, optionalMark, toString,
    ← String.toList_inj]

/-- What is said of a rule that nothing meets is not said of the presence of a default. -/
theorem unmet_not_mem_presenceMessages (name source : String) :
    s!"Required parameter '{source}' is not declared" ∉ presenceMessages name ∧
      s!"No output matches required pattern '{source}'" ∉ presenceMessages name ∧
      s!"Document must contain one of the steps: {source}" ∉ presenceMessages name := by
  simp [presenceMessages, markMessage, oppositeMessage, requiredMark, optionalMark, toString,
    ← String.toList_inj]

/-- The message about a wrong mark is about presence. -/
theorem markMessage_mem (name : String) (hasDefault : Bool) :
    markMessage name hasDefault ∈ presenceMessages name := by
  cases hasDefault <;> simp [presenceMessages]

/-- The message about a wrong expectation is about presence. -/
theorem oppositeMessage_mem (name : String) (hasDefault : Bool) :
    oppositeMessage name hasDefault ∈ presenceMessages name := by
  cases hasDefault <;> simp [presenceMessages]

/-- Those of some messages that are about the presence of the default of the parameter of that
name. -/
def presenceFindings (name : String) (messages : List String) : List String :=
  messages.filter (· ∈ presenceMessages name)

/-- Messages about presence are picked list by list. -/
theorem presenceFindings_append (name : String) (front back : List String) :
    presenceFindings name (front ++ back) =
      presenceFindings name front ++ presenceFindings name back :=
  List.filter_append ..

/-- Messages about presence are picked in each case. -/
theorem presenceFindings_ite (name : String) (condition : Prop) [Decidable condition]
    (front back : List String) :
    presenceFindings name (if condition then front else back) =
      if condition then presenceFindings name front else presenceFindings name back := by
  split <;> rfl

/-- A message about presence is picked. -/
theorem presenceFindings_self {name message : String} (about : message ∈ presenceMessages name) :
    presenceFindings name [message] = [message] := by
  simp [presenceFindings, about]

/-- Any other message is not. -/
theorem presenceFindings_other {name message : String} (other : message ∉ presenceMessages name) :
    presenceFindings name [message] = [] := by
  simp [presenceFindings, other]

namespace DeclaredParameter

/-- Nothing that is found in a name is about presence. -/
theorem presence_nameFindings (parameter : DeclaredParameter) :
    presenceFindings parameter.name parameter.nameFindings = [] := by
  obtain ⟨pascal, -⟩ := not_mem_presenceMessages parameter.name
  rw [nameFindings, presenceFindings_ite, presenceFindings_other pascal]
  exact ite_self _

/-- What is found in a description is about presence where the parameter contradicts itself. -/
theorem presence_descriptionFindings (parameter : DeclaredParameter) :
    presenceFindings parameter.name parameter.descriptionFindings =
      if parameter.contradictsItself then [markMessage parameter.name parameter.hasDefault]
      else [] := by
  obtain ⟨-, absent, unmarked, -⟩ := not_mem_presenceMessages parameter.name
  rw [descriptionFindings, contradictsItself]
  cases parameter.description with
  | none => exact presenceFindings_other absent
  | some text =>
      by_cases required : text.startsWith requiredMark = true
      · cases given : parameter.hasDefault with
        | false => simp [required, presenceFindings]
        | true =>
            simp only [required, if_true]
            exact presenceFindings_self (markMessage_mem parameter.name true)
      · by_cases optional : text.startsWith optionalMark = true
        · cases given : parameter.hasDefault with
          | false =>
              simp only [required, optional, Bool.not_false, Bool.false_eq_true, if_false, if_true]
              exact presenceFindings_self (markMessage_mem parameter.name false)
          | true => simp [required, optional, presenceFindings]
        · simp only [required, optional, if_false, Bool.false_eq_true]
          exact presenceFindings_other unmarked

/-- Nothing that is found in a type is about presence. -/
theorem presence_typeFindings (parameter : DeclaredParameter) :
    presenceFindings parameter.name parameter.typeFindings = [] := by
  obtain ⟨-, -, -, absent, secure, -⟩ := not_mem_presenceMessages parameter.name
  rw [typeFindings]
  cases parameter.type with
  | none => exact presenceFindings_other absent
  | some type =>
      rw [presenceFindings_ite, presenceFindings_other secure]
      exact ite_self _

/-- Nothing that is found in a default is about presence. -/
theorem presence_defaultFindings (parameter : DeclaredParameter) :
    presenceFindings parameter.name parameter.defaultFindings = [] := by
  obtain ⟨-, -, -, -, -, reference⟩ := not_mem_presenceMessages parameter.name
  rw [defaultFindings, presenceFindings_ite, presenceFindings_other reference]
  exact ite_self _

/-- Of all that is found in a parameter, one message is about presence where it contradicts itself,
and else none. -/
theorem presence_findings (parameter : DeclaredParameter) :
    presenceFindings parameter.name parameter.findings =
      if parameter.contradictsItself then [markMessage parameter.name parameter.hasDefault]
      else [] := by
  simp only [findings, presenceFindings_append, presence_nameFindings,
    presence_descriptionFindings, presence_typeFindings, presence_defaultFindings,
    List.nil_append, List.append_nil]

end DeclaredParameter

/-- A parameter whose mark was reported is passed over; of any other the opposite is reported where
it is expected. -/
theorem ExpectedParameter.presence_findings (expected : ExpectedParameter) (settled : Bool)
    (parameter : DeclaredParameter) :
    presenceFindings parameter.name (expected.findings settled parameter) =
      if settled = false ∧ expected.required = parameter.hasDefault then
        [oppositeMessage parameter.name parameter.hasDefault]
      else [] := by
  have type := type_not_mem_presenceMessages parameter.name expected.type
    (parameter.type.getD "none")
  have opposite := presenceFindings_self (oppositeMessage_mem parameter.name parameter.hasDefault)
  rw [findings, presenceFindings_append, presenceFindings_ite, presenceFindings_other type]
  cases settled with
  | true => simp [presenceFindings]
  | false =>
      cases required : expected.required <;> cases given : parameter.hasDefault <;>
        simp_all [oppositeMessage, presenceFindings]

/-! ### Violations -/

section

variable {name : String} {file : Path}

/-- Of the violations of a parameter those are about the presence of a default whose messages
are. -/
theorem onPresence_map (name : String) (file : Path) (messages : List String) :
    (messages.map fun message => Violation.mk name file message).filter
        (Violation.OnPresence name ·) =
      (presenceFindings name messages).map fun message => ⟨name, file, message⟩ := by
  rw [List.filter_map, presenceFindings]
  congr 1
  exact List.filter_congr fun message _ => by simp [Violation.OnPresence]

/-- A violation of another parameter is not about this one. -/
theorem onPresence_map_of_ne {other : String} (apart : other ≠ name) (messages : List String) :
    (messages.map fun message => Violation.mk other file message).filter
      (Violation.OnPresence name ·) = [] := by
  simp [List.filter_eq_nil_iff, Violation.OnPresence, apart]

/-- Of a list without repetition only one item counts, where the others give nothing. -/
theorem flatMap_eq_of_nodup {α β : Type} {items : List α} (once : items.Nodup) {item : α}
    (member : item ∈ items) {values : α → List β}
    (others : ∀ other ∈ items, other ≠ item → values other = []) :
    items.flatMap values = values item := by
  obtain ⟨before, after, rfl⟩ := List.append_of_mem member
  obtain ⟨absent, -⟩ := List.nodup_cons.1 (List.nodup_middle.1 once)
  have nothing : ∀ other ∈ before ++ after, values other = [] := by
    intro other inside
    apply others other
    · rw [List.mem_append, List.mem_cons]
      exact (List.mem_append.1 inside).imp_right Or.inr
    · rintro rfl
      exact absent inside
  have front : before.flatMap values = [] :=
    List.flatMap_eq_nil_iff.2 fun other inside => nothing other (List.mem_append_left _ inside)
  have back : after.flatMap values = [] :=
    List.flatMap_eq_nil_iff.2 fun other inside => nothing other (List.mem_append_right _ inside)
  rw [List.flatMap_append, List.flatMap_cons, front, back, List.nil_append, List.append_nil]

/-- What every item of a kind gives once is there as often as there are such items. -/
theorem flatMap_ite_singleton {α β : Type} (items : List α) (kind : α → Prop) [DecidablePred kind]
    (value : β) :
    items.flatMap (fun item => if kind item then [value] else []) =
      List.replicate (items.countP (kind ·)) value := by
  induction items with
  | nil => rfl
  | cons item rest ih =>
      rw [List.flatMap_cons, ih, List.countP_cons]
      by_cases here : kind item
      · simp [here, List.replicate_succ]
      · simp [here]

end

section

variable {parameters : List DeclaredParameter} {parameter : DeclaredParameter} {file : Path}
  {messages : DeclaredParameter → List String}

/-- Of the violations of several parameters with different names those of one are about it. -/
theorem onPresence_flatMap (distinct : (parameters.map DeclaredParameter.name).Nodup)
    (declared : parameter ∈ parameters) :
    (parameters.flatMap fun other =>
        (messages other).map fun message => Violation.mk other.name file message).filter
        (Violation.OnPresence parameter.name ·) =
      (presenceFindings parameter.name (messages parameter)).map
        fun message => ⟨parameter.name, file, message⟩ := by
  rw [List.filter_flatMap, flatMap_eq_of_nodup (distinct.of_map DeclaredParameter.name) declared,
    onPresence_map]
  intro other there apart
  apply onPresence_map_of_ne
  exact fun same => apart (List.inj_on_of_nodup_map distinct there declared same)

/-- Messages about others are not on the presence of a parameter. -/
theorem onPresence_flatMap_of_absent {name : String}
    (absent : ∀ other ∈ parameters, other.name ≠ name) :
    (parameters.flatMap fun other =>
        (messages other).map fun message => Violation.mk other.name file message).filter
        (Violation.OnPresence name ·) = [] := by
  rw [List.filter_flatMap, List.flatMap_eq_nil_iff]
  exact fun other there => onPresence_map_of_ne (absent other there) _

namespace Rule

/-- Among the violations of syntax, one is on presence where the parameter contradicts itself, and
else none. -/
theorem onPresence_syntaxViolations
    (distinct : (parameters.map DeclaredParameter.name).Nodup) (declared : parameter ∈ parameters) :
    (syntaxViolations parameters file).filter (Violation.OnPresence parameter.name ·) =
      if parameter.contradictsItself then
        [⟨parameter.name, file, markMessage parameter.name parameter.hasDefault⟩]
      else [] := by
  rw [syntaxViolations, onPresence_flatMap distinct declared, DeclaredParameter.presence_findings]
  split <;> rfl

/-- Where names are distinct, a name is contradictory exactly where its parameter contradicts
itself. -/
theorem contradictory_contains (distinct : (parameters.map DeclaredParameter.name).Nodup)
    (declared : parameter ∈ parameters) :
    (contradictory parameters).contains parameter.name = parameter.contradictsItself := by
  rw [Bool.eq_iff_iff, List.contains_iff_mem, contradictory, List.mem_map]
  -- Names are handed from pass to pass; a name stands for one parameter only where all differ.
  constructor
  · rintro ⟨other, found, same⟩
    obtain ⟨there, contradicts⟩ := List.mem_filter.1 found
    rwa [List.inj_on_of_nodup_map distinct there declared same] at contradicts
  · intro contradicts
    exact ⟨parameter, List.mem_filter.2 ⟨declared, contradicts⟩, rfl⟩

/-- One entry of a rule reports a parameter that it opposes once, and no other. -/
theorem onPresence_expected (distinct : (parameters.map DeclaredParameter.name).Nodup)
    (declared : parameter ∈ parameters) (expected : ExpectedParameter) :
    ((parameters.filter fun other => expected.name.holds other.name).flatMap fun other =>
        (expected.findings ((contradictory parameters).contains other.name) other).map
          fun message => Violation.mk other.name file message).filter
        (Violation.OnPresence parameter.name ·) =
      if parameter.contradictsItself = false ∧ expected.Opposes parameter then
        [⟨parameter.name, file, oppositeMessage parameter.name parameter.hasDefault⟩]
      else [] := by
  by_cases matching : expected.name.holds parameter.name = true
  · have apart : ((parameters.filter fun other => expected.name.holds other.name).map
        DeclaredParameter.name).Nodup :=
      distinct.sublist (List.filter_sublist.map _)
    rw [onPresence_flatMap apart (List.mem_filter.2 ⟨declared, matching⟩),
      contradictory_contains distinct declared, ExpectedParameter.presence_findings]
    simp only [ExpectedParameter.Opposes, matching, true_and, ← DeclaredParameter.hasDefault_iff,
      ← Bool.eq_iff_iff]
    split <;> rfl
  · rw [onPresence_flatMap_of_absent, if_neg fun opposed => matching opposed.2.1]
    intro other found same
    rw [← same] at matching
    exact matching (List.mem_filter.1 found).2

/-- A rule reports a parameter once for each of its entries that opposes it, but not where its mark
was reported. -/
theorem onPresence_parameterViolations (rule : Rule)
    (distinct : (parameters.map DeclaredParameter.name).Nodup) (declared : parameter ∈ parameters) :
    (rule.parameterViolations parameters file).filter (Violation.OnPresence parameter.name ·) =
      if parameter.contradictsItself then []
      else
        List.replicate (rule.parameters.countP (·.Opposes parameter))
          ⟨parameter.name, file, oppositeMessage parameter.name parameter.hasDefault⟩ := by
  have each : ∀ expected ∈ rule.parameters,
      List.filter (Violation.OnPresence parameter.name ·)
        (let matching := parameters.filter fun other => expected.name.holds other.name
        if matching.isEmpty then
          [⟨expected.name.source, file,
            s!"Required parameter '{expected.name.source}' is not declared"⟩]
        else
          matching.flatMap fun other =>
            (expected.findings ((contradictory parameters).contains other.name) other).map
              fun message => ⟨other.name, file, message⟩) =
        if parameter.contradictsItself = false ∧ expected.Opposes parameter then
          [⟨parameter.name, file, oppositeMessage parameter.name parameter.hasDefault⟩]
        else [] := by
    intro expected _
    dsimp only
    split
    -- The violation of an unmet entry bears the pattern, which may be spelled like the parameter's
    -- name: its message alone sets it apart.
    · rename_i empty
      rw [List.isEmpty_iff, List.filter_eq_nil_iff] at empty
      obtain ⟨undeclared, -⟩ :=
        unmet_not_mem_presenceMessages parameter.name expected.name.source
      rw [if_neg fun opposed => empty parameter declared opposed.2.1]
      simp [Violation.OnPresence, undeclared]
    · exact onPresence_expected distinct declared expected
  rw [parameterViolations, List.filter_flatMap, List.flatMap_congr each, flatMap_ite_singleton]
  cases parameter.contradictsItself <;> simp

/-- Outputs have no violations on presence. -/
theorem onPresence_outputViolations (rule : Rule) (document : Document) (file : Path)
    (name : String) :
    (rule.outputViolations document file).filter (Violation.OnPresence name ·) = [] := by
  rw [outputViolations, List.filter_eq_nil_iff]
  intro violation found
  obtain ⟨pattern, _, rfl⟩ := List.mem_map.1 found
  simp [Violation.OnPresence, (unmet_not_mem_presenceMessages name pattern.source).2.1]

/-- Steps have no violations on presence. -/
theorem onPresence_stepViolations (rule : Rule) (document : Document) (file : Path)
    (name : String) :
    (rule.stepViolations document file).filter (Violation.OnPresence name ·) = [] := by
  rw [stepViolations, List.filter_eq_nil_iff]
  intro violation found
  obtain ⟨group, _, rfl⟩ := List.mem_map.1 found
  simp [Violation.OnPresence, (unmet_not_mem_presenceMessages name _).2.2]

end Rule

end

namespace RuleSet

/-- In a document with all elements that a rule demands and with different names for its parameters,
a parameter whose mark disagrees with the presence of its default is reported once for that and
never for what the rule expects; and any other parameter is reported once for each entry of the rule
that matches its name and demands the opposite. -/
theorem presence_exact (rule : Rule) (document : Document) (file : Path)
    (complete : ∀ element ∈ rule.elements, document.root.HasKey element)
    (distinct : (document.parameters.map DeclaredParameter.name).Nodup)
    {parameter : DeclaredParameter} (declared : document.Declares parameter) :
    let reported := ((plain rule).violations document file).filter
      (Violation.OnPresence parameter.name ·)
    (parameter.MarkDisagrees → reported =
      [⟨parameter.name, file, markMessage parameter.name parameter.hasDefault⟩]) ∧
    (¬ parameter.MarkDisagrees → reported =
      List.replicate (rule.parameters.countP (·.Opposes parameter))
        ⟨parameter.name, file, oppositeMessage parameter.name parameter.hasDefault⟩) ∧
    (parameter.MarkAgrees → ¬ parameter.MarkDisagrees) := by
  intro reported
  rw [← Document.mem_parameters_iff] at declared
  have total : reported =
      if parameter.contradictsItself then
        [⟨parameter.name, file, markMessage parameter.name parameter.hasDefault⟩]
      else
        List.replicate (rule.parameters.countP (·.Opposes parameter))
          ⟨parameter.name, file, oppositeMessage parameter.name parameter.hasDefault⟩ := by
    have base : (plain rule).violations document file =
        Rule.syntaxViolations document.parameters file ++
          rule.parameterViolations document.parameters file ++
          rule.outputViolations document file ++ rule.stepViolations document file :=
      (violations_of_complete complete).trans (List.append_nil _)
    simp only [reported, base, List.filter_append, List.append_nil,
      Rule.onPresence_syntaxViolations distinct declared,
      Rule.onPresence_parameterViolations rule distinct declared,
      Rule.onPresence_outputViolations, Rule.onPresence_stepViolations]
    split <;> simp
  rw [total, ← DeclaredParameter.contradictsItself_iff]
  refine ⟨fun disagrees => if_pos disagrees, fun fits => if_neg fits, fun agrees => ?_⟩
  rw [DeclaredParameter.contradictsItself_iff]
  exact agrees.not_markDisagrees

/-- Two entries expect the parameter to be optional, and one to be required. -/
def hostRule : Rule where
  elements := ["parameters"]
  parameters := [
    ⟨⟨"Host.*"⟩, "String", false⟩,
    ⟨⟨".*Id"⟩, "String", true⟩,
    ⟨⟨"HostId"⟩, "String", false⟩]
  outputs := []
  stepGroups := []

/-- A parameter for a host, whose description begins with a mark. -/
def hostParameter (mark : String) (default : List (Yaml × Yaml)) : DeclaredParameter :=
  ⟨"HostId", .mapping ((.string "type", .string "String") ::
    (.string "description", .string (mark ++ " host")) :: default)⟩

/-- A document that declares one parameter. -/
def declaring (parameter : DeclaredParameter) : Document :=
  ⟨.mapping [(.string "parameters", .mapping [(.string parameter.name, parameter.definition)])]⟩

/-- The document declares the parameter. -/
theorem declares_declaring (parameter : DeclaredParameter) :
    (declaring parameter).Declares parameter :=
  Document.mem_parameters_iff.1 (List.mem_singleton_self parameter)

/-- A null counts as a default and is reported once, though an entry of the rule forbids it; where
no default is given, both entries that expect one report it. -/
theorem presence_exact_host :
    let withNull := hostParameter requiredMark [(.string "default", .null)]
    let without := hostParameter requiredMark []
    ((plain hostRule).violations (declaring withNull) ⟨"doc.yml"⟩).filter
        (Violation.OnPresence "HostId" ·) =
      [⟨"HostId", ⟨"doc.yml"⟩, markMessage "HostId" true⟩] ∧
    ((plain hostRule).violations (declaring without) ⟨"doc.yml"⟩).filter
        (Violation.OnPresence "HostId" ·) =
      List.replicate 2 ⟨"HostId", ⟨"doc.yml"⟩, oppositeMessage "HostId" false⟩ := by
  intro withNull without
  constructor
  · apply (presence_exact hostRule (declaring withNull) ⟨"doc.yml"⟩ (by decide) (by decide)
      (declares_declaring withNull)).1
    exact DeclaredParameter.contradictsItself_iff.1 (by decide +kernel)
  · have opposing : hostRule.parameters.countP (·.Opposes without) = 2 := by decide +kernel
    rw [← opposing]
    apply (presence_exact hostRule (declaring without) ⟨"doc.yml"⟩ (by decide) (by decide)
      (declares_declaring without)).2.1
    exact mt DeclaredParameter.contradictsItself_iff.2 (by decide +kernel)

end RuleSet

end Runbook
