import Runbook.Proofs.Rules.Extension

/-!
# Defaults that refer to stored parameters

A default may be any value, and a string may stand anywhere in it. The checks look at a default that
is a string and at no other (`asGoodAs_withDefault`): in a document without violations a default
refers to a stored parameter exactly where something in a list or a mapping does, and a list or a
mapping is accepted in the place of any default, whatever stands in it (`accepted_default_exact`).
-/

namespace Runbook

namespace Yaml

/-- The string stands in a value: it is the value, or it stands in an item of a list or in a value
of a mapping, at any depth and under any tags. -/
inductive Holds (text : String) : Yaml → Prop where
  | itself : Holds text (.string text)
  | item {items : List Yaml} {item : Yaml} (member : item ∈ items) (inside : Holds text item) :
      Holds text (.sequence items)
  | entry {entries : List (Yaml × Yaml)} {key value : Yaml} (member : (key, value) ∈ entries)
      (inside : Holds text value) : Holds text (.mapping entries)
  | tagged {tag : String} {value : Yaml} (inside : Holds text value) :
      Holds text (.tagged tag value)

/-- Some string in the value refers to a stored parameter. -/
def Refers (value : Yaml) : Prop :=
  ∃ text, value.Holds text ∧ parameterReference.toList <:+: text.toList

/-- What a list or a mapping holds at its first level: the items, or the values. -/
def members (value : Yaml) : List Yaml :=
  match value.untagged with
  | .sequence items => items
  | .mapping entries => entries.map Prod.snd
  | _ => []

/-- Tags around a value hide no text in it. -/
theorem holds_untagged_iff {text : String} {value : Yaml} :
    Holds text value.untagged ↔ Holds text value := by
  fun_induction untagged value with
  | case1 tag value ih =>
      rw [ih]
      constructor
      · exact Holds.tagged
      · rintro (_ | _ | _ | inside)
        exact inside
  | case2 => rfl

/-- A string stands in a value as the value itself or in one of its members. -/
theorem holds_iff {text : String} {value : Yaml} :
    Holds text value ↔
      value.asString = some text ∨ ∃ member ∈ value.members, Holds text member := by
  rw [← holds_untagged_iff, asString, members]
  cases bare : value.untagged with
  | tagged tag inner => exact absurd bare (untagged_ne_tagged value tag inner)
  | string found =>
      simp only [Option.some.injEq, List.not_mem_nil, false_and, exists_false, or_false]
      constructor
      · rintro ⟨⟩
        rfl
      · rintro rfl
        exact Holds.itself
  | sequence items =>
      simp only [reduceCtorEq, false_or]
      constructor
      · rintro (_ | ⟨member, inside⟩)
        exact ⟨_, member, inside⟩
      · rintro ⟨item, member, inside⟩
        exact Holds.item member inside
  | mapping entries =>
      simp only [reduceCtorEq, false_or, List.mem_map]
      constructor
      · rintro (_ | _ | ⟨member, inside⟩)
        exact ⟨_, ⟨_, member, rfl⟩, inside⟩
      · rintro ⟨_, ⟨entry, member, rfl⟩, inside⟩
        exact Holds.entry member inside
  | _ =>
      simp only [reduceCtorEq, List.not_mem_nil, false_and, exists_false, or_false, iff_false]
      nofun

/-- A value refers where it is a text with a reference, or one of its members refers. -/
theorem refers_iff {value : Yaml} :
    value.Refers ↔
      (∃ text, value.asString = some text ∧ parameterReference.toList <:+: text.toList) ∨
        ∃ member ∈ value.members, member.Refers := by
  simp only [Refers]
  constructor
  · rintro ⟨text, holds, refers⟩
    rcases holds_iff.1 holds with itself | ⟨member, listed, inside⟩
    · exact Or.inl ⟨text, itself, refers⟩
    · exact Or.inr ⟨member, listed, text, inside, refers⟩
  · rintro (⟨text, itself, refers⟩ | ⟨member, listed, text, inside, refers⟩)
    · exact ⟨text, holds_iff.2 (Or.inl itself), refers⟩
    · exact ⟨text, holds_iff.2 (Or.inr ⟨member, listed, inside⟩), refers⟩

end Yaml

/-! ### Another default -/

/-- The parameter with another default in the place of its own, where it has that name and a
default. -/
def DeclaredParameter.withDefault (parameter : DeclaredParameter) (name : String) (value : Yaml) :
    DeclaredParameter :=
  if parameter.name = name then
    ⟨parameter.name, parameter.definition.changeUnder "default" fun _ => value⟩
  else parameter

/-- The default that is put in takes the place of one that is there. -/
theorem DeclaredParameter.default?_withDefault (parameter : DeclaredParameter) (value : Yaml) :
    (parameter.withDefault parameter.name value).default? =
      parameter.default?.map fun _ => value := by
  rw [withDefault, if_pos rfl, default?, Yaml.get?_changeUnder, if_pos rfl]
  rfl

/-- No more is seen of another default than whether it is a string that refers. -/
theorem DeclaredParameter.asGoodAs_withDefault (parameter : DeclaredParameter) (name : String)
    {value : Yaml} (collection : value.asString = none) :
    (parameter.withDefault name value).AsGoodAs parameter := by
  rw [DeclaredParameter.withDefault]
  split
  · refine ⟨rfl, ?_, ?_, ?_, ?_⟩
    · rw [description, description, Yaml.get?_changeUnder, if_neg (by decide)]
    · rw [type, type, Yaml.get?_changeUnder, if_neg (by decide)]
    · rw [hasDefault, hasDefault, default?, default?, Yaml.get?_changeUnder, if_pos rfl,
        Option.isSome_map]
    · rw [defaultRefers, default?, Yaml.get?_changeUnder, if_pos rfl]
      cases parameter.definition.get? "default" <;> simp [collection]
  · exact AsGoodAs.refl parameter

/-- The document with another default for the parameters of a name. -/
def Document.withDefault (document : Document) (name : String) (value : Yaml) : Document :=
  ⟨document.root.changeUnder "parameters" (·.changeEntries (List.map fun entry =>
    if entry.1.asString = some name then
      (entry.1, entry.2.changeUnder "default" fun _ => value)
    else entry))⟩

namespace Document

variable (document : Document) (name : String) (value : Yaml)

/-- Putting a default in changes the one parameter. -/
theorem parameters_withDefault :
    (document.withDefault name value).parameters =
      document.parameters.map (·.withDefault name value) := by
  rw [parameters, parameters, withDefault, Yaml.get?_changeUnder, if_pos rfl]
  cases document.root.get? "parameters" with
  | none => rfl
  | some declarations =>
      simp only [Option.map_some, Option.bind_some, Yaml.asMapping_changeEntries]
      cases declarations.asMapping with
      | none => rfl
      | some entries =>
          simp only [Option.map_some, Option.getD_some, List.filterMap_map, List.map_filterMap]
          apply List.filterMap_congr
          rintro ⟨key, definition⟩ _
          cases named : key.asString with
          | none => simp [named]
          | some found =>
              by_cases same : found = name
              · simp [named, same, DeclaredParameter.withDefault]
              · simp [named, same, DeclaredParameter.withDefault]

/-- Other elements stay as they are. -/
theorem get?_withDefault_of_ne {key : String} (other : key ≠ "parameters") :
    (document.withDefault name value).root.get? key = document.root.get? key := by
  rw [withDefault, Yaml.get?_changeUnder, if_neg other]

/-- With a collection for a default, the document is as good. -/
theorem asGoodAs_withDefault (collection : value.asString = none) :
    (document.withDefault name value).AsGoodAs document where
  elements key := by
    rw [hasElement, hasElement]
    by_cases same : key = "parameters"
    · rw [same, withDefault, Yaml.get?_changeUnder, if_pos rfl, Option.isSome_map]
    · rw [get?_withDefault_of_ne document name value same]
  parameters :=
    ⟨_, fun parameter => DeclaredParameter.asGoodAs_withDefault parameter name collection,
      document.parameters_withDefault name value⟩
  steps := by
    rw [stepNames, stepNames, get?_withDefault_of_ne document name value (by decide)]
    exact List.Subset.refl _
  outputs := by
    rw [outputNames, outputNames, get?_withDefault_of_ne document name value (by decide)]
    exact List.Subset.refl _

end Document

namespace RuleSet

/-- The checks of a category accept another default that is no string. -/
theorem violations_withDefault {category : Category} {checks : RuleSet}
    (known : ofCategory? category = some checks) {document : Document} {file : Path}
    (accepted : checks.violations document file = []) (name : String) {value : Yaml}
    (collection : value.asString = none) :
    checks.violations (document.withDefault name value) file = [] := by
  have good := document.asGoodAs_withDefault name value collection
  have custom : (checks.custom (document.withDefault name value) file).Sublist
      (checks.custom document file) := by
    cases category with
    | sop =>
        cases known
        exact List.Sublist.refl _
    | test =>
        cases known
        exact good.rollbackViolations_sublist file
    | _ => cases known
  exact List.sublist_nil.1 (accepted ▸ good.violations_sublist custom)

/-- In a document that the checks of its category accept, a default refers to a stored parameter
exactly where a member of a list or a mapping does; and any list or mapping is accepted in the place
of a default. -/
theorem accepted_default_exact {category : Category} {checks : RuleSet}
    (known : ofCategory? category = some checks) {document : Document} {file : Path}
    (accepted : checks.violations document file = []) {parameter : DeclaredParameter}
    (declared : document.Declares parameter) {default : Yaml}
    (given : parameter.default? = some default) :
    (default.Refers ↔ ∃ member ∈ default.members, member.Refers) ∧
      ∀ value, value.asString = none →
        checks.violations (document.withDefault parameter.name value) file = [] ∧
          ∃ altered, (document.withDefault parameter.name value).Declares altered ∧
            altered.name = parameter.name ∧ altered.default? = some value := by
  constructor
  · have wellFormed := (violations_eq_nil_iff.1 accepted).1.parameters parameter declared
    rw [Yaml.refers_iff]
    apply or_iff_right
    rintro ⟨text, itself, refers⟩
    exact wellFormed.default text (by rw [given]; exact itself) refers
  · intro value collection
    refine ⟨violations_withDefault known accepted parameter.name collection,
      parameter.withDefault parameter.name value, ?_, ?_, ?_⟩
    · rw [← Document.mem_parameters_iff, Document.parameters_withDefault]
      exact List.mem_map_of_mem (Document.mem_parameters_iff.2 declared)
    · exact (parameter.asGoodAs_withDefault parameter.name collection).name
    · rw [DeclaredParameter.default?_withDefault, given, Option.map_some]

/-- A parameter with a default. -/
def hostsParameter (default : Yaml) : DeclaredParameter :=
  ⟨"Hosts", .mapping [(.string "type", .string "StringList"),
    (.string "description", .string "(Optional) The hosts"), (.string "default", default)]⟩

/-- A document that declares the parameter and the role. -/
def hostsDocument (default : Yaml) : Document :=
  ⟨.mapping [(.string "description", .string "Restore"),
    (.string "schemaVersion", .string "0.3"),
    (.string "assumeRole", .string "role"),
    (.string "parameters", .mapping [
      (.string "AutomationAssumeRole", .mapping [(.string "type", .string "String"),
        (.string "description", .string "(Required) The role")]),
      (.string (hostsParameter default).name, (hostsParameter default).definition)]),
    (.string "mainSteps", .sequence [
      .mapping [(.string "name", .string "RecordStartTime")],
      .mapping [(.string "name", .string "OutputRecoveryTime")]]),
    (.string "outputs", .sequence [.string "OutputRecoveryTime.RecoveryTime"])]⟩

/-- The document of the sample declares its parameter. -/
theorem declares_hostsParameter (default : Yaml) :
    (hostsDocument default).Declares (hostsParameter default) :=
  Document.mem_parameters_iff.1 (List.mem_cons_of_mem _ (List.mem_singleton_self _))

/-- A list of one string that refers to a stored parameter. -/
def referringList : Yaml := .sequence [.string "ssm:\x7b\x7bHosts\x7d\x7d"]

/-- An empty list refers to nothing, and a list that refers is accepted in its place. -/
theorem accepted_default_exact_hosts :
    let document := hostsDocument (.sequence [])
    sop.violations document ⟨"doc.yml"⟩ = [] ∧ ¬ (Yaml.sequence []).Refers ∧
      sop.violations (document.withDefault "Hosts" referringList) ⟨"doc.yml"⟩ = [] := by
  intro document
  have accepted : sop.violations document ⟨"doc.yml"⟩ = [] := by decide +kernel
  have known : ofCategory? .sop = some sop := rfl
  obtain ⟨refers, altered⟩ := accepted_default_exact known accepted
    (declares_hostsParameter (.sequence [])) rfl
  refine ⟨accepted, ?_, (altered referringList rfl).1⟩
  rw [refers]
  rintro ⟨_, ⟨⟩, _⟩

/-- Both checks accept a list whose string refers to a stored parameter. -/
theorem accepted_default_refers_in_list :
    let document := hostsDocument referringList
    sop.violations document ⟨"doc.yml"⟩ = [] ∧ test.violations document ⟨"doc.yml"⟩ = [] ∧
      ∃ parameter default text, document.Declares parameter ∧
        parameter.default? = some default ∧ default.Holds text ∧
        parameterReference.toList <:+: text.toList := by
  refine ⟨by decide +kernel, by decide +kernel, hostsParameter referringList, referringList,
    "ssm:\x7b\x7bHosts\x7d\x7d", declares_hostsParameter referringList, rfl, ?_, ?_⟩
  · exact Yaml.Holds.item (List.mem_singleton_self _) Yaml.Holds.itself
  · exact ⟨[], "Hosts\x7d\x7d".toList, rfl⟩

end RuleSet

end Runbook
