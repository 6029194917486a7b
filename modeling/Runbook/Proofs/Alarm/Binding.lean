import Runbook.Alarm.Binding
import Runbook.Proofs.Alarm.Preflight
import Runbook.Proofs.Except
import Runbook.Proofs.Text.Blank

/-!
# Variables bound by arguments

The variables of a template are read as they stand there, the name in an argument `NAME=VALUE` only
up to its first equals sign and trimmed (`parse_eq_ok_iff`). So one argument for each variable binds
them all, where none holds an equals sign or has a blank at one of its ends; and no argument at all
binds a variable that holds an equals sign (`variables_bindable`).
-/

namespace Runbook

namespace Binding

variable {argument name value : String} {arguments : List String}
  {bindings : Table String String}

/-- The argument that is written for a variable and a value. -/
def assignment (name value : String) : String := name ++ "=" ++ value

/-- A binding is split at its first equals sign. -/
theorem parse_eq_ok_iff : parse argument = .ok (name, value) ↔
    name ≠ "" ∧ ∃ written, argument.toList = written ++ '=' :: value.toList ∧
      '=' ∉ written ∧ Text.trim written = name.toList := by
  constructor
  · intro parsed
    unfold parse at parsed
    split at parsed
    · cases parsed
    · rename_i written text cut
      split at parsed
      · cases parsed
      · rename_i filled
        cases parsed
        obtain ⟨split, first⟩ := Text.cutAt_singleton_eq_some_iff.1 cut
        refine ⟨by simpa using filled, written, ?_, first, ?_⟩
        · rw [split, String.toList_ofList]
        · rw [String.toList_ofList]
  · rintro ⟨filled, written, split, first, trimmed⟩
    have cut := Text.cutAt_singleton_eq_some_iff.2 ⟨split, first⟩
    have named : name.toList.isEmpty = false := by simpa using filled
    simp only [parse, cut, trimmed, named, Bool.false_eq_true, ↓reduceIte, String.ofList_toList]

/-- A name that an argument binds is left of every equals sign. -/
theorem unequal_of_parse (parsed : parse argument = .ok (name, value)) : '=' ∉ name.toList := by
  obtain ⟨_, written, _, first, trimmed⟩ := parse_eq_ok_iff.1 parsed
  rw [← trimmed]
  exact fun inside => first (Text.mem_of_mem_trim inside)

/-- A name is bound by the argument that is written for it, where it holds no equals sign and has
nothing to trim. -/
theorem parse_assignment (filled : name ≠ "") (unequal : '=' ∉ name.toList)
    (trimmed : Text.trim name.toList = name.toList) (value : String) :
    parse (assignment name value) = .ok (name, value) :=
  parse_eq_ok_iff.2 ⟨filled, name.toList, by simp [assignment], unequal, trimmed⟩

/-- The arguments are read exactly where each one is, and give the table of their bindings, the last
of one name counting. -/
theorem parseAll_eq_ok_iff : parseAll arguments = .ok bindings ↔
    ∃ entries, List.Forall₂ (fun argument entry => parse argument = .ok entry) arguments entries ∧
      Table.ofList entries = bindings := by
  simp only [parseAll, map_eq_ok_iff, mapM_eq_ok_iff]

/-- No argument binds a name with an equals sign. -/
theorem contains_of_equals (parsed : parseAll arguments = .ok bindings)
    (equals : '=' ∈ name.toList) : bindings.contains name = false := by
  rw [Table.contains_eq_false_iff, Option.eq_none_iff_forall_ne_some]
  intro value found
  obtain ⟨entries, read, rfl⟩ := parseAll_eq_ok_iff.1 parsed
  have inside := Table.subset_of_ofList entries (Table.get?_eq_some_iff.1 found)
  obtain ⟨argument, _, same⟩ := exists_of_mem_mapM (mapM_eq_ok_iff.2 read) inside
  exact unequal_of_parse same equals

/-- Arguments written for some names bind these names to their values. -/
theorem parseAll_assignments {names : List String} (value : String → String)
    (bindable : ∀ name ∈ names, name ≠ "" ∧ '=' ∉ name.toList ∧
      Text.trim name.toList = name.toList) :
    parseAll (names.map fun name => assignment name (value name)) =
      .ok (Table.ofList (names.map fun name => (name, value name))) := by
  refine parseAll_eq_ok_iff.2 ⟨_, ?_, rfl⟩
  rw [List.forall₂_map_left_iff, List.forall₂_map_right_iff, List.forall₂_same]
  intro name member
  obtain ⟨filled, unequal, trimmed⟩ := bindable name member
  exact parse_assignment filled unequal trimmed (value name)

end Binding

namespace AlarmTemplate

/-- No variable of a template has the empty name. -/
theorem filled_of_mem_variableNames {template name : String}
    (member : name ∈ variableNames template) : name ≠ "" := by
  rw [mem_variableNames] at member
  have scan := scan_bodies template.toList
  generalize template.toList = text, bodies template.toList = names at member scan
  induction scan with
  | done => cases member
  | found begins later ih =>
      rcases List.mem_cons.1 member with rfl | member
      · simpa using begins.named
      · exact ih member
  | pass foreign later ih => exact ih member

end AlarmTemplate

namespace AlarmManager

variable {σ : Type} {files : Files} {manager : AlarmManager} {reference template : String}
  {bindings : Table String String}

/-- No deployment of a template with some bindings is refused for a variable without a value. -/
def Passes (template : String) (bindings : Table String String) : Prop :=
  ∀ (σ : Type) (ports : AlarmPorts σ) (files : Files) (manager : AlarmManager) (services : σ)
    (reference : String) (id : Option String),
    loadTemplate manager.settings files reference = .ok template → ∀ names,
      (deploy ports files manager services reference bindings id).1 ≠
        .error (.variablesMissing reference names)

/-- With every variable bound the check for missing values passes. -/
theorem passes_of_bound (bound : AlarmTemplate.unbound template bindings = []) :
    Passes template bindings := by
  intro σ ports files manager services reference id loaded
  have done : renderTemplate manager.settings files reference bindings =
      .ok (AlarmTemplate.render template bindings.entries) := by
    simp only [renderTemplate, loaded, bound]
  obtain ⟨calls, result, next, after, ran, deployment, -⟩ :=
    exists_deployment ports files manager ⟨services, []⟩ reference bindings id
  rw [deploy_recorded ports files manager ⟨services, []⟩ reference bindings id, ran]
  exact (deployment.of_rendered done).1

/-- Where variables have no value, the deployment names them and does nothing. -/
theorem deploy_of_unbound (ports : AlarmPorts σ) (services : σ) (id : Option String)
    (loaded : loadTemplate manager.settings files reference = .ok template)
    (missing : AlarmTemplate.unbound template bindings ≠ []) :
    deploy ports files manager services reference bindings id =
      (.error (.variablesMissing reference (AlarmTemplate.unbound template bindings)),
        manager, services) := by
  have refused : renderTemplate manager.settings files reference bindings =
      .error (.variablesMissing reference (AlarmTemplate.unbound template bindings)) := by
    simp only [renderTemplate, loaded]
  simp only [deploy, refused]

open AlarmTemplate (variableNames unbound)

/-- One argument for each variable of a template gives every variable its value, in whatever order
the arguments stand, where no variable holds an equals sign or has a blank at one of its ends; what
is missing never refuses a deployment then. A variable that holds an equals sign is bound by no
arguments, and every deployment is refused for it. -/
theorem variables_bindable (template : String) (value : String → String) :
    ((∀ name ∈ variableNames template, '=' ∉ name.toList ∧ Text.trim name.toList = name.toList) →
      ∀ names : List String, names.Perm (variableNames template) → ∃ bindings,
        Binding.parseAll (names.map fun name => Binding.assignment name (value name)) =
            .ok bindings ∧
          (∀ name ∈ variableNames template, bindings.get? name = some (value name)) ∧
          Passes template bindings) ∧
    ∀ name ∈ variableNames template, '=' ∈ name.toList → ∀ arguments bindings,
      Binding.parseAll arguments = .ok bindings → name ∈ unbound template bindings ∧
        ∀ (σ : Type) (ports : AlarmPorts σ) (files : Files) (manager : AlarmManager) (services : σ)
          (reference : String) (id : Option String),
          loadTemplate manager.settings files reference = .ok template →
            deploy ports files manager services reference bindings id =
              (.error (.variablesMissing reference (unbound template bindings)),
                manager, services) := by
  refine ⟨fun bindable names perm => ?_, fun name member equals arguments bindings parsed => ?_⟩
  · have each : ∀ name ∈ names, name ≠ "" ∧ '=' ∉ name.toList ∧
        Text.trim name.toList = name.toList := by
      intro name listed
      have member := perm.mem_iff.1 listed
      exact ⟨AlarmTemplate.filled_of_mem_variableNames member, bindable name member⟩
    have found : ∀ name ∈ variableNames template,
        (Table.ofList (names.map fun name => (name, value name))).get? name =
          some (value name) := by
      intro name member
      rw [Table.get?_ofList_map, if_pos (perm.mem_iff.2 member)]
    refine ⟨_, Binding.parseAll_assignments value each, found, passes_of_bound ?_⟩
    refine List.filter_eq_nil_iff.2 fun name member => ?_
    simp [Table.contains, found name member]
  · have inside : name ∈ unbound template bindings := by
      rw [unbound, List.mem_filter, Binding.contains_of_equals parsed equals]
      exact ⟨member, rfl⟩
    exact ⟨inside, fun σ ports files manager services reference id loaded =>
      deploy_of_unbound ports services id loaded (List.ne_nil_of_mem inside)⟩

/-- A template with two variables. -/
def pairTemplate : String := "${Expr} < ${Limit}"

/-- A value may hold equals signs, and the arguments may stand in another order than the
variables. -/
theorem variables_bindable_pair : ∃ bindings,
    Binding.parseAll ["Limit=5", "Expr=a=b"] = .ok bindings ∧
      bindings.get? "Expr" = some "a=b" ∧ bindings.get? "Limit" = some "5" ∧
      Passes pairTemplate bindings := by
  have names : variableNames pairTemplate = ["Expr", "Limit"] := by
    have bodies : AlarmTemplate.bodies pairTemplate.toList = ["Expr".toList, "Limit".toList] := by
      simp [pairTemplate, AlarmTemplate.bodies, AlarmTemplate.untilBrace]
    rw [variableNames, bodies]
    decide
  let value (name : String) : String := if name = "Expr" then "a=b" else "5"
  have bindable := (variables_bindable pairTemplate value).1
  rw [names] at bindable
  obtain ⟨bindings, parsed, found, passes⟩ :=
    bindable (by decide) ["Limit", "Expr"] (List.Perm.swap _ _ _)
  exact ⟨bindings, parsed, found "Expr" (by decide), found "Limit" (by decide), passes⟩

/-- A template with an equals sign in its variable. -/
def equalsTemplate : String := "Limit: ${a=b}"

/-- The argument that is written for a variable with an equals sign binds another name, and the
deployment is refused. -/
theorem variable_unbound_when_equals :
    variableNames equalsTemplate = ["a=b"] ∧ ∃ bindings,
      Binding.parseAll [Binding.assignment "a=b" "v"] = .ok bindings ∧
        bindings.get? "a=b" = none ∧ bindings.get? "a" = some "b=v" ∧
        (deploy AlarmServices.ports (sampleFiles equalsTemplate) (new sampleSettings)
          AlarmServices.empty "rds:alarm:cpu:1" bindings none).1 =
            .error (.variablesMissing "rds:alarm:cpu:1" ["a=b"]) := by
  have names : variableNames equalsTemplate = ["a=b"] := by
    have bodies : AlarmTemplate.bodies equalsTemplate.toList = ["a=b".toList] := by
      simp [equalsTemplate, AlarmTemplate.bodies, AlarmTemplate.untilBrace]
    rw [variableNames, bodies]
    decide
  have left : unbound equalsTemplate (Table.ofList [("a", "b=v")]) = ["a=b"] := by
    rw [unbound, names]
    decide
  refine ⟨names, Table.ofList [("a", "b=v")], by rfl, by decide, by decide, ?_⟩
  rw [deploy_of_unbound AlarmServices.ports AlarmServices.empty none
    (loadTemplate_sampleFiles equalsTemplate) (by rw [left]; simp), left]

end AlarmManager

end Runbook
