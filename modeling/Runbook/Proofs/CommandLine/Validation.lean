import Runbook.CommandLine.Run
import Runbook.Proofs.CommandLine.Arguments
import Runbook.Proofs.Settings.Variable

/-!
# Runs that validate

What a run that validates prints depends on its command line only by the settings that this gives,
by the services whose findings only warn, and by the form of the report. The services are those of
the flag (`output_flag`), or those of the variable where the flag is missing (`output_variable`).
-/

namespace Runbook

namespace Invocation

variable {list : String} {values outer first flag rest : List String} {given above : Given}
  {overrides : Overrides} {asJson : Bool}

/-- The services of a list are its pieces between commas. -/
theorem mem_servicesOf_iff {name : String} :
    name ∈ servicesOf [list] ↔ name.toList ∈ Text.splitOn ',' list.toList := by
  rw [servicesOf, List.flatMap_singleton, List.mem_map]
  constructor
  · rintro ⟨piece, member, rfl⟩
    rwa [String.toList_ofList]
  · intro member
    exact ⟨_, member, String.ofList_toList⟩

/-- Every list has a piece, so that no services means no list. -/
theorem servicesOf_eq_nil_iff : servicesOf values = [] ↔ values = [] := by
  rw [servicesOf, List.flatMap_eq_nil_iff, List.eq_nil_iff_forall_not_mem]
  simp [Text.splitOn_ne_nil]

/-- The option of the flag. -/
def warnOnlyOption : OptionSpec := ⟨"warn-only", none, .values⟩

/-- The option has its name at this level. -/
theorem named?_warnOnly : validateLevel.named? "warn-only".toList = some warnOnlyOption := by
  decide

/-- It may be given several times. -/
theorem several_warnOnly : validateLevel.Several "warn-only" := by
  unfold Level.Several
  decide

/-- The flag with a list of services, which is one argument or two. -/
inductive WarnOnlyFlag (list : String) : List String → Prop where
  | joined : WarnOnlyFlag list ["--warn-only=" ++ list]
  | apart (isValue : ArgumentForm.isValue list = true) : WarnOnlyFlag list ["--warn-only", list]

/-- With its value joined it is one argument. -/
theorem form_joined (list : String) : ArgumentForm.of ("--warn-only=" ++ list).toList =
    .named "warn-only".toList (some list.toList) := by
  rw [String.toList_append]
  rfl

/-- The flag adds its list. -/
theorem WarnOnlyFlag.read_append (isFlag : WarnOnlyFlag list flag) :
    validateLevel.read given (flag ++ rest) =
      validateLevel.read { given with options := given.options ++ [("warn-only", list)] } rest := by
  have added : given.addOption warnOnlyOption list =
      .ok { given with options := given.options ++ [("warn-only", list)] } :=
    Given.addOption_eq_ok_iff.2 ⟨fun _ => rfl, rfl⟩
  cases isFlag with
  | joined =>
      have adds : validateLevel.readForm given ("--warn-only=" ++ list) =
          .ok (some ({ given with options := given.options ++ [("warn-only", list)] }, none)) := by
        rw [Level.readForm, form_joined]
        dsimp only
        rw [named?_warnOnly]
        change ((given.addOption warnOnlyOption (String.ofList list.toList)).map _).map some = _
        rw [String.ofList_toList, added]
        rfl
      rw [List.singleton_append, Level.read_cons List.not_mem_nil, adds]
  | apart isValue =>
      have waits : validateLevel.readForm given "--warn-only" =
          .ok (some (given, some warnOnlyOption)) := by
        rw [Level.readForm, show ArgumentForm.of "--warn-only".toList =
          .named "warn-only".toList none from rfl]
        dsimp only
        rw [named?_warnOnly]
        rfl
      rw [List.cons_append, List.singleton_append, Level.read_cons List.not_mem_nil, waits]
      dsimp only
      rw [if_pos isValue, added]

/-- A command line that validates without the flag, and a place behind the command where the flag
can stand: not before the value of another option, and not where all arguments are plain. -/
structure Unflagged (outer first rest : List String) (overrides : Overrides) (asJson : Bool) :
    Prop where
  outside : ∃ above, program.read .none outer = .ok (above, none)
  inside : ∃ given, validateLevel.read .none first = .ok (given, none)
  apart : "--" ∉ outer ∧ "--" ∉ first
  plain : read (outer ++ "validate" :: (first ++ rest)) = .ok ⟨overrides, .validate [] asJson⟩

/-- Behind what is read above it, the command reads the arguments that are left. -/
theorem read_validate (outside : program.read .none outer = .ok (above, none))
    (apart : "--" ∉ outer) (arguments : List String) :
    read (outer ++ "validate" :: arguments) = readValidate [above] arguments := by
  have reached : program.read .none (outer ++ "validate" :: arguments) =
      .ok (above, some ("validate", arguments)) := by
    rw [Level.read_append (Level.reads_of_read outside) apart]
    exact Level.read_command (by decide)
  rw [read, reached]
  rfl

/-- The command is read exactly where its own level is, with the overrides of all levels. -/
theorem readValidate_eq_ok_iff {outer : List Given} {arguments services : List String} :
    readValidate outer arguments = .ok ⟨overrides, .validate services asJson⟩ ↔
      ∃ given command, validateLevel.read .none arguments = .ok (given, command) ∧
        overridesOf (outer ++ [given]) = .ok overrides ∧
        servicesOf (given.values "warn-only") = services ∧ given.has "json" = asJson := by
  rw [readValidate]
  constructor
  · intro succeeded
    obtain ⟨⟨given, command⟩, reads, rest⟩ := bind_eq_ok_iff.1 succeeded
    obtain ⟨found, overridden, same⟩ := bind_eq_ok_iff.1 rest
    cases same
    exact ⟨given, command, reads, overridden, rfl, rfl⟩
  · rintro ⟨given, command, reads, overridden, rfl, rfl⟩
    exact bind_eq_ok_iff.2
      ⟨(given, command), reads, bind_eq_ok_iff.2 ⟨overrides, overridden, rfl⟩⟩

/-- The option is not one of the overrides. -/
theorem overridesOf_plus {value : String} {levels : List Given} {other : Given}
    (plus : given.Plus "warn-only" value other) :
    overridesOf (levels ++ [other]) = overridesOf (levels ++ [given]) := by
  have same : ∀ key, key ≠ "warn-only" →
      innermost? (levels ++ [other]) key = innermost? (levels ++ [given]) key := by
    intro key differs
    simp only [innermost?, List.reverse_append, List.reverse_singleton, List.singleton_append,
      List.findSome?_cons, plus.value? differs]
  rw [overridesOf, overridesOf, same "documents-root" (by decide),
    same "scripts-dir" (by decide), same "region" (by decide),
    same "log-level" (by decide)]

/-- With the flag the services of its list are asked for, and all else is the same. -/
theorem Unflagged.read_flag (unflagged : Unflagged outer first rest overrides asJson)
    (isFlag : WarnOnlyFlag list flag) :
    read (outer ++ "validate" :: (first ++ (flag ++ rest))) =
      .ok ⟨overrides, .validate (servicesOf [list]) asJson⟩ := by
  obtain ⟨above, outside⟩ := unflagged.outside
  obtain ⟨given, inside⟩ := unflagged.inside
  have plain := unflagged.plain
  rw [read_validate outside unflagged.apart.1, readValidate_eq_ok_iff,
    Level.read_append (Level.reads_of_read inside) unflagged.apart.2] at plain
  obtain ⟨found, command, later, overridden, none, printed⟩ := plain
  rw [servicesOf_eq_nil_iff] at none
  obtain ⟨more, reads, plus⟩ := (Level.reads_of_read later).plus several_warnOnly
    (.of_append given "warn-only" list)
  rw [read_validate outside unflagged.apart.1, readValidate_eq_ok_iff,
    Level.read_append (Level.reads_of_read inside) unflagged.apart.2, isFlag.read_append]
  refine ⟨more, command, reads.read_eq, ?_, ?_, ?_⟩
  · rw [overridesOf_plus plus, overridden]
  · rw [plus.values_eq_singleton none]
  · rw [plus.has (by decide), printed]

end Invocation

namespace Surroundings

open Invocation (WarnOnlyFlag Unflagged servicesOf)

variable {σ : Type} {around : Surroundings σ} {overrides : Overrides} {services : List String}
  {asJson : Bool} {list : String} {outer first flag rest : List String}

/-- The surroundings with a variable set. -/
def withVariable (around : Surroundings σ) (key value : String) : Surroundings σ :=
  { around with environment := around.environment.set key value }

/-- What a run has to audit, where its settings are in order: the store, and what assembles the
documents. -/
def corpus (around : Surroundings σ) (overrides : Overrides) :
    Except Failure (MetadataStore × Assembler) :=
  let (settings, faults) := Settings.load around.environment overrides
  if faults.isEmpty then
    match LogFilter.ofSetting settings.logLevel.value with
    | .error cause => .error ⟨[Failure.note cause.code], cause.message, []⟩
    | .ok _ => do
        let store ← around.store settings
        let assembler ← around.assembler settings
        return (store, assembler)
  else .error (misconfigured faults)

/-- The audit of a run where the findings about some services only warn. -/
def audit (around : Surroundings σ) (overrides : Overrides) (services : List String) :
    Except Failure AuditReport :=
  (around.corpus overrides).map fun found =>
    Auditor.run ⟨found.2.content around.files, services⟩ found.1

/-- What is printed of an audit. -/
def print (asJson : Bool) (report : AuditReport) : Report :=
  ⟨if asJson then [report.toJson.renderIndented] else auditLines report, report.passed⟩

/-- A request to validate audits with its services, or those of the settings where it has none. -/
theorem perform_validate : around.perform ⟨overrides, .validate services asJson⟩ =
    (around.audit overrides
      (if services.isEmpty then (Settings.load around.environment overrides).1.warnOnly.value
        else services)).map (print asJson) := by
  rw [perform, audit, corpus]
  cases Settings.load around.environment overrides with
  | mk settings faults =>
      dsimp only
      split
      · cases LogFilter.ofSetting settings.logLevel.value with
        | error cause => rfl
        | ok filter =>
            dsimp only
            rw [validate]
            cases around.store settings with
            | error cause => rfl
            | ok store => cases around.assembler settings <;> rfl
      · rfl

/-- The variable with the services has no say in what there is to audit. -/
theorem corpus_withVariable :
    (around.withVariable Settings.warnOnlyVariable list).corpus overrides =
      around.corpus overrides := by
  rw [corpus, corpus, withVariable, Settings.load_set_warnOnly]
  cases Settings.load around.environment overrides with
  | mk settings faults =>
      dsimp only
      split
      · cases LogFilter.ofSetting settings.logLevel.value <;> rfl
      · rfl

/-! ### Output -/

/-- With the flag a run audits with the pieces of the list. -/
theorem output_flag (unflagged : Unflagged outer first rest overrides asJson)
    (isFlag : WarnOnlyFlag list flag) :
    around.output (outer ++ "validate" :: (first ++ (flag ++ rest))) =
      Output.ofResult ((around.audit overrides (servicesOf [list])).map (print asJson)) := by
  have given : (servicesOf [list]).isEmpty = false := by
    rw [← Bool.not_eq_true, List.isEmpty_iff, Invocation.servicesOf_eq_nil_iff]
    exact List.cons_ne_nil _ _
  rw [output, unflagged.read_flag isFlag]
  dsimp only
  rw [perform_validate, given, if_neg Bool.false_ne_true]

/-- With the variable and without the flag it audits with the names of the list. -/
theorem output_variable (unflagged : Unflagged outer first rest overrides asJson) :
    (around.withVariable Settings.warnOnlyVariable list).output
        (outer ++ "validate" :: (first ++ rest)) =
      Output.ofResult ((around.audit overrides (splitNames list)).map (print asJson)) := by
  rw [output, unflagged.plain]
  dsimp only
  rw [perform_validate, List.isEmpty_nil, if_pos rfl, audit, corpus_withVariable, withVariable,
    Settings.load_set_warnOnly]
  rfl

end Surroundings

end Runbook
