import Mathlib.Logic.Relation
import Runbook.Alarm.Service
import Runbook.Proofs.Alarm.Loading
import Runbook.Proofs.Alarm.Reachable
import Runbook.Proofs.Alarm.Report
import Runbook.Proofs.Alarm.Teardown

/-!
# Deletions side by side

A teardown can have several deletions under way at a time: `Deletions.Step` begins one while fewer
than `width` are under way, lets the services answer any of them, and collects any answer.
`TornDown` is what a teardown can come to that way. Deleting one stack after the other is one such
way at every width (`tornDown_destroy`).

Whatever the order, each tracked stack is called for once and reported once, and a teardown under
way never gets stuck. Where the name of a stack settles whether its deletion fails, the report is
the same for every order and width (`teardown_exact`).
-/

namespace Runbook

namespace AlarmServices

/-- How the deletion of a stack ends. -/
def fate (services : AlarmServices) (stack : String) : Except PortError Unit :=
  if services.failingDeletes.any fun lead => stack.startsWith lead then
    .error (.service "DeleteStack" stack "DELETE_FAILED")
  else .ok ()

/-- A deletion ends as it is laid out, which stays so. -/
theorem deleteStack_cases_of_fate (services : AlarmServices) (stack : String) :
    (services.deleteStack stack).1 = services.fate stack ∧
      (services.deleteStack stack).2.failingDeletes = services.failingDeletes := by
  simp only [deleteStack, fate]
  split
  · rename_i laid
    exact ⟨(if_pos laid).symm, rfl⟩
  · rename_i free
    exact ⟨(if_neg free).symm, rfl⟩

/-- A stack meets its fate when it is deleted. -/
theorem deleteStack_fst (services : AlarmServices) (stack : String) :
    (services.deleteStack stack).1 = services.fate stack :=
  (services.deleteStack_cases_of_fate stack).1

/-- Deleting one stack changes no stack's fate. -/
theorem fate_deleteStack (services : AlarmServices) (stack : String) :
    (services.deleteStack stack).2.fate = services.fate := by
  funext other
  simp only [fate, (services.deleteStack_cases_of_fate stack).2]

end AlarmServices

namespace AlarmManager

variable {σ : Type}

/-- A teardown under way: the stacks that wait, those whose deletion is called for, the answers that
are not collected yet and those that are, and the services. -/
structure Deletions (σ : Type) where
  waiting : List String
  called : List String
  answered : List (String × Except PortError Unit)
  ended : List (String × Except PortError Unit)
  services : σ

namespace Deletions

/-- A teardown that is about to begin. -/
def start (names : List String) (services : σ) : Deletions σ := ⟨names, [], [], [], services⟩

/-- A teardown that is over. -/
def finish (ended : List (String × Except PortError Unit)) (services : σ) : Deletions σ :=
  ⟨[], [], [], ended, services⟩

/-- The steps of a teardown. A deletion is under way from its call to the collection of its answer;
a width of zero counts as one. -/
inductive Step (ports : AlarmPorts σ) (width : Nat) : Deletions σ → Deletions σ → Prop where
  | call {stack waiting called answered ended services}
      (room : called.length + answered.length < max width 1) :
      Step ports width ⟨stack :: waiting, called, answered, ended, services⟩
        ⟨waiting, called ++ [stack], answered, ended, services⟩
  | answer {waiting before stack behind answered ended services result after}
      (answers : ports.deleteStack services stack = (result, after)) :
      Step ports width ⟨waiting, before ++ stack :: behind, answered, ended, services⟩
        ⟨waiting, before ++ behind, answered ++ [(stack, result)], ended, after⟩
  | collect {waiting called before result behind ended services} :
      Step ports width ⟨waiting, called, before ++ result :: behind, ended, services⟩
        ⟨waiting, called, before ++ behind, ended ++ [result], services⟩

/-- The answers so far. -/
def results (deletions : Deletions σ) : List (String × Except PortError Unit) :=
  deletions.answered ++ deletions.ended

/-- All stacks of a teardown, however far each has come. -/
def names (deletions : Deletions σ) : List String :=
  deletions.waiting ++ (deletions.called ++ deletions.results.map Prod.fst)

/-- How many steps are left. -/
def pending (deletions : Deletions σ) : Nat :=
  3 * deletions.waiting.length + 2 * deletions.called.length + deletions.answered.length

variable {ports : AlarmPorts σ} {width : Nat} {before after : Deletions σ}

/-- No step loses a stack or brings one in. -/
theorem Step.names_perm (step : Step ports width before after) :
    after.names.Perm before.names := by
  refine List.perm_iff_count.2 fun name => ?_
  cases step <;> simp [names, results, List.count_cons] <;> omega

/-- A step asks the services to delete one stack and keeps the answer, or does not ask them. -/
theorem Step.services_cases (step : Step ports width before after) :
    after.services = before.services ∧ after.results.Perm before.results ∨
      ∃ stack result, ports.deleteStack before.services stack = (result, after.services) ∧
        after.results.Perm ((stack, result) :: before.results) := by
  cases step with
  | call room => exact Or.inl ⟨rfl, .refl _⟩
  | @answer waiting before stack behind answered ended services result after answers =>
      refine Or.inr ⟨stack, result, answers, ?_⟩
      simp only [results, List.append_assoc, List.singleton_append]
      exact List.perm_middle
  | @collect waiting called before result behind ended services =>
      refine Or.inl ⟨rfl, ?_⟩
      have left : (before ++ behind ++ (ended ++ [result])).Perm
          (result :: (before ++ behind ++ ended)) := by
        rw [← List.append_assoc]
        exact List.perm_append_singleton _ _
      have right : (before ++ result :: behind ++ ended).Perm
          (result :: (before ++ behind ++ ended)) := List.perm_middle.append_right ended
      exact left.trans right.symm

/-- Every step brings the end nearer. -/
theorem Step.pending_lt (step : Step ports width before after) :
    after.pending < before.pending := by
  cases step <;> simp [pending] <;> omega

/-- While something is left to do, there is a step. -/
theorem exists_step (ports : AlarmPorts σ) (width : Nat) (unfinished : before.pending ≠ 0) :
    ∃ after, Step ports width before after := by
  obtain ⟨waiting, called, answered, ended, services⟩ := before
  cases answered with
  | cons result rest =>
      have step : Step ports width ⟨waiting, called, [] ++ result :: rest, ended, services⟩
          ⟨waiting, called, [] ++ rest, ended ++ [result], services⟩ := .collect
      exact ⟨_, step⟩
  | nil =>
      cases called with
      | cons stack rest =>
          rcases answers : ports.deleteStack services stack with ⟨result, after⟩
          have step : Step ports width ⟨waiting, [] ++ stack :: rest, [], ended, services⟩
              ⟨waiting, [] ++ rest, [] ++ [(stack, result)], ended, after⟩ := .answer answers
          exact ⟨_, step⟩
      | nil =>
          cases waiting with
          | cons stack rest => exact ⟨_, .call (by simp)⟩
          | nil => exact absurd rfl unfinished

/-- Every teardown under way can be brought to its end. -/
theorem exists_finish (ports : AlarmPorts σ) (width : Nat) (deletions : Deletions σ) :
    ∃ ended services,
      Relation.ReflTransGen (Step ports width) deletions (finish ended services) := by
  induction steps : deletions.pending using Nat.strong_induction_on generalizing deletions with
  | _ count ih =>
      by_cases finished : deletions.pending = 0
      · obtain ⟨waiting, called, answered, ended, services⟩ := deletions
        have empty : waiting = [] ∧ called = [] ∧ answered = [] := by
          simpa [pending, and_assoc, Nat.mul_eq_zero] using finished
        obtain ⟨rfl, rfl, rfl⟩ := empty
        exact ⟨ended, services, .refl⟩
      · obtain ⟨next, step⟩ := exists_step ports width finished
        have fewer : next.pending < count := steps ▸ step.pending_lt
        obtain ⟨ended, services, rest⟩ := ih _ fewer next rfl
        exact ⟨ended, services, rest.head step⟩

/-- No step loses or adds the name of a stack. -/
theorem names_perm_of_steps
    (steps : Relation.ReflTransGen (Step ports width) before after) :
    after.names.Perm before.names := by
  induction steps with
  | refl => exact .refl _
  | tail _ step ih => exact step.names_perm.trans ih

/-- What a teardown calls for are the deletions whose answers it has. -/
theorem exists_results_of_steps {before after : Deletions (Recorded σ)}
    (steps : Relation.ReflTransGen (Step ports.recorded width) before after) :
    ∃ results, after.services.calls = before.services.calls ++ deletions results ∧
      after.results.Perm (results ++ before.results) ∧
      ports.Trace before.services.services (deletions results) after.services.services := by
  induction steps using Relation.ReflTransGen.head_induction_on with
  | refl => exact ⟨[], by simp [deletions], .refl _, .none⟩
  | head step _ ih =>
      obtain ⟨results, called, listed, trace⟩ := ih
      rcases step.services_cases with ⟨same, kept⟩ | ⟨stack, result, answers, kept⟩
      · rw [same] at called trace
        exact ⟨results, called, listed.trans (kept.append_left results), trace⟩
      · simp only [AlarmPorts.recorded, Recorded.note, Prod.mk.injEq] at answers
        obtain ⟨answered, noted⟩ := answers
        rw [← noted] at called trace
        refine ⟨(stack, result) :: results, ?_, ?_, .call ?_ trace⟩
        · simpa [deletions, answered] using called
        · exact listed.trans ((kept.append_left results).trans List.perm_middle)
        · show ports.deleteStack _ stack = _
          rw [← answered]

/-- Deleting one stack after the other is a way to tear down. -/
theorem steps_deleteStacks (ports : AlarmPorts σ) (width : Nat) (names : List String)
    (ended : List (String × Except PortError Unit)) (services : σ) :
    Relation.ReflTransGen (Step ports width) ⟨names, [], [], ended, services⟩
      (finish (ended ++ (deleteStacks ports services names).1)
        (deleteStacks ports services names).2) := by
  induction names generalizing ended services with
  | nil =>
      rw [deleteStacks, List.append_nil]
      exact .refl
  | cons stack rest ih =>
      rcases answers : ports.deleteStack services stack with ⟨result, after⟩
      have call : Step ports width ⟨stack :: rest, [], [], ended, services⟩
          ⟨rest, [stack], [], ended, services⟩ := .call (by simp)
      have answer : Step ports width ⟨rest, [] ++ stack :: [], [], ended, services⟩
          ⟨rest, [], [(stack, result)], ended, after⟩ := .answer answers
      have collect : Step ports width ⟨rest, [], [] ++ (stack, result) :: [], ended, after⟩
          ⟨rest, [], [], ended ++ [(stack, result)], after⟩ := .collect
      have later := ih (ended ++ [(stack, result)]) after
      rw [List.append_assoc, List.singleton_append] at later
      simp only [deleteStacks, answers]
      exact .head call (.head answer (.head collect later))

end Deletions

/-- What a teardown with at most `width` deletions at a time can come to: the report, the manager
and the services. -/
def TornDown (ports : AlarmPorts σ) (width : Nat) (manager : AlarmManager) (services : σ)
    (report : TeardownReport) (next : AlarmManager) (after : σ) : Prop :=
  ∃ ended, Relation.ReflTransGen (Deletions.Step ports width)
      (.start manager.trackedStacks services) (.finish ended after) ∧
    report = .ofResults ended ∧ next = { manager with deployed := Table.empty }

/-- One deletion after the other is a teardown of every width. -/
theorem tornDown_destroy (ports : AlarmPorts σ) (width : Nat) (manager : AlarmManager)
    (services : σ) :
    let run := destroy ports manager services
    TornDown ports width manager services run.1 run.2.1 run.2.2 :=
  ⟨_, Deletions.steps_deleteStacks ports width manager.trackedStacks [] services, rfl, rfl⟩

/-- The name of a stack settles how its deletion ends, whatever is deleted before it. -/
def Settled (ports : AlarmPorts σ) (services : σ) (fate : String → Except PortError Unit) : Prop :=
  ∀ names stack, (ports.deleteStack (deleteStacks ports services names).2 stack).1 = fate stack

/-- Deletions that are settled have the answers laid down for them. -/
theorem Settled.results_eq {ports : AlarmPorts σ} {services after : σ}
    {fate : String → Except PortError Unit} (settled : Settled ports services fate)
    {results : List (String × Except PortError Unit)}
    (trace : ports.Trace services (deletions results) after) :
    results = (results.map Prod.fst).map fun stack => (stack, fate stack) := by
  induction results generalizing services with
  | nil => rfl
  | cons result rest ih =>
      obtain ⟨stack, answer⟩ := result
      obtain _ | ⟨removed, later⟩ := trace
      simp only [AlarmPorts.Answers] at removed
      have answered : answer = fate stack := by
        rw [← settled [] stack]
        exact (congrArg Prod.fst removed).symm
      have kept : Settled ports (ports.deleteStack services stack).2 fate :=
        fun names other => settled (stack :: names) other
      rw [removed] at kept
      rw [List.map_cons, List.map_cons, ← ih kept later, answered]

/-- In memory it is laid out in advance which deletions fail. -/
theorem settled_inMemory (services : AlarmServices) :
    Settled AlarmServices.ports services services.fate := by
  intro names
  induction names generalizing services with
  | nil => exact fun stack => services.deleteStack_fst stack
  | cons first rest ih =>
      intro stack
      have later := ih (services.deleteStack first).2 stack
      rw [AlarmServices.fate_deleteStack] at later
      exact later

/-- A teardown calls once for the deletion of each tracked stack and for no other, and afterwards
nothing is tracked. The report lists each of them once, in ascending order, under the failures
exactly where the deletion ended in an error. Where the name of a stack settles how its deletion
ends, the report is that of deleting one stack after the other, for every order and width; and no
teardown gets stuck on the way. -/
theorem teardown_exact {settings : AlarmSettings} {manager next : AlarmManager}
    (reachable : Reachable settings manager) (ports : AlarmPorts σ) (width : Nat)
    {recorded after : Recorded σ} {report : TeardownReport}
    (torn : TornDown ports.recorded width manager recorded report next after) :
    (∃ results, after.calls = recorded.calls ++ deletions results ∧
        manager.trackedStacks.Nodup ∧ (results.map Prod.fst).Perm manager.trackedStacks ∧
        ∀ stack message, (stack, message) ∈ report.failures ↔
          ∃ cause, (stack, .error cause) ∈ results ∧ message = cause.message) ∧
      (∀ stack, ¬ next.Tracks stack) ∧
      report.deleted.Pairwise (fun first second => Ordered.before first second = true) ∧
      (report.failures.map Prod.fst).Pairwise
        (fun first second => Ordered.before first second = true) ∧
      (∀ stack ∈ report.deleted, stack ∉ report.failures.map Prod.fst) ∧
      (report.deleted ++ report.failures.map Prod.fst).Perm manager.trackedStacks ∧
      (∀ fate, Settled ports recorded.services fate →
        report = .ofResults (manager.trackedStacks.map fun stack => (stack, fate stack)) ∧
          report = (destroy ports manager recorded.services).1) ∧
      ∀ middle, Relation.ReflTransGen (Deletions.Step ports.recorded width)
          (.start manager.trackedStacks recorded) middle →
        ∃ ended last, Relation.ReflTransGen (Deletions.Step ports.recorded width) middle
          (.finish ended last) := by
  obtain ⟨ended, steps, rfl, rfl⟩ := torn
  obtain ⟨results, called, perm, trace⟩ := Deletions.exists_results_of_steps steps
  have collected : ended.Perm results := by simpa [Deletions.results, Deletions.start,
    Deletions.finish] using perm
  have endedNames : (ended.map Prod.fst).Perm manager.trackedStacks := by
    simpa [Deletions.names, Deletions.results, Deletions.start, Deletions.finish] using
      Deletions.names_perm_of_steps steps
  have names : (results.map Prod.fst).Perm manager.trackedStacks :=
    (collected.symm.map Prod.fst).trans endedNames
  have distinct : (ended.map Prod.fst).Nodup :=
    endedNames.nodup_iff.2 reachable.trackedStacks_nodup
  refine ⟨⟨results, called, reachable.trackedStacks_nodup, names, fun stack message => ?_⟩,
    ?_, TeardownReport.deleted_pairwise distinct, TeardownReport.failures_pairwise distinct,
    fun stack => TeardownReport.notMem_failures distinct,
    TeardownReport.names_perm.trans endedNames, fun fate settled => ?_, fun middle _ => ?_⟩
  · simp only [TeardownReport.mem_failures_iff, collected.mem_iff]
  · rintro stack ⟨id, alarm, tracked, -⟩
    simp at tracked
  · have laid : TeardownReport.ofResults ended =
        .ofResults (manager.trackedStacks.map fun stack => (stack, fate stack)) := by
      refine TeardownReport.ofResults_perm (collected.trans ?_)
      rw [settled.results_eq trace]
      exact names.map _
    refine ⟨laid, laid.trans ?_⟩
    obtain ⟨sequence, last, ran, listed, sequenceTrace⟩ := exists_teardown ports manager recorded
    have same : sequence = manager.trackedStacks.map fun stack => (stack, fate stack) := by
      rw [trackedStacks, ← listed]
      exact settled.results_eq sequenceTrace
    rw [destroy_recorded ports manager recorded, ran, same]
  · exact Deletions.exists_finish ports.recorded width middle

/-- Of two stacks that are deleted side by side the second is done first; the first cannot be
deleted. -/
theorem teardown_exact_out_of_order :
    let stack := "rds-alarm-cpu-1-ab12cd34-1"
    let other := "rds-alarm-cpu-1-ab12cd34-2"
    ∃ manager next recorded after report, Reachable sampleSettings manager ∧
      TornDown AlarmServices.ports.recorded 2 manager recorded report next after ∧
      after.calls = [.deleteStack other (.ok ()),
        .deleteStack stack (.error (.service "DeleteStack" stack "DELETE_FAILED"))] ∧
      report = ⟨[other], [(stack, "DeleteStack failed for '" ++ stack ++ "': DELETE_FAILED")]⟩ ∧
      report = (destroy AlarmServices.ports manager recorded.services).1 := by
  intro stack other
  let ports := AlarmServices.ports
  let cause : PortError := .service "DeleteStack" stack "DELETE_FAILED"
  let empty := AlarmServices.empty
  let first := Table.empty.insert "1" (DeployedAlarm.mk "1" "rds:alarm:cpu:1" stack "Limit: 5")
  let both := first.insert "cpu" (DeployedAlarm.mk "cpu" "rds:alarm:cpu:1" other "Limit: 5")
  have one : deploy ports (sampleFiles "Limit: 5") (new sampleSettings) empty "rds:alarm:cpu:1"
      Table.empty none = (.ok "1", ⟨sampleSettings, first, 1⟩,
        (bringUp ports empty "bucket" stack "Limit: 5").2) := by
    rw [deploy_sampleFiles_new ports empty renderTemplate_sampleFiles]
    rfl
  have two : deploy ports (sampleFiles "Limit: 5") ⟨sampleSettings, first, 1⟩ empty
      "rds:alarm:cpu:1" Table.empty (some "cpu") = (.ok "cpu", ⟨sampleSettings, both, 2⟩,
        (bringUp ports empty "bucket" other "Limit: 5").2) := by
    have named : StackName.make "rds:alarm:cpu:1" "ab12cd34" 2 = other := by decide
    rw [deploy_sampleFiles ports empty renderTemplate_sampleFiles rfl named]
    rfl
  have reachable : Reachable sampleSettings ⟨sampleSettings, both, 2⟩ :=
    (Reachable.start.deploy ports _ _ _ none one).deploy ports _ _ _ (some "cpu") two
  let services := empty.failDelete stack
  let rest := (services.deleteStack other).2
  let recorded : Recorded AlarmServices := ⟨services, []⟩
  let between : Recorded AlarmServices := ⟨rest, [.deleteStack other (.ok ())]⟩
  let after : Recorded AlarmServices :=
    ⟨(rest.deleteStack stack).2,
      [.deleteStack other (.ok ()), .deleteStack stack (.error cause)]⟩
  have spared : (services.deleteStack other).1 = .ok () :=
    (services.deleteStack_fst other).trans (if_neg (by decide +kernel))
  have doomed : (rest.deleteStack stack).1 = .error cause := by
    rw [rest.deleteStack_fst, services.fate_deleteStack]
    exact if_pos (by decide +kernel)
  have answered : ports.recorded.deleteStack recorded other = (.ok (), between) := by
    show ((services.deleteStack other).1,
      Recorded.mk rest ([] ++ [.deleteStack other (services.deleteStack other).1])) = _
    rw [spared, List.nil_append]
  have refused : ports.recorded.deleteStack between stack = (.error cause, after) := by
    show ((rest.deleteStack stack).1, Recorded.mk (rest.deleteStack stack).2
      ([.deleteStack other (.ok ())] ++ [.deleteStack stack (rest.deleteStack stack).1])) = _
    rw [doomed, List.singleton_append]
  have torn : TornDown ports.recorded 2 ⟨sampleSettings, both, 2⟩ recorded
      (.ofResults [(other, .ok ()), (stack, .error cause)]) ⟨sampleSettings, Table.empty, 2⟩
      after := by
    have start : (AlarmManager.mk sampleSettings both 2).trackedStacks = [stack, other] := by
      decide
    refine ⟨_, ?_, rfl, rfl⟩
    rw [start]
    refine .head (.call (by decide)) (.head (.call (by decide)) ?_)
    have second : Deletions.Step ports.recorded 2
        ⟨[], [stack] ++ other :: [], [], [], recorded⟩
        ⟨[], [stack], [(other, .ok ())], [], between⟩ := .answer answered
    have collected : Deletions.Step ports.recorded 2
        ⟨[], [stack], [] ++ (other, .ok ()) :: [], [], between⟩
        ⟨[], [stack], [], [(other, .ok ())], between⟩ := .collect
    have last : Deletions.Step ports.recorded 2
        ⟨[], [] ++ stack :: [], [], [(other, .ok ())], between⟩
        ⟨[], [], [(stack, .error cause)], [(other, .ok ())], after⟩ := .answer refused
    have finished : Deletions.Step ports.recorded 2
        ⟨[], [], [] ++ (stack, .error cause) :: [], [(other, .ok ())], after⟩
        ⟨[], [], [], [(other, .ok ()), (stack, .error cause)], after⟩ := .collect
    exact .head second (.head collected (.head last (.head finished .refl)))
  obtain ⟨-, -, -, -, -, -, same, -⟩ := teardown_exact reachable ports 2 torn
  exact ⟨_, _, recorded, after, _, reachable, torn, rfl, by decide +kernel,
    (same _ (settled_inMemory services)).2⟩

end AlarmManager

end Runbook
