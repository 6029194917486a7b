import Runbook.Proofs.Alarm.Effect
import Runbook.Proofs.Alarm.Loading
import Runbook.Proofs.Alarm.Naming

/-!
# The account of stacks

A `Session` is what a manager and services in memory that it uses alone come to by deployments and
teardowns. In every session the manager, the live stacks and the staged templates agree
(`Accounted`): tracked stacks are live and all different, and a live stack that is not tracked is
one whose deletion failed.

The names of all live stacks carry numbers that were given already, and a deployment takes a
greater one. So its stack is new: creating it cannot fail, and no other stack is touched.
-/

namespace Runbook.AlarmManager

/-- The states that deployments and teardowns bring about, with all calls so far. Between them
outcomes of stacks and failures of deletions can be laid out. -/
inductive Session (settings : AlarmSettings) : AlarmManager → Recorded AlarmServices → Prop where
  | start : Session settings (new settings) ⟨.empty, []⟩
  | deploy {manager next recorded after result} (session : Session settings manager recorded)
      (files : Files) (reference : String) (bindings : Table String String) (id : Option String)
      (ran : AlarmManager.deploy AlarmServices.ports.recorded files manager recorded reference
        bindings id = (result, next, after)) : Session settings next after
  | destroy {manager next recorded after report} (session : Session settings manager recorded)
      (ran : AlarmManager.destroy AlarmServices.ports.recorded manager recorded =
        (report, next, after)) : Session settings next after
  | pushOutcome {manager recorded} (session : Session settings manager recorded)
      (outcome : StackOutcome) :
      Session settings manager { recorded with services := recorded.services.pushOutcome outcome }
  | failDelete {manager recorded} (session : Session settings manager recorded) (lead : String) :
      Session settings manager { recorded with services := recorded.services.failDelete lead }

/-- A tracked alarm agrees with the services. -/
structure InOrder (settings : AlarmSettings) (services : AlarmServices) (id : String)
    (alarm : DeployedAlarm) : Prop where
  named : alarm.id = id
  up : ∃ outcome, services.live.get? alarm.stack = some outcome ∧
    goodStatuses.contains outcome.status = true
  staged : services.objects.get? (settings.bucket, templateKey alarm.stack) = some alarm.template
  rendered : ∃ files bindings,
    renderTemplate settings files alarm.reference bindings = .ok alarm.template

/-- The manager, the services and the calls agree on what stacks there are. -/
structure Accounted (settings : AlarmSettings) (manager : AlarmManager)
    (recorded : Recorded AlarmServices) : Prop where
  configured : manager.settings = settings
  inOrder : ∀ id alarm, manager.deployed.get? id = some alarm →
    InOrder settings recorded.services id alarm
  apart : ∀ id other alarm another, manager.deployed.get? id = some alarm →
    manager.deployed.get? other = some another → alarm.stack = another.stack → id = other
  numbered : ∀ stack outcome, recorded.services.live.get? stack = some outcome →
    ∃ reference number, number ≤ manager.ordinal ∧
      stack = StackName.make reference settings.run number
  kept : ∀ stack outcome, recorded.services.live.get? stack = some outcome →
    manager.Tracks stack ∨ ∃ cause, .deleteStack stack (.error cause) ∈ recorded.calls
  created : ∀ name url cause, .createStack name url (.error cause) ∉ recorded.calls

variable {settings : AlarmSettings} {manager : AlarmManager} {recorded : Recorded AlarmServices}

/-- Templates of different stacks have different keys. -/
theorem templateKey_inj {stack other : String} (same : templateKey stack = templateKey other) :
    stack = other := by
  have texts := congrArg String.toList same
  simpa [templateKey, String.toList_inj] using texts

/-- A stack with a number above the last one is not live. -/
theorem Accounted.fresh (accounted : Accounted settings manager recorded) {reference : String}
    {number : Nat} (above : manager.ordinal < number) :
    recorded.services.live.get? (StackName.make reference settings.run number) = none := by
  by_contra live
  obtain ⟨outcome, live⟩ := Option.ne_none_iff_exists'.1 live
  obtain ⟨other, old, bounded, same⟩ := accounted.numbered _ outcome live
  have equal := StackName.number_eq_of_make_eq same
  omega

/-- What is tracked is not affected by an attempt at a stack that is not live. -/
theorem InOrder.attempt {services after : AlarmServices} {id stack template : String}
    {alarm : DeployedAlarm} {calls : List PortCall} {result : Except AlarmError Unit}
    (inOrder : InOrder settings services id alarm) (fresh : services.live.get? stack = none)
    (left : Left services settings.bucket stack template calls result after) :
    InOrder settings after id alarm ∧ alarm.stack ≠ stack := by
  obtain ⟨outcome, live, good⟩ := inOrder.up
  have differs : alarm.stack ≠ stack := by
    rintro rfl
    rw [fresh] at live
    cases live
  refine ⟨{ inOrder with up := ⟨outcome, ?_, good⟩, staged := ?_ }, differs⟩
  · rw [left.live_other _ differs, live]
  · rw [left.object_other _ fun same => differs (templateKey_inj (Prod.mk.inj same).2),
      inOrder.staged]

/-- Every stack that is live after an attempt was so before, or is the one attempted. -/
theorem Left.live_cases {services after : AlarmServices} {bucket stack template : String}
    {calls : List PortCall} {result : Except AlarmError Unit}
    (left : Left services bucket stack template calls result after) {other : String}
    {outcome : StackOutcome} (live : after.live.get? other = some outcome) :
    other = stack ∨ services.live.get? other = some outcome := by
  by_cases same : other = stack
  · exact Or.inl same
  · rw [left.live_other other same] at live
    exact Or.inr live

section

variable {reference template : String} {number : Nat} {calls : List PortCall}
  {result : Except AlarmError Unit} {after : AlarmServices}

/-- After an attempt the names of live stacks carry numbers that were given. -/
theorem Accounted.numbered_attempt (accounted : Accounted settings manager recorded)
    (above : manager.ordinal < number)
    (left : Left recorded.services settings.bucket
      (StackName.make reference settings.run number) template calls result after)
    {stack : String} {outcome : StackOutcome} (live : after.live.get? stack = some outcome) :
    ∃ reference old, old ≤ number ∧ stack = StackName.make reference settings.run old := by
  rcases left.live_cases live with same | live
  · exact ⟨reference, number, Nat.le_refl _, same⟩
  · obtain ⟨reference, old, bounded, same⟩ := accounted.numbered stack outcome live
    exact ⟨reference, old, by omega, same⟩

/-- No creation failed, an attempt's neither. -/
theorem Accounted.created_attempt (accounted : Accounted settings manager recorded)
    {bucket stack : String}
    (left : Left recorded.services bucket stack template calls result after) (name url : String)
    (cause : PortError) : .createStack name url (.error cause) ∉ recorded.calls ++ calls := by
  simp [accounted.created, left.created]

/-- After a failed attempt all is accounted for. -/
theorem Accounted.failed (accounted : Accounted settings manager recorded) {error : AlarmError}
    (above : manager.ordinal < number)
    (left : Left recorded.services settings.bucket
      (StackName.make reference settings.run number) template calls (.error error) after) :
    Accounted settings { manager with ordinal := number } ⟨after, recorded.calls ++ calls⟩ where
  configured := accounted.configured
  inOrder id alarm tracked :=
    ((accounted.inOrder id alarm tracked).attempt (accounted.fresh above) left).1
  apart := accounted.apart
  numbered _ _ live := accounted.numbered_attempt above left live
  kept stack outcome live := by
    rcases left.live_cases live with rfl | old
    · rcases left.down error rfl with gone | ⟨cause, failed⟩
      · rw [gone] at live
        cases live
      · exact Or.inr ⟨cause, List.mem_append_right _ failed⟩
    · rcases accounted.kept stack outcome old with tracked | ⟨cause, failed⟩
      · exact Or.inl tracked
      · exact Or.inr ⟨cause, List.mem_append_left _ failed⟩
  created := accounted.created_attempt left

/-- After a good attempt that is tracked under a free identifier all is accounted for. -/
theorem Accounted.tracked (accounted : Accounted settings manager recorded) {key : String}
    (above : manager.ordinal < number) (free : manager.deployed.get? key = none)
    {files : Files} {bindings : Table String String}
    (rendered : renderTemplate settings files reference bindings = .ok template)
    (left : Left recorded.services settings.bucket
      (StackName.make reference settings.run number) template calls (.ok ()) after) :
    Accounted settings
      { manager with
        ordinal := number
        deployed := manager.deployed.insert key
          ⟨key, reference, StackName.make reference settings.run number, template⟩ }
      ⟨after, recorded.calls ++ calls⟩ := by
  -- What was tracked before has other stacks than the new one.
  have others (id : String) (alarm : DeployedAlarm)
      (tracked : manager.deployed.get? id = some alarm) :=
    (accounted.inOrder id alarm tracked).attempt (accounted.fresh above) left
  exact {
    configured := accounted.configured
    inOrder := by
      intro id alarm tracked
      simp only [Table.get?_insert] at tracked
      split at tracked
      · rename_i same
        cases tracked
        exact ⟨same.symm, (left.up rfl).1, (left.up rfl).2, files, bindings, rendered⟩
      · exact (others id alarm tracked).1
    apart := by
      intro id other alarm another tracked found same
      simp only [Table.get?_insert] at tracked found
      split at tracked <;> split at found
      · rename_i here there
        rw [here, there]
      · cases tracked
        exact absurd same.symm (others other another found).2
      · cases found
        exact absurd same (others id alarm tracked).2
      · exact accounted.apart id other alarm another tracked found same
    numbered := fun _ _ live => accounted.numbered_attempt above left live
    kept := by
      intro stack outcome live
      rcases left.live_cases live with rfl | old
      · exact Or.inl ⟨key, _, Table.get?_insert_self _ _ _, rfl⟩
      · rcases accounted.kept stack outcome old with ⟨id, alarm, tracked, same⟩ | ⟨cause, failed⟩
        · have differs : id ≠ key := by
            rintro rfl
            rw [free] at tracked
            cases tracked
          exact Or.inl ⟨id, alarm, by rw [Table.get?_insert, if_neg differs, tracked], same⟩
        · exact Or.inr ⟨cause, List.mem_append_left _ failed⟩
    created := accounted.created_attempt left }

end

/-- Deploying an alarm keeps all accounted for. -/
theorem Accounted.deploy (accounted : Accounted settings manager recorded)
    {next : AlarmManager} {after : Recorded AlarmServices} {result : Except AlarmError String}
    {files : Files} {reference : String} {bindings : Table String String} {id : Option String}
    (ran : AlarmManager.deploy AlarmServices.ports.recorded files manager recorded reference
      bindings id = (result, next, after)) : Accounted settings next after := by
  obtain ⟨calls, noted, deployment, trace⟩ := deployment_of_deploy ran
  obtain ⟨services, calls⟩ := after
  obtain rfl := noted
  obtain rfl := accounted.configured
  cases deployment with
  | notRendered | notIdentified =>
      obtain _ | _ := trace
      simpa using accounted
  | failed rendered identified attempt =>
      obtain ⟨above, -⟩ := fresh_of_identify identified
      exact accounted.failed above (attempt.left trace (accounted.fresh above))
  | tracked rendered identified attempt =>
      obtain ⟨above, free⟩ := fresh_of_identify identified
      exact accounted.tracked above free rendered (attempt.left trace (accounted.fresh above))

/-- Tearing down keeps all accounted for. -/
theorem Accounted.destroy (accounted : Accounted settings manager recorded)
    {next : AlarmManager} {after : Recorded AlarmServices} {report : TeardownReport}
    (ran : AlarmManager.destroy AlarmServices.ports.recorded manager recorded =
      (report, next, after)) : Accounted settings next after := by
  obtain ⟨results, services, same, listed, trace⟩ :=
    exists_teardown AlarmServices.ports manager recorded
  rw [ran] at same
  obtain ⟨-, rfl, rfl⟩ : _ ∧ next = { manager with deployed := Table.empty } ∧
      after = ⟨services, recorded.calls ++ deletions results⟩ := by simpa using same
  obtain ⟨-, left⟩ := left_of_deletions trace
  exact {
    configured := accounted.configured
    inOrder := fun _ _ tracked => by simp at tracked
    apart := fun _ _ _ _ tracked => by simp at tracked
    numbered := fun stack outcome live => accounted.numbered stack outcome (left _ _ live).1
    kept := by
      intro stack outcome live
      obtain ⟨old, failed⟩ := left stack outcome live
      rcases accounted.kept stack outcome old with ⟨id, alarm, tracked, rfl⟩ | ⟨cause, earlier⟩
      · obtain ⟨cause, member⟩ := failed (listed ▸
          List.mem_map_of_mem (Table.mem_values_iff.2 ⟨id, tracked⟩))
        exact Or.inr ⟨cause, List.mem_append_right _ member⟩
      · exact Or.inr ⟨cause, List.mem_append_left _ earlier⟩
    created := by simp [accounted.created, deletions] }

/-- In every session all is accounted for. -/
theorem Session.accounted (session : Session settings manager recorded) :
    Accounted settings manager recorded := by
  induction session with
  | start =>
      exact ⟨rfl, fun _ _ tracked => by simp [new] at tracked,
        fun _ _ _ _ tracked => by simp [new] at tracked,
        fun _ _ live => by simp [AlarmServices.empty] at live,
        fun _ _ live => by simp [AlarmServices.empty] at live, by simp⟩
  | deploy _ _ _ _ _ ran ih => exact ih.deploy ran
  | destroy _ ran ih => exact ih.destroy ran
  | pushOutcome _ _ ih | failDelete _ _ ih =>
      exact ⟨ih.configured, fun id alarm tracked => { ih.inOrder id alarm tracked with },
        ih.apart, ih.numbered, ih.kept, ih.created⟩

/-- In every session a tracked alarm stands under its own identifier, its stack is live and came
up, and its template is staged for that stack; no two alarms have one stack; a live stack is tracked
or its deletion failed; the search for an identifier ends at a free one; and no creation failed. -/
theorem Session.stacks_in_order (session : Session settings manager recorded) :
    (∀ id alarm, manager.deployed.get? id = some alarm →
      alarm.id = id ∧
        (∃ outcome, recorded.services.live.get? alarm.stack = some outcome ∧
          (outcome.status = "CREATE_COMPLETE" ∨ outcome.status = "UPDATE_COMPLETE")) ∧
        recorded.services.object? settings.bucket ("alarms/" ++ alarm.stack ++ ".yml") =
          some alarm.template ∧
        ∃ files bindings,
          renderTemplate settings files alarm.reference bindings = .ok alarm.template) ∧
      (manager.deployed.values.map DeployedAlarm.stack).Nodup ∧
      (∀ stack, recorded.services.live.contains stack = true →
        manager.Tracks stack ∨ ∃ cause, .deleteStack stack (.error cause) ∈ recorded.calls) ∧
      (∃ number, manager.identify none = .ok (toString number, number) ∧
        FirstFree manager.deployed (manager.ordinal + 1) number) ∧
      ∀ name url answer, .createStack name url answer ∈ recorded.calls → answer = .ok () := by
  have accounted := session.accounted
  refine ⟨fun id alarm tracked => ?_, Table.nodup_map_values accounted.apart, fun stack live => ?_,
    ⟨_, rfl, firstFree_freeNumber _ _⟩, fun name url answer made => ?_⟩
  · obtain ⟨named, ⟨outcome, live, good⟩, staged, rendered⟩ := accounted.inOrder id alarm tracked
    exact ⟨named, ⟨outcome, live, by simpa [goodStatuses] using good⟩, staged, rendered⟩
  · obtain ⟨outcome, live⟩ := Table.contains_eq_true_iff.1 live
    exact accounted.kept stack outcome live
  · cases answer with
    | error cause => exact absurd made (accounted.created name url cause)
    | ok => rfl

/-- Of two stacks the second fails and cannot be deleted: it is live and not tracked, and the
deletion that failed is among the calls. -/
theorem Session.stacks_in_order_after_failure :
    ∃ manager recorded, Session sampleSettings manager recorded ∧
      manager.Tracks "rds-alarm-cpu-1-ab12cd34-1" ∧
      recorded.services.live.contains "rds-alarm-cpu-1-ab12cd34-2" = true ∧
      ∃ cause, .deleteStack "rds-alarm-cpu-1-ab12cd34-2" (.error cause) ∈ recorded.calls := by
  let ports := AlarmServices.ports.recorded
  let stack := "rds-alarm-cpu-1-ab12cd34-1"
  let other := "rds-alarm-cpu-1-ab12cd34-2"
  let deployed := Table.empty.insert "1" (DeployedAlarm.mk "1" "rds:alarm:cpu:1" stack "Limit: 5")
  let start : Recorded AlarmServices := ⟨AlarmServices.empty.failDelete other, []⟩
  let between : Recorded AlarmServices :=
    let recorded := (bringUp ports start "bucket" stack "Limit: 5").2
    { recorded with services := recorded.services.pushOutcome ⟨"ROLLBACK_COMPLETE", []⟩ }
  let after := (bringUp ports between "bucket" other "Limit: 5").2
  have first : AlarmManager.deploy ports (sampleFiles "Limit: 5") (new sampleSettings) start
      "rds:alarm:cpu:1" Table.empty none = (.ok "1", ⟨sampleSettings, deployed, 1⟩,
        (bringUp ports start "bucket" stack "Limit: 5").2) := by
    rw [deploy_sampleFiles_new ports start renderTemplate_sampleFiles]
    rfl
  obtain ⟨_, second⟩ : ∃ error, AlarmManager.deploy ports (sampleFiles "Limit: 5")
      ⟨sampleSettings, deployed, 1⟩ between "rds:alarm:cpu:1" Table.empty (some "cpu") =
      (.error error, ⟨sampleSettings, deployed, 2⟩, after) := by
    have named : StackName.make "rds:alarm:cpu:1" "ab12cd34" 2 = other := by decide
    rw [deploy_sampleFiles ports between renderTemplate_sampleFiles rfl named]
    have down : (bringUp ports between "bucket" other "Limit: 5").1.toBool = false := by
      decide
    rcases brought : bringUp ports between "bucket" other "Limit: 5" with ⟨error | _, services⟩
    · exact ⟨error, by simp only [after, brought]⟩
    · rw [brought] at down
      cases down
  have session : Session sampleSettings ⟨sampleSettings, deployed, 2⟩ after :=
    (((Session.start.failDelete other).deploy _ _ _ none first).pushOutcome _).deploy _ _ _
      (some "cpu") second
  have live : after.services.live.contains other = true := by decide +kernel
  have untracked : ¬ (AlarmManager.mk sampleSettings deployed 2).Tracks other := by
    rintro ⟨id, alarm, tracked, same⟩
    simp only [deployed, Table.get?_insert, Table.get?_empty] at tracked
    split at tracked
    · cases tracked
      exact absurd same (by decide)
    · cases tracked
  exact ⟨_, after, session, ⟨"1", _, rfl, rfl⟩, live,
    (session.stacks_in_order.2.2.1 other live).resolve_left untracked⟩

end Runbook.AlarmManager
