import Runbook.Proofs.Alarm.Coverage

/-!
# How far back a data check looks

The window of a metric is its period times the look-back. Both are numbers of 32 bits, and their
product can be more than a span of time holds, or reach back before the first time there is. A check
ends early where it comes to such a window (`collect?_eq_none_iff`), and otherwise does what it does
without limits. Which metrics it comes to depends on the answers to the queries before
(`Reaches`): the metrics of all templates up to the first that cannot be read are asked for one
after the other (`collectFrom_eq`).
-/

namespace Runbook

namespace Metric

/-- A period is a number of 32 bits, as it is written or by default. -/
theorem periodOf_le (value : Option Yaml) : periodOf value ≤ Text.maxHalfWord := by
  rw [periodOf]
  cases read : value.bind fun value => (scalar? value).bind fun text =>
      Text.natural? Text.maxHalfWord text.toList with
  | none => decide
  | some period =>
      obtain ⟨_, _, read⟩ := Option.bind_eq_some_iff.1 read
      obtain ⟨_, _, read⟩ := Option.bind_eq_some_iff.1 read
      exact (Text.natural?_eq_some_iff.1 read).2

/-- The period of a metric that is read is a 32-bit number. -/
theorem period_le_of_ofYaml? {value : Yaml} {period : Option Yaml} {metric : Metric}
    (read : ofYaml? value period = some metric) : metric.period ≤ Text.maxHalfWord := by
  obtain ⟨_, _, read⟩ := Option.bind_eq_some_iff.1 read
  obtain ⟨space, _, read⟩ := Option.bind_eq_some_iff.1 read
  obtain ⟨_, _, read⟩ := Option.bind_eq_some_iff.1 read
  obtain ⟨name, _, read⟩ := Option.bind_eq_some_iff.1 read
  cases read
  exact periodOf_le period

/-- So it is for every metric of the properties. -/
theorem period_le_of_mem_ofProperties {properties : Yaml} {metric : Metric}
    (member : metric ∈ ofProperties properties) : metric.period ≤ Text.maxHalfWord := by
  unfold ofProperties at member
  split at member
  · rename_i single read
    obtain rfl := List.mem_singleton.1 member
    exact period_le_of_ofYaml? read
  · obtain ⟨entry, _, read⟩ := List.mem_filterMap.1 member
    obtain ⟨stat, _, read⟩ := Option.bind_eq_some_iff.1 read
    obtain ⟨value, _, read⟩ := Option.bind_eq_some_iff.1 read
    exact period_le_of_ofYaml? read

end Metric

open AlarmMetrics

namespace AlarmManager

variable {σ : Type} {ports : AlarmPorts σ} {now : Int} {lookback : Nat} {services : σ}
  {items : List (String × Metric)} {found : AlarmMetrics} {alarms : List DeployedAlarm}

/-- The metrics in the tables of the templates, up to the first that cannot be read. -/
def scanned (alarms : List DeployedAlarm) : List (String × Metric) :=
  readings (alarms.takeWhile fun alarm => (unreadable? alarm).isNone)

/-- So it is for every metric that a data check asks about. -/
theorem period_le_of_mem_readings {item : String × Metric} (member : item ∈ readings alarms) :
    item.2.period ≤ Text.maxHalfWord := by
  obtain ⟨alarm, _, member⟩ := List.mem_flatMap.1 member
  obtain ⟨entry, inside, member⟩ := List.mem_flatMap.1 member
  obtain ⟨metric, listed, rfl⟩ := List.mem_map.1 member
  obtain ⟨properties, _, metrics, _⟩ :=
    exists_hasAlarm_of_mem_resources (Table.subset_of_ofList _ inside)
  rw [metrics] at listed
  exact Metric.period_le_of_mem_ofProperties listed

/-! ### One list of metrics -/

/-- A check of more metrics goes on where that of the first ones ended well. -/
theorem withoutData_append (front back : List (String × Metric)) :
    withoutData ports now lookback services found (front ++ back) =
      match withoutData ports now lookback services found front with
      | (.error error, services) => (.error error, services)
      | (.ok found, services) => withoutData ports now lookback services found back := by
  induction front generalizing services found with
  | nil => rfl
  | cons item front ih =>
      rw [List.cons_append, withoutData, withoutData]
      split
      · rfl
      · exact ih

/-- The metrics of all templates are checked as one list, and then the first template that cannot be
read is told of. -/
theorem collectFrom_eq (ports : AlarmPorts σ) (now : Int) (lookback : Nat) (services : σ)
    (found : AlarmMetrics) (alarms : List DeployedAlarm) :
    collectFrom ports now lookback services found alarms =
      match withoutData ports now lookback services found (scanned alarms) with
      | (.error error, services) => (.error error, services)
      | (.ok found, services) =>
          match alarms.findSome? unreadable? with
          | some error => (.error error, services)
          | none => (.ok found, services) := by
  induction alarms generalizing services found with
  | nil => rfl
  | cons alarm rest ih =>
      rw [collectFrom]
      split
      · rename_i error unread
        have reason := unreadable?_eq_some_iff.2 unread
        simp only [scanned, List.takeWhile_cons, reason, Option.isNone_some, Bool.false_eq_true,
          ↓reduceIte, List.findSome?_cons]
        rfl
      · rename_i metrics read
        have fine := unreadable?_eq_none_iff.2 ⟨metrics, read⟩
        have table : scanned (alarm :: rest) = listed metrics.entries ++ scanned rest := by
          rw [scanned, List.takeWhile_cons, fine, if_pos Option.isNone_none, readings_cons,
            (alarmMetrics_eq_ok_iff.1 read).2, readings, List.flatMap_singleton]
          rfl
        rw [table, withoutData_append, List.findSome?_cons, fine, listed]
        dsimp only
        rcases withoutData ports now lookback services found _ with ⟨error | found, services⟩
        · rfl
        · exact ih services found

/-! ### The windows on the way -/

/-- A window of some seconds can be given: it is a span of time, and begins when there is time. -/
def Fits (now : Int) (seconds : Nat) : Prop := seconds ≤ maxSpan ∧ firstSecond ≤ now - seconds

/-- The window of a metric is one exactly where the seconds it looks back fit. -/
theorem isWindow_iff {metric : Metric} :
    isWindow (now - window metric lookback) now = true ↔ Fits now (metric.period * lookback) := by
  have shorter : maxSpan ≤ maxSigned := Nat.div_le_self _ _
  have length : now - (now - window metric lookback) =
      ((metric.period * lookback : Nat) : Int) := by
    rw [window]
    push_cast
    omega
  rw [isWindow, length, Fits, window]
  simp only [Bool.and_eq_true, decide_eq_true_eq, Int.ofNat_le]
  push_cast
  constructor
  · rintro ⟨⟨_, span⟩, start⟩
    exact ⟨span, start⟩
  · rintro ⟨span, start⟩
    exact ⟨⟨span.trans shorter, span⟩, start⟩

/-- The check comes to a metric of a list once the queries for those in front are answered. -/
inductive Reaches (ports : AlarmPorts σ) (now : Int) (lookback : Nat) :
    σ → List (String × Metric) → Metric → Prop
  | here {services name metric rest} :
      Reaches ports now lookback services ((name, metric) :: rest) metric
  | later {services between item rest count metric}
      (answered : ports.sampleCount services item.2 (now - window item.2 lookback) now =
        (.ok count, between))
      (reached : Reaches ports now lookback between rest metric) :
      Reaches ports now lookback services (item :: rest) metric

/-- A metric that is reached is one of the items. -/
theorem Reaches.mem {metric : Metric} (reached : Reaches ports now lookback services items metric) :
    ∃ name, (name, metric) ∈ items := by
  induction reached with
  | here => exact ⟨_, List.mem_cons_self⟩
  | later _ _ ih =>
      obtain ⟨name, member⟩ := ih
      exact ⟨name, List.mem_cons_of_mem _ member⟩

/-- The check comes to the first metric, and to those behind it when the query for it is
answered. -/
theorem reaches_cons_iff {item : String × Metric} {metric : Metric} :
    Reaches ports now lookback services (item :: items) metric ↔
      metric = item.2 ∨ ∃ count between,
        ports.sampleCount services item.2 (now - window item.2 lookback) now =
          (.ok count, between) ∧ Reaches ports now lookback between items metric := by
  constructor
  · rintro (_ | ⟨answered, reached⟩)
    · exact .inl rfl
    · exact .inr ⟨_, _, answered, reached⟩
  · rintro (rfl | ⟨count, between, answered, reached⟩)
    · exact .here
    · exact .later answered reached

/-- The record changes nothing, and holds a window that cannot be given exactly when the check
comes to one. -/
theorem withoutData_recorded (ports : AlarmPorts σ) (now : Int) (lookback : Nat)
    (items : List (String × Metric)) (recorded : Recorded σ) (found : AlarmMetrics) :
    let run := withoutData ports.recorded now lookback recorded found items
    withoutData ports now lookback recorded.services found items = (run.1, run.2.services) ∧
      (run.2.calls.all isGivable = true ↔ recorded.calls.all isGivable = true ∧
        ∀ metric, Reaches ports now lookback recorded.services items metric →
          Fits now (metric.period * lookback)) := by
  induction items generalizing recorded found with
  | nil =>
      refine ⟨rfl, fun given => ⟨given, fun _ reached => by cases reached⟩, fun given => given.1⟩
  | cons item items ih =>
      let start := now - window item.2 lookback
      rcases asked : ports.sampleCount recorded.services item.2 start now with ⟨answer, between⟩
      let noted : Recorded σ := ⟨between, recorded.calls ++ [.sampleCount item.2 start now answer]⟩
      have step : ports.recorded.sampleCount recorded item.2 start now = (answer, noted) := by
        simp only [AlarmPorts.recorded, Recorded.note, asked, noted]
      have given : noted.calls.all isGivable = true ↔ recorded.calls.all isGivable = true ∧
          Fits now (item.2.period * lookback) := by
        simp only [noted, List.all_append, List.all_cons, List.all_nil, Bool.and_true,
          Bool.and_eq_true, isGivable, start, isWindow_iff]
      simp only [withoutData, reaches_cons_iff]
      cases answer with
      | error cause =>
          simp only [start] at asked step
          simp only [asked, step]
          refine ⟨rfl, given.trans (and_congr_right fun _ => ⟨?_, fun all => all _ (.inl rfl)⟩)⟩
          rintro fits metric (rfl | ⟨_, _, answered, _⟩)
          · exact fits
          · cases answered
      | ok count =>
          simp only [start] at asked step
          simp only [asked, step]
          obtain ⟨same, rest⟩ := ih noted (if count = 0 then
            found.insert item.1 ((found.get? item.1).getD [] ++ [item.2]) else found)
          refine ⟨same, rest.trans ?_⟩
          rw [given, and_assoc]
          refine and_congr_right fun _ => ⟨?_, fun all => ⟨all _ (.inl rfl), fun metric reached =>
            all metric (.inr ⟨count, between, rfl, reached⟩)⟩⟩
          rintro ⟨fits, later⟩ metric (rfl | ⟨_, _, answered, reached⟩)
          · exact fits
          · cases answered
            exact later metric reached

/-! ### The whole check -/

/-- What holds of the check of one list holds of the check of all templates. -/
theorem collectFrom_recorded (ports : AlarmPorts σ) (now : Int) (lookback : Nat)
    (alarms : List DeployedAlarm) (recorded : Recorded σ) (found : AlarmMetrics) :
    let run := collectFrom ports.recorded now lookback recorded found alarms
    collectFrom ports now lookback recorded.services found alarms = (run.1, run.2.services) ∧
      (run.2.calls.all isGivable = true ↔ recorded.calls.all isGivable = true ∧
        ∀ metric, Reaches ports now lookback recorded.services (scanned alarms) metric →
          Fits now (metric.period * lookback)) := by
  obtain ⟨same, given⟩ :=
    withoutData_recorded ports now lookback (scanned alarms) recorded found
  simp only [collectFrom_eq, same]
  rcases ran : withoutData ports.recorded now lookback recorded found (scanned alarms) with
    ⟨error | next, after⟩
  · rw [ran] at given
    exact ⟨rfl, given⟩
  · rw [ran] at given
    dsimp only
    split
    · exact ⟨rfl, given⟩
    · exact ⟨rfl, given⟩

/-- A check ends early exactly where it comes to a metric whose window cannot be given. -/
theorem collect?_eq_none_iff (ports : AlarmPorts σ) (manager : AlarmManager) (services : σ)
    (now : Int) (lookback : Nat) :
    collect? ports manager services now lookback = none ↔
      ∃ metric, Reaches ports now lookback services (scanned manager.deployed.values) metric ∧
        ¬ Fits now (metric.period * lookback) := by
  obtain ⟨-, given⟩ :=
    collectFrom_recorded ports now lookback manager.deployed.values ⟨services, []⟩ Table.empty
  rw [and_iff_right List.all_nil] at given
  rw [collect?, collectWithoutData]
  simp only [ite_eq_right_iff, reduceCtorEq, imp_false, given]
  push Not
  rfl

/-- A check that does not end early does what it does without limits. -/
theorem eq_of_collect? {manager : AlarmManager} {run : Except AlarmError AlarmMetrics × σ}
    (ran : collect? ports manager services now lookback = some run) :
    run = collectWithoutData ports manager services now lookback := by
  obtain ⟨same, -⟩ :=
    collectFrom_recorded ports now lookback manager.deployed.values ⟨services, []⟩ Table.empty
  rw [collect?] at ran
  dsimp only at ran
  split at ran
  · cases ran
    exact same.symm
  · cases ran

/-- The look-backs that no period of 32 bits takes beyond a span of time. -/
theorem fits_span_iff : (∀ period ≤ Text.maxHalfWord, period * lookback ≤ maxSpan) ↔
    lookback ≤ 2147483 := by
  have most : Text.maxHalfWord = 4294967295 := by decide
  have span : maxSpan = 9223372036854775 := by decide
  rw [most, span]
  constructor
  · intro all
    have longest := all 4294967295 (Nat.le_refl _)
    omega
  · intro small period bound
    have product := Nat.mul_le_mul bound small
    omega

/-- From 1970 on, no period of 32 bits reaches back too far up to this look-back. -/
theorem fits_of_lookback_le {period : Nat} (bound : period ≤ Text.maxHalfWord) (late : 0 ≤ now)
    (small : lookback ≤ 1940) : Fits now (period * lookback) := by
  have most : Text.maxHalfWord = 4294967295 := by decide
  have span : maxSpan = 9223372036854775 := by decide
  have first : firstSecond = -8334601228800 := rfl
  rw [most] at bound
  have product := Nat.mul_le_mul bound small
  rw [Fits, span, first]
  omega

/-- Periods and look-backs are numbers of 32 bits. The longest period stays within a span of time
for look-backs up to a bound only. A check does what it does without limits, except that it ends
early exactly where it comes to a metric whose window is no span of time or begins before the first
time there is. From 1970 on, this cannot be with a look-back of up to 1940. -/
theorem windows_exact (ports : AlarmPorts σ) (manager : AlarmManager) (services : σ) (now : Int)
    (lookback : Nat) :
    ((∀ period ≤ Text.maxHalfWord, period * lookback ≤ maxSpan) ↔ lookback ≤ 2147483) ∧
      (∀ metric, Reaches ports now lookback services (scanned manager.deployed.values) metric →
        metric.period ≤ Text.maxHalfWord) ∧
      (collect? ports manager services now lookback = none ↔
        ∃ metric, Reaches ports now lookback services (scanned manager.deployed.values) metric ∧
          ¬ Fits now (metric.period * lookback)) ∧
      (∀ run, collect? ports manager services now lookback = some run →
        run = collectWithoutData ports manager services now lookback) ∧
      (0 ≤ now → lookback ≤ 1940 → collect? ports manager services now lookback ≠ none) := by
  have bounded (metric : Metric)
      (reached : Reaches ports now lookback services (scanned manager.deployed.values) metric) :
      metric.period ≤ Text.maxHalfWord := by
    obtain ⟨name, member⟩ := reached.mem
    exact period_le_of_mem_readings member
  refine ⟨fits_span_iff, bounded, collect?_eq_none_iff ports manager services now lookback,
    fun run ran => eq_of_collect? ran, fun late small ends => ?_⟩
  obtain ⟨metric, reached, unfit⟩ :=
    (collect?_eq_none_iff ports manager services now lookback).1 ends
  exact unfit (fits_of_lookback_le (bounded metric reached) late small)

/-- A template with one alarm that has a period. -/
def periodTemplate (period : Nat) : String :=
  "Resources: \x7bCpu: \x7bType: AWS::CloudWatch::Alarm, Properties: \x7bNamespace: N, " ++
    "MetricName: Load, Period: " ++ toString period ++ "\x7d\x7d\x7d"

/-- An alarm with this template. -/
def periodAlarm (period : Nat) : DeployedAlarm :=
  ⟨"1", "rds:alarm:cpu:1", "rds-alarm-cpu-1-ab12cd34-1", periodTemplate period⟩

/-- A manager that has deployed it. -/
def periodManager (period : Nat) : AlarmManager :=
  ⟨sampleSettings, Table.empty.insert "1" (periodAlarm period), 1⟩

/-- Five days are looked at hour by hour. -/
theorem windows_exact_hourly : 0 ≤ (1700000000 : Int) ∧ 120 ≤ 1940 ∧
    ∃ run, collect? AlarmServices.ports (periodManager 3600) AlarmServices.empty 1700000000 120 =
        some run ∧
      run = collectWithoutData AlarmServices.ports (periodManager 3600) AlarmServices.empty
        1700000000 120 := by
  obtain ⟨-, -, -, same, goes⟩ := windows_exact AlarmServices.ports (periodManager 3600)
    AlarmServices.empty 1700000000 120
  obtain ⟨run, ran⟩ := Option.ne_none_iff_exists'.1 (goes (by decide) (by decide))
  exact ⟨by decide, by decide, run, ran, same run ran⟩

/-- The numbers of 32 bits leave a signed word when they are multiplied, and a period and a
look-back of 32 bits end a check early because their product is no span of time. -/
theorem window_beyond_span :
    maxSigned < Text.maxHalfWord * Text.maxHalfWord ∧
      ∃ manager metric, Reachable sampleSettings manager ∧
        readings manager.deployed.values = [("Cpu", metric)] ∧
        metric.period = 1000000000 ∧ 1000000000 ≤ Text.maxHalfWord ∧
        maxSpan < metric.period * 1000000000 ∧
        collect? AlarmServices.ports manager AlarmServices.empty 1700000000 1000000000 = none := by
  have periods : (readings (periodManager 1000000000).deployed.values).map
      (fun item => (item.1, item.2.period)) = [("Cpu", 1000000000)] := by
    decide +kernel
  obtain ⟨metric, listed, period⟩ : ∃ metric : Metric,
      readings (periodManager 1000000000).deployed.values = [("Cpu", metric)] ∧
        metric.period = 1000000000 := by
    simpa [List.map_eq_cons_iff, and_assoc] using periods
  have long : maxSpan < metric.period * 1000000000 := by
    rw [period]
    decide
  have readable : unreadable? (periodAlarm 1000000000) = none := by
    refine unreadable?_eq_none_iff.2 ⟨_, alarmMetrics_eq_ok_iff.2 ⟨?_, rfl⟩⟩
    decide +kernel
  have reached : Reaches AlarmServices.ports 1700000000 1000000000 AlarmServices.empty
      (scanned (periodManager 1000000000).deployed.values) metric := by
    have values : (periodManager 1000000000).deployed.values = [periodAlarm 1000000000] := rfl
    rw [values] at listed
    rw [values, scanned, List.takeWhile_cons, readable, if_pos Option.isNone_none,
      List.takeWhile_nil, listed]
    exact .here
  refine ⟨by decide, periodManager 1000000000, metric,
    reachable_sampleFiles (by decide +kernel), listed, period, by decide, long, ?_⟩
  exact (collect?_eq_none_iff _ _ _ _ _).2 ⟨metric, reached, fun fits =>
    absurd fits.1 (Nat.not_le.2 long)⟩

end AlarmManager

end Runbook
