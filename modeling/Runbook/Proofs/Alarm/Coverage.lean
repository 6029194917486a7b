import Runbook.Alarm.Service
import Runbook.Proofs.Alarm.Loading
import Runbook.Proofs.Alarm.Reachable
import Runbook.Proofs.Alarm.Template
import Runbook.Proofs.Table

/-!
# Which metrics the data check reaches

A data check owes one query for each metric of each alarm in the tracked templates, and an account
of those that have no datapoint (`Complete`). What it asks for are the metrics in the tables of the
templates, which hold one alarm for each name. So it is complete exactly where no two alarms of one
template have the same name (`complete_iff_distinct`). Keys of a document that differ in their tags
alone are read as one name.
-/

namespace Runbook

namespace AlarmMetrics

variable {entries others : List (String × List Metric)}

/-- The metrics of alarms one by one, each under the name of its alarm. -/
def listed (entries : List (String × List Metric)) : List (String × Metric) :=
  entries.flatMap fun entry => entry.2.map fun metric => (entry.1, metric)

/-- The alarms among the resources of a template with their metrics, in document order. -/
def resources (template : String) : List (String × List Metric) :=
  match Yaml.parse? template with
  | none => []
  | some root => (((root.get? "Resources").bind Yaml.asMapping).getD []).filterMap ofResource?

/-- The metrics of a template are a table of its alarms, if it has any. -/
theorem alarmMetrics_eq_ok_iff {template : String} {metrics : AlarmMetrics} :
    alarmMetrics template = .ok metrics ↔
      resources template ≠ [] ∧ metrics = Table.ofList (resources template) := by
  cases parsed : Yaml.parse? template with
  | none => simp [alarmMetrics, resources, parsed]
  | some root =>
      have table : ofTemplate root = Table.ofList (resources template) := by
        rw [resources, parsed]
        rfl
      simp only [alarmMetrics, parsed, table, List.isEmpty_iff, Table.entries_ofList_eq_nil_iff]
      split
      · simp [*]
      · rename_i some
        simp [some, eq_comm]

/-- A template has an alarm with a logical name and properties. -/
def HasAlarm (template name : String) (properties : Yaml) : Prop :=
  ∃ root entries entry, Yaml.parse? template = some root ∧
    (root.get? "Resources").bind Yaml.asMapping = some entries ∧ entry ∈ entries ∧
    entry.1.asString = some name ∧ (entry.2.get? "Type").bind Yaml.asString = some resourceType ∧
    entry.2.get? "Properties" = some properties

/-- An alarm is read of a resource of this type with properties, and it has a metric. -/
theorem exists_properties_of_ofResource? {resource : Yaml × Yaml} {entry : String × List Metric}
    (read : ofResource? resource = some entry) :
    ∃ properties, resource.1.asString = some entry.1 ∧
      (resource.2.get? "Type").bind Yaml.asString = some resourceType ∧
      resource.2.get? "Properties" = some properties ∧
      entry.2 = Metric.ofProperties properties ∧ entry.2 ≠ [] := by
  obtain ⟨name, named, read⟩ := Option.bind_eq_some_iff.1 read
  split at read
  · rename_i alarm
    obtain ⟨properties, given, read⟩ := Option.bind_eq_some_iff.1 read
    split at read
    · cases read
    · rename_i metrics filled
      cases read
      exact ⟨properties, named, alarm, given, rfl, filled⟩
  · cases read

/-- What is read of a template are the metrics of alarms that it has, none of them without any. -/
theorem exists_hasAlarm_of_mem_resources {template : String} {entry : String × List Metric}
    (member : entry ∈ resources template) :
    ∃ properties, HasAlarm template entry.1 properties ∧
      entry.2 = Metric.ofProperties properties ∧ entry.2 ≠ [] := by
  unfold resources at member
  split at member
  · cases member
  · rename_i root parsed
    obtain ⟨resource, listed, read⟩ := List.mem_filterMap.1 member
    obtain ⟨properties, named, alarm, given, metrics, filled⟩ :=
      exists_properties_of_ofResource? read
    cases list : (root.get? "Resources").bind Yaml.asMapping with
    | none => simp [list] at listed
    | some entries =>
        rw [list, Option.getD_some] at listed
        exact ⟨properties, ⟨root, entries, resource, parsed, list, listed, named, alarm, given⟩,
          metrics, filled⟩

/-- Each alarm that is read has a metric. -/
theorem ne_nil_of_mem_resources {template : String} {entry : String × List Metric}
    (member : entry ∈ resources template) : entry.2 ≠ [] := by
  obtain ⟨_, _, _, filled⟩ := exists_hasAlarm_of_mem_resources member
  exact filled

/-- Metrics are listed entry by entry. -/
theorem listed_append (entries others : List (String × List Metric)) :
    listed (entries ++ others) = listed entries ++ listed others :=
  List.flatMap_append

/-- Which metrics are listed does not depend on the order of the entries. -/
theorem listed_perm (perm : entries.Perm others) : (listed entries).Perm (listed others) :=
  perm.flatMap_right _

/-- No metric is in a table that the alarms it was made from do not have. -/
theorem length_listed_ofList_le (entries : List (String × List Metric)) :
    (listed (Table.ofList entries).entries).length ≤ (listed entries).length := by
  obtain ⟨lost, whole⟩ := Table.exists_lost entries
  have split := (listed_perm whole).length_eq
  rw [listed_append, List.length_append] at split
  omega

/-- A table that has all metrics of alarms was made from alarms with different names. -/
theorem distinct_of_length_listed_le (filled : ∀ entry ∈ entries, entry.2 ≠ [])
    (all : (listed entries).length ≤ (listed (Table.ofList entries).entries).length) :
    (entries.map Prod.fst).Nodup := by
  obtain ⟨lost, whole⟩ := Table.exists_lost entries
  have split := (listed_perm whole).length_eq
  rw [listed_append, List.length_append] at split
  have none : listed lost = [] := List.length_eq_zero_iff.1 (by omega)
  cases lost with
  | nil =>
      rw [List.append_nil] at whole
      exact (whole.map Prod.fst).nodup_iff.2 (Table.keys_nodup _)
  | cons entry rest =>
      have member : entry ∈ entries := whole.mem_iff.2 (by simp)
      have metrics : entry.2 ≠ [] := filled entry member
      simp [listed, metrics] at none

/-- The metrics under one name are those of the alarms with this name. -/
theorem filter_listed (name : String) :
    (listed entries).filter (fun item => item.1 = name) =
      listed (entries.filter fun entry => entry.1 = name) := by
  induction entries with
  | nil => rfl
  | cons entry rest ih =>
      have split : listed (entry :: rest) = listed [entry] ++ listed rest :=
        listed_append [entry] rest
      rw [split, List.filter_append, ih]
      by_cases here : entry.1 = name
      · simp [listed, List.filter_map, here, Function.comp_def]
      · simp [listed, List.filter_map, here, Function.comp_def]

/-- Alarms with different names can be picked by name from them in any order. -/
theorem filter_name_eq_of_perm (perm : entries.Perm others)
    (distinct : (entries.map Prod.fst).Nodup) (name : String) :
    (entries.filter fun entry => entry.1 = name) = others.filter fun entry => entry.1 = name := by
  -- At most one alarm has the name, so there is no order to compare.
  have single {alarms : List (String × List Metric)} (apart : (alarms.map Prod.fst).Nodup) :
      (alarms.filter fun entry => entry.1 = name).Pairwise fun _ _ => False :=
    List.pairwise_filter.2 ((List.pairwise_map.1 apart).imp fun differs first second =>
      differs ((of_decide_eq_true first).trans (of_decide_eq_true second).symm))
  exact List.Perm.eq_of_pairwise (fun _ _ _ _ below => below.elim) (single distinct)
    (single ((perm.map Prod.fst).nodup_iff.1 distinct)) (perm.filter _)

/-- A table of alarms with different names has the metrics of each under its name. -/
theorem filter_listed_ofList (distinct : (entries.map Prod.fst).Nodup) (name : String) :
    (listed (Table.ofList entries).entries).filter (fun item => item.1 = name) =
      (listed entries).filter (fun item => item.1 = name) := by
  rw [filter_listed, filter_listed,
    filter_name_eq_of_perm (Table.perm_entries_ofList distinct) distinct]

end AlarmMetrics

open AlarmMetrics

namespace AlarmServices

/-- Has a metric no datapoint? -/
def isSilent (services : AlarmServices) (metric : Metric) : Bool :=
  (services.datapoints.get? (metric.space, metric.name)).getD 0 = 0

/-- The services after queries. -/
def asked (services : AlarmServices) (queries : List MetricQuery) : AlarmServices :=
  { services with queries := services.queries ++ queries }

/-- The metrics under a name that have no datapoint. -/
def silentUnder (services : AlarmServices) (name : String) (items : List (String × Metric)) :
    List Metric :=
  (items.filter fun item => item.1 = name && services.isSilent item.2).map Prod.snd

/-- An account of metrics: under each name those without datapoints in their order, and no name
without any. -/
structure Tells (services : AlarmServices) (items : List (String × Metric))
    (found : AlarmMetrics) : Prop where
  lists : ∀ name, (found.get? name).getD [] = services.silentUnder name items
  filled : ∀ name, found.get? name ≠ some []

variable {services : AlarmServices} {items : List (String × Metric)} {found : AlarmMetrics}

/-- Services asked twice are as if asked once, one list after the other. -/
theorem asked_asked (first second : List MetricQuery) :
    (services.asked first).asked second = services.asked (first ++ second) := by
  simp only [asked, List.append_assoc]

/-- Queries do not make datapoints. -/
theorem tells_asked {queries : List MetricQuery} :
    (services.asked queries).Tells items found ↔ services.Tells items found :=
  ⟨fun ⟨lists, filled⟩ => ⟨lists, filled⟩, fun ⟨lists, filled⟩ => ⟨lists, filled⟩⟩

/-- The empty account tells of no metrics. -/
theorem tells_empty (services : AlarmServices) : services.Tells [] Table.empty :=
  ⟨fun _ => rfl, fun _ => by simp⟩

/-- What is silent under a name is so item by item. -/
theorem silentUnder_append (name : String) (others : List (String × Metric)) :
    services.silentUnder name (items ++ others) =
      services.silentUnder name items ++ services.silentUnder name others := by
  simp only [silentUnder, List.filter_append, List.map_append]

/-- What is under a name without datapoints is picked by name first. -/
theorem silentUnder_eq (name : String) : services.silentUnder name items =
    ((items.filter fun item => item.1 = name).filter fun item => services.isSilent item.2).map
      Prod.snd := by
  rw [silentUnder, List.filter_filter]
  simp only [Bool.and_comm]

/-- A metric with datapoints is not told of. -/
theorem Tells.heard (tells : services.Tells items found) {item : String × Metric}
    (heard : services.isSilent item.2 = false) : services.Tells (items ++ [item]) found where
  lists name := by
    rw [silentUnder_append, tells.lists name]
    simp [silentUnder, heard]
  filled := tells.filled

/-- A metric without datapoints is told of under its name, behind those that are there. -/
theorem Tells.silent (tells : services.Tells items found) {item : String × Metric}
    (silent : services.isSilent item.2 = true) :
    services.Tells (items ++ [item])
      (found.insert item.1 ((found.get? item.1).getD [] ++ [item.2])) where
  lists name := by
    rw [silentUnder_append, Table.get?_insert]
    by_cases here : name = item.1
    · rw [if_pos here, ← here, tells.lists name]
      simp [silentUnder, silent, here]
    · rw [if_neg here, tells.lists name]
      simp [silentUnder, silent, Ne.symm here]
  filled name := by
    rw [Table.get?_insert]
    split
    · simp
    · exact tells.filled name

end AlarmServices

namespace AlarmManager

/-- The query for a metric. -/
def query (now : Int) (lookback : Nat) (item : String × Metric) : MetricQuery :=
  ⟨item.2, now - window item.2 lookback, now⟩

/-- The metrics of the alarms in the templates of tracked alarms. -/
def watched (alarms : List DeployedAlarm) : List (String × Metric) :=
  alarms.flatMap fun alarm => listed (resources alarm.template)

/-- The metrics in the tables of the templates. -/
def readings (alarms : List DeployedAlarm) : List (String × Metric) :=
  alarms.flatMap fun alarm => listed (Table.ofList (resources alarm.template)).entries

/-- Why the metrics of a template cannot be read. -/
def unreadable? (alarm : DeployedAlarm) : Option AlarmError :=
  match alarmMetrics alarm.template with
  | .ok _ => none
  | .error error => some error

variable {services : AlarmServices} {items : List (String × Metric)} {found : AlarmMetrics}

/-- An alarm is readable exactly where the metrics of its template are. -/
theorem unreadable?_eq_none_iff {alarm : DeployedAlarm} :
    unreadable? alarm = none ↔ ∃ metrics, alarmMetrics alarm.template = .ok metrics := by
  rw [unreadable?]
  split <;> simp [*]

/-- An alarm is unreadable with the error that reading the metrics of its template ends in. -/
theorem unreadable?_eq_some_iff {alarm : DeployedAlarm} {error : AlarmError} :
    unreadable? alarm = some error ↔ alarmMetrics alarm.template = .error error := by
  rw [unreadable?]
  split <;> simp [*]

/-- The check asks once for each metric it is given, and tells of those without datapoints. -/
theorem exists_withoutData (now : Int) (lookback : Nat) (tells : services.Tells items found)
    (rest : List (String × Metric)) :
    ∃ next, withoutData AlarmServices.ports now lookback services found rest =
        (.ok next, services.asked (rest.map (query now lookback))) ∧
      services.Tells (items ++ rest) next := by
  induction rest generalizing services items found with
  | nil => exact ⟨found, by simp [withoutData, AlarmServices.asked], by simpa using tells⟩
  | cons item rest ih =>
      let after := services.asked [query now lookback item]
      have step : withoutData AlarmServices.ports now lookback services found (item :: rest) =
          withoutData AlarmServices.ports now lookback after
            (if services.isSilent item.2 = true then
              found.insert item.1 ((found.get? item.1).getD [] ++ [item.2])
            else found) rest := by
        simp only [withoutData, AlarmServices.ports, AlarmServices.sampleCount,
          AlarmServices.isSilent, decide_eq_true_eq]
        rfl
      have told : services.Tells (items ++ [item])
          (if services.isSilent item.2 = true then
            found.insert item.1 ((found.get? item.1).getD [] ++ [item.2])
          else found) := by
        split
        · rename_i silent
          exact tells.silent silent
        · rename_i heard
          exact tells.heard (by simpa using heard)
      obtain ⟨next, ran, all⟩ := ih (AlarmServices.tells_asked.2 told)
      rw [AlarmServices.asked_asked] at ran
      rw [AlarmServices.tells_asked, List.append_assoc] at all
      exact ⟨next, step.trans ran, all⟩

/-- The check goes on behind a template that can be read. -/
theorem exists_collectFrom_cons (now : Int) (lookback : Nat)
    (tells : services.Tells items found) {alarm : DeployedAlarm}
    (fine : unreadable? alarm = none) (rest : List DeployedAlarm) :
    ∃ between, (services.asked ((readings [alarm]).map (query now lookback))).Tells
        (items ++ readings [alarm]) between ∧
      collectFrom AlarmServices.ports now lookback services found (alarm :: rest) =
        collectFrom AlarmServices.ports now lookback
          (services.asked ((readings [alarm]).map (query now lookback))) between rest := by
  obtain ⟨metrics, parsed⟩ := unreadable?_eq_none_iff.1 fine
  have table : readings [alarm] = listed metrics.entries := by
    rw [(alarmMetrics_eq_ok_iff.1 parsed).2, readings, List.flatMap_singleton]
  obtain ⟨between, ran, told⟩ := exists_withoutData now lookback tells (listed metrics.entries)
  rw [table]
  refine ⟨between, AlarmServices.tells_asked.2 told, ?_⟩
  rw [listed] at ran ⊢
  simp only [collectFrom, parsed, ran]

/-- The readings of the first alarm stand before those of the others. -/
theorem readings_cons (alarm : DeployedAlarm) (rest : List DeployedAlarm) :
    readings (alarm :: rest) = readings [alarm] ++ readings rest := by
  simp only [readings, List.flatMap_cons, List.flatMap_nil, List.append_nil]

/-- Where all templates can be read, the check asks for the metrics in their tables. -/
theorem exists_collectFrom (now : Int) (lookback : Nat) (tells : services.Tells items found)
    {alarms : List DeployedAlarm} (read : alarms.findSome? unreadable? = none) :
    ∃ next, collectFrom AlarmServices.ports now lookback services found alarms =
        (.ok next, services.asked ((readings alarms).map (query now lookback))) ∧
      services.Tells (items ++ readings alarms) next := by
  induction alarms generalizing services items found with
  | nil =>
      exact ⟨found, by simp [collectFrom, readings, AlarmServices.asked],
        by simpa [readings] using tells⟩
  | cons alarm rest ih =>
      rw [List.findSome?_cons] at read
      split at read
      · cases read
      · rename_i fine
        obtain ⟨between, told, step⟩ :=
          exists_collectFrom_cons now lookback tells fine rest
        obtain ⟨next, ran, all⟩ := ih told read
        rw [AlarmServices.asked_asked, ← List.map_append, ← readings_cons] at ran
        rw [AlarmServices.tells_asked, List.append_assoc, ← readings_cons] at all
        exact ⟨next, step.trans ran, all⟩

/-- The first template that cannot be read ends the check. -/
theorem collectFrom_eq_error (now : Int) (lookback : Nat) (tells : services.Tells items found)
    {alarms : List DeployedAlarm} {error : AlarmError}
    (first : alarms.findSome? unreadable? = some error) :
    (collectFrom AlarmServices.ports now lookback services found alarms).1 = .error error := by
  induction alarms generalizing services items found with
  | nil => cases first
  | cons alarm rest ih =>
      rw [List.findSome?_cons] at first
      split at first
      · rename_i cause reason
        cases first
        rw [collectFrom, unreadable?_eq_some_iff.1 reason]
      · rename_i fine
        obtain ⟨between, told, step⟩ :=
          exists_collectFrom_cons now lookback tells fine rest
        rw [step]
        exact ih told first

/-- What a data check owes: one query for each metric of each alarm in the templates, all up to one
time, and an account of those metrics. -/
structure Complete (manager : AlarmManager) (services : AlarmServices) (now : Int) (lookback : Nat)
    (found : AlarmMetrics) (after : AlarmServices) : Prop where
  asked : ∃ queries, after.queries = services.queries ++ queries ∧
    queries.Perm ((watched manager.deployed.values).map (query now lookback))
  told : services.Tells (watched manager.deployed.values) found

/-- In every template the alarms have different names. -/
def Distinct (alarms : List DeployedAlarm) : Prop :=
  ∀ alarm ∈ alarms, ((resources alarm.template).map Prod.fst).Nodup

variable {alarms : List DeployedAlarm}

/-- No more is read than watched: a table keeps one entry of a name. -/
theorem length_readings_le (alarms : List DeployedAlarm) :
    (readings alarms).length ≤ (watched alarms).length := by
  induction alarms with
  | nil => exact Nat.le_refl _
  | cons alarm rest ih =>
      have here := length_listed_ofList_le (resources alarm.template)
      simp only [readings, watched, List.flatMap_cons, List.length_append] at ih ⊢
      omega

/-- The tables of templates have all metrics only where the alarms in each have different names. -/
theorem distinct_of_length_readings (all : (readings alarms).length = (watched alarms).length) :
    Distinct alarms := by
  induction alarms with
  | nil => exact fun _ member => by cases member
  | cons alarm rest ih =>
      have here := length_listed_ofList_le (resources alarm.template)
      have later := length_readings_le rest
      simp only [readings, watched, List.flatMap_cons, List.length_append] at ih later all
      have enough : (listed (resources alarm.template)).length ≤
          (listed (Table.ofList (resources alarm.template)).entries).length := by omega
      have whole := distinct_of_length_listed_le
        (fun _ member => ne_nil_of_mem_resources member) enough
      intro other member
      rcases List.mem_cons.1 member with rfl | member
      · exact whole
      · exact ih (by omega) other member

/-- Where every template gives its alarms different names, all that is watched is read. -/
theorem Distinct.perm (distinct : Distinct alarms) : (readings alarms).Perm (watched alarms) :=
  List.Perm.flatMap_left alarms fun alarm member =>
    listed_perm (Table.perm_entries_ofList (distinct alarm member)).symm

/-- Where names differ in each template, the metrics under a name are in the tables in their
order. -/
theorem Distinct.silentUnder_eq (distinct : Distinct alarms) (name : String) :
    services.silentUnder name (readings alarms) = services.silentUnder name (watched alarms) := by
  have same : (readings alarms).filter (fun item => item.1 = name) =
      (watched alarms).filter fun item => item.1 = name := by
    simp only [readings, watched, List.filter_flatMap]
    exact List.flatMap_congr fun alarm member =>
      filter_listed_ofList (distinct alarm member) name
  rw [AlarmServices.silentUnder_eq, same, AlarmServices.silentUnder_eq]

/-- The data check fails exactly where a template cannot be read, with the reason of the first one.
Otherwise it asks once for each metric in the tables of the templates and tells of those without
datapoints. This is all it owes exactly where in each template the alarms have different names. -/
theorem complete_iff_distinct (manager : AlarmManager) (services : AlarmServices) (now : Int)
    (lookback : Nat) :
    let run := collectWithoutData AlarmServices.ports manager services now lookback
    (∀ error, run.1 = .error error ↔ ∃ before alarm behind,
      manager.deployed.values = before ++ alarm :: behind ∧
        (∀ earlier ∈ before, ∃ metrics, alarmMetrics earlier.template = .ok metrics) ∧
        alarmMetrics alarm.template = .error error) ∧
      ∀ found, run.1 = .ok found →
        run.2 = services.asked ((readings manager.deployed.values).map (query now lookback)) ∧
        services.Tells (readings manager.deployed.values) found ∧
        (Complete manager services now lookback found run.2 ↔
          Distinct manager.deployed.values) := by
  intro run
  have first (error : AlarmError) :
      manager.deployed.values.findSome? unreadable? = some error ↔ ∃ before alarm behind,
        manager.deployed.values = before ++ alarm :: behind ∧
          (∀ earlier ∈ before, ∃ metrics, alarmMetrics earlier.template = .ok metrics) ∧
          alarmMetrics alarm.template = .error error := by
    simp only [List.findSome?_eq_some_iff, unreadable?_eq_some_iff, unreadable?_eq_none_iff,
      and_comm]
  cases read : manager.deployed.values.findSome? unreadable? with
  | some cause =>
      have ended : run.1 = .error cause :=
        collectFrom_eq_error now lookback (AlarmServices.tells_empty services) read
      refine ⟨fun error => ?_, fun found ok => ?_⟩
      · rw [← first, read, ended, Option.some.injEq, Except.error.injEq]
      · rw [ended] at ok
        cases ok
  | none =>
      obtain ⟨next, ran, told⟩ :=
        exists_collectFrom now lookback (AlarmServices.tells_empty services) read
      have run_eq : run = _ := ran
      rw [List.nil_append] at told
      rw [run_eq]
      refine ⟨fun error => ?_, fun found ok => ?_⟩
      · rw [← first, read]
        simp
      · cases ok
        refine ⟨rfl, told, fun complete => ?_, fun distinct => ⟨?_, ?_, told.filled⟩⟩
        · obtain ⟨queries, same, perm⟩ := complete.asked
          have lengths := perm.length_eq
          rw [← List.append_cancel_left same, List.length_map, List.length_map] at lengths
          exact distinct_of_length_readings lengths
        · exact ⟨_, rfl, distinct.perm.map _⟩
        · intro name
          rw [told.lists, distinct.silentUnder_eq]

/-- A template with one alarm for each key and metric. -/
def sampleTemplate (alarms : List (String × String)) : String :=
  let alarm (key metric : String) : String :=
    key ++ ": \x7bType: AWS::CloudWatch::Alarm, Properties: \x7bNamespace: N, MetricName: " ++
      metric ++ "\x7d\x7d"
  "Resources: \x7b" ++ ", ".intercalate (alarms.map fun entry => alarm entry.1 entry.2) ++ "\x7d"

/-- Two stacks have one template, with an alarm of the same name in both. -/
theorem complete_two_stacks :
    let alarm (id : String) : DeployedAlarm :=
      ⟨id, "rds:alarm:cpu:1", id, sampleTemplate [("Cpu", "Load")]⟩
    let deployed := (Table.empty.insert "1" (alarm "1")).insert "2" (alarm "2")
    ∃ found after, collectWithoutData AlarmServices.ports ⟨sampleSettings, deployed, 2⟩
        AlarmServices.empty 1000 2 = (.ok found, after) ∧
      (watched deployed.values).map (fun item => (item.1, item.2.name)) =
        [("Cpu", "Load"), ("Cpu", "Load")] ∧
      Complete ⟨sampleSettings, deployed, 2⟩ AlarmServices.empty 1000 2 found after := by
  intro alarm deployed
  have names : (resources (sampleTemplate [("Cpu", "Load")])).map
      (fun entry => (entry.1, entry.2.map Metric.name)) = [("Cpu", ["Load"])] := by
    decide +kernel
  obtain ⟨metric, read, named⟩ : ∃ metric : Metric,
      resources (sampleTemplate [("Cpu", "Load")]) = [("Cpu", [metric])] ∧
        metric.name = "Load" := by
    simpa [List.map_eq_cons_iff, and_assoc] using names
  have values : deployed.values = [alarm "1", alarm "2"] := by decide
  have tables (id : String) : unreadable? (alarm id) = none :=
    unreadable?_eq_none_iff.2 ⟨_, alarmMetrics_eq_ok_iff.2 ⟨by simp [alarm, read], rfl⟩⟩
  have distinct : Distinct deployed.values := by
    simp [Distinct, values, alarm, read]
  obtain ⟨found, ran, -⟩ := exists_collectFrom 1000 2
    (AlarmServices.tells_empty AlarmServices.empty) (show deployed.values.findSome? _ = none by
      simp [values, tables])
  refine ⟨found, _, ran, by simp [watched, listed, values, alarm, read, named], ?_⟩
  obtain ⟨after, -, complete⟩ := (complete_iff_distinct ⟨sampleSettings, deployed, 2⟩
    AlarmServices.empty 1000 2).2 found (congrArg Prod.fst ran)
  rw [after] at complete
  exact complete.2 distinct

/-- A template without a dollar sign is deployed as it is, as the first alarm of a manager. -/
theorem reachable_sampleFiles {template : String} (plain : '$' ∉ template.toList) :
    Reachable sampleSettings ⟨sampleSettings, Table.empty.insert "1"
      ⟨"1", "rds:alarm:cpu:1", "rds-alarm-cpu-1-ab12cd34-1", template⟩, 1⟩ := by
  have closed : ¬ AlarmTemplate.opener <:+: template.toList := fun inside =>
    plain (inside.subset (List.mem_cons_self (a := '$')))
  have unbound : AlarmTemplate.unbound template Table.empty = [] := by
    simp [AlarmTemplate.unbound, AlarmTemplate.variableNames,
      AlarmTemplate.bodies_eq_nil_of_no_opener closed, sortedDistinct, Table.ofList, Table.keys,
      Table.empty]
  have deployment : deploy AlarmServices.ports (sampleFiles template) (new sampleSettings)
      AlarmServices.empty "rds:alarm:cpu:1" Table.empty none = (.ok "1", ⟨sampleSettings,
        Table.empty.insert "1" ⟨"1", "rds:alarm:cpu:1", "rds-alarm-cpu-1-ab12cd34-1", template⟩, 1⟩,
        (bringUp AlarmServices.ports AlarmServices.empty "bucket" "rds-alarm-cpu-1-ab12cd34-1"
          template).2) := by
    rw [deploy_sampleFiles_new AlarmServices.ports AlarmServices.empty
      (renderTemplate_sampleFiles_of_unbound unbound)]
    rfl
  exact Reachable.start.deploy AlarmServices.ports _ _ _ none deployment

/-- Of two alarms whose keys differ in a tag the first is not looked at. -/
theorem incomplete_when_names_meet :
    ∃ manager found after, Reachable sampleSettings manager ∧
      collectWithoutData AlarmServices.ports manager AlarmServices.empty 1000 2 =
        (.ok found, after) ∧
      (watched manager.deployed.values).map (fun item => (item.1, item.2.name)) =
        [("A", "First"), ("A", "Second")] ∧
      after.queries.map (fun query => query.metric.name) = ["Second"] ∧
      ¬ Complete manager AlarmServices.empty 1000 2 found after := by
  let template := sampleTemplate [("A", "First"), ("!Old A", "Second")]
  have names : (resources template).map (fun entry => (entry.1, entry.2.map Metric.name)) =
      [("A", ["First"]), ("A", ["Second"])] := by
    decide +kernel
  obtain ⟨second, first, read, firstName, secondName⟩ : ∃ second first : Metric,
      resources template = [("A", [first]), ("A", [second])] ∧
        first.name = "First" ∧ second.name = "Second" := by
    simpa [List.map_eq_cons_iff, and_assoc] using names
  let alarm : DeployedAlarm := ⟨"1", "rds:alarm:cpu:1", "rds-alarm-cpu-1-ab12cd34-1", template⟩
  let deployed := Table.empty.insert "1" alarm
  have reachable : Reachable sampleSettings ⟨sampleSettings, deployed, 1⟩ :=
    reachable_sampleFiles (by decide +kernel)
  have values : deployed.values = [alarm] := rfl
  have table : unreadable? alarm = none :=
    unreadable?_eq_none_iff.2 ⟨_, alarmMetrics_eq_ok_iff.2 ⟨by simp [alarm, read], rfl⟩⟩
  have owed : watched deployed.values = [("A", first), ("A", second)] := by
    simp [watched, listed, values, alarm, read]
  have asked : readings deployed.values = [("A", second)] := by
    simp [readings, listed, values, alarm, read, Table.ofList, Table.empty, Table.insert,
      insertEntry, Ordered.irrefl]
  obtain ⟨found, ran, -⟩ := exists_collectFrom 1000 2
    (AlarmServices.tells_empty AlarmServices.empty) (show deployed.values.findSome? _ = none by
      simp [values, table])
  refine ⟨⟨sampleSettings, deployed, 1⟩, found, _, reachable, ran,
    by simp [owed, firstName, secondName], ?_, ?_⟩
  · simp [asked, AlarmServices.asked, AlarmServices.empty, query, secondName]
  · intro complete
    obtain ⟨queries, same, perm⟩ := complete.asked
    have lengths := perm.length_eq
    rw [← List.append_cancel_left same, asked, owed] at lengths
    cases lengths

end AlarmManager

end Runbook
