import Runbook.Proofs.Alarm.Coverage
import Runbook.Proofs.Yaml.Equality

/-!
# The dimensions of a metric

A metric is asked for with its dimensions, so one that is lost on the way makes it another metric.
What is read of a list of dimensions whose items have different names are the values that are
scalars under their tags, each under its own name (`WellNamed.get?_dimensions`). So there is one
entry for each item exactly where each value is such (`one_dimension_per_item_iff`). A function
written as a tag, such as `!Ref Database`, is one; the same function written as a mapping is not.
-/

namespace Runbook

/-- A value without a tag that is neither null nor a collection. -/
inductive Yaml.IsScalar : Yaml → Prop where
  | string (text : String) : IsScalar (.string text)
  | number (number : Yaml.Number) : IsScalar (.number number)
  | bool (value : Bool) : IsScalar (.bool value)

namespace Metric

variable {item source properties : Yaml} {items : List Yaml} {metric : Metric} {key text : String}

/-- A text is read of a value exactly where it is a scalar under its tags. -/
theorem isSome_scalar?_iff (value : Yaml) :
    (scalar? value).isSome = true ↔ value.untagged.IsScalar := by
  fun_induction scalar? value with
  | case1 text => exact iff_of_true rfl (.string text)
  | case2 number => exact iff_of_true rfl (.number number)
  | case3 value => exact iff_of_true rfl (.bool value)
  | case4 tag value ih => rw [Option.isSome_map, ih, Yaml.untagged]
  | case5 value text number bool tag =>
      refine iff_of_false (by simp) fun scalar => ?_
      cases value with
      | null => cases scalar
      | sequence => cases scalar
      | mapping => cases scalar
      | string value => exact text value rfl
      | number value => exact number value rfl
      | bool value => exact bool value rfl
      | tagged name value => exact tag name value rfl

/-! ### Lists of dimensions -/

/-- The name of an item in a list of dimensions. -/
def nameOf? (item : Yaml) : Option String := (item.get? "Name").bind scalar?

/-- The text of an item's value. -/
def valueOf? (item : Yaml) : Option String := (item.get? "Value").bind scalar?

/-- The items of the list of dimensions in the description of a metric. -/
def dimensionItems (source : Yaml) : List Yaml :=
  ((source.get? "Dimensions").bind Yaml.asSequence).getD []

/-- Each item has a name and a value, and no two items have the same name. -/
structure WellNamed (items : List Yaml) : Prop where
  named : ∀ item ∈ items, (nameOf? item).isSome = true
  valued : ∀ item ∈ items, (item.get? "Value").isSome = true
  distinct : (items.map nameOf?).Nodup

/-- A metric has one dimension for each item, under its name, and no other. -/
def OnePerItem (metric : Metric) (items : List Yaml) : Prop :=
  (metric.dimensions.keys.map some).Perm (items.map nameOf?)

/-- Each value that an item has is a scalar under its tags. -/
def AllScalar (items : List Yaml) : Prop :=
  ∀ item ∈ items, ∀ value, item.get? "Value" = some value → value.untagged.IsScalar

/-- A dimension is read of an item where both its texts are. -/
theorem dimension?_eq_some_iff :
    dimension? item = some (key, text) ↔ nameOf? item = some key ∧ valueOf? item = some text := by
  simp only [dimension?, nameOf?, valueOf?, bind, pure, Option.bind_eq_some_iff,
    Option.some.injEq, Prod.mk.injEq]
  constructor
  · rintro ⟨name, named, _, spelled, value, valued, _, written, rfl, rfl⟩
    exact ⟨⟨name, named, spelled⟩, value, valued, written⟩
  · rintro ⟨⟨name, named, spelled⟩, value, valued, written⟩
    exact ⟨name, named, _, spelled, value, valued, _, written, rfl, rfl⟩

/-- The name of a dimension that is read is that of its item. -/
theorem nameOf?_of_dimension? {dimension : String × String}
    (read : dimension? item = some dimension) : nameOf? item = some dimension.1 :=
  (dimension?_eq_some_iff.1 read).1

/-- Of an item with a name and a value a dimension is read where the value is a scalar. -/
theorem isSome_dimension?_iff (named : (nameOf? item).isSome = true)
    (valued : (item.get? "Value").isSome = true) : (dimension? item).isSome = true ↔
      ∀ value, item.get? "Value" = some value → value.untagged.IsScalar := by
  obtain ⟨key, named⟩ := Option.isSome_iff_exists.1 named
  obtain ⟨value, valued⟩ := Option.isSome_iff_exists.1 valued
  have read : (dimension? item).isSome = true ↔ (valueOf? item).isSome = true := by
    simp [Option.isSome_iff_exists, dimension?_eq_some_iff, named]
  rw [read, valueOf?, valued, Option.bind_some, isSome_scalar?_iff]
  simp

/-- The names of the dimensions that are read are those of the items they are read of. -/
theorem names_filterMap (items : List Yaml) :
    ((items.filterMap dimension?).map Prod.fst).map some =
      (items.filter fun item => (dimension? item).isSome).map nameOf? := by
  induction items with
  | nil => rfl
  | cons item rest ih =>
      cases read : dimension? item with
      | none => simpa [read] using ih
      | some dimension => simpa [read, nameOf?_of_dimension? read] using ih

/-- Items with different names give dimensions with different names. -/
theorem WellNamed.distinct_read (named : WellNamed items) :
    ((items.filterMap dimension?).map Prod.fst).Nodup := by
  have apart : (((items.filterMap dimension?).map Prod.fst).map some).Nodup := by
    rw [names_filterMap]
    exact (List.filter_sublist.map nameOf?).nodup named.distinct
  exact apart.of_map some

/-! ### What is read of them -/

/-- Where an alarm's metric is described: in the alarm's own properties or, if these describe no
metric, in one of the entries in its list of metrics. -/
inductive DescribedIn (metric : Metric) (properties : Yaml) : Yaml → Prop where
  | own (read : ofYaml? properties (properties.get? "Period") = some metric) :
      DescribedIn metric properties properties
  | listed {entries : List Yaml} {entry stat source : Yaml}
      (none : ofYaml? properties (properties.get? "Period") = none)
      (list : (properties.get? "Metrics").bind Yaml.asSequence = some entries)
      (member : entry ∈ entries) (statistic : entry.get? "MetricStat" = some stat)
      (described : stat.get? "Metric" = some source)
      (read : ofYaml? source (stat.get? "Period") = some metric) :
      DescribedIn metric properties source

/-- Each metric of an alarm is described somewhere in its properties. -/
theorem exists_describedIn (member : metric ∈ ofProperties properties) :
    ∃ source, metric.DescribedIn properties source := by
  unfold ofProperties at member
  split at member
  · rename_i read
    obtain rfl := List.mem_singleton.1 member
    exact ⟨properties, .own read⟩
  · rename_i none
    obtain ⟨entry, listed, read⟩ := List.mem_filterMap.1 member
    cases list : (properties.get? "Metrics").bind Yaml.asSequence with
    | none => simp [list] at listed
    | some entries =>
        rw [list, Option.getD_some] at listed
        obtain ⟨stat, statistic, read⟩ := Option.bind_eq_some_iff.1 read
        obtain ⟨source, described, read⟩ := Option.bind_eq_some_iff.1 read
        exact ⟨source, .listed none list listed statistic described read⟩

/-- The dimensions of a metric are a table of those read of its description's items. -/
theorem dimensions_of_ofYaml? {period : Option Yaml} (read : ofYaml? source period = some metric) :
    metric.dimensions = Table.ofList ((dimensionItems source).filterMap dimension?) := by
  simp only [ofYaml?, bind, pure, Option.bind_eq_some_iff, Option.some.injEq] at read
  obtain ⟨_, _, _, _, _, _, _, _, rfl⟩ := read
  rfl

/-- The dimensions of a described metric are the table of the items that are read. -/
theorem DescribedIn.dimensions_eq (described : metric.DescribedIn properties source) :
    metric.dimensions = Table.ofList ((dimensionItems source).filterMap dimension?) := by
  cases described with
  | own read => exact dimensions_of_ofYaml? read
  | listed _ _ _ _ _ read => exact dimensions_of_ofYaml? read

/-- Where the items have distinct names, each one that is read is a dimension, and there are no
others. -/
theorem WellNamed.perm_dimensions (named : WellNamed (dimensionItems source))
    (described : metric.DescribedIn properties source) :
    ((dimensionItems source).filterMap dimension?).Perm metric.dimensions.entries := by
  rw [described.dimensions_eq]
  exact Table.perm_entries_ofList named.distinct_read

/-- A metric has the text of each item's value under the item's name, where there is such a text,
and has nothing else. -/
theorem WellNamed.get?_dimensions (named : WellNamed (dimensionItems source))
    (described : metric.DescribedIn properties source) :
    metric.dimensions.get? key = some text ↔
      ∃ item ∈ dimensionItems source, nameOf? item = some key ∧ valueOf? item = some text := by
  rw [Table.get?_eq_some_iff, ← (named.perm_dimensions described).mem_iff, List.mem_filterMap]
  simp only [dimension?_eq_some_iff]

/-- A metric has one dimension for each item where each value is a scalar. -/
theorem WellNamed.onePerItem_iff (named : WellNamed (dimensionItems source))
    (described : metric.DescribedIn properties source) :
    metric.OnePerItem (dimensionItems source) ↔ AllScalar (dimensionItems source) := by
  have names : (metric.dimensions.keys.map some).Perm
      (((dimensionItems source).filter fun item => (dimension? item).isSome).map nameOf?) := by
    rw [← names_filterMap]
    exact (((named.perm_dimensions described).map Prod.fst).map some).symm
  have whole : metric.OnePerItem (dimensionItems source) ↔
      ∀ item ∈ dimensionItems source, (dimension? item).isSome = true := by
    constructor
    · intro all
      have lengths := (names.symm.trans all).length_eq
      rw [List.length_map, List.length_map] at lengths
      exact List.length_filter_eq_length_iff.1 lengths
    · intro all
      rw [List.filter_eq_self.2 all] at names
      exact names
  rw [whole]
  exact forall₂_congr fun item member =>
    isSome_dimension?_iff (named.named item member) (named.valued item member)

end Metric

namespace AlarmMetrics

open Runbook.Metric

variable {template name : String} {metrics : AlarmMetrics} {watched : List Metric}
  {metric : Metric}

/-- A metric is described in a value that belongs to an alarm of a template. -/
def Describes (template name : String) (source : Yaml) (metric : Metric) : Prop :=
  ∃ properties, HasAlarm template name properties ∧ metric.DescribedIn properties source

/-- The metrics under a name are those of an alarm's properties. -/
theorem exists_hasAlarm (read : alarmMetrics template = .ok metrics)
    (known : metrics.get? name = some watched) :
    ∃ properties, HasAlarm template name properties ∧ watched = ofProperties properties := by
  obtain ⟨-, rfl⟩ := alarmMetrics_eq_ok_iff.1 read
  obtain ⟨properties, alarm, metrics, -⟩ :=
    exists_hasAlarm_of_mem_resources (Table.subset_of_ofList _ (Table.get?_eq_some_iff.1 known))
  exact ⟨properties, alarm, metrics⟩

/-- Each metric of a template that can be read is described in it. Where the items of a description
are well named, the metric has the texts of their values under their names and nothing else, and it
has one dimension for each item exactly where each value is a scalar under its tags. -/
theorem one_dimension_per_item_iff (read : alarmMetrics template = .ok metrics)
    (known : metrics.get? name = some watched) (member : metric ∈ watched) :
    (∃ source, Describes template name source metric) ∧
      ∀ source, Describes template name source metric → WellNamed (dimensionItems source) →
        (∀ key text, metric.dimensions.get? key = some text ↔
          ∃ item ∈ dimensionItems source, nameOf? item = some key ∧ valueOf? item = some text) ∧
        (metric.OnePerItem (dimensionItems source) ↔ AllScalar (dimensionItems source)) := by
  constructor
  · obtain ⟨properties, alarm, rfl⟩ := exists_hasAlarm read known
    obtain ⟨source, described⟩ := exists_describedIn member
    exact ⟨source, properties, alarm, described⟩
  · rintro source ⟨properties, -, described⟩ named
    exact ⟨fun key text => named.get?_dimensions described, named.onePerItem_iff described⟩

/-! ### A function as a value -/

/-- A template with an alarm whose metric has one dimension, with a value as it is written. -/
def templateOn (value : String) : String :=
  "Resources:\n  Cpu:\n    Type: AWS::CloudWatch::Alarm\n    Properties:\n" ++
    "      Namespace: AWS/RDS\n      MetricName: CPUUtilization\n      Dimensions:\n" ++
    "        - Name: DBInstanceIdentifier\n          Value: " ++ value ++ "\n"

/-- The properties of the alarm. -/
def propertiesOn (value : Yaml) : Yaml :=
  .mapping [(.string "Namespace", .string "AWS/RDS"),
    (.string "MetricName", .string "CPUUtilization"),
    (.string "Dimensions", .sequence [.mapping
      [(.string "Name", .string "DBInstanceIdentifier"), (.string "Value", value)]])]

/-- What the template denotes. -/
def rootOn (value : Yaml) : Yaml :=
  .mapping [(.string "Resources", .mapping [(.string "Cpu", .mapping
    [(.string "Type", .string resourceType), (.string "Properties", propertiesOn value)])])]

/-- The metric of the alarm. -/
def metricOn (value : Yaml) : Metric :=
  ⟨"AWS/RDS", "CPUUtilization",
    Table.ofList ((scalar? value).toList.map fun text => ("DBInstanceIdentifier", text)),
    defaultPeriod⟩

section

variable {text : String} {value : Yaml}

/-- These properties have one item, with this value. -/
theorem dimensionItems_propertiesOn (value : Yaml) : dimensionItems (propertiesOn value) =
    [.mapping [(.string "Name", .string "DBInstanceIdentifier"), (.string "Value", value)]] := by
  simp [dimensionItems, propertiesOn, Yaml.get?, Yaml.asMapping, Yaml.asSequence, Yaml.untagged,
    Yaml.lookupEntry]

/-- One item alone has a name of its own. -/
theorem wellNamed_propertiesOn (value : Yaml) :
    WellNamed (dimensionItems (propertiesOn value)) := by
  rw [dimensionItems_propertiesOn]
  constructor <;>
    simp [nameOf?, scalar?, Yaml.get?, Yaml.asMapping, Yaml.untagged, Yaml.lookupEntry]

/-- These properties describe a metric, whatever the value of its dimension. -/
theorem ofYaml?_propertiesOn (value : Yaml) :
    ofYaml? (propertiesOn value) ((propertiesOn value).get? "Period") = some (metricOn value) := by
  cases read : scalar? value <;>
    simp [ofYaml?, propertiesOn, metricOn, dimension?, periodOf, scalar?, read, Yaml.get?,
      Yaml.asMapping, Yaml.asSequence, Yaml.untagged, Yaml.lookupEntry]

/-- The template describes this metric under its one resource. -/
theorem describes_templateOn (parsed : Yaml.parse? (templateOn text) = some (rootOn value)) :
    Describes (templateOn text) "Cpu" (propertiesOn value) (metricOn value) :=
  ⟨propertiesOn value, ⟨rootOn value, _, _, parsed, rfl, List.mem_singleton.2 rfl, rfl, rfl, rfl⟩,
    .own (ofYaml?_propertiesOn value)⟩

/-- The metrics of the template are this one. -/
theorem alarmMetrics_templateOn (parsed : Yaml.parse? (templateOn text) = some (rootOn value)) :
    alarmMetrics (templateOn text) = .ok (Table.empty.insert "Cpu" [metricOn value]) := by
  have metrics : ofProperties (propertiesOn value) = [metricOn value] := by
    simp only [ofProperties, ofYaml?_propertiesOn]
  have alarms : resources (templateOn text) = [("Cpu", [metricOn value])] := by
    simp [resources, parsed, rootOn, List.filterMap, ofResource?, metrics, Yaml.get?,
      Yaml.asMapping, Yaml.asString, Yaml.untagged, Yaml.lookupEntry]
  exact alarmMetrics_eq_ok_iff.2 ⟨by simp [alarms], by rw [alarms]; rfl⟩

end

/-- A function written as a tag is kept. -/
theorem one_dimension_per_item_tag :
    let value : Yaml := .tagged "Ref" (.string "Database")
    alarmMetrics (templateOn "!Ref Database") = .ok (Table.empty.insert "Cpu" [metricOn value]) ∧
      (metricOn value).OnePerItem (dimensionItems (propertiesOn value)) ∧
      (metricOn value).dimensions.get? "DBInstanceIdentifier" = some "!Ref Database" := by
  intro value
  have parsed : Yaml.parse? (templateOn "!Ref Database") = some (rootOn value) := by decide +kernel
  have read := alarmMetrics_templateOn parsed
  obtain ⟨-, whole⟩ := one_dimension_per_item_iff read (Table.get?_insert_self _ _ _)
    (List.mem_singleton.2 rfl)
  obtain ⟨content, one⟩ := whole _ (describes_templateOn parsed) (wellNamed_propertiesOn value)
  rw [dimensionItems_propertiesOn] at content one ⊢
  refine ⟨read, one.2 ?_, (content _ _).2 ⟨_, List.mem_singleton.2 rfl, by decide, by decide⟩⟩
  simp only [AllScalar, List.mem_singleton, forall_eq]
  rintro _ given
  cases given
  exact .string _

/-- The same function written as a mapping is dropped. -/
theorem dimension_lost :
    let value : Yaml := .mapping [(.string "Ref", .string "Database")]
    alarmMetrics (templateOn "\x7bRef: Database\x7d") =
        .ok (Table.empty.insert "Cpu" [metricOn value]) ∧
      Describes (templateOn "\x7bRef: Database\x7d") "Cpu" (propertiesOn value) (metricOn value) ∧
      WellNamed (dimensionItems (propertiesOn value)) ∧
      (dimensionItems (propertiesOn value)).length = 1 ∧
      (metricOn value).dimensions.entries = [] ∧
      ¬ (metricOn value).OnePerItem (dimensionItems (propertiesOn value)) := by
  intro value
  have parsed : Yaml.parse? (templateOn "\x7bRef: Database\x7d") = some (rootOn value) := by
    decide +kernel
  have items := dimensionItems_propertiesOn value
  refine ⟨alarmMetrics_templateOn parsed, describes_templateOn parsed,
    wellNamed_propertiesOn value, congrArg List.length items, rfl, fun one => ?_⟩
  have lengths := one.length_eq
  rw [items] at lengths
  cases lengths

end AlarmMetrics

end Runbook
