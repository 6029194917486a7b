import Runbook.Json.Basic
import Runbook.Table
import Runbook.Yaml.Reader

/-!
# The metrics of a template

Each alarm resource of a template watches one metric, given by its own properties, or those of
its list of metrics. Values that are no plain scalars do not count, except that a tagged scalar
counts as its tag and text.
-/

namespace Runbook

/-- A metric that an alarm watches. -/
structure Metric where
  space : String
  name : String
  dimensions : Table String String
  period : Nat

namespace Metric

/-- The period where a template gives none, in seconds. -/
def defaultPeriod : Nat := 60

/-- The text of a scalar. -/
def scalar? : Yaml → Option String
  | .string text => some text
  | .number number => some number.text
  | .bool value => some (if value then "true" else "false")
  | .tagged tag value => (scalar? value).map fun text => "!" ++ tag ++ " " ++ text
  | _ => none

/-- A dimension, where its name and value are scalars. -/
def dimension? (item : Yaml) : Option (String × String) := do
  return (← scalar? (← item.get? "Name"), ← scalar? (← item.get? "Value"))

/-- The period that a value gives, in seconds. -/
def periodOf (value : Option Yaml) : Nat :=
  (value.bind fun value =>
    (scalar? value).bind fun text => Text.natural? Text.maxHalfWord text.toList).getD defaultPeriod

/-- The metric that a mapping describes. -/
def ofYaml? (value : Yaml) (period : Option Yaml) : Option Metric := do
  let space ← scalar? (← value.get? "Namespace")
  let name ← scalar? (← value.get? "MetricName")
  let items := ((value.get? "Dimensions").bind Yaml.asSequence).getD []
  return ⟨space, name, Table.ofList (items.filterMap dimension?), periodOf period⟩

/-- The metric of an entry in a list of metrics. -/
def ofEntry? (entry : Yaml) : Option Metric := do
  let stat ← entry.get? "MetricStat"
  ofYaml? (← stat.get? "Metric") (stat.get? "Period")

/-- The metrics that an alarm's properties describe. -/
def ofProperties (properties : Yaml) : List Metric :=
  match ofYaml? properties (properties.get? "Period") with
  | some metric => [metric]
  | none => (((properties.get? "Metrics").bind Yaml.asSequence).getD []).filterMap ofEntry?

/-- The namespace and name of a metric. -/
def label (metric : Metric) : String := metric.space ++ "/" ++ metric.name

/-- The metric as a JSON object. -/
def toJson (metric : Metric) : Json :=
  Json.ofMembers
    [("namespace", .string metric.space),
      ("metric_name", .string metric.name),
      ("dimensions",
        Json.ofMembers (metric.dimensions.entries.map fun entry => (entry.1, .string entry.2))),
      ("period", Json.ofNat metric.period)]

end Metric

/-- The metrics of alarms by their logical names. -/
abbrev AlarmMetrics := Table String (List Metric)

namespace AlarmMetrics

/-- The type of alarm resources. -/
def resourceType : String := "AWS::CloudWatch::Alarm"

/-- The logical name and the metrics of a resource that is an alarm with any. -/
def ofResource? (entry : Yaml × Yaml) : Option (String × List Metric) := do
  let name ← entry.1.asString
  if (entry.2.get? "Type").bind Yaml.asString = some resourceType then
    match Metric.ofProperties (← entry.2.get? "Properties") with
    | [] => none
    | metrics => some (name, metrics)
  else none

/-- The metrics of the alarms in a template's resources. -/
def ofTemplate (root : Yaml) : AlarmMetrics :=
  Table.ofList ((((root.get? "Resources").bind Yaml.asMapping).getD []).filterMap ofResource?)

end AlarmMetrics

end Runbook
