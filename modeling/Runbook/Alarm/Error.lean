import Runbook.Metadata.Error
import Runbook.PortError

/-!
# Why an alarm cannot be deployed or checked
-/

namespace Runbook

/-- The causes that keep an alarm from being deployed or checked. -/
inductive AlarmError where
  | invalidReference (reference : String)
  | templateMissing (reference : String) (path : Path)
  | metadata (cause : MetadataError)
  | templateRead (path : Path) (cause : FileError)
  | templateInvalid
  | variablesMissing (reference : String) (names : List String)
  | alarmDuplicate (id stack : String)
  | bucketMissing
  | upload (stack : String) (cause : PortError)
  | stack (stack : String) (cause : PortError)
  | stackFailed (stack status : String) (events : List String)
  | noMetrics
  | metricQuery (metric : String) (cause : PortError)

namespace AlarmError

/-- The display text of an error. What the YAML reader has to say about a template it cannot
read is left out. -/
def message : AlarmError → String
  | invalidReference reference =>
      "'" ++ reference ++ "' is not an alarm reference id (service:alarm:name:version)"
  | templateMissing reference path =>
      "no alarm template for '" ++ reference ++ "' at " ++ path.text
  | metadata cause => cause.message
  | templateRead path cause =>
      "failed to read alarm template " ++ path.text ++ ": " ++ cause.message
  | templateInvalid => "alarm template is not valid YAML: "
  | variablesMissing reference names =>
      "missing bindings for '" ++ reference ++ "': " ++ Text.commaJoin ", " names
  | alarmDuplicate id name => "alarm id '" ++ id ++ "' is already deployed as stack " ++ name
  | bucketMissing => "no alarm bucket configured (set DIGITO_ALARM_BUCKET)"
  | upload name cause => "failed to upload template for stack " ++ name ++ ": " ++ cause.message
  | stack name cause => "stack operation failed for " ++ name ++ ": " ++ cause.message
  | stackFailed name status events =>
      "stack " ++ name ++ " ended in " ++ status ++ ": " ++ Text.commaJoin "; " events
  | noMetrics => "alarm template contains no AWS::CloudWatch::Alarm metric"
  | metricQuery metric cause => "metric query failed for " ++ metric ++ ": " ++ cause.message

/-- The catalogue's code for an error. -/
def code : AlarmError → ErrorCode
  | invalidReference _ => .templateMissing
  | templateMissing _ _ => .templateMissing
  | metadata cause => cause.code
  | templateRead _ _ => .templateMissing
  | templateInvalid => .noMetrics
  | variablesMissing _ _ => .variablesMissing
  | alarmDuplicate _ _ => .alarmDuplicate
  | bucketMissing => .bucketMissing
  | upload _ _ => .uploadFailed
  | stack _ _ => .stackFailed
  | stackFailed _ _ _ => .stackFailed
  | noMetrics => .noMetrics
  | metricQuery _ _ => .metricQueryFailed

/-- What an error goes back to, the nearest cause first. -/
def causes : AlarmError → List String
  | metadata cause => cause.causes
  | templateRead _ cause => [cause.message]
  | upload _ cause => [cause.message]
  | stack _ cause => [cause.message]
  | metricQuery _ cause => [cause.message]
  | _ => []

end AlarmError

end Runbook
