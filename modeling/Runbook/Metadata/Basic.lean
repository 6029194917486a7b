import Runbook.Document
import Runbook.Json.Record
import Runbook.Tag

/-!
# Metadata

What the descriptor of a document or of an alarm template says. A descriptor is a JSON object;
here are its typed forms, how they are read from it, and how they are written.
-/

namespace Runbook

/-- The kinds of documents. -/
inductive DocumentKind where
  | automation
  | command
deriving DecidableEq, Repr

namespace DocumentKind

/-- The name of a kind. -/
def name : DocumentKind → String
  | .automation => "Automation"
  | .command => "Command"

/-- The names, in order. -/
def names : List String := ["Automation", "Command"]

/-- The kind of a name. -/
def parse? (text : String) : Option DocumentKind :=
  if text = "Automation" then some .automation
  else if text = "Command" then some .command
  else none

end DocumentKind

/-- How much a document can break. -/
inductive Risk where
  | small
  | medium
  | high
deriving DecidableEq, Repr

namespace Risk

/-- The name of a risk. -/
def name : Risk → String
  | .small => "SMALL"
  | .medium => "MEDIUM"
  | .high => "HIGH"

/-- The names, in order. -/
def names : List String := ["SMALL", "MEDIUM", "HIGH"]

/-- The risk of a name. -/
def parse? (text : String) : Option Risk :=
  if text = "SMALL" then some .small
  else if text = "MEDIUM" then some .medium
  else if text = "HIGH" then some .high
  else none

end Risk

/-- What a document lets fail. -/
inductive FailureType where
  | region
  | az
  | hardware
  | software
deriving DecidableEq, Repr

namespace FailureType

/-- The name of a failure. -/
def name : FailureType → String
  | .region => "REGION"
  | .az => "AZ"
  | .hardware => "HARDWARE"
  | .software => "SOFTWARE"

/-- The names, in order. -/
def names : List String := ["REGION", "AZ", "HARDWARE", "SOFTWARE"]

/-- The failure of a name. -/
def parse? (text : String) : Option FailureType :=
  if text = "REGION" then some .region
  else if text = "AZ" then some .az
  else if text = "HARDWARE" then some .hardware
  else if text = "SOFTWARE" then some .software
  else none

/-- The failures of a comma-separated list; empty items do not count. -/
def ofNames : List String → Except ShapeError (List FailureType)
  | [] => .ok []
  | item :: items =>
      match parse? item with
      | none => .error (.refused ("unknown failureType '" ++ item ++ "'"))
      | some failure => (ofNames items).map (failure :: ·)

/-- A comma-separated list of failures in a descriptor. -/
def decoder : Decoder (List FailureType) := fun value => do
  ofNames (splitNames (← Decoder.text value))

end FailureType

/-- The descriptor of a document. Its content path is below the directory `location`. -/
structure DocumentMetadata where
  documentName : String
  kind : DocumentKind
  format : DocumentFormat
  content : String
  tag : String
  risk : Risk
  failures : List FailureType
  minorVersion : String
  displayName : Option String
  description : Option String
  assumeRole : Option String
  dependsOn : Option String
  builder : Option String
  recommendedAlarms : Option (List (String × String))
  supportsRollback : Option Bool
  location : Path
deriving DecidableEq, Repr

namespace DocumentMetadata

/-- The fields of a descriptor. -/
def shape : RecordShape where
  title := "DocumentMetadata"
  fields :=
    [.needed "documentName" Decoder.text,
      .needed "documentType" (Decoder.choice DocumentKind.parse? DocumentKind.names),
      .needed "documentFormat" (Decoder.choice DocumentFormat.parse? DocumentFormat.names),
      .needed "documentContentPath" Decoder.text,
      .needed "tag" Decoder.text,
      .needed "risk" (Decoder.choice Risk.parse? Risk.names),
      .needed "failureType" FailureType.decoder,
      .needed "minorVersion" Decoder.text,
      .optional "displayName" Decoder.text,
      .optional "description" Decoder.text,
      .optional "assumeRoleCfnPath" Decoder.text,
      .optional "dependsOn" Decoder.text,
      .optional "adkPath" Decoder.text,
      .optional "recommendedAlarms" (Decoder.members Decoder.text),
      .optional "supportsRollback" Decoder.flag]

/-- The descriptor that a JSON value holds. -/
def ofJson (location : Path) (value : Json) : Except ShapeError DocumentMetadata := do
  let members ← shape.membersOf value
  return {
    documentName := ← neededMember members "documentName" Decoder.text
    kind := ← neededMember members "documentType"
      (Decoder.choice DocumentKind.parse? DocumentKind.names)
    format := ← neededMember members "documentFormat"
      (Decoder.choice DocumentFormat.parse? DocumentFormat.names)
    content := ← neededMember members "documentContentPath" Decoder.text
    tag := ← neededMember members "tag" Decoder.text
    risk := ← neededMember members "risk" (Decoder.choice Risk.parse? Risk.names)
    failures := ← neededMember members "failureType" FailureType.decoder
    minorVersion := ← neededMember members "minorVersion" Decoder.text
    displayName := ← optionalMember members "displayName" Decoder.text
    description := ← optionalMember members "description" Decoder.text
    assumeRole := ← optionalMember members "assumeRoleCfnPath" Decoder.text
    dependsOn := ← optionalMember members "dependsOn" Decoder.text
    builder := ← optionalMember members "adkPath" Decoder.text
    recommendedAlarms := ← optionalMember members "recommendedAlarms" (Decoder.members Decoder.text)
    supportsRollback := ← optionalMember members "supportsRollback" Decoder.flag
    location }

/-- The descriptor as a JSON object. -/
def toJson (metadata : DocumentMetadata) : Json :=
  let optional : Option String → Json := Json.ofOption .string
  Json.ofMembers
    [("documentName", .string metadata.documentName),
      ("documentType", .string metadata.kind.name),
      ("documentFormat", .string metadata.format.name),
      ("documentContentPath", .string metadata.content),
      ("tag", .string metadata.tag),
      ("risk", .string metadata.risk.name),
      ("failureType", Json.ofStrings (metadata.failures.map FailureType.name)),
      ("minorVersion", .string metadata.minorVersion),
      ("displayName", optional metadata.displayName),
      ("description", optional metadata.description),
      ("assumeRoleCfnPath", optional metadata.assumeRole),
      ("dependsOn", optional metadata.dependsOn),
      ("adkPath", optional metadata.builder),
      ("recommendedAlarms",
        Json.ofOption (fun alarms : List (String × String) =>
          Json.ofMembers (alarms.map fun alarm => (alarm.1, .string alarm.2)))
          metadata.recommendedAlarms),
      ("supportsRollback", Json.ofOption .bool metadata.supportsRollback)]

/-- The documents that this one needs. -/
def dependencies (metadata : DocumentMetadata) : List String :=
  match metadata.dependsOn with
  | some names => splitNames names
  | none => []

/-- The declared tag, where its text is one. -/
def parsedTag? (metadata : DocumentMetadata) : Option Tag := Tag.parse? metadata.tag

/-- Where the document's content is. -/
def contentPath (metadata : DocumentMetadata) : Path := metadata.location.join metadata.content

end DocumentMetadata

/-- The descriptor of an alarm template. -/
structure AlarmMetadata where
  alarmName : String
  kind : Option String
  content : String
  tag : String
  description : Option String
  location : Path
deriving DecidableEq, Repr

namespace AlarmMetadata

/-- The fields of a descriptor. -/
def shape : RecordShape where
  title := "AlarmMetadata"
  fields :=
    [.needed "alarmName" Decoder.text,
      .optional "alarmType" Decoder.text,
      .needed "alarmContentPath" Decoder.text,
      .needed "tag" Decoder.text,
      .optional "description" Decoder.text]

/-- The descriptor that a JSON value holds. -/
def ofJson (location : Path) (value : Json) : Except ShapeError AlarmMetadata := do
  let members ← shape.membersOf value
  return {
    alarmName := ← neededMember members "alarmName" Decoder.text
    kind := ← optionalMember members "alarmType" Decoder.text
    content := ← neededMember members "alarmContentPath" Decoder.text
    tag := ← neededMember members "tag" Decoder.text
    description := ← optionalMember members "description" Decoder.text
    location }

/-- The descriptor as a JSON object. -/
def toJson (metadata : AlarmMetadata) : Json :=
  Json.ofMembers
    [("alarmName", .string metadata.alarmName),
      ("alarmType", Json.ofOption .string metadata.kind),
      ("alarmContentPath", .string metadata.content),
      ("tag", .string metadata.tag),
      ("description", Json.ofOption .string metadata.description)]

/-- Where the template is. -/
def contentPath (metadata : AlarmMetadata) : Path := metadata.location.join metadata.content

end AlarmMetadata

end Runbook
