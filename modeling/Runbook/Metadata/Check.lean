import Runbook.Metadata.Basic
import Runbook.Metadata.File
import Runbook.Metadata.Name

/-!
# Metadata checks

The checks of one metadata file, each on its own attribute and the file's place. All faults are
reported, in a fixed order; a file without faults becomes a typed record.
-/

namespace Runbook

/-- A fault of a metadata file. -/
inductive MetadataFault where
  | notObject
  | absent (key : String)
  | otherChoice (key value : String) (allowed : List String)
  | otherFailure (item : String)
  | overlong (key : String) (length limit : Nat)
  | minorVersion (value : String)
  | notText (key : String)
  | notFlag (key : String)
  | alarmsNotObject
  | alarmReference (name : String) (reference : Json)
  | misplaced
  | otherTag (declared : String) (expected : Tag)
  | documentName (name : String) (fault : NameFault)
  | notAlarmDirectory

namespace MetadataFault

/-- The display text of a fault of the file at a path. -/
def message (path : Path) : MetadataFault → String
  | notObject => "Metadata in " ++ path.text ++ " is not a JSON object"
  | absent key => "Missing or empty required attribute '" ++ key ++ "' in " ++ path.text
  | otherChoice key value allowed =>
      "Invalid " ++ key ++ " value '" ++ value ++ "' in " ++ path.text ++ ", expected one of "
        ++ Text.commaJoin "|" allowed
  | otherFailure item =>
      "Invalid failureType value '" ++ item ++ "' in " ++ path.text
        ++ ", expected a comma-separated subset of " ++ Text.commaJoin "|" FailureType.names
  | overlong key length limit =>
      "Attribute '" ++ key ++ "' in " ++ path.text ++ " is " ++ toString length
        ++ " characters long, maximum is " ++ toString limit
  | minorVersion value =>
      "minorVersion '" ++ value ++ "' in " ++ path.text ++ " must contain digits only"
  | notText key => "Attribute '" ++ key ++ "' in " ++ path.text ++ " must be a string"
  | notFlag key => "Attribute '" ++ key ++ "' in " ++ path.text ++ " must be a boolean"
  | alarmsNotObject => "Attribute 'recommendedAlarms' in " ++ path.text ++ " must be an object"
  | alarmReference name reference =>
      "Recommended alarm '" ++ name ++ "' in " ++ path.text
        ++ " must reference 'service:alarm:name:version', got " ++ reference.render
  | misplaced =>
      "Metadata " ++ path.text
        ++ " is not located at <service>/<category>/<name>/<date>/Documents/metadata.json"
  | otherTag declared expected =>
      "Tag '" ++ declared ++ "' in " ++ path.text ++ " does not match its path, expected '"
        ++ expected.text ++ "'"
  | documentName name fault =>
      "Document name '" ++ name ++ "' in " ++ path.text ++ " " ++ fault.message
  | notAlarmDirectory =>
      "Alarm metadata " ++ path.text ++ " is not stored under an 'alarm' category directory"

end MetadataFault

namespace MetadataFile

/-- The fault of a needed attribute that is no text or blank. -/
def absentFault (file : MetadataFile) (key : String) : List MetadataFault :=
  match file.attribute? key with
  | some value => if Text.isAllBlank value.toList then [.absent key] else []
  | none => [.absent key]

/-- The fault of a text that is none of the allowed ones. The empty text is passed over. -/
def choiceFault (file : MetadataFile) (key : String) (allowed : List String) :
    List MetadataFault :=
  match file.attribute? key with
  | some value =>
      if value.isEmpty || allowed.contains value then [] else [.otherChoice key value allowed]
  | none => []

/-- The items of the list of failures that name none. -/
def failureFaults (file : MetadataFile) : List MetadataFault :=
  match file.attribute? "failureType" with
  | some value =>
      let items := (Text.splitOn ',' value.toList).map fun item => String.ofList (Text.trim item)
      (items.filter fun item => !FailureType.names.contains item).map .otherFailure
  | none => []

/-- The most characters that some attributes may have. -/
def limits : List (String × Nat) :=
  [("documentName", 128), ("tag", 256), ("displayName", 128), ("description", 1024)]

/-- The fault of a text with more characters than it may have. -/
def lengthFault (file : MetadataFile) (limit : String × Nat) : List MetadataFault :=
  match file.attribute? limit.1 with
  | some value =>
      if limit.2 < value.length then [.overlong limit.1 value.length limit.2] else []
  | none => []

/-- The fault of a minor version that is not digits only. -/
def minorVersionFault (file : MetadataFile) : List MetadataFault :=
  match file.attribute? "minorVersion" with
  | some value => if value.toList.all Text.isDigit then [] else [.minorVersion value]
  | none => []

/-- The fault of an attribute that is there and no text. -/
def textFault (file : MetadataFile) (key : String) : List MetadataFault :=
  match file.raw.get? key with
  | some value => if value.asString.isSome then [] else [.notText key]
  | none => []

/-- The fault of an attribute that is there and no truth value. -/
def flagFault (file : MetadataFile) (key : String) : List MetadataFault :=
  match file.raw.get? key with
  | some value => if value.asBool.isSome then [] else [.notFlag key]
  | none => []

/-- Is a value the tag of an alarm? -/
def isAlarmReference (value : Json) : Bool :=
  (value.asString.bind Tag.parse?).any fun tag => tag.category? = some .alarm

/-- The faults of the recommended alarms. -/
def alarmFaults (file : MetadataFile) : List MetadataFault :=
  match file.raw.get? "recommendedAlarms" with
  | none => []
  | some value =>
      match value.asObject with
      | none => [.alarmsNotObject]
      | some alarms =>
          (alarms.filter fun alarm => !isAlarmReference alarm.2).map fun alarm =>
            .alarmReference alarm.1 alarm.2

/-- The fault of a declared tag that is not the tag of the file's place, or of a place that is
none. -/
def placeFault (file : MetadataFile) (root : Path) : List MetadataFault :=
  match Tag.ofMetadataPath? root file.path with
  | none => [.misplaced]
  | some expected =>
      match file.tag? with
      | some declared => if declared = expected.text then [] else [.otherTag declared expected]
      | none => []

/-- The fault of a document name in a category that has a suffix. -/
def nameFault (file : MetadataFile) (root : Path) : List MetadataFault :=
  match Tag.ofMetadataPath? root file.path, file.documentName? with
  | some tag, some name =>
      match tag.category?.bind Category.nameSuffix? with
      | some suffix =>
          match DocumentName.fault? name suffix tag.date tag.serviceAlias with
          | some fault => [.documentName name fault]
          | none => []
      | none => []
  | _, _ => []

/-- The attributes that every document has. -/
def neededOfDocument : List String :=
  ["documentName", "documentType", "documentFormat", "documentContentPath", "tag", "risk",
    "failureType", "minorVersion"]

/-- The attributes that every alarm has. -/
def neededOfAlarm : List String := ["alarmName", "alarmContentPath", "tag"]

/-- The attributes of a document that are texts where they are there. -/
def optionalTexts : List String :=
  ["dependsOn", "adkPath", "displayName", "description", "assumeRoleCfnPath"]

/-- The faults of a document's descriptor. -/
def faults (file : MetadataFile) (root : Path) : List MetadataFault :=
  if file.raw.asObject.isNone then [.notObject]
  else
    neededOfDocument.flatMap file.absentFault
      ++ file.choiceFault "documentType" DocumentKind.names
      ++ file.choiceFault "documentFormat" DocumentFormat.names
      ++ file.choiceFault "risk" Risk.names
      ++ file.failureFaults
      ++ limits.flatMap file.lengthFault
      ++ file.minorVersionFault
      ++ optionalTexts.flatMap file.textFault
      ++ file.flagFault "supportsRollback"
      ++ file.alarmFaults
      ++ file.placeFault root
      ++ file.nameFault root

/-- The fault of an alarm's descriptor outside the directories of alarms. -/
def directoryFault (file : MetadataFile) (root : Path) : List MetadataFault :=
  match Tag.ofMetadataPath? root file.path with
  | some tag => if tag.category? = some .alarm then [] else [.notAlarmDirectory]
  | none => []

/-- The faults of an alarm's descriptor. -/
def alarmDescriptorFaults (file : MetadataFile) (root : Path) : List MetadataFault :=
  neededOfAlarm.flatMap file.absentFault
    ++ limits.flatMap file.lengthFault
    ++ file.placeFault root
    ++ file.directoryFault root

/-- The display texts of the faults of a document's descriptor. -/
def violations (file : MetadataFile) (root : Path) : List String :=
  (file.faults root).map (MetadataFault.message file.path)

/-- The display texts of the faults of an alarm's descriptor. -/
def alarmViolations (file : MetadataFile) (root : Path) : List String :=
  (file.alarmDescriptorFaults root).map (MetadataFault.message file.path)

/-- The record of a file that has no violations. -/
def recordUnless (file : MetadataFile) (violations : List String)
    (record : Path → Json → Except ShapeError α) : Except MetadataError α :=
  match violations with
  | [] =>
      match record file.location file.raw with
      | .ok metadata => .ok metadata
      | .error cause => .error (.shape file.path cause)
  | _ :: _ => .error (.invalid file.path violations.length violations)

/-- The record of a document's descriptor. -/
def validate (file : MetadataFile) (root : Path) : Except MetadataError DocumentMetadata :=
  file.recordUnless (file.violations root) DocumentMetadata.ofJson

/-- The record of an alarm's descriptor. -/
def validateAlarm (file : MetadataFile) (root : Path) : Except MetadataError AlarmMetadata :=
  file.recordUnless (file.alarmViolations root) AlarmMetadata.ofJson

end MetadataFile

end Runbook
