import Mathlib.Tactic.MkIffOfInductiveProp
import Runbook.Metadata.Check
import Runbook.Proofs.Metadata.Record

/-!
# Descriptors without faults

The checks of a document's descriptor and the reading of its record are written apart. A descriptor
whose object lists each key once and has no faults gives a record (`exists_validate`): every value
that a decoder would refuse is a fault of one of the checks. The texts of a record are the
attributes of its file.
-/

namespace Runbook

variable {α : Type} {members : List (String × Json)}

/-! ### Faultless attributes -/

namespace MetadataFile

variable {file : MetadataFile} {root : Path} {key : String}

/-- A file that is read has the path that it was read from. -/
theorem path_of_ofContent {path : Path} {content : Except FileError String}
    (made : ofContent path content = .ok file) : file.path = path := by
  cases content with
  | error cause => cases made
  | ok text =>
      simp only [ofContent, ofText] at made
      split at made
      · cases made
        rfl
      · cases made

/-- In a file that is read every object lists each key once. -/
theorem keysOnce_of_ofContent {path : Path} {content : Except FileError String}
    (made : ofContent path content = .ok file) : file.raw.KeysOnce := by
  cases content with
  | error cause => cases made
  | ok text =>
      simp only [ofContent, ofText] at made
      split at made <;> cases made
      rename_i read
      exact Json.keysOnce_of_parse? read

/-- The text attributes of an object are its strings. -/
theorem attribute?_eq_some_iff (object : file.raw = .object members) {text : String} :
    file.attribute? key = some text ↔ members.lookup key = some (.string text) := by
  rw [attribute?, object, Option.bind_eq_some_iff]
  simp [Json.get?, Json.asString_eq_some_iff]

/-- An attribute is not absent exactly where it is a text that is not blank. -/
theorem absentFault_eq_nil_iff : file.absentFault key = [] ↔
    ∃ text, file.attribute? key = some text ∧ Text.isAllBlank text.toList = false := by
  rw [absentFault]
  cases file.attribute? key <;> simp

/-- A text that has to be there is a choice where neither check of it has a fault. -/
theorem mem_of_choiceFault {allowed : List String} {text : String}
    (there : file.attribute? key = some text) (notBlank : Text.isAllBlank text.toList = false)
    (faultless : file.choiceFault key allowed = []) : text ∈ allowed := by
  have filled : text ≠ "" := by
    rintro rfl
    exact absurd notBlank (by decide)
  simpa [choiceFault, there, filled] using faultless

/-- Without faults every failure type has a known name. -/
theorem mem_names_of_failureFaults {text : String}
    (there : file.attribute? "failureType" = some text) (faultless : file.failureFaults = []) :
    ∀ item ∈ splitNames text, item ∈ FailureType.names := by
  simp only [failureFaults, there, List.map_eq_nil_iff, List.filter_eq_nil_iff,
    Bool.not_eq_true', Bool.not_eq_false, List.contains_iff_mem] at faultless
  intro item member
  obtain ⟨chars, inside, rfl⟩ := List.mem_map.1 member
  obtain ⟨piece, found, rfl⟩ := List.mem_map.1 (List.mem_filter.1 inside).1
  exact faultless _ (List.mem_map.2 ⟨piece, found, rfl⟩)

/-- Without a fault what is there is a text. -/
theorem asString_of_textFault {value : Json} (there : file.raw.get? key = some value)
    (faultless : file.textFault key = []) : ∃ text, value = .string text := by
  simp only [textFault, there] at faultless
  split at faultless
  · rename_i isText
    obtain ⟨text, same⟩ := Option.isSome_iff_exists.1 isText
    exact ⟨text, Json.asString_eq_some_iff.1 same⟩
  · cases faultless

/-- Without a fault what is there is a flag. -/
theorem asBool_of_flagFault {value : Json} (there : file.raw.get? key = some value)
    (faultless : file.flagFault key = []) : ∃ flag, value = .bool flag := by
  simp only [flagFault, there] at faultless
  split at faultless
  · rename_i isFlag
    obtain ⟨flag, same⟩ := Option.isSome_iff_exists.1 isFlag
    exact ⟨flag, Json.asBool_eq_some_iff.1 same⟩
  · cases faultless

/-- Recommended alarms without a fault are an object of tags, which are strings. -/
theorem object_of_alarmFaults {value : Json}
    (there : file.raw.get? "recommendedAlarms" = some value) (faultless : file.alarmFaults = []) :
    ∃ alarms, value = .object alarms ∧
      ∀ alarm ∈ alarms, ∃ text, alarm.2 = .string text := by
  simp only [alarmFaults, there] at faultless
  split at faultless
  · cases faultless
  · rename_i alarms object
    refine ⟨alarms, Json.asObject_eq_some_iff.1 object, fun alarm inside => ?_⟩
    simp only [List.map_eq_nil_iff, List.filter_eq_nil_iff, Bool.not_eq_true', Bool.not_eq_false]
      at faultless
    have reference := faultless alarm inside
    rw [isAlarmReference, Option.any_eq_true] at reference
    obtain ⟨tag, parsed, _⟩ := reference
    obtain ⟨text, isText, _⟩ := Option.bind_eq_some_iff.1 parsed
    exact ⟨text, Json.asString_eq_some_iff.1 isText⟩

/-- No check of a document's descriptor finds a fault. -/
@[mk_iff]
structure Faultless (file : MetadataFile) (root : Path) : Prop where
  object : ∃ members, file.raw = .object members
  present : ∀ key ∈ neededOfDocument, file.absentFault key = []
  kind : file.choiceFault "documentType" DocumentKind.names = []
  format : file.choiceFault "documentFormat" DocumentFormat.names = []
  risk : file.choiceFault "risk" Risk.names = []
  failures : file.failureFaults = []
  lengths : ∀ limit ∈ limits, file.lengthFault limit = []
  minorVersion : file.minorVersionFault = []
  texts : ∀ key ∈ optionalTexts, file.textFault key = []
  flag : file.flagFault "supportsRollback" = []
  alarms : file.alarmFaults = []
  place : file.placeFault root = []
  name : file.nameFault root = []

/-- A file has no faults exactly where it is faultless. -/
theorem faults_eq_nil_iff : file.faults root = [] ↔ file.Faultless root := by
  have notObject : file.raw.asObject.isNone ↔ ¬ ∃ members, file.raw = .object members := by
    simp [← Json.asObject_eq_some_iff, Option.eq_none_iff_forall_ne_some]
  rw [faults, faultless_iff]
  split
  · rename_i absent
    simp [notObject.1 absent]
  · rename_i present
    have object := not_not.1 (mt notObject.2 present)
    simp only [List.append_eq_nil_iff, List.flatMap_eq_nil_iff, and_assoc, object, true_and]

/-- A file has no violations exactly where it is faultless. -/
theorem violations_eq_nil_iff : file.violations root = [] ↔ file.Faultless root := by
  rw [violations, List.map_eq_nil_iff, faults_eq_nil_iff]

namespace Faultless

/-- What is needed is there and not blank, so that the check of its choices does not pass over
it. -/
theorem needed (faultless : file.Faultless root) (member : key ∈ neededOfDocument) :
    ∃ text, file.attribute? key = some text ∧ Text.isAllBlank text.toList = false :=
  absentFault_eq_nil_iff.1 (faultless.present key member)

/-- A faultless file has every needed text. -/
theorem neededText (faultless : file.Faultless root) (object : file.raw = .object members)
    (key : String) (member : key ∈ neededOfDocument) :
    ∃ text, neededMember members key Decoder.text = .ok text := by
  obtain ⟨text, there, _⟩ := faultless.needed member
  exact ⟨text, neededMember_text ((attribute?_eq_some_iff object).1 there)⟩

/-- A faultless file has every choice among the known ones. -/
theorem neededChoice (faultless : file.Faultless root) (object : file.raw = .object members)
    {names : List String} (chosen : file.choiceFault key names = [])
    (member : key ∈ neededOfDocument) (parse? : String → Option α)
    (parsed : ∀ name ∈ names, (parse? name).isSome) :
    ∃ choice, neededMember members key (Decoder.choice parse? names) = .ok choice := by
  obtain ⟨text, there, notBlank⟩ := faultless.needed member
  exact neededMember_choice ((attribute?_eq_some_iff object).1 there)
    (parsed text (mem_of_choiceFault there notBlank chosen))

/-- A faultless file has failure types. -/
theorem neededFailures (faultless : file.Faultless root) (object : file.raw = .object members) :
    ∃ failures, neededMember members "failureType" FailureType.decoder = .ok failures := by
  obtain ⟨text, there, _⟩ := faultless.needed (by decide : "failureType" ∈ neededOfDocument)
  obtain ⟨failures, read⟩ :=
    FailureType.exists_ofNames (mem_names_of_failureFaults there faultless.failures)
  exact ⟨failures, neededMember_eq_ok_iff.2 ⟨_, (attribute?_eq_some_iff object).1 there, read⟩⟩

/-- A faultless file has a text or nothing where one is optional. -/
theorem optionalText (faultless : file.Faultless root) (object : file.raw = .object members)
    (key : String) (member : key ∈ optionalTexts) :
    ∃ text, optionalMember members key Decoder.text = .ok text := by
  refine exists_optionalMember fun value there => ?_
  obtain ⟨text, rfl⟩ := asString_of_textFault (by rw [object]; exact there)
    (faultless.texts key member)
  exact ⟨text, rfl⟩

/-- A faultless file has a flag or nothing where one is optional. -/
theorem optionalFlag (faultless : file.Faultless root) (object : file.raw = .object members) :
    ∃ flag, optionalMember members "supportsRollback" Decoder.flag = .ok flag := by
  refine exists_optionalMember fun value there => ?_
  obtain ⟨flag, rfl⟩ := asBool_of_flagFault (by rw [object]; exact there) faultless.flag
  exact ⟨flag, rfl⟩

/-- A faultless file has references of alarms or nothing. -/
theorem optionalAlarms (faultless : file.Faultless root) (object : file.raw = .object members) :
    ∃ alarms,
      optionalMember members "recommendedAlarms" (Decoder.members Decoder.text) = .ok alarms := by
  refine exists_optionalMember fun value there => ?_
  obtain ⟨entries, rfl, each⟩ :=
    object_of_alarmFaults (by rw [object]; exact there) faultless.alarms
  refine exists_decoder_members fun entry inside => ?_
  obtain ⟨text, same⟩ := each entry inside
  exact ⟨text, by rw [same]; rfl⟩

/-- Every field of a record can be read from a descriptor without faults. -/
theorem exists_readFrom (faultless : file.Faultless root) (object : file.raw = .object members) :
    ∃ metadata : DocumentMetadata, metadata.ReadFrom members := by
  obtain ⟨_, documentName⟩ := faultless.neededText object "documentName" (by decide)
  obtain ⟨_, kind⟩ :=
    faultless.neededChoice object faultless.kind (by decide) DocumentKind.parse? (by decide)
  obtain ⟨_, format⟩ :=
    faultless.neededChoice object faultless.format (by decide) DocumentFormat.parse? (by decide)
  obtain ⟨_, content⟩ := faultless.neededText object "documentContentPath" (by decide)
  obtain ⟨_, tag⟩ := faultless.neededText object "tag" (by decide)
  obtain ⟨_, risk⟩ :=
    faultless.neededChoice object faultless.risk (by decide) Risk.parse? (by decide)
  obtain ⟨_, failures⟩ := faultless.neededFailures object
  obtain ⟨_, minorVersion⟩ := faultless.neededText object "minorVersion" (by decide)
  obtain ⟨_, displayName⟩ := faultless.optionalText object "displayName" (by decide)
  obtain ⟨_, description⟩ := faultless.optionalText object "description" (by decide)
  obtain ⟨_, assumeRole⟩ := faultless.optionalText object "assumeRoleCfnPath" (by decide)
  obtain ⟨_, dependsOn⟩ := faultless.optionalText object "dependsOn" (by decide)
  obtain ⟨_, builder⟩ := faultless.optionalText object "adkPath" (by decide)
  obtain ⟨_, recommendedAlarms⟩ := faultless.optionalAlarms object
  obtain ⟨_, supportsRollback⟩ := faultless.optionalFlag object
  exact ⟨⟨_, _, _, _, _, _, _, _, _, _, _, _, _, _, _, file.location⟩,
    documentName, kind, format, content, tag, risk, failures, minorVersion, displayName,
    description, assumeRole, dependsOn, builder, recommendedAlarms, supportsRollback⟩

end Faultless

/-! ### Validation -/

/-- A file without violations has a record. -/
theorem exists_validate (once : file.raw.KeysOnce) (clean : file.violations root = []) :
    ∃ metadata, file.validate root = .ok metadata := by
  have faultless := violations_eq_nil_iff.1 clean
  obtain ⟨members, object⟩ := faultless.object
  obtain ⟨metadata, read⟩ := faultless.exists_readFrom object
  refine ⟨{ metadata with location := file.location }, ?_⟩
  rw [object] at once
  simp only [validate, clean, recordUnless, object, read.ofJson_eq once.nodup]

/-- A file without a record has violations, and these are its error. -/
theorem violations_of_validate_eq_error {cause : MetadataError} (once : file.raw.KeysOnce)
    (failed : file.validate root = .error cause) :
    cause = .invalid file.path (file.violations root).length (file.violations root) := by
  cases found : file.violations root with
  | nil =>
      obtain ⟨metadata, valid⟩ := exists_validate once found
      rw [valid] at failed
      cases failed
  | cons violation rest =>
      simp only [validate, found, recordUnless, Except.error.injEq] at failed
      exact failed.symm

/-- A record comes from a file without violations, and its fields from the attributes there. -/
theorem readFrom_of_validate {metadata : DocumentMetadata}
    (valid : file.validate root = .ok metadata) : file.violations root = [] ∧
      ∃ members, file.raw = .object members ∧ metadata.ReadFrom members := by
  unfold validate recordUnless at valid
  split at valid
  · rename_i clean
    obtain ⟨members, object⟩ := (violations_eq_nil_iff.1 clean).object
    rw [object] at valid
    split at valid <;> cases valid
    rename_i read
    exact ⟨clean, members, object, DocumentMetadata.readFrom_of_ofJson read⟩
  · cases valid

/-- A text of a record is the attribute that it is read from. -/
theorem attribute?_of_neededMember {text : String} (object : file.raw = .object members)
    (read : neededMember members key Decoder.text = .ok text) :
    file.attribute? key = some text := by
  obtain ⟨value, there, decoded⟩ := neededMember_eq_ok_iff.1 read
  rw [attribute?_eq_some_iff object, there]
  cases value <;> cases decoded
  rfl

/-- The name of the record is that of the file. -/
theorem documentName?_of_validate {metadata : DocumentMetadata}
    (valid : file.validate root = .ok metadata) :
    file.documentName? = some metadata.documentName := by
  obtain ⟨_, members, object, read⟩ := readFrom_of_validate valid
  exact attribute?_of_neededMember object read.documentName

/-- The tag of the record is that of the file. -/
theorem tag?_of_validate {metadata : DocumentMetadata}
    (valid : file.validate root = .ok metadata) : file.tag? = some metadata.tag := by
  obtain ⟨_, members, object, read⟩ := readFrom_of_validate valid
  exact attribute?_of_neededMember object read.tag

/-! ### A descriptor of texts -/

/-- A document's descriptor at the place that its tag names. -/
def sample (category name date document : String) : MetadataFile where
  path := ⟨"docs/host/" ++ category ++ "/" ++ name ++ "/" ++ date ++ "/Documents/metadata.json"⟩
  raw := Json.ofTexts
    [("documentContentPath", "content.json"), ("documentFormat", "JSON"),
      ("documentName", document), ("documentType", "Automation"), ("failureType", "SOFTWARE"),
      ("minorVersion", "1"), ("risk", "SMALL"),
      ("tag", "host:" ++ category ++ ":" ++ name ++ ":" ++ date)]

/-- The sample has no key twice. -/
theorem keysOnce_sample (category name date document : String) :
    (sample category name date document).raw.KeysOnce :=
  Json.keysOnce_ofTexts (by simp)

end MetadataFile

end Runbook
