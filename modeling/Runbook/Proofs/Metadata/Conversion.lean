import Mathlib.Data.Set.List
import Runbook.Proofs.Metadata.Classification

/-!
# What a record says of its file

A document's descriptor is refused with all its violations or becomes a record, and the record says
what the descriptor says (`validate_exact`). The decoders would take more than the checks let
through: null for an optional attribute, or an object with one member for a choice. What the checks
let through is one value for each attribute of a record.
-/

namespace Runbook

variable {α : Type} {members : List (String × Json)}

/-! ### Values that are read back -/

/-- An object of texts is read as those texts. -/
theorem members_text_ofTexts (texts : List (String × String)) :
    Decoder.members Decoder.text (Json.ofTexts texts) = .ok texts := by
  rw [Json.ofTexts, Decoder.members, mapM_eq_ok_iff, List.forall₂_map_left_iff,
    List.forall₂_same]
  exact fun text _ => rfl

/-- Members that are all strings are those of some texts. -/
theorem exists_ofTexts {entries : List (String × Json)}
    (each : ∀ entry ∈ entries, ∃ text, entry.2 = .string text) :
    ∃ texts, Json.object entries = Json.ofTexts texts := by
  have inside : entries ∈ Set.range
      (List.map fun text : String × String => (text.1, Json.string text.2)) := by
    rw [Set.range_list_map]
    intro entry member
    obtain ⟨text, same⟩ := each entry member
    exact ⟨(entry.1, text), Prod.ext rfl same.symm⟩
  obtain ⟨texts, same⟩ := inside
  exact ⟨texts, by rw [← same, Json.ofTexts]⟩

namespace FailureType

/-- A failure type is read from its name. -/
theorem name_of_parse? {text : String} {failure : FailureType}
    (parsed : parse? text = some failure) : failure.name = text := by
  cases failure <;> grind [parse?, name]

/-- The names of the failure types that are read are the items. -/
theorem names_of_ofNames {items : List String} {failures : List FailureType}
    (read : ofNames items = .ok failures) : failures.map FailureType.name = items := by
  induction items generalizing failures with
  | nil =>
      cases read
      rfl
  | cons item rest ih =>
      simp only [ofNames] at read
      split at read
      · cases read
      · rename_i failure parsed
        cases later : ofNames rest with
        | error cause =>
            rw [later] at read
            cases read
        | ok others =>
            rw [later] at read
            cases read
            rw [List.map_cons, name_of_parse? parsed, ih later]

end FailureType

/-- A kind is read from its name. -/
theorem DocumentKind.name_of_parse? {text : String} {kind : DocumentKind}
    (parsed : parse? text = some kind) : kind.name = text := by
  cases kind <;> grind [parse?, name]

/-- A format is read from its name. -/
theorem DocumentFormat.name_of_parse? {text : String} {format : DocumentFormat}
    (parsed : parse? text = some format) : format.name = text := by
  cases format <;> grind [parse?, name]

/-- A risk is read from its name. -/
theorem Risk.name_of_parse? {text : String} {risk : Risk} (parsed : parse? text = some risk) :
    risk.name = text := by
  cases risk <;> grind [parse?, name]

namespace MetadataFile

/-- The items of a comma-separated list, trimmed, the empty ones among them. -/
def listItems (text : String) : List String :=
  (Text.splitOn ',' text.toList).map fun item => String.ofList (Text.trim item)

/-- A record says what its file says: each attribute has the record's value, an optional one is
absent where the record has none, and the directory is the one that the file is in. -/
structure States (file : MetadataFile) (metadata : DocumentMetadata) : Prop where
  documentName : file.raw.get? "documentName" = some (.string metadata.documentName)
  kind : file.raw.get? "documentType" = some (.string metadata.kind.name)
  format : file.raw.get? "documentFormat" = some (.string metadata.format.name)
  content : file.raw.get? "documentContentPath" = some (.string metadata.content)
  tag : file.raw.get? "tag" = some (.string metadata.tag)
  risk : file.raw.get? "risk" = some (.string metadata.risk.name)
  failures : ∃ text, file.raw.get? "failureType" = some (.string text) ∧
    metadata.failures.map FailureType.name = listItems text
  minorVersion : file.raw.get? "minorVersion" = some (.string metadata.minorVersion)
  displayName : file.raw.get? "displayName" = metadata.displayName.map .string
  description : file.raw.get? "description" = metadata.description.map .string
  assumeRole : file.raw.get? "assumeRoleCfnPath" = metadata.assumeRole.map .string
  dependsOn : file.raw.get? "dependsOn" = metadata.dependsOn.map .string
  builder : file.raw.get? "adkPath" = metadata.builder.map .string
  recommendedAlarms :
    file.raw.get? "recommendedAlarms" = metadata.recommendedAlarms.map Json.ofTexts
  supportsRollback : file.raw.get? "supportsRollback" = metadata.supportsRollback.map .bool
  directory : file.path.parent? = some metadata.location
  above : metadata.location.components = file.path.components.dropLast

variable {file : MetadataFile} {root : Path} {key text : String} {metadata : DocumentMetadata}

/-- A list without faults has no empty item, so that leaving out the empty ones changes nothing. -/
theorem splitNames_of_failureFaults (there : file.attribute? "failureType" = some text)
    (faultless : file.failureFaults = []) : splitNames text = listItems text := by
  simp only [failureFaults, there, List.map_eq_nil_iff, List.filter_eq_nil_iff,
    Bool.not_eq_true', Bool.not_eq_false, List.contains_iff_mem] at faultless
  have filled : ∀ item ∈ (Text.splitOn ',' text.toList).map Text.trim, item ≠ [] := by
    rintro _ member rfl
    obtain ⟨piece, inside, empty⟩ := List.mem_map.1 member
    have named := faultless _ (List.mem_map.2 ⟨piece, inside, rfl⟩)
    rw [empty] at named
    exact absurd named (by decide)
  rw [splitNames, Text.commaItems, List.filter_eq_self.2 (by simpa using filled), List.map_map]
  rfl

/-- An optional attribute whose value can only have been written for what is read. -/
theorem get?_of_optionalMember (object : file.raw = .object members) {decode : Decoder α}
    {encode : α → Json} {result : Option α}
    (exact : ∀ value, Decoder.optional decode (encode value) = .ok (some value))
    (written : ∀ found, file.raw.get? key = some found → ∃ value, found = encode value)
    (read : optionalMember members key decode = .ok result) :
    file.raw.get? key = result.map encode := by
  rw [object] at written ⊢
  change members.lookup key = result.map encode
  cases there : members.lookup key with
  | none =>
      simp only [optionalMember, there, Except.ok.injEq] at read
      rw [← read, Option.map_none]
  | some found =>
      obtain ⟨value, rfl⟩ := written found there
      simp only [optionalMember, there, exact, Except.ok.injEq] at read
      rw [← read, Option.map_some]

namespace Faultless

/-- What is read of an attribute that is needed is read from a text. -/
theorem exists_text (faultless : file.Faultless root) (object : file.raw = .object members)
    (member : key ∈ neededOfDocument) {decode : Decoder α} {value : α}
    (read : neededMember members key decode = .ok value) :
    ∃ text, file.attribute? key = some text ∧ file.raw.get? key = some (.string text) ∧
      decode (.string text) = .ok value := by
  obtain ⟨text, isText, _⟩ := faultless.needed member
  have there := (attribute?_eq_some_iff object).1 isText
  obtain ⟨found, again, decoded⟩ := neededMember_eq_ok_iff.1 read
  obtain rfl : .string text = found := by simpa [there] using again
  exact ⟨text, isText, by rw [object]; exact there, decoded⟩

/-- A needed text that is read is what stands under its key. -/
theorem get?_text (faultless : file.Faultless root) (object : file.raw = .object members)
    (member : key ∈ neededOfDocument)
    (read : neededMember members key Decoder.text = .ok text) :
    file.raw.get? key = some (.string text) := by
  obtain ⟨found, _, there, decoded⟩ := faultless.exists_text object member read
  cases decoded
  exact there

/-- A choice that is read is named under its key. -/
theorem get?_choice (faultless : file.Faultless root) (object : file.raw = .object members)
    (member : key ∈ neededOfDocument) {parse? : String → Option α} {names : List String}
    {choice : α} (nameOf : α → String)
    (named : ∀ text, parse? text = some choice → nameOf choice = text)
    (read : neededMember members key (Decoder.choice parse? names) = .ok choice) :
    file.raw.get? key = some (.string (nameOf choice)) := by
  obtain ⟨text, _, there, decoded⟩ := faultless.exists_text object member read
  simp only [Decoder.choice] at decoded
  split at decoded
  · rename_i parsed
    cases decoded
    rw [named text parsed, there]
  · cases decoded

/-- The failure types that are read are the items of the text under their key. -/
theorem get?_failures (faultless : file.Faultless root) (object : file.raw = .object members)
    {failures : List FailureType}
    (read : neededMember members "failureType" FailureType.decoder = .ok failures) :
    ∃ text, file.raw.get? "failureType" = some (.string text) ∧
      failures.map FailureType.name = listItems text := by
  obtain ⟨text, isText, there, decoded⟩ := faultless.exists_text object (by decide) read
  refine ⟨text, there, ?_⟩
  rw [← splitNames_of_failureFaults isText faultless.failures]
  exact FailureType.names_of_ofNames decoded

/-- An optional text is read as it stands, or is absent. -/
theorem get?_optionalText (faultless : file.Faultless root) (object : file.raw = .object members)
    (member : key ∈ optionalTexts) {result : Option String}
    (read : optionalMember members key Decoder.text = .ok result) :
    file.raw.get? key = result.map .string :=
  get?_of_optionalMember object (fun _ => rfl)
    (fun _ there => asString_of_textFault there (faultless.texts key member)) read

/-- The flag is read as it stands, or is absent. -/
theorem get?_flag (faultless : file.Faultless root) (object : file.raw = .object members)
    {result : Option Bool}
    (read : optionalMember members "supportsRollback" Decoder.flag = .ok result) :
    file.raw.get? "supportsRollback" = result.map .bool :=
  get?_of_optionalMember object (fun _ => rfl)
    (fun _ there => asBool_of_flagFault there faultless.flag) read

/-- The alarms are read as they stand, or are absent. -/
theorem get?_alarms (faultless : file.Faultless root) (object : file.raw = .object members)
    {result : Option (List (String × String))}
    (read : optionalMember members "recommendedAlarms" (Decoder.members Decoder.text) =
      .ok result) :
    file.raw.get? "recommendedAlarms" = result.map Json.ofTexts := by
  refine get?_of_optionalMember object (fun texts => ?_) (fun value there => ?_) read
  · rw [Json.ofTexts, Decoder.optional, ← Json.ofTexts, members_text_ofTexts]
    · rfl
    · nofun
  · obtain ⟨entries, rfl, each⟩ := object_of_alarmFaults there faultless.alarms
    exact exists_ofTexts each

/-- The place of a faultless file has a parent, which is its location. -/
theorem parent?_eq (faultless : file.Faultless root) : file.path.parent? = some file.location := by
  obtain ⟨place, found, _⟩ := faultless.exists_place
  obtain ⟨above, parent⟩ := Tag.exists_parent?_of_ofMetadataPath? found
  rw [location, parent, Option.getD_some]

/-- What is read of a faultless file is what it states, attribute by attribute. -/
theorem states (faultless : file.Faultless root) (object : file.raw = .object members)
    (read : metadata.ReadFrom members) (place : file.path.parent? = some metadata.location) :
    file.States metadata where
  documentName := faultless.get?_text object (by decide) read.documentName
  kind := faultless.get?_choice object (by decide) DocumentKind.name
    (fun _ => DocumentKind.name_of_parse?) read.kind
  format := faultless.get?_choice object (by decide) DocumentFormat.name
    (fun _ => DocumentFormat.name_of_parse?) read.format
  content := faultless.get?_text object (by decide) read.content
  tag := faultless.get?_text object (by decide) read.tag
  risk := faultless.get?_choice object (by decide) Risk.name (fun _ => Risk.name_of_parse?)
    read.risk
  failures := faultless.get?_failures object read.failures
  minorVersion := faultless.get?_text object (by decide) read.minorVersion
  displayName := faultless.get?_optionalText object (by decide) read.displayName
  description := faultless.get?_optionalText object (by decide) read.description
  assumeRole := faultless.get?_optionalText object (by decide) read.assumeRole
  dependsOn := faultless.get?_optionalText object (by decide) read.dependsOn
  builder := faultless.get?_optionalText object (by decide) read.builder
  recommendedAlarms := faultless.get?_alarms object read.recommendedAlarms
  supportsRollback := faultless.get?_flag object read.supportsRollback
  directory := place
  above := Path.components_of_parent? place

end Faultless

/-- A record has the location of its file. -/
theorem location_of_validate (once : file.raw.KeysOnce) (valid : file.validate root = .ok metadata) :
    metadata.location = file.location := by
  obtain ⟨clean, members, object, read⟩ := readFrom_of_validate valid
  rw [object] at once
  simp only [validate, clean, recordUnless, object, read.ofJson_eq once.nodup,
    Except.ok.injEq] at valid
  rw [← valid]

/-- A descriptor without violations gives a record that says what it says, and one with violations
is refused with them, and with nothing else. -/
theorem validate_exact (once : file.raw.KeysOnce) :
    (file.violations root = [] →
      ∃ metadata, file.validate root = .ok metadata ∧ file.States metadata) ∧
    (file.violations root ≠ [] →
      file.validate root =
        .error (.invalid file.path (file.violations root).length (file.violations root))) := by
  constructor
  · intro clean
    obtain ⟨metadata, valid⟩ := exists_validate once clean
    obtain ⟨_, members, object, read⟩ := readFrom_of_validate valid
    have faultless := violations_eq_nil_iff.1 clean
    refine ⟨metadata, valid, faultless.states object read ?_⟩
    rw [location_of_validate once valid, faultless.parent?_eq]
  · intro faulty
    obtain ⟨first, others, listed⟩ := List.exists_cons_of_ne_nil faulty
    simp only [validate, recordUnless, listed]

/-- A descriptor with attributes of every kind. -/
def rebootTest : MetadataFile where
  path := ⟨"docs/host/test/reboot/1/./Documents//metadata.json"⟩
  raw := .object
    [("dependsOn", .string "Digito-List"), ("documentContentPath", .string "content.yml"),
      ("documentFormat", .string "YAML"), ("documentName", .string "Digito-HostRebootTest_1"),
      ("documentType", .string "Automation"), ("failureType", .string "SOFTWARE, AZ"),
      ("minorVersion", .string "2"),
      ("recommendedAlarms", Json.ofTexts [("cpu", "host:alarm:cpu:1")]),
      ("risk", .string "HIGH"), ("supportsRollback", .bool true),
      ("tag", .string "host:test:reboot:1")]

/-- It gives a record; a listing without a name is refused. -/
theorem validate_exact_rebootTest :
    rebootTest.raw.KeysOnce ∧ rebootTest.violations ⟨"docs"⟩ = [] ∧
      (∃ metadata, rebootTest.validate ⟨"docs"⟩ = .ok metadata ∧ rebootTest.States metadata ∧
        metadata.failures.map FailureType.name = ["SOFTWARE", "AZ"]) ∧
      (sample "util" "list" "1" "").validate ⟨"docs"⟩ =
        .error (.invalid ⟨"docs/host/util/list/1/Documents/metadata.json"⟩ 1
          ["Missing or empty required attribute 'documentName' in " ++
            "docs/host/util/list/1/Documents/metadata.json"]) := by
  have once : rebootTest.raw.KeysOnce := by
    refine .object (by decide) ?_
    simp only [List.forall_mem_cons]
    exact ⟨.string _, .string _, .string _, .string _, .string _, .string _, .string _,
      Json.keysOnce_ofTexts (by decide), .string _, .bool _, .string _, nofun⟩
  have clean : rebootTest.violations ⟨"docs"⟩ = [] := by decide +kernel
  obtain ⟨metadata, valid, states⟩ := (validate_exact once).1 clean
  obtain ⟨text, there, named⟩ := states.failures
  have listed : rebootTest.raw.get? "failureType" = some (.string "SOFTWARE, AZ") := rfl
  obtain rfl : "SOFTWARE, AZ" = text := by simpa [listed] using there
  have faulty : (sample "util" "list" "1" "").violations ⟨"docs"⟩ =
      ["Missing or empty required attribute 'documentName' in " ++
        "docs/host/util/list/1/Documents/metadata.json"] := by decide
  have refused :=
    (@validate_exact _ ⟨"docs"⟩ (keysOnce_sample "util" "list" "1" "")).2 (by simp [faulty])
  rw [faulty] at refused
  exact ⟨once, clean, ⟨metadata, valid, states, named.trans (by decide +kernel)⟩, refused⟩

end MetadataFile

end Runbook
