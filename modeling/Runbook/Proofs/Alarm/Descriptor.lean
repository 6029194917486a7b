import Runbook.Alarm.Service
import Runbook.Proofs.Alarm.Loading
import Runbook.Proofs.Metadata.Validation

/-!
# Descriptors of alarms without faults

An alarm's descriptor without violations need not give a record: no check looks at what kind of
value its two optional attributes have, and a value that is neither a text nor null is found only
when the record is read. This is the one way in which such a descriptor is refused, and then the
deployment of its alarm is (`readable_iff`).
-/

namespace Runbook

variable {members : List (String × Json)} {key : String}

/-- The attributes that an alarm may have. -/
def optionalOfAlarm : List String := ["alarmType", "description"]

/-- An optional text is read exactly where it is absent, null or a text. -/
theorem exists_optionalMember_text_iff :
    (∃ text, optionalMember members key Decoder.text = .ok text) ↔
      ∀ value, members.lookup key = some value → value = .null ∨ ∃ text, value = .string text := by
  unfold optionalMember
  cases members.lookup key with
  | none => simp
  | some value => cases value <;> simp [Decoder.optional, Decoder.text, Except.map]

namespace AlarmMetadata

/-- A record is read from an object when the texts that it needs are there, and those that it may
have can be read. -/
theorem exists_ofJson_iff {location : Path} (once : (members.map Prod.fst).Nodup) :
    (∃ metadata, ofJson location (.object members) = .ok metadata) ↔
      (∀ key ∈ MetadataFile.neededOfAlarm,
        ∃ text, neededMember members key Decoder.text = .ok text) ∧
      ∀ key ∈ optionalOfAlarm, ∃ text, optionalMember members key Decoder.text = .ok text := by
  simp only [MetadataFile.neededOfAlarm, optionalOfAlarm, List.forall_mem_cons, List.not_mem_nil,
    false_implies, implies_true, and_true, ofJson, bind_eq_ok_iff]
  constructor
  · rintro ⟨_, found, shaped, _, name, _, kind, _, content, _, tag, _, description, _⟩
    obtain rfl : found = members := RecordShape.eq_of_membersOf shaped
    exact ⟨⟨⟨_, name⟩, ⟨_, content⟩, ⟨_, tag⟩⟩, ⟨_, kind⟩, ⟨_, description⟩⟩
  · rintro ⟨⟨⟨_, name⟩, ⟨_, content⟩, ⟨_, tag⟩⟩, ⟨_, kind⟩, ⟨_, description⟩⟩
    have served : ∀ field ∈ shape.fields, field.Served members := by
      simp only [shape, List.forall_mem_cons]
      exact ⟨RecordField.served_needed name, RecordField.served_optional kind,
        RecordField.served_needed content, RecordField.served_needed tag,
        RecordField.served_optional description, nofun⟩
    exact ⟨_, members, RecordShape.membersOf_object once served, _, name, _, kind, _, content,
      _, tag, _, description, rfl⟩

end AlarmMetadata

namespace MetadataFile

variable {file : MetadataFile} {root : Path}

/-- Each attribute that an alarm may have is absent, null or a text. -/
def OptionalTexts (file : MetadataFile) : Prop :=
  ∀ key ∈ optionalOfAlarm, ∀ value, file.raw.get? key = some value →
    value = .null ∨ ∃ text, value = .string text

/-- Without violations every attribute that an alarm needs is a text. -/
theorem needed_of_alarmViolations (clean : file.alarmViolations root = [])
    (member : key ∈ neededOfAlarm) : ∃ text, file.attribute? key = some text := by
  rw [alarmViolations, List.map_eq_nil_iff, alarmDescriptorFaults] at clean
  simp only [List.append_eq_nil_iff, List.flatMap_eq_nil_iff, and_assoc] at clean
  obtain ⟨text, there, _⟩ := absentFault_eq_nil_iff.1 (clean.1 key member)
  exact ⟨text, there⟩

/-- Without violations the file is an object. -/
theorem object_of_alarmViolations (clean : file.alarmViolations root = []) :
    ∃ members, file.raw = .object members := by
  obtain ⟨text, there⟩ := needed_of_alarmViolations clean (by decide : "tag" ∈ neededOfAlarm)
  cases raw : file.raw with
  | object members => exact ⟨members, rfl⟩
  | _ => simp [attribute?, raw, Json.get?] at there

/-- A file without violations becomes a record exactly where its optional attributes are texts. -/
theorem exists_validateAlarm_iff (once : file.raw.KeysOnce)
    (clean : file.alarmViolations root = []) :
    (∃ metadata, file.validateAlarm root = .ok metadata) ↔ file.OptionalTexts := by
  obtain ⟨members, object⟩ := object_of_alarmViolations clean
  have present : ∀ key ∈ neededOfAlarm,
      ∃ text, neededMember members key Decoder.text = .ok text := by
    intro key member
    obtain ⟨text, there⟩ := needed_of_alarmViolations clean member
    exact ⟨text, neededMember_text ((attribute?_eq_some_iff object).1 there)⟩
  have read : (∃ metadata, file.validateAlarm root = .ok metadata) ↔
      ∃ metadata, AlarmMetadata.ofJson file.location file.raw = .ok metadata := by
    simp only [validateAlarm, clean, recordUnless]
    cases AlarmMetadata.ofJson file.location file.raw <;> simp
  rw [object] at once
  rw [read, object, AlarmMetadata.exists_ofJson_iff once.nodup, and_iff_right present]
  simp only [exists_optionalMember_text_iff, OptionalTexts, object]
  rfl

/-- A file that becomes a record has no violations. -/
theorem alarmViolations_of_valid {metadata : AlarmMetadata}
    (valid : file.validateAlarm root = .ok metadata) : file.alarmViolations root = [] := by
  unfold validateAlarm recordUnless at valid
  split at valid
  · assumption
  · cases valid

/-- What a descriptor without violations is refused for is its shape. -/
theorem code_of_validateAlarm {error : MetadataError} (clean : file.alarmViolations root = [])
    (refused : file.validateAlarm root = .error error) : error.code = .metadataParse := by
  simp only [validateAlarm, clean, recordUnless] at refused
  split at refused <;> cases refused
  rfl

end MetadataFile

/-! ### Deployment -/

namespace AlarmManager

variable {σ : Type}

/-- A reference leads to a descriptor that is read as a file. -/
def Leads (root : Path) (files : Files) (reference : String) (file : MetadataFile) : Prop :=
  ∃ tag, Tag.parse? reference = some tag ∧ tag.category? = some .alarm ∧
    files.isFile (descriptorPath root tag) = true ∧
    MetadataFile.load files (descriptorPath root tag) = .ok file

/-- Loading a template fails for its metadata exactly as the check of the descriptor does. -/
theorem loadTemplate_eq_metadata_iff {settings : AlarmSettings} {files : Files}
    {reference : String} {file : MetadataFile} (leads : Leads settings.root files reference file)
    {cause : MetadataError} :
    loadTemplate settings files reference = .error (.metadata cause) ↔
      file.validateAlarm settings.root = .error cause := by
  obtain ⟨tag, parsed, alarm, there, read⟩ := leads
  have kept : (Tag.parse? reference).filter (fun tag => tag.category? = some .alarm) =
      some tag := by
    simp [parsed, alarm, Option.filter]
  simp only [loadTemplate, kept, there, Bool.not_true, Bool.false_eq_true, ↓reduceIte, read]
  cases file.validateAlarm settings.root with
  | error other => simp
  | ok metadata => cases written : files.read metadata.contentPath <;> simp [written]

/-- Bringing up a stack does not fail for metadata. -/
theorem bringUp_ne_metadata (ports : AlarmPorts σ) (services : σ) (bucket stack template : String)
    (cause : MetadataError) :
    (bringUp ports services bucket stack template).1 ≠ .error (.metadata cause) := by
  unfold bringUp checkStack
  grind

/-- A deployment fails for metadata when its template cannot be loaded for them. -/
theorem deploy_eq_metadata_iff (ports : AlarmPorts σ) (files : Files) (manager : AlarmManager)
    (services : σ) (reference : String) (bindings : Table String String) (id : Option String)
    {cause : MetadataError} :
    (deploy ports files manager services reference bindings id).1 = .error (.metadata cause) ↔
      loadTemplate manager.settings files reference = .error (.metadata cause) := by
  unfold deploy renderTemplate
  cases loadTemplate manager.settings files reference with
  | error other => simp
  | ok template =>
      -- What comes after loading fails for other causes.
      have identified (other : AlarmError) (refused : manager.identify id = .error other) :
          other ≠ .metadata cause := by
        unfold identify at refused
        grind
      have raised := bringUp_ne_metadata ports services manager.settings.bucket
      grind

/-- A descriptor without violations gives a record exactly when its optional attributes are texts;
otherwise its shape is refused, both in validation and in every deployment of its alarm. -/
theorem readable_iff {file : MetadataFile} {root : Path} (once : file.raw.KeysOnce)
    (clean : file.alarmViolations root = []) :
    ((∃ metadata, file.validateAlarm root = .ok metadata) ↔ file.OptionalTexts) ∧
      (∀ error, file.validateAlarm root = .error error → error.code = .metadataParse) ∧
      ∀ {σ : Type} (ports : AlarmPorts σ) (files : Files) (manager : AlarmManager) (services : σ)
        (reference : String) (bindings : Table String String) (id : Option String),
        manager.settings.root = root → Leads root files reference file →
          ((∃ error, error.code = .metadataParse ∧
            (deploy ports files manager services reference bindings id).1 =
              .error (.metadata error)) ↔ ¬ file.OptionalTexts) := by
  have read := MetadataFile.exists_validateAlarm_iff once clean
  refine ⟨read, fun _ => MetadataFile.code_of_validateAlarm clean, ?_⟩
  rintro σ ports files manager services reference bindings id rfl leads
  simp only [deploy_eq_metadata_iff, loadTemplate_eq_metadata_iff leads, ← read]
  constructor
  · rintro ⟨error, _, refused⟩ ⟨metadata, valid⟩
    rw [valid] at refused
    cases refused
  · intro unread
    cases valid : file.validateAlarm manager.settings.root with
    | ok metadata => exact absurd ⟨metadata, valid⟩ unread
    | error error => exact ⟨error, MetadataFile.code_of_validateAlarm clean valid, rfl⟩

/-- The sample is deployed without a complaint about its descriptor. -/
theorem readable_sampleFiles :
    ∃ file, file.raw.KeysOnce ∧ file.alarmViolations ⟨"docs"⟩ = [] ∧
      Leads ⟨"docs"⟩ (sampleFiles "Limit: 5") "rds:alarm:cpu:1" file ∧ file.OptionalTexts ∧
      ¬ ∃ error, error.code = .metadataParse ∧
        (deploy AlarmServices.ports (sampleFiles "Limit: 5") (new sampleSettings)
          AlarmServices.empty "rds:alarm:cpu:1" Table.empty none).1 =
            .error (.metadata error) := by
  obtain ⟨tag, file, metadata, parsed, alarm, there, read, valid, _⟩ :=
    loadTemplate_eq_ok_iff.1 (loadTemplate_sampleFiles "Limit: 5")
  have once : file.raw.KeysOnce := MetadataFile.keysOnce_of_ofContent read
  have clean : file.alarmViolations ⟨"docs"⟩ = [] := MetadataFile.alarmViolations_of_valid valid
  have leads : Leads ⟨"docs"⟩ (sampleFiles "Limit: 5") "rds:alarm:cpu:1" file :=
    ⟨tag, parsed, alarm, there, read⟩
  obtain ⟨readable, _, deployed⟩ := readable_iff once clean
  have texts := readable.1 ⟨metadata, valid⟩
  refine ⟨file, once, clean, leads, texts, fun failed => ?_⟩
  exact (deployed AlarmServices.ports _ _ AlarmServices.empty _ _ none rfl leads).1 failed texts

/-- The descriptor of an alarm with a number for its description. -/
def numberedDescriptor : MetadataFile where
  path := ⟨"docs/rds/alarm/cpu/1/Documents/metadata.json"⟩
  raw := .object
    [("alarmContentPath", .string "alarm.yml"), ("alarmName", .string "CPU"),
      ("description", Json.ofNat 5), ("tag", .string "rds:alarm:cpu:1")]

/-- It has no violations and cannot be read. -/
theorem unreadable_numberedDescriptor :
    numberedDescriptor.raw.KeysOnce ∧ numberedDescriptor.alarmViolations ⟨"docs"⟩ = [] ∧
      numberedDescriptor.validateAlarm ⟨"docs"⟩ =
        .error (.shape numberedDescriptor.path (.wrongType (Json.ofNat 5) "a string")) := by
  have once : numberedDescriptor.raw.KeysOnce := by
    refine .object (by decide) ?_
    simp only [List.forall_mem_cons]
    exact ⟨.string _, .string _, .number _, .string _, nofun⟩
  have clean : numberedDescriptor.alarmViolations ⟨"docs"⟩ = [] := by decide
  refine ⟨once, clean, ?_⟩
  rw [MetadataFile.validateAlarm, clean]
  rfl

end AlarmManager

end Runbook
