import Runbook.Audit
import Runbook.Proofs.Metadata.Store
import Runbook.Proofs.Metadata.Uniqueness
import Runbook.Proofs.Metadata.Validation

/-!
# A passing audit means a clean store

An audit that makes no finding a warning passes exactly when the store is clean: the descriptors
have no violations, the contents of documents with rules keep them, and any two files are apart
(`passed_iff_clean`). The checks of a file are followed in their order, so that none that comes to
an early end hides a finding. A store that was found on disk has its files at different paths and
each key of their objects once (`passed_iff_clean_of_discover`).
-/

namespace Runbook

namespace MetadataFile

variable {file : MetadataFile} {root : Path} {category : Category}

/-- The declared tag names a category. -/
def Tagged (file : MetadataFile) (category : Category) : Prop :=
  ∃ text tag, file.tag? = some text ∧ Tag.parse? text = some tag ∧ tag.category? = some category

/-- A file that becomes a record has the category of the record's tag. -/
theorem tagged_iff {metadata : DocumentMetadata} (valid : file.validate root = .ok metadata) :
    file.Tagged category ↔ metadata.parsedTag?.bind Tag.category? = some category := by
  simp only [Tagged, tag?_of_validate valid, DocumentMetadata.parsedTag?, Option.bind_eq_some_iff,
    Option.some.injEq, exists_eq_left', exists_and_left]

end MetadataFile

/-- In the files that a walk reads every object lists each key once. -/
theorem MetadataStore.keysOnce_of_discover {files : Files} {root : Path} {store : MetadataStore}
    (found : discover files root = .ok store) : ∀ file ∈ store.files, file.raw.KeysOnce := by
  rw [discover] at found
  split at found
  · obtain ⟨loaded, read, same⟩ := bind_eq_ok_iff.1 found
    cases same
    intro file member
    obtain ⟨place, _, made⟩ := exists_of_mem_mapM read member
    exact MetadataFile.keysOnce_of_ofContent made
  · cases found

namespace Auditor

variable {auditor : Auditor} {root : Path} {file : MetadataFile} {checks : RuleSet}
  {metadata : DocumentMetadata} {store : MetadataStore}

/-- The content of a document can be assembled and keeps some rules. -/
def Conforms (auditor : Auditor) (checks : RuleSet) (metadata : DocumentMetadata) : Prop :=
  ∃ content document, auditor.assemble metadata = .ok content ∧
    Document.parse content metadata.format = .ok document ∧
    checks.violations document metadata.contentPath = []

/-- A file is in order by itself. What its tag says about the content of a document counts only
where it is no alarm. -/
structure Accepts (auditor : Auditor) (root : Path) (file : MetadataFile) : Prop where
  alarm : file.isAlarm root = true → file.alarmViolations root = []
  document : file.isAlarm root = false → file.violations root = []
  sop : file.isAlarm root = false → file.Tagged .sop →
    ∃ metadata, file.validate root = .ok metadata ∧ auditor.Conforms .sop metadata
  test : file.isAlarm root = false → file.Tagged .test →
    ∃ metadata, file.validate root = .ok metadata ∧ auditor.Conforms .test metadata

/-- Every file of a store is in order, and any two of them are apart. -/
structure Clean (auditor : Auditor) (store : MetadataStore) : Prop where
  each : ∀ file ∈ store.files, auditor.Accepts store.root file
  apart : store.files.Pairwise MetadataFile.Apart

/-! ### The issues of a file -/

/-- A content has no issues exactly where it conforms. -/
theorem contentIssues_eq_nil_iff :
    auditor.contentIssues checks metadata = [] ↔ auditor.Conforms checks metadata := by
  rw [contentIssues, Conforms]
  cases auditor.assemble metadata with
  | error cause => simp
  | ok content =>
      dsimp only
      cases parsed : Document.parse content metadata.format with
      | error cause => simp [parsed]
      | ok document => simp [parsed]

/-- A document has no issues when it has a record, and the content that this record stands for
keeps the rules of its category where there are any. -/
theorem documentIssues_eq_nil_iff : auditor.documentIssues root file = [] ↔
    ∃ metadata, file.validate root = .ok metadata ∧
      ∀ category, file.Tagged category → ∀ checks, RuleSet.ofCategory? category = some checks →
        auditor.Conforms checks metadata := by
  rw [documentIssues]
  cases valid : file.validate root with
  | error cause =>
      split
      · simp
      · rename_i found
        simpa using found
  | ok metadata =>
      simp only [(MetadataFile.readFrom_of_validate valid).1, MetadataFile.tagged_iff valid,
        checksOf, Except.ok.injEq, exists_eq_left']
      cases metadata.parsedTag?.bind Tag.category? with
      | none => simp
      | some category =>
          simp only [Option.bind_some, Option.some.injEq, forall_eq']
          cases RuleSet.ofCategory? category with
          | none => simp
          | some checks => simp [contentIssues_eq_nil_iff]

/-- An alarm has no issues exactly where it has no violations. -/
theorem issues_of_isAlarm (isAlarm : file.isAlarm root = true) :
    auditor.issues root file = [] ↔ file.alarmViolations root = [] := by
  rw [issues, if_pos isAlarm, List.map_eq_nil_iff]

/-- What is no alarm is audited as a document. -/
theorem issues_of_not_isAlarm (notAlarm : file.isAlarm root = false) :
    auditor.issues root file = auditor.documentIssues root file := by
  rw [issues, if_neg (by simp [notAlarm])]

/-- A file without issues is accepted. -/
theorem accepts_of_issues (none : auditor.issues root file = []) : auditor.Accepts root file := by
  cases isAlarm : file.isAlarm root with
  | true =>
      have clean := (issues_of_isAlarm isAlarm).1 none
      exact ⟨fun _ => clean, by simp [isAlarm], by simp [isAlarm], by simp [isAlarm]⟩
  | false =>
      rw [issues_of_not_isAlarm isAlarm, documentIssues_eq_nil_iff] at none
      obtain ⟨metadata, valid, conforms⟩ := none
      exact ⟨by simp [isAlarm], fun _ => (MetadataFile.readFrom_of_validate valid).1,
        fun _ tagged => ⟨metadata, valid, conforms .sop tagged .sop rfl⟩,
        fun _ tagged => ⟨metadata, valid, conforms .test tagged .test rfl⟩⟩

/-- Where each key stands once, a file in order has no issues: that it has no violations is enough
to have a record. -/
theorem Accepts.issues_eq_nil (accepted : auditor.Accepts root file) (once : file.raw.KeysOnce) :
    auditor.issues root file = [] := by
  cases isAlarm : file.isAlarm root with
  | true => exact (issues_of_isAlarm isAlarm).2 (accepted.alarm isAlarm)
  | false =>
      rw [issues_of_not_isAlarm isAlarm, documentIssues_eq_nil_iff]
      obtain ⟨metadata, valid⟩ := MetadataFile.exists_validate once (accepted.document isAlarm)
      have only : ∀ checks, (∃ record, file.validate root = .ok record ∧
          auditor.Conforms checks record) → auditor.Conforms checks metadata := by
        rintro checks ⟨record, again, conforms⟩
        rw [valid, Except.ok.injEq] at again
        rwa [again]
      refine ⟨metadata, valid, fun category tagged checks ruled => ?_⟩
      cases category <;> cases ruled
      · exact only .sop (accepted.sop isAlarm tagged)
      · exact only .test (accepted.test isAlarm tagged)

/-! ### The findings of a store -/

/-- Without services whose findings only warn every finding is an error. -/
theorem passed_iff_no_findings (strict : auditor.warnOnly = []) :
    (auditor.run store).passed = true ↔ (auditor.run store).findings = [] := by
  have grave : ∀ finding ∈ (auditor.run store).findings, finding.severity = .error := by
    have each : ∀ service, auditor.severityOf service = .error := by
      intro service
      cases service <;> simp [severityOf, strict]
    intro finding member
    simp only [run, fileFindings, sharedFindings, List.mem_append, List.mem_flatMap,
      List.mem_map] at member
    rcases member with ⟨file, _, issue, _, rfl⟩ | ⟨message, _, rfl⟩
    · exact each (file.service? store.root)
    · exact each none
  rw [AuditReport.passed, List.isEmpty_iff, AuditReport.errors, AuditReport.ofSeverity,
    List.filter_eq_self.2 fun finding member => by simp [grave finding member]]

/-- There is nothing to find where no file has issues and no value has two claimants. -/
theorem findings_eq_nil_iff
    (distinct : (store.files.map fun file => file.path.components).Nodup) :
    (auditor.run store).findings = [] ↔
      (∀ file ∈ store.files, auditor.issues store.root file = []) ∧
        store.files.Pairwise MetadataFile.Apart := by
  simp only [run, fileFindings, sharedFindings, claims, List.append_eq_nil_iff,
    List.flatMap_eq_nil_iff, List.map_eq_nil_iff,
    UniquenessRegister.violations_files_eq_nil_iff distinct]

/-- There is nothing to find in a clean store, and in no other. -/
theorem findings_eq_nil_iff_clean
    (distinct : (store.files.map fun file => file.path.components).Nodup)
    (once : ∀ file ∈ store.files, file.raw.KeysOnce) :
    (auditor.run store).findings = [] ↔ auditor.Clean store := by
  rw [findings_eq_nil_iff distinct]
  constructor
  · rintro ⟨none, apart⟩
    exact ⟨fun file member => accepts_of_issues (none file member), apart⟩
  · rintro ⟨each, apart⟩
    exact ⟨fun file member => (each file member).issues_eq_nil (once file member), apart⟩

/-- An audit that makes no finding a warning passes a store, the files of which stand at different
paths, exactly when the store is clean. -/
theorem passed_iff_clean (strict : auditor.warnOnly = [])
    (distinct : (store.files.map fun file => file.path.components).Nodup)
    (once : ∀ file ∈ store.files, file.raw.KeysOnce) :
    (auditor.run store).passed = true ↔ auditor.Clean store := by
  rw [passed_iff_no_findings strict, findings_eq_nil_iff_clean distinct once]

/-- An audit that makes no finding a warning passes what was found below a directory exactly when it
is clean. -/
theorem passed_iff_clean_of_discover {files : Files} {tree : FileTree}
    (resolved : files.resolve root = .ok tree) (inside : tree.isDirectory = true)
    (named : tree.isNamed = true) (found : MetadataStore.discover files root = .ok store)
    (strict : auditor.warnOnly = []) :
    (auditor.run store).passed = true ↔ auditor.Clean store := by
  obtain ⟨-, -, ascending⟩ := MetadataStore.files_of_discover resolved inside named found
  have distinct : (store.files.map fun file => file.path.components).Nodup :=
    List.pairwise_map.2 (ascending.imp ne_of_before)
  rw [passed_iff_no_findings strict,
    findings_eq_nil_iff_clean distinct (MetadataStore.keysOnce_of_discover found)]

/-! ### A clean store -/

/-- The content of a document that keeps the rules for tests. -/
def sampleContent : String :=
  "\x7b\"description\":\"\",\"schemaVersion\":\"\",\"assumeRole\":\"\",\"mainSteps\":[],"
    ++ "\"parameters\":\x7b\"AutomationAssumeRole\":"
    ++ "\x7b\"type\":\"String\",\"description\":\"(Required)\"\x7d\x7d\x7d"

/-- An auditor for whom every test has this content, and nothing else can be assembled. -/
def sample : Auditor where
  assemble := fun metadata =>
    if metadata.documentName = "Digito-HostRebootTest_1" then .ok sampleContent
    else .error (.builderMissing metadata.documentName)
  warnOnly := []

/-- A store of an alarm, a test and a document without rules. -/
def sampleStore : MetadataStore where
  root := ⟨"docs"⟩
  files :=
    [⟨⟨"docs/host/alarm/load/1/Documents/metadata.json"⟩, Json.ofTexts
        [("alarmContentPath", "alarm.yml"), ("alarmName", "load"), ("tag", "host:alarm:load:1")]⟩,
      .sample "test" "reboot" "1" "Digito-HostRebootTest_1",
      .sample "util" "list" "1" "Digito-List"]

/-- The files of the sample have different places. -/
theorem distinct_sampleStore :
    (sampleStore.files.map fun file => file.path.components).Nodup := by decide

/-- No object of the sample has a key twice. -/
theorem keysOnce_sampleStore : ∀ file ∈ sampleStore.files, file.raw.KeysOnce := by
  simp only [sampleStore, List.forall_mem_cons]
  exact ⟨Json.keysOnce_ofTexts (by simp), MetadataFile.keysOnce_sample _ _ _ _,
    MetadataFile.keysOnce_sample _ _ _ _, nofun⟩

/-- The sample passes its audit. -/
theorem passed_sampleStore : (sample.run sampleStore).passed = true := by decide +kernel

/-- The sample passes with every finding an error, and so is clean. -/
theorem clean_of_passed_sampleStore :
    sample.warnOnly = [] ∧ (sampleStore.files.map fun file => file.path.components).Nodup ∧
      (∀ file ∈ sampleStore.files, file.raw.KeysOnce) ∧ sample.Clean sampleStore :=
  ⟨rfl, distinct_sampleStore, keysOnce_sampleStore,
    (passed_iff_clean rfl distinct_sampleStore keysOnce_sampleStore).1 passed_sampleStore⟩

end Auditor

end Runbook
