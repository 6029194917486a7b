import Runbook.Proofs.Audit.Clean

/-!
# What warns is still found

Which services' findings only warn has a say in one place, the severity of a finding. What is wrong
with a file is settled before (`issues_mk`), so that an audit under other services finds the same,
graded anew (`findings_eq_map_grade`), and with more services the errors only become fewer
(`warnOnly_changes_severity_only`).
-/

namespace Runbook

/-- The finding as it stands where no service only warns. -/
def Finding.asError (finding : Finding) : Finding := { finding with severity := .error }

namespace Auditor

variable {auditor : Auditor} {store : MetadataStore} {root : Path} {file : MetadataFile}
  {checks : RuleSet} {metadata : DocumentMetadata} {finding : Finding} {service : Option String}

/-- The finding, as grave as the auditor takes it to be. -/
def grade (auditor : Auditor) (finding : Finding) : Finding :=
  { finding with severity := auditor.severityOf finding.service }

/-- A finding is a warning exactly where its service is listed. -/
theorem severityOf_eq_warning_iff : auditor.severityOf service = .warning ↔
    ∃ name ∈ auditor.warnOnly, service = some name := by
  cases service with
  | none => simp [severityOf]
  | some name => simp [severityOf]

/-- Two auditors grade a service alike exactly where both list it or neither does. -/
theorem severityOf_eq_iff (auditor other : Auditor) :
    other.severityOf service = auditor.severityOf service ↔
      ∀ name, service = some name → (name ∈ other.warnOnly ↔ name ∈ auditor.warnOnly) := by
  cases service with
  | none => simp [severityOf]
  | some name =>
      by_cases here : name ∈ other.warnOnly <;> by_cases there : name ∈ auditor.warnOnly <;>
        simp [severityOf, here, there]

/-! ### Issues -/

/-- The services have no say in what is wrong with a file. -/
theorem issues_mk (auditor : Auditor) (other : List String) :
    (mk auditor.assemble other).issues root file = auditor.issues root file := rfl

/-- No issue of a content is one of uniqueness. -/
theorem code_of_contentIssues : ∀ issue ∈ auditor.contentIssues checks metadata,
    issue.code ≠ .metadataNotUnique := by
  rw [contentIssues]
  intro issue member
  cases assembled : auditor.assemble metadata with
  | error cause =>
      rw [assembled, List.mem_singleton] at member
      subst member
      cases cause <;> simp [AssemblyError.code]
  | ok content =>
      rw [assembled] at member
      dsimp only at member
      cases parsed : Document.parse content metadata.format with
      | error cause =>
          rw [parsed, List.mem_singleton] at member
          subst member
          simp
      | ok document =>
          rw [parsed, List.mem_map] at member
          obtain ⟨violation, _, rfl⟩ := member
          simp

/-- No issue of a document is one of uniqueness. -/
theorem code_of_documentIssues : ∀ issue ∈ auditor.documentIssues root file,
    issue.code ≠ .metadataNotUnique := by
  rw [documentIssues]
  intro issue member
  split at member
  · rename_i clean
    split at member
    · rename_i cause failed
      rw [List.mem_singleton] at member
      subst member
      -- Without violations the record can only have another shape.
      rw [MetadataFile.validate, clean, MetadataFile.recordUnless] at failed
      split at failed
      · cases failed
      · cases failed
        simp [MetadataError.code]
    · split at member
      · exact code_of_contentIssues issue member
      · cases member
  · obtain ⟨message, _, rfl⟩ := List.mem_map.1 member
    simp

/-- What is wrong with a file by itself is never that it shares a value. -/
theorem code_of_issues : ∀ issue ∈ auditor.issues root file,
    issue.code ≠ .metadataNotUnique := by
  cases isAlarm : file.isAlarm root with
  | true =>
      rw [issues, if_pos isAlarm]
      intro issue member
      obtain ⟨message, _, rfl⟩ := List.mem_map.1 member
      simp
  | false =>
      rw [issues_of_not_isAlarm isAlarm]
      exact code_of_documentIssues

/-! ### Findings -/

/-- Audits that differ in their services find the same, graded by each in its way. -/
theorem findings_eq_map_grade (auditor : Auditor) (other : List String) (store : MetadataStore) :
    ((mk auditor.assemble other).run store).findings =
      (auditor.run store).findings.map (mk auditor.assemble other).grade := by
  have each : ∀ file : MetadataFile, (mk auditor.assemble other).fileFindings store.root file =
      (auditor.fileFindings store.root file).map (mk auditor.assemble other).grade := by
    intro file
    rw [fileFindings, fileFindings, List.map_map, issues_mk]
    rfl
  rw [run, run, List.map_append, List.map_flatMap, funext each, sharedFindings, sharedFindings,
    List.map_map]
  rfl

/-- A finding of an audit is graded already. -/
theorem grade_of_mem (member : finding ∈ (auditor.run store).findings) :
    auditor.grade finding = finding := by
  rw [findings_eq_map_grade auditor auditor.warnOnly store] at member
  obtain ⟨found, _, rfl⟩ := List.mem_map.1 member
  rfl

/-- A finding has the severity of its service. -/
theorem severity_of_mem (member : finding ∈ (auditor.run store).findings) :
    finding.severity = auditor.severityOf finding.service :=
  congrArg Finding.severity (grade_of_mem member).symm

/-- A finding about a file stands at its path and bears its service; what is left are the values
that files share. -/
theorem mem_findings_iff : finding ∈ (auditor.run store).findings ↔
    (∃ file ∈ store.files, ∃ issue ∈ auditor.issues store.root file,
      finding = auditor.finding (file.service? store.root) file.path issue) ∨
    ∃ message ∈ (claims store).violations,
      finding = ⟨.error, .metadataNotUnique, none, store.root, message⟩ := by
  simp only [run, fileFindings, sharedFindings, List.mem_append, List.mem_flatMap, List.mem_map,
    eq_comm (b := finding)]
  rfl

/-- A finding of another kind than uniqueness is about one file, and names its service. -/
theorem exists_file_of_mem (member : finding ∈ (auditor.run store).findings)
    (single : finding.code ≠ .metadataNotUnique) :
    ∃ file ∈ store.files, finding.file = file.path ∧
      finding.service = file.service? store.root := by
  rcases mem_findings_iff.1 member with ⟨file, inside, issue, _, rfl⟩ | ⟨message, _, rfl⟩
  · exact ⟨file, inside, rfl, rfl⟩
  · exact absurd rfl single

/-- The findings about shared values are the same errors in every audit. -/
theorem filter_metadataNotUnique :
    (auditor.run store).findings.filter (fun finding => finding.code = .metadataNotUnique) =
      (claims store).violations.map fun message =>
        ⟨.error, .metadataNotUnique, none, store.root, message⟩ := by
  rw [run, List.filter_append, List.filter_eq_nil_iff.2, List.nil_append,
    List.filter_eq_self.2]
  · rfl
  · intro finding member
    obtain ⟨message, _, rfl⟩ := List.mem_map.1 member
    exact decide_eq_true rfl
  · intro finding member
    obtain ⟨file, _, found⟩ := List.mem_flatMap.1 member
    obtain ⟨issue, inside, rfl⟩ := List.mem_map.1 found
    exact decide_eq_true_iff.not.2 (code_of_issues issue inside)

/-- Two audits report the same exactly when they agree on the services of what they find. -/
theorem run_eq_iff (auditor : Auditor) (other : List String) (store : MetadataStore) :
    (mk auditor.assemble other).run store = auditor.run store ↔
      ∀ finding ∈ (auditor.run store).findings, ∀ service, finding.service = some service →
        (service ∈ other ↔ service ∈ auditor.warnOnly) := by
  have same : (mk auditor.assemble other).run store = auditor.run store ↔
      (auditor.run store).findings.map (mk auditor.assemble other).grade =
        (auditor.run store).findings.map id := by
    rw [List.map_id, ← findings_eq_map_grade]
    exact ⟨fun equal => by rw [equal], fun equal => congrArg (AuditReport.mk _) equal⟩
  rw [same, List.map_inj_left]
  refine forall₂_congr fun finding member => ?_
  rw [← severityOf_eq_iff auditor (mk auditor.assemble other), ← severity_of_mem member]
  exact ⟨congrArg Finding.severity, fun equal => congrArg (fun severity =>
    { finding with severity := severity }) equal⟩

/-! ### More services -/

/-- A finding that is an error under more services is the same error under fewer. -/
theorem severity_of_severityOf {other : List String} (within : auditor.warnOnly ⊆ other)
    (member : finding ∈ (auditor.run store).findings)
    (grave : (mk auditor.assemble other).severityOf finding.service = .error) :
    finding.severity = .error := by
  cases graded : finding.severity with
  | error => rfl
  | warning =>
      rw [severity_of_mem member] at graded
      obtain ⟨name, listed, bears⟩ := severityOf_eq_warning_iff.1 graded
      have warns : (mk auditor.assemble other).severityOf finding.service = .warning :=
        severityOf_eq_warning_iff.2 ⟨name, within listed, bears⟩
      rw [warns] at grave
      cases grave

/-- Under more services those errors are left the services of which still do not warn. -/
theorem errors_eq_filter (auditor : Auditor) {other : List String}
    (within : auditor.warnOnly ⊆ other) :
    ((mk auditor.assemble other).run store).errors =
      (auditor.run store).errors.filter fun finding =>
        (mk auditor.assemble other).severityOf finding.service = .error := by
  let grave := fun finding : Finding =>
    decide ((mk auditor.assemble other).severityOf finding.service = .error)
  calc ((mk auditor.assemble other).run store).errors
      = ((auditor.run store).findings.filter grave).map (mk auditor.assemble other).grade := by
        rw [AuditReport.errors, AuditReport.ofSeverity, findings_eq_map_grade, List.filter_map]
        rfl
    _ = (auditor.run store).findings.filter grave := by
        refine (List.map_congr_left fun finding member => ?_).trans (List.map_id _)
        obtain ⟨found, isGrave⟩ := List.mem_filter.1 member
        rw [decide_eq_true_iff] at isGrave
        rw [grade, isGrave, ← severity_of_severityOf within found isGrave, id_eq]
    _ = (auditor.run store).errors.filter grave := by
        rw [AuditReport.errors, AuditReport.ofSeverity, List.filter_filter]
        refine List.filter_congr fun finding member => ?_
        rw [Bool.eq_iff_iff, Bool.and_eq_true, decide_eq_true_iff, decide_eq_true_iff]
        exact (and_iff_left_of_imp (severity_of_severityOf within member)).symm

/-- Two audits with one assembler that differ in their services whose findings only warn find the
same, up to its severity. A finding warns exactly where its service is known and listed; the values
that files share are the same errors in both, and everything else bears the service of its file. So
where one audit lists all services of the other, its errors are among the other's. -/
theorem warnOnly_changes_severity_only (store : MetadataStore)
    (assemble : DocumentMetadata → Except AssemblyError String) (listed others : List String) :
    let report := fun services => (mk assemble services).run store
    (report listed).files = (report others).files ∧
      (report listed).findings.map Finding.asError = (report others).findings.map Finding.asError ∧
      (∀ finding ∈ (report listed).findings,
        finding.severity = .warning ↔ ∃ service ∈ listed, finding.service = some service) ∧
      (report listed).findings.filter (fun finding => finding.code = .metadataNotUnique) =
        ((claims store).violations.map fun message =>
          ⟨.error, .metadataNotUnique, none, store.root, message⟩) ∧
      (∀ finding ∈ (report listed).findings, finding.code ≠ .metadataNotUnique →
        ∃ file ∈ store.files, finding.file = file.path ∧
          finding.service = file.service? store.root) ∧
      (listed ⊆ others →
        (report others).errors.Sublist (report listed).errors ∧
          ((report listed).passed = true → (report others).passed = true)) := by
  intro report
  refine ⟨rfl, ?_, fun finding member => ?_, filter_metadataNotUnique,
    fun finding member => exists_file_of_mem member, fun within => ?_⟩
  · have regraded : (report others).findings =
        (report listed).findings.map (mk assemble others).grade :=
      findings_eq_map_grade (mk assemble listed) others store
    rw [regraded, List.map_map]
    rfl
  · rw [severity_of_mem member]
    exact severityOf_eq_warning_iff
  · have fewer : (report others).errors.Sublist (report listed).errors := by
      rw [errors_eq_filter (mk assemble listed) within]
      exact List.filter_sublist
    refine ⟨fewer, fun passed => ?_⟩
    rw [AuditReport.passed, List.isEmpty_iff] at passed ⊢
    rw [passed] at fewer
    exact List.sublist_nil.1 fewer

/-- A test that cannot be assembled is a finding about its service, which passes where this service
only warns, also next to another. -/
theorem warnOnly_changes_severity_only_host :
    let report := fun services =>
      (mk (fun metadata => .error (.builderMissing metadata.documentName)) services).run sampleStore
    (report []).passed = false ∧ ["host"] ⊆ ["host", "rds"] ∧
      (report ["host"]).passed = true ∧
      (report ["host", "rds"]).errors.Sublist (report ["host"]).errors ∧
      (report ["host", "rds"]).passed = true := by
  intro report
  have within : ["host"] ⊆ ["host", "rds"] := by decide
  have passed : (report ["host"]).passed = true := by decide +kernel
  obtain ⟨_, _, _, _, _, lenient⟩ := warnOnly_changes_severity_only sampleStore
    (fun metadata => .error (.builderMissing metadata.documentName)) ["host"] ["host", "rds"]
  exact ⟨by decide, within, passed, (lenient within).1, (lenient within).2 passed⟩

end Auditor

end Runbook
