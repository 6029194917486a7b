import Runbook.Assembly.Error
import Runbook.Metadata.Check
import Runbook.Metadata.Store
import Runbook.Metadata.Uniqueness
import Runbook.Rules.Check

/-!
# Auditing a store

An audit looks at every metadata file of a store, and at the content of the documents whose
category has rules. Everything that is wrong becomes a finding, and only errors fail the audit.
The findings about some services can be made warnings; what several files share belongs to no
service and is always an error.
-/

namespace Runbook

/-- How grave a finding is. -/
inductive Severity where
  | warning
  | error
deriving DecidableEq, Repr

/-- The name of a severity. -/
def Severity.name : Severity → String
  | .warning => "warning"
  | .error => "error"

/-- Something wrong, before it is known whose it is. -/
structure Issue where
  code : ErrorCode
  message : String
deriving DecidableEq, Repr

/-- Something wrong with a file of a service. -/
structure Finding where
  severity : Severity
  code : ErrorCode
  service : Option String
  file : Path
  message : String
deriving DecidableEq, Repr

/-- The finding as a JSON object. -/
def Finding.toJson (finding : Finding) : Json :=
  .object
    [("severity", .string finding.severity.name),
      ("code", .string finding.code.text),
      ("service", Json.ofOption .string finding.service),
      ("file", .string finding.file.text),
      ("message", .string finding.message)]

/-- How many files an audit looked at, and what it found. -/
structure AuditReport where
  files : Nat
  findings : List Finding
deriving DecidableEq, Repr

namespace AuditReport

/-- The findings of a severity. -/
def ofSeverity (report : AuditReport) (severity : Severity) : List Finding :=
  report.findings.filter fun finding => finding.severity = severity

/-- The findings that fail the audit. -/
def errors (report : AuditReport) : List Finding := report.ofSeverity .error

/-- The findings that do not. -/
def warnings (report : AuditReport) : List Finding := report.ofSeverity .warning

/-- Is there nothing that fails the audit? -/
def passed (report : AuditReport) : Bool := report.errors.isEmpty

/-- The report as a JSON object. -/
def toJson (report : AuditReport) : Json :=
  .object
    [("files", Json.ofNat report.files), ("findings", .array (report.findings.map Finding.toJson))]

end AuditReport

namespace MetadataFile

/-- The service that a file belongs to, by its place or else by its declared tag. -/
def service? (root : Path) (file : MetadataFile) : Option String :=
  ((Tag.ofMetadataPath? root file.path).or (file.tag?.bind Tag.parse?)).map Tag.service

end MetadataFile

/-- How an audit goes: what assembles documents, and the services whose findings only warn. -/
structure Auditor where
  assemble : DocumentMetadata → Except AssemblyError String
  warnOnly : List String

namespace Auditor

/-- The checks of a document's category, where it has any. -/
def checksOf (metadata : DocumentMetadata) : Option RuleSet :=
  (metadata.parsedTag?.bind Tag.category?).bind RuleSet.ofCategory?

/-- What is wrong with the content of a document. -/
def contentIssues (auditor : Auditor) (checks : RuleSet) (metadata : DocumentMetadata) :
    List Issue :=
  match auditor.assemble metadata with
  | .error cause => [⟨cause.code, cause.message⟩]
  | .ok content =>
      match Document.parse content metadata.format with
      | .error cause =>
          [⟨.documentParse, metadata.contentPath.text ++ ": " ++ cause.message⟩]
      | .ok document =>
          (checks.violations document metadata.contentPath).map fun violation =>
            ⟨.ruleViolation, violation.text⟩

/-- What is wrong with a document: its metadata, or else its content where its category has
rules. -/
def documentIssues (auditor : Auditor) (root : Path) (file : MetadataFile) : List Issue :=
  match file.violations root with
  | [] =>
      match file.validate root with
      | .error cause => [⟨cause.code, cause.message⟩]
      | .ok metadata =>
          match checksOf metadata with
          | some checks => auditor.contentIssues checks metadata
          | none => []
  | violations => violations.map fun message => ⟨.metadataInvalid, message⟩

/-- What is wrong with a file. -/
def issues (auditor : Auditor) (root : Path) (file : MetadataFile) : List Issue :=
  if file.isAlarm root then
    (file.alarmViolations root).map fun message => ⟨.metadataInvalid, message⟩
  else auditor.documentIssues root file

/-- How grave the findings about a service are. -/
def severityOf (auditor : Auditor) (service : Option String) : Severity :=
  if service.any auditor.warnOnly.contains then .warning else .error

/-- The finding that an issue of a service's file is. -/
def finding (auditor : Auditor) (service : Option String) (file : Path) (issue : Issue) :
    Finding :=
  ⟨auditor.severityOf service, issue.code, service, file, issue.message⟩

/-- The findings about a file by itself. -/
def fileFindings (auditor : Auditor) (root : Path) (file : MetadataFile) : List Finding :=
  (auditor.issues root file).map (auditor.finding (file.service? root) file.path)

/-- What the files of a store claim. -/
def claims (store : MetadataStore) : UniquenessRegister :=
  store.files.foldl (fun register file => register.add file.raw file.path) .empty

/-- The findings about values that several files claim. They stand at the root. -/
def sharedFindings (auditor : Auditor) (store : MetadataStore) : List Finding :=
  (claims store).violations.map fun message =>
    auditor.finding none store.root ⟨.metadataNotUnique, message⟩

/-- Audit a store: the files in their order, then what they share. -/
def run (auditor : Auditor) (store : MetadataStore) : AuditReport :=
  ⟨store.files.length,
    store.files.flatMap (auditor.fileFindings store.root) ++ auditor.sharedFindings store⟩

end Auditor

end Runbook
