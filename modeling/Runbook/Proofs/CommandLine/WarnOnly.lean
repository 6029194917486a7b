import Runbook.Proofs.Audit.Severity
import Runbook.Proofs.CommandLine.Validation
import Runbook.Proofs.FileTree
import Runbook.Proofs.Tag
import Runbook.Proofs.Text.Blank

/-!
# Two ways to say which services only warn

The services whose findings only warn are a list with commas, behind a flag of the command line or
in a variable. The flag takes the pieces between the commas as they are; of the variable they are
trimmed, and the empty ones left out. No service is without a name, so that the empty pieces do no
harm; but where a piece has blanks at its ends, the flag means another service than the variable
(`flag_agrees_iff`).
-/

namespace Runbook

/-- A file belongs to no service without a name. -/
theorem MetadataFile.filled_of_service? {file : MetadataFile} {root : Path} {service : String}
    (known : file.service? root = some service) : service ≠ "" := by
  obtain ⟨tag, found, rfl⟩ := Option.map_eq_some_iff.1 known
  rcases Option.or_eq_some_iff.1 found with placed | ⟨_, declared⟩
  · exact Tag.filled_of_ofMetadataPath? placed _ (by simp [Tag.segments])
  · obtain ⟨text, _, parsed⟩ := Option.bind_eq_some_iff.1 declared
    exact (Tag.parse?_eq_some_iff.1 parsed).2.filled _ (by simp [Tag.segments])

namespace Surroundings

open Invocation (WarnOnlyFlag Unflagged servicesOf)

variable {σ : Type} {around : Surroundings σ} {overrides : Overrides} {asJson : Bool}
  {services others : List String} {list : String} {outer first flag rest : List String}

/-- Two audits agree exactly when they agree on the services of what one of them finds. -/
theorem audit_eq_iff : around.audit overrides services = around.audit overrides others ↔
    ∀ report, around.audit overrides others = .ok report → ∀ finding ∈ report.findings,
      ∀ service, finding.service = some service → (service ∈ services ↔ service ∈ others) := by
  rw [audit, audit]
  cases around.corpus overrides with
  | error cause => simp [Except.map]
  | ok found =>
      have agree := Auditor.run_eq_iff ⟨found.2.content around.files, others⟩ services found.1
      simpa [Except.map] using agree

/-- What an audit finds belongs to no service without a name. -/
theorem filled_of_audit {report : AuditReport}
    (made : around.audit overrides services = .ok report) {finding : Finding}
    (member : finding ∈ report.findings) {service : String}
    (known : finding.service = some service) : service ≠ "" := by
  obtain ⟨found, _, rfl⟩ := map_eq_ok_iff.1 made
  rcases Auditor.mem_findings_iff.1 member with ⟨file, _, issue, _, rfl⟩ | ⟨_, _, rfl⟩
  · exact MetadataFile.filled_of_service? known
  · cases known

/-- The flag and the variable give a list of services to one run each. They take the same services
from it exactly when no piece between the commas has a blank at one of its ends, and their audits
are the same exactly when they agree on the services of what is found; so without such blanks the
runs end alike. -/
theorem flag_agrees_iff (unflagged : Unflagged outer first rest overrides asJson)
    (isFlag : WarnOnlyFlag list flag) :
    let flagged := around.output (outer ++ "validate" :: (first ++ (flag ++ rest)))
    let varied := (around.withVariable Settings.warnOnlyVariable list).output
      (outer ++ "validate" :: (first ++ rest))
    let audited := around.audit overrides
    let trimmed := ∀ piece ∈ Text.splitOn ',' list.toList, Text.trim piece = piece
    flagged = Output.ofResult ((audited (servicesOf [list])).map (print asJson)) ∧
      varied = Output.ofResult ((audited (splitNames list)).map (print asJson)) ∧
      ((∀ service, service ≠ "" → (service ∈ servicesOf [list] ↔ service ∈ splitNames list)) ↔
        trimmed) ∧
      (audited (servicesOf [list]) = audited (splitNames list) ↔
        ∀ report, audited (splitNames list) = .ok report → ∀ finding ∈ report.findings,
          ∀ service, finding.service = some service →
            (service ∈ servicesOf [list] ↔ service ∈ splitNames list)) ∧
      (trimmed → flagged = varied) := by
  intro flagged varied audited trimmed
  have same : (∀ service, service ≠ "" →
      (service ∈ servicesOf [list] ↔ service ∈ splitNames list)) ↔ trimmed := by
    simp only [Invocation.mem_servicesOf_iff]
    exact same_names_iff
  have ofFlag : flagged = Output.ofResult ((audited (servicesOf [list])).map (print asJson)) :=
    output_flag unflagged isFlag
  have ofVariable : varied = Output.ofResult ((audited (splitNames list)).map (print asJson)) :=
    output_variable unflagged
  refine ⟨ofFlag, ofVariable, same, audit_eq_iff, fun holds => ?_⟩
  have agree : audited (servicesOf [list]) = audited (splitNames list) :=
    audit_eq_iff.2 fun report made finding member service known =>
      same.2 holds service (filled_of_audit made member known)
  rw [ofFlag, ofVariable, agree]

/-! ### Two services in a list -/

/-- Directories down to a descriptor that declares nothing. -/
def bareTree : FileTree :=
  ["ec2", "util", "list", "1", "Documents", "metadata.json"].foldr
    (fun name tree => .directory [(name, tree)]) (.file (some "\x7b\x7d"))

/-- A run that finds these directories only, and no variables. -/
def bare : Surroundings Unit := offline ⟨.directory [("documents", bareTree)], []⟩ ⟨Table.empty⟩ 0

/-- The store that it finds. -/
def bareStore : MetadataStore :=
  ⟨⟨"documents"⟩, [⟨⟨"documents/ec2/util/list/1/Documents/metadata.json"⟩, .object []⟩]⟩

/-- The corpus is looked at from its top. -/
theorem stack_bare : bare.files.stack = [bare.files.top] := rfl

/-- Its top holds the documents. -/
theorem find_documents : FileTree.find? "documents" bare.files.top.children = some bareTree := rfl

/-- The documents are found. -/
theorem resolve_bare : bare.files.resolve ⟨"documents"⟩ = .ok bareTree := by
  rw [Files.resolve_of_relative (by decide +kernel), stack_bare,
    show FileTree.pieces "documents" = ["documents"] by decide,
    FileTree.follow_cons_of_find? rfl (by decide) (by decide) find_documents nofun,
    FileTree.follow_nil]

/-- There are no scripts among them. -/
theorem resolve_bare_scripts :
    bare.files.resolve ⟨"documents/util/scripts/src"⟩ = .error .notFound := by
  rw [Files.resolve_of_relative (by decide +kernel), stack_bare,
    show FileTree.pieces "documents/util/scripts/src" = ["documents", "util", "scripts", "src"] by
      decide,
    FileTree.follow_cons_of_find? rfl (by decide) (by decide) find_documents nofun,
    FileTree.follow_cons_of_absent rfl (by decide) (by decide) rfl]

/-- The store has the one descriptor. -/
theorem discover_bare : MetadataStore.discover bare.files ⟨"documents"⟩ = .ok bareStore := by
  have isDirectory : bare.files.isDirectory ⟨"documents"⟩ = true := by
    rw [Files.isDirectory, resolve_bare]
    rfl
  have walked : bareTree.walk =
      [(["ec2", "util", "list", "1", "Documents", "metadata.json"], some "\x7b\x7d")] := rfl
  have spelled : Files.place ⟨"documents"⟩
      ["ec2", "util", "list", "1", "Documents", "metadata.json"] =
      ⟨"documents/ec2/util/list/1/Documents/metadata.json"⟩ := by decide +kernel
  have listed : Files.isListed ⟨"documents"⟩
      ["ec2", "util", "list", "1", "Documents", "metadata.json"] = true := by decide +kernel
  rw [MetadataStore.discover, if_pos isDirectory, Files.walk, resolve_bare]
  dsimp only
  rw [walked]
  simp only [List.filter_cons, listed, ↓reduceIte, List.filter_nil, List.map_cons, List.map_nil,
    spelled]
  rfl

/-- Without scripts there are no snippets. -/
theorem assembler_bare {settings : Settings}
    (place : settings.scriptsDirectory.value = ⟨"documents/util/scripts/src"⟩) :
    bare.assembler settings = .ok ⟨Snippets.empty, Builders.empty⟩ := by
  have nowhere : bare.files.isDirectory ⟨"documents/util/scripts/src"⟩ = false := by
    rw [Files.isDirectory, resolve_bare_scripts]
  rw [assembler, place, Snippets.ofDirectory, Snippets.ofDirectoryWith, nowhere]
  rfl

/-- Without overrides the corpus is that store with an assembler without snippets. -/
theorem corpus_bare : bare.corpus .none =
    .ok (bareStore, ⟨Snippets.empty, Builders.empty⟩) := by
  obtain ⟨settings, loaded, root, scripts, level⟩ : ∃ settings,
      Settings.load bare.environment .none = (settings, []) ∧
      settings.documentsRoot.value = ⟨"documents"⟩ ∧
      settings.scriptsDirectory.value = ⟨"documents/util/scripts/src"⟩ ∧
      settings.logLevel.value = "info" := ⟨_, rfl, rfl, rfl, rfl⟩
  obtain ⟨filter, filtered⟩ : ∃ filter, LogFilter.ofSetting "info" = .ok filter := ⟨_, rfl⟩
  have found : bare.store settings = .ok bareStore := by
    rw [store, root]
    dsimp only
    rw [discover_bare]
    rfl
  rw [corpus, loaded]
  dsimp only
  rw [level, filtered, found, assembler_bare scripts]
  rfl

/-- Its audit runs on that store. -/
theorem audit_bare (services : List String) : bare.audit .none services =
    .ok (Auditor.run ⟨(Assembler.mk Snippets.empty Builders.empty).content bare.files, services⟩
      bareStore) := by
  rw [audit, corpus_bare]
  rfl

/-- The command alone, or with the switch for JSON, is a command line without the flag. -/
theorem unflagged_bare (asJson : Bool) :
    Unflagged [] (if asJson then ["--json"] else []) [] .none asJson where
  outside := ⟨.none, rfl⟩
  inside := by
    cases asJson with
    | false => exact ⟨.none, rfl⟩
    | true => exact ⟨⟨[("json", "")], []⟩, by decide +kernel⟩
  apart := by cases asJson <;> decide
  plain := by cases asJson <;> decide +kernel

/-- Without blanks in the list the service only warns in both runs. -/
theorem flag_agrees_iff_ec2 :
    let flag := ["--warn-only=" ++ "rds,ec2"]
    let flagged := bare.output ([] ++ "validate" :: (["--json"] ++ (flag ++ [])))
    let varied := (bare.withVariable Settings.warnOnlyVariable "rds,ec2").output
      ([] ++ "validate" :: (["--json"] ++ []))
    Unflagged [] ["--json"] [] .none true ∧ WarnOnlyFlag "rds,ec2" flag ∧
      (∀ piece ∈ Text.splitOn ',' "rds,ec2".toList, Text.trim piece = piece) ∧
      flagged = varied ∧ varied.exit = 0 := by
  intro flag flagged varied
  have isFlag : WarnOnlyFlag "rds,ec2" flag := .joined
  have trimmed : ∀ piece ∈ Text.splitOn ',' "rds,ec2".toList, Text.trim piece = piece := by
    decide
  obtain ⟨_, ofVariable, _, _, agree⟩ :=
    @flag_agrees_iff Unit bare .none true "rds,ec2" _ _ _ _ (unflagged_bare true) isFlag
  refine ⟨unflagged_bare true, isFlag, trimmed, agree trimmed, ?_⟩
  rw [show varied = _ from ofVariable, audit_bare]
  decide

/-- The blank behind the comma belongs to the flag's second service, and not to the variable's. -/
theorem flag_disagrees_after_blank :
    (bare.output ["validate", "--warn-only", "rds, ec2"]).exit = 1 ∧
      ((bare.withVariable Settings.warnOnlyVariable "rds, ec2").output ["validate"]).exit = 0 := by
  have flagged : bare.output ["validate", "--warn-only", "rds, ec2"] = _ :=
    output_flag (unflagged_bare false) (.apart (by decide))
  have varied : (bare.withVariable Settings.warnOnlyVariable "rds, ec2").output ["validate"] = _ :=
    output_variable (unflagged_bare false)
  rw [flagged, varied, audit_bare, audit_bare]
  decide

end Surroundings

end Runbook
