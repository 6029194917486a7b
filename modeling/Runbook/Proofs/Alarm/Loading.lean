import Runbook.Alarm.Manager
import Runbook.Proofs.FileTree

/-!
# Which template is loaded

A template is loaded exactly where the reference is the tag of an alarm, a valid descriptor lies at
the place of that tag, and the file that it names can be read (`loadTemplate_eq_ok_iff`). At the
end stands a tree with one alarm, whose template is any text.
-/

namespace Runbook

namespace AlarmManager

/-- A template is the text that the descriptor at the place of an alarm's tag names. -/
theorem loadTemplate_eq_ok_iff {settings : AlarmSettings} {files : Files}
    {reference text : String} :
    loadTemplate settings files reference = .ok text ↔
      ∃ tag file metadata, Tag.parse? reference = some tag ∧ tag.category? = some .alarm ∧
        files.isFile (descriptorPath settings.root tag) = true ∧
        MetadataFile.load files (descriptorPath settings.root tag) = .ok file ∧
        file.validateAlarm settings.root = .ok metadata ∧
        files.read metadata.contentPath = .ok text := by
  constructor
  · intro loaded
    simp only [loadTemplate] at loaded
    split at loaded
    · cases loaded
    · rename_i tag parsed
      obtain ⟨parsed, alarm⟩ := Option.filter_eq_some_iff.1 parsed
      split at loaded
      · cases loaded
      · rename_i there
        split at loaded
        · cases loaded
        · rename_i file read
          split at loaded
          · cases loaded
          · rename_i metadata valid
            split at loaded
            · cases loaded
            · rename_i content written
              cases loaded
              exact ⟨tag, file, metadata, parsed, of_decide_eq_true alarm, by simpa using there,
                read, valid, written⟩
  · rintro ⟨tag, file, metadata, parsed, alarm, there, read, valid, written⟩
    simp [loadTemplate, parsed, alarm, there, read, valid, written, Option.filter]

/-! ### A tree with one alarm -/

/-- The descriptor of an alarm. -/
def sampleDescriptor : String :=
  "\x7b\"alarmName\": \"CPU\", \"alarmType\": \"RDS\", \"alarmContentPath\": \"alarm.yml\", " ++
    "\"tag\": \"rds:alarm:cpu:1\"\x7d"

/-- The directory of an alarm. -/
def sampleDirectory (template : String) : List (String × FileTree) :=
  [("alarm.yml", .file (some template)), ("metadata.json", .file (some sampleDescriptor))]

/-- The files of a tree with one alarm. -/
def sampleFiles (template : String) : Files :=
  ⟨.directory [("docs", .directory [("rds", .directory [("alarm", .directory [("cpu", .directory
    [("1", .directory [("Documents", .directory (sampleDirectory template))])])])])])], []⟩

def sampleSettings : AlarmSettings := ⟨⟨"docs"⟩, "bucket", "ab12cd34", 10⟩

/-- A path into the alarm's directory leads to its file there. -/
theorem resolve_sampleFiles {template : String} {path : Path} (name : String)
    {content : Option String}
    (spelled : FileTree.pieces path.text = ["docs", "rds", "alarm", "cpu", "1", "Documents", name])
    (found : FileTree.find? name (sampleDirectory template) = some (.file content))
    (plain : name ≠ "" ∧ name ≠ "." ∧ name ≠ "..")
    (short : name.utf8ByteSize ≤ FileTree.maxNameBytes)
    (sane : path.text.toList.contains '\x00' = false ∧ path.text.isEmpty = false ∧
      ¬ FileTree.maxPathBytes < path.text.utf8ByteSize ∧ path.text.startsWith "/" = false) :
    (sampleFiles template).resolve path = .ok (.file content) := by
  have start : (sampleFiles template).stack = [(sampleFiles template).top] := rfl
  have step {here below : FileTree} {above : List FileTree} {name : String} {rest : List String} :=
    @FileTree.follow_cons_of_find? (sampleFiles template).top here below FileTree.maxLinks above
      name rest
  rw [Files.resolve_of_relative sane, spelled, start,
    step rfl (by decide) (by decide) rfl (by nofun),
    step rfl (by decide) (by decide) rfl (by nofun),
    step rfl (by decide) (by decide) rfl (by nofun),
    step rfl (by decide) (by decide) rfl (by nofun),
    step rfl (by decide) (by decide) rfl (by nofun),
    step rfl (by decide) (by decide) rfl (by nofun),
    step rfl plain short (by exact found) (by nofun), FileTree.follow_nil]

/-- The alarm's descriptor is valid and names the template beside it. -/
theorem loadTemplate_sampleFiles (template : String) :
    loadTemplate sampleSettings (sampleFiles template) "rds:alarm:cpu:1" = .ok template := by
  let place : Path := ⟨"docs/rds/alarm/cpu/1/Documents/metadata.json"⟩
  have placed : descriptorPath sampleSettings.root ⟨"rds", "alarm", "cpu", "1"⟩ = place := by
    decide +kernel
  have descriptor : (sampleFiles template).resolve place = .ok (.file (some sampleDescriptor)) :=
    resolve_sampleFiles "metadata.json" (by decide) rfl (by decide) (by decide)
      (by decide +kernel)
  have content : (sampleFiles template).resolve ⟨"docs/rds/alarm/cpu/1/Documents/alarm.yml"⟩ =
      .ok (.file (some template)) :=
    resolve_sampleFiles "alarm.yml" (by decide) rfl (by decide) (by decide)
      (by decide +kernel)
  obtain ⟨raw, parsed⟩ : ∃ raw, Json.parse? sampleDescriptor = some raw :=
    Option.isSome_iff_exists.1 (by decide)
  obtain ⟨metadata, valid, named⟩ : ∃ metadata,
      (MetadataFile.mk place raw).validateAlarm sampleSettings.root = .ok metadata ∧
      metadata.contentPath = ⟨"docs/rds/alarm/cpu/1/Documents/alarm.yml"⟩ := by
    -- The record cannot be compared as a whole; the path in it can.
    have checked : (Json.parse? sampleDescriptor).map (fun raw =>
        (((MetadataFile.mk place raw).validateAlarm sampleSettings.root).toOption.map
          AlarmMetadata.contentPath)) =
        some (some ⟨"docs/rds/alarm/cpu/1/Documents/alarm.yml"⟩) := by decide +kernel
    rw [parsed] at checked
    cases valid : (MetadataFile.mk place raw).validateAlarm sampleSettings.root with
    | error => simp [valid, Except.toOption] at checked
    | ok metadata => exact ⟨metadata, rfl, by simpa [valid, Except.toOption] using checked⟩
  refine loadTemplate_eq_ok_iff.2 ⟨⟨"rds", "alarm", "cpu", "1"⟩, ⟨place, raw⟩, metadata,
    by decide, rfl, ?_, ?_, valid, ?_⟩
  · rw [placed, Files.isFile, descriptor]
  · rw [placed, MetadataFile.load, Files.read, descriptor]
    simp [bind, Except.bind, Files.textOf, MetadataFile.ofContent, MetadataFile.ofText, parsed]
  · rw [named, Files.read, content]
    rfl

/-- A template without variables is rendered as it is. -/
theorem renderTemplate_sampleFiles_of_unbound {template : String}
    (plain : AlarmTemplate.unbound template Table.empty = []) :
    renderTemplate sampleSettings (sampleFiles template) "rds:alarm:cpu:1" Table.empty =
      .ok template := by
  simp only [renderTemplate, loadTemplate_sampleFiles, plain]
  simp [AlarmTemplate.render, Table.empty]

/-- A template without variables is rendered as it stands. -/
theorem renderTemplate_sampleFiles :
    renderTemplate sampleSettings (sampleFiles "Limit: 5") "rds:alarm:cpu:1" Table.empty =
      .ok "Limit: 5" :=
  renderTemplate_sampleFiles_of_unbound (by decide +kernel)

/-- A deployment of the sample brings up one stack. -/
theorem deploy_sampleFiles {σ : Type} (ports : AlarmPorts σ) (services : σ)
    {template text : String} {bindings : Table String String}
    (rendered : renderTemplate sampleSettings (sampleFiles template) "rds:alarm:cpu:1" bindings =
      .ok text)
    {deployed : Table String DeployedAlarm} {ordinal number : Nat} {id : Option String}
    {key stack : String}
    (identified : (AlarmManager.mk sampleSettings deployed ordinal).identify id = .ok (key, number))
    (named : StackName.make "rds:alarm:cpu:1" "ab12cd34" number = stack) :
    deploy ports (sampleFiles template) ⟨sampleSettings, deployed, ordinal⟩ services
        "rds:alarm:cpu:1" bindings id =
      match bringUp ports services "bucket" stack text with
      | (.error error, services) => (.error error, ⟨sampleSettings, deployed, number⟩, services)
      | (.ok (), services) =>
          (.ok key, ⟨sampleSettings, deployed.insert key
            ⟨key, "rds:alarm:cpu:1", stack, text⟩, number⟩, services) := by
  rw [← named, deploy]
  simp only [rendered, identified]
  rfl

/-- The first deployment of the sample. -/
theorem deploy_sampleFiles_new {σ : Type} (ports : AlarmPorts σ) (services : σ)
    {template text : String} {bindings : Table String String}
    (rendered : renderTemplate sampleSettings (sampleFiles template) "rds:alarm:cpu:1" bindings =
      .ok text) :
    deploy ports (sampleFiles template) (new sampleSettings) services "rds:alarm:cpu:1"
        bindings none =
      match bringUp ports services "bucket" "rds-alarm-cpu-1-ab12cd34-1" text with
      | (.error error, services) => (.error error, ⟨sampleSettings, Table.empty, 1⟩, services)
      | (.ok (), services) =>
          (.ok "1", ⟨sampleSettings, Table.empty.insert "1"
            ⟨"1", "rds:alarm:cpu:1", "rds-alarm-cpu-1-ab12cd34-1", text⟩, 1⟩, services) :=
  deploy_sampleFiles ports services rendered rfl (by decide)

end AlarmManager

end Runbook
