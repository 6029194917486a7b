import Runbook.Proofs.Alarm.Descriptor
import Runbook.Proofs.Metadata.Classification

/-!
# Whose document a reference deploys

A reference is split at its colons, and the segments are joined to a path. The descriptor there has
to declare the tag of its place, which is read back from the components of the path. Reading back
is not joining backwards: a slash inside a segment or at its end, and a segment that is a dot, are
gone from the components. So a deployment can read a document that is stored under another tag. Its
reference is the declared tag exactly when each segment is one step of the path (`own_tag_iff`).
-/

namespace Runbook

open Runbook.Path (IsStep step)

namespace Tag

variable {tag : Tag} {root : Path}

/-- Each segment of a tag is one step on the way from a root. Below the empty path the first may be
a dot or the root of all paths as well. -/
structure IsWay (root : Path) (tag : Tag) : Prop where
  service : IsStep tag.service ∨ root.text = "" ∧ (tag.service = "." ∨ tag.service = "/")
  category : IsStep tag.category
  name : IsStep tag.name
  date : IsStep tag.date

/-- The service of a tag that is a way below the root adds one component to the root. -/
theorem components_service (isWay : tag.IsWay root) : ∃ component,
    component.text = tag.service ∧
      (root.join tag.service).components = root.components ++ [component] := by
  rcases isWay.service with isStep | ⟨empty, dot | slash⟩
  · exact ⟨step tag.service, Path.text_step _, Path.components_join isStep root⟩
  · have here : root = ⟨""⟩ := by rw [← empty]
    rw [dot, here]
    exact ⟨.here, rfl, by decide +kernel⟩
  · have here : root = ⟨""⟩ := by rw [← empty]
    rw [slash, here]
    exact ⟨.root, rfl, by decide +kernel⟩

/-- Where all segments are steps, they are read back from the place of the descriptor. -/
theorem IsWay.eq_of_place (isWay : tag.IsWay root) {place : Tag}
    (found : ofMetadataPath? root (AlarmManager.descriptorPath root tag) = some place) :
    place = tag := by
  obtain ⟨first, text, joined⟩ := components_service isWay
  have directory : IsStep documentsDirectory := ⟨by decide, by decide, by decide⟩
  have file : IsStep metadataFileName := ⟨by decide, by decide, by decide⟩
  have components : (AlarmManager.descriptorPath root tag).components = root.components ++
      [first, step tag.category, step tag.name, step tag.date, step documentsDirectory,
        step metadataFileName] := by
    have steps : ∀ name ∈ [tag.category, tag.name, tag.date, documentsDirectory, metadataFileName],
        IsStep name := by
      simp only [List.forall_mem_cons]
      exact ⟨isWay.category, isWay.name, isWay.date, directory, file, nofun⟩
    rw [AlarmManager.descriptorPath, List.foldl_cons, Path.components_foldl_join steps, joined,
      List.append_assoc]
    rfl
  obtain ⟨service, category, name, date, documents, last, placed, _, _, rfl⟩ :=
    ofMetadataPath?_eq_some_iff.1 found
  have same := List.append_cancel_left (components.symm.trans placed)
  simp only [List.cons.injEq, and_true] at same
  obtain ⟨rfl, rfl, rfl, rfl, _⟩ := same
  simp only [text, Path.text_step]

/-- Segments that are read back from a place are steps. -/
theorem isWay_of_place {path : Path} {place : Tag}
    (found : ofMetadataPath? root path = some place) : place.IsWay root := by
  obtain ⟨service, category, name, date, documents, last, placed, _, _, rfl⟩ :=
    ofMetadataPath?_eq_some_iff.1 found
  have behind (front : List Component) {component : Component} {back : List Component}
      (filled : front ≠ [])
      (inside : [service, category, name, date, documents, last] = front ++ component :: back) :
      IsStep component.text := by
    rw [inside, ← List.append_assoc] at placed
    exact (Path.isStep_of_components_eq placed).resolve_right (by simp [filled])
  refine ⟨?_, behind [service] (by simp) rfl, behind [service, category] (by simp) rfl,
    behind [service, category, name] (by simp) rfl⟩
  refine (Path.isStep_of_components_eq placed).imp_right ?_
  rintro ⟨first, absolute | dot⟩
  · exact ⟨Path.components_eq_nil_iff.1 first, .inr (by rw [absolute]; rfl)⟩
  · exact ⟨Path.components_eq_nil_iff.1 first, .inl (by rw [dot]; rfl)⟩

/-- The tag of the place that a tag leads to has the same text exactly when its segments are
steps. -/
theorem place_text_eq_iff {place : Tag} (readable : tag.Readable)
    (found : ofMetadataPath? root (AlarmManager.descriptorPath root tag) = some place) :
    place.text = tag.text ↔ tag.IsWay root := by
  constructor
  · intro same
    rw [← readable.eq_of_text same]
    exact isWay_of_place found
  · intro isWay
    rw [isWay.eq_of_place found]

end Tag

namespace AlarmManager

variable {σ : Type}

/-- A template is loaded by way of a descriptor that declares the tag of its place. This is the
reference exactly when the segments of the reference are steps. -/
theorem exists_descriptor {settings : AlarmSettings} {files : Files} {reference template : String}
    (loaded : loadTemplate settings files reference = .ok template) :
    ∃ tag file place, Tag.parse? reference = some tag ∧
      MetadataFile.load files (descriptorPath settings.root tag) = .ok file ∧
      Tag.ofMetadataPath? settings.root file.path = some place ∧ file.tag? = some place.text ∧
      (file.tag? = some reference ↔ tag.IsWay settings.root) := by
  obtain ⟨tag, file, metadata, parsed, _, _, read, valid, _⟩ := loadTemplate_eq_ok_iff.1 loaded
  have clean := MetadataFile.alarmViolations_of_valid valid
  obtain ⟨declared, there⟩ := MetadataFile.needed_of_alarmViolations clean
    (by decide : "tag" ∈ MetadataFile.neededOfAlarm)
  rw [MetadataFile.alarmViolations, List.map_eq_nil_iff,
    MetadataFile.alarmDescriptorFaults] at clean
  simp only [List.append_eq_nil_iff] at clean
  obtain ⟨place, found, same⟩ := MetadataFile.placeFault_eq_nil_iff.1 clean.1.2
  obtain rfl := same declared there
  obtain ⟨rfl, readable⟩ := Tag.parse?_eq_some_iff.1 parsed
  have path : file.path = descriptorPath settings.root tag := MetadataFile.path_of_ofContent read
  refine ⟨tag, file, place, parsed, read, found, there, ?_⟩
  rw [MetadataFile.tag?, there, Option.some.injEq]
  exact Tag.place_text_eq_iff readable (path ▸ found)

/-- A deployment whose template cannot be loaded ends with the reason and changes nothing. Every
other deployment reads a descriptor at the place of its reference, and this declares the tag of its
place; it declares the reference exactly when each segment of the reference is one step. -/
theorem own_tag_iff (ports : AlarmPorts σ) (files : Files) (manager : AlarmManager) (services : σ)
    (reference : String) (bindings : Table String String) (id : Option String) :
    (∃ error, loadTemplate manager.settings files reference = .error error ∧
      deploy ports files manager services reference bindings id =
        (.error error, manager, services)) ∨
    ∃ template tag file place, loadTemplate manager.settings files reference = .ok template ∧
      Tag.parse? reference = some tag ∧
      MetadataFile.load files (descriptorPath manager.settings.root tag) = .ok file ∧
      Tag.ofMetadataPath? manager.settings.root file.path = some place ∧
      file.tag? = some place.text ∧
      (file.tag? = some reference ↔ tag.IsWay manager.settings.root) := by
  cases loaded : loadTemplate manager.settings files reference with
  | error error =>
      refine .inl ⟨error, rfl, ?_⟩
      simp only [deploy, renderTemplate, loaded]
  | ok template =>
      obtain ⟨tag, file, place, described⟩ := exists_descriptor loaded
      exact .inr ⟨template, tag, file, place, rfl, described⟩

/-- The tag of the sample is a way below the root. -/
theorem isWay_sample : Tag.IsWay sampleSettings.root ⟨"rds", "alarm", "cpu", "1"⟩ := by
  refine ⟨.inl ?_, ?_, ?_, ?_⟩
  all_goals exact ⟨by decide, by decide, by decide⟩

/-- The sample is deployed under its own tag. -/
theorem own_tag_sampleFiles : ∃ file,
    MetadataFile.load (sampleFiles "Limit: 5") ⟨"docs/rds/alarm/cpu/1/Documents/metadata.json"⟩ =
      .ok file ∧ file.tag? = some "rds:alarm:cpu:1" := by
  rcases own_tag_iff AlarmServices.ports (sampleFiles "Limit: 5") (new sampleSettings)
    AlarmServices.empty "rds:alarm:cpu:1" Table.empty none with
    ⟨error, failed, _⟩ | ⟨template, tag, file, place, _, parsed, read, _, _, own⟩
  · exact absurd (failed.symm.trans (loadTemplate_sampleFiles "Limit: 5")) nofun
  · obtain rfl : ⟨"rds", "alarm", "cpu", "1"⟩ = tag := Option.some.inj parsed
    have placed : descriptorPath sampleSettings.root ⟨"rds", "alarm", "cpu", "1"⟩ =
        ⟨"docs/rds/alarm/cpu/1/Documents/metadata.json"⟩ := by decide +kernel
    exact ⟨file, placed ▸ read, own.2 isWay_sample⟩

/-- A reference with a slash deploys the document of another reference. -/
theorem foreign_document_deployed : ∃ tag file,
    Tag.parse? "rds/:alarm:cpu:1" = some tag ∧
    MetadataFile.load (sampleFiles "Limit: 5") (descriptorPath sampleSettings.root tag) =
      .ok file ∧
    file.tag? = some "rds:alarm:cpu:1" ∧ "rds:alarm:cpu:1" ≠ "rds/:alarm:cpu:1" ∧
    (deploy AlarmServices.ports (sampleFiles "Limit: 5") (new sampleSettings) AlarmServices.empty
      "rds/:alarm:cpu:1" Table.empty none).1 = .ok "1" := by
  have placed : descriptorPath sampleSettings.root ⟨"rds", "alarm", "cpu", "1"⟩ =
      descriptorPath sampleSettings.root ⟨"rds/", "alarm", "cpu", "1"⟩ := by decide +kernel
  obtain ⟨own, file, metadata, parsed, _, there, read, valid, written⟩ :=
    loadTemplate_eq_ok_iff.1 (loadTemplate_sampleFiles "Limit: 5")
  obtain rfl : ⟨"rds", "alarm", "cpu", "1"⟩ = own := Option.some.inj parsed
  have declared : file.tag? = some "rds:alarm:cpu:1" := by
    obtain ⟨tag, other, _, again, found, _, _, own⟩ :=
      exists_descriptor (loadTemplate_sampleFiles "Limit: 5")
    obtain rfl := Option.some.inj (parsed.symm.trans again)
    obtain rfl : file = other := Except.ok.inj (read.symm.trans found)
    exact own.2 isWay_sample
  rw [placed] at there read
  have loaded : loadTemplate sampleSettings (sampleFiles "Limit: 5") "rds/:alarm:cpu:1" =
      .ok "Limit: 5" :=
    loadTemplate_eq_ok_iff.2 ⟨_, file, metadata, rfl, rfl, there, read, valid, written⟩
  have rendered : renderTemplate sampleSettings (sampleFiles "Limit: 5") "rds/:alarm:cpu:1"
      Table.empty = .ok "Limit: 5" := by
    have unbound : AlarmTemplate.unbound "Limit: 5" Table.empty = [] := by decide +kernel
    simp only [renderTemplate, loaded, unbound]
    rfl
  refine ⟨_, file, rfl, read, declared, by decide, ?_⟩
  simp only [deploy, new, rendered]
  rfl

end AlarmManager

end Runbook
