import Mathlib.Data.List.Forall2
import Mathlib.Data.List.Nodup
import Runbook.Proofs.Except
import Runbook.Proofs.Metadata.Validation
import Runbook.Proofs.Publish.Selection

/-!
# The records that a list of names stands for

The records to publish are those of the files that declare a resolved name. Every resolved name has
a record, but it has one only where one document declares it (`select_names`): files are looked at
one by one, and nothing on the way to a publication compares them.
-/

namespace Runbook

open DocumentMetadata (documentName)

namespace MetadataStore

variable {store : MetadataStore} {names wanted : List String} {documents : List DocumentMetadata}
  {name : String}

/-- The names that the documents of a store declare, in path order. -/
def declaredNames (store : MetadataStore) : List String :=
  store.documents.filterMap MetadataFile.documentName?

/-- How many documents of a store declare a name. -/
def declarations (store : MetadataStore) (name : String) : Nat :=
  store.files.countP fun file => !file.isAlarm store.root && file.documentName? = some name

/-- The names that are declared are those of the documents. -/
theorem mem_declaredNames_iff : name ∈ store.declaredNames ↔ store.Declares name := by
  simp only [declaredNames, List.mem_filterMap, mem_documents_iff, Declares, and_assoc]

/-- A name is listed as often as it is declared. -/
theorem count_declaredNames : store.declaredNames.count name = store.declarations name := by
  rw [declaredNames, declarations, List.count, List.countP_filterMap, documents, List.countP_filter]
  refine List.countP_congr fun file _ => ?_
  cases file.documentName? <;> simp [and_comm]

/-! ### Resolved names -/

/-- Every name that is resolved is declared. -/
theorem declares_of_resolve (resolved : store.resolve names = .ok wanted) (member : name ∈ wanted) :
    store.Declares name := by
  obtain ⟨found, missing, resolution, same⟩ := exists_resolution store names
  rw [resolved] at same
  split at same <;> cases same
  rename_i none
  by_contra undeclared
  have absent := (resolution.missing_iff name).2 ⟨member, undeclared⟩
  simp [none] at absent

/-- Resolving names fails for missing ones only. -/
theorem resolve_eq_error {cause : MetadataError} (failed : store.resolve names = .error cause) :
    ∃ missing, cause = .dependencyMissing missing := by
  obtain ⟨found, missing, resolution, same⟩ := exists_resolution store names
  rw [failed] at same
  split at same <;> cases same
  exact ⟨missing, rfl⟩

/-- Names that need nothing further are resolved to themselves. -/
theorem resolve_of_steady
    (steady : DocumentNeeds.pass (DocumentNeeds.addNames [] names) store.needs =
      DocumentNeeds.addNames [] names)
    (sorted : sortedDistinct (DocumentNeeds.addNames [] names) = wanted)
    (known : ∀ name ∈ wanted, name ∈ store.needs.map DocumentNeeds.name) :
    store.resolve names = .ok wanted := by
  have closed : DocumentNeeds.closure (DocumentNeeds.addNames [] names) store.needs =
      DocumentNeeds.addNames [] names := by
    rw [DocumentNeeds.closure, if_pos (by rw [steady]), steady]
  have none : wanted.filter
      (fun name => !(store.needs.map DocumentNeeds.name).contains name) = [] := by
    simpa using known
  simp only [resolve, closed, sorted, none]

/-! ### Records of files -/

/-- The names are selected, and each selected file has its record. -/
theorem select_eq_ok_iff : store.select names = .ok documents ↔
    ∃ wanted, store.resolve names = .ok wanted ∧
      List.Forall₂ (fun file metadata => file.validate store.root = .ok metadata)
        (store.documents.filter (isNamed wanted)) documents := by
  simp only [select, bind_eq_ok_iff, mapM_eq_ok_iff]

/-- The records of files carry the names that the files declare. -/
theorem names_of_validate {root : Path} {files : List MetadataFile}
    (records : List.Forall₂ (fun file metadata => file.validate root = .ok metadata) files
      documents) :
    documents.map documentName = files.filterMap MetadataFile.documentName? := by
  induction records with
  | nil => rfl
  | cons valid _ ih =>
      rw [List.map_cons, ih,
        List.filterMap_cons_some (MetadataFile.documentName?_of_validate valid)]

/-- The documents with wanted names have the declared ones that are wanted. -/
theorem declaredNames_filter : (store.documents.filter (isNamed wanted)).filterMap
    MetadataFile.documentName? = store.declaredNames.filter wanted.contains := by
  rw [declaredNames, List.filterMap_filter, List.filter_filterMap]
  refine List.filterMap_congr fun file _ => ?_
  rw [isNamed]
  cases file.documentName? <;> simp [Option.filter]

/-- A selection has the declared names that are resolved, each as often as it is declared. -/
theorem names_of_select (selected : store.select names = .ok documents) :
    ∃ wanted, store.resolve names = .ok wanted ∧
      documents.map documentName = store.declaredNames.filter wanted.contains := by
  obtain ⟨wanted, resolved, records⟩ := select_eq_ok_iff.1 selected
  exact ⟨wanted, resolved, (names_of_validate records).trans declaredNames_filter⟩

/-- A selected record is that of a document of the store. -/
theorem exists_file_of_select (selected : store.select names = .ok documents)
    {metadata : DocumentMetadata} (member : metadata ∈ documents) :
    ∃ file ∈ store.documents, file.validate store.root = .ok metadata := by
  obtain ⟨wanted, _, read⟩ := bind_eq_ok_iff.1 selected
  obtain ⟨file, inside, valid⟩ := exists_of_mem_mapM read member
  exact ⟨file, (List.mem_filter.1 inside).1, valid⟩

/-- Behind its names a selection is the documents that have them, each made a record. -/
theorem select_of_resolve (resolved : store.resolve names = .ok wanted) : store.select names =
    (store.documents.filter (isNamed wanted)).mapM fun file => file.validate store.root := by
  rw [select, resolved]
  rfl

/-- Names that are resolved have records when every document has one. -/
theorem exists_select
    (valid : ∀ file ∈ store.documents, ∃ metadata, file.validate store.root = .ok metadata)
    (resolved : store.resolve names = .ok wanted) :
    ∃ documents, store.select names = .ok documents := by
  rw [select_of_resolve resolved, exists_mapM_eq_ok_iff]
  exact fun file member => valid file (List.mem_filter.1 member).1

/-- The records are named as the names are resolved. Each name stands there once exactly when one
document declares it. -/
theorem select_names (selected : store.select names = .ok documents) :
    ∃ wanted, store.resolve names = .ok wanted ∧
      (∀ name, name ∈ documents.map documentName ↔ name ∈ wanted) ∧
      ((documents.map documentName).Nodup ↔ ∀ name ∈ wanted, store.declarations name = 1) := by
  obtain ⟨wanted, resolved, named⟩ := names_of_select selected
  have declared : ∀ name ∈ wanted, name ∈ store.declaredNames :=
    fun name member => mem_declaredNames_iff.2 (declares_of_resolve resolved member)
  refine ⟨wanted, resolved, fun name => ?_, ?_⟩
  · rw [named, List.mem_filter, List.contains_iff_mem]
    exact ⟨And.right, fun member => ⟨declared name member, member⟩⟩
  · rw [named, List.nodup_iff_count_le_one]
    constructor
    · intro once name member
      have most := once name
      rw [List.count_filter (by simpa using member)] at most
      have least := List.count_pos_iff.2 (declared name member)
      rw [← count_declaredNames]
      omega
    · intro once name
      by_cases member : name ∈ wanted
      · rw [List.count_filter (by simpa using member), count_declaredNames, once name member]
      · rw [List.count_eq_zero.2 (by simp [member])]
        exact Nat.zero_le 1

/-! ### One name at two dates -/

/-- A store with one document at several dates. The documents have one name. -/
def sampleListings (dates : List String) : MetadataStore :=
  ⟨⟨"docs"⟩, dates.map fun date => .sample "util" "list" date "Digito-List"⟩

/-- Without violations every document of the sample becomes a record. -/
theorem exists_validate_sampleListings {dates : List String}
    (clean : ∀ file ∈ (sampleListings dates).files, file.violations ⟨"docs"⟩ = []) :
    ∀ file ∈ (sampleListings dates).documents,
      ∃ metadata, file.validate (sampleListings dates).root = .ok metadata := by
  intro file member
  have inside := (mem_documents_iff.1 member).1
  obtain ⟨date, _, rfl⟩ := List.mem_map.1 inside
  exact MetadataFile.exists_validate (MetadataFile.keysOnce_sample _ _ _ _) (clean _ inside)

/-- With one date the selection has the name once. -/
theorem select_names_single :
    ∃ documents, (sampleListings ["1"]).select ["Digito-List"] = .ok documents ∧
      (documents.map documentName).Nodup := by
  have resolved : (sampleListings ["1"]).resolve ["Digito-List"] = .ok ["Digito-List"] :=
    resolve_of_steady (by decide) (by decide) (by decide)
  obtain ⟨documents, selected⟩ :=
    exists_select (exists_validate_sampleListings (by decide)) resolved
  obtain ⟨wanted, same, _, once⟩ := select_names selected
  rw [resolved] at same
  cases same
  exact ⟨documents, selected, once.2 (by decide)⟩

/-- Two documents of one name are both selected. -/
theorem select_twice_of_two_dates :
    ∃ documents, (sampleListings ["1", "2"]).select ["Digito-List"] = .ok documents ∧
      ¬ (documents.map documentName).Nodup := by
  have resolved : (sampleListings ["1", "2"]).resolve ["Digito-List"] = .ok ["Digito-List"] :=
    resolve_of_steady (by decide) (by decide) (by decide)
  obtain ⟨documents, selected⟩ :=
    exists_select (exists_validate_sampleListings (by decide)) resolved
  obtain ⟨wanted, same, named⟩ := names_of_select selected
  rw [resolved] at same
  cases same
  refine ⟨documents, selected, ?_⟩
  rw [named]
  decide

end MetadataStore

end Runbook
