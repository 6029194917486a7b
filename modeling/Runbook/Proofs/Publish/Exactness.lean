import Runbook.Proofs.Metadata.Classification
import Runbook.Proofs.Metadata.Store
import Runbook.Proofs.Publish.Records

/-!
# What a selection holds

The files that a selection reads are those of documents with resolved names, each once and in path
order (`selected_chosen`). `select_exact` says when they have records, what the error is where they
have none, and that the answer depends on which files and names are given and not on how they are
listed.
-/

namespace Runbook

namespace MetadataFile

variable {file : MetadataFile} {root : Path}

/-- The file names no alarm, and neither its declared tag nor the tag of its place is that of an
alarm. -/
structure OutsideAlarms (file : MetadataFile) (root : Path) : Prop where
  unnamed : file.raw.get? "alarmName" = none
  tagged : ∀ text tag, file.tag? = some text → Tag.parse? text = some tag →
    tag.category? ≠ some .alarm
  located : ∀ place, Tag.ofMetadataPath? root file.path = some place →
    place.category? ≠ some .alarm

/-- The descriptor of a document is outside the alarms in every sense when it has no violations:
its declared tag is then the text of its place's tag. -/
theorem Faultless.outsideAlarms (faultless : file.Faultless root)
    (isDocument : file.isAlarm root = false) : file.OutsideAlarms root := by
  obtain ⟨place, found, declared⟩ := faultless.exists_place
  simp only [isAlarm, Bool.or_eq_false_iff, Option.isSome_eq_false_iff, Option.isNone_iff_eq_none,
    decide_eq_false_iff_not, category?, declared, Option.bind_some, found] at isDocument
  obtain ⟨unnamed, outside⟩ := isDocument
  refine ⟨unnamed, fun text tag isText parsed => ?_, fun other again => ?_⟩
  · obtain rfl : place.text = text := by simpa [declared] using isText
    simpa only [parsed] using outside
  · obtain rfl : place = other := by simpa [found] using again
    cases parsed : Tag.parse? place.text with
    | none => simpa only [parsed] using outside
    | some tag =>
        obtain ⟨same, readable⟩ := Tag.parse?_eq_some_iff.1 parsed
        rw [readable.eq_of_text same]
        simpa only [parsed] using outside

end MetadataFile

namespace MetadataStore

variable {root : Path} {files : List MetadataFile} {names wanted : List String}

/-- The order and the repetition of names do not count. -/
theorem resolve_of_same (store : MetadataStore) {names otherNames : List String}
    (same : ∀ name, name ∈ otherNames ↔ name ∈ names) :
    store.resolve otherNames = store.resolve names := by
  obtain ⟨wanted, missing, resolution, resolved⟩ := exists_resolution store names
  obtain ⟨others, unknown, another, also⟩ := exists_resolution store otherNames
  obtain ⟨rfl, rfl⟩ := another.unique (resolution.of_perm rfl (.refl _) same)
  rw [resolved, also]

/-! ### The files that a selection reads -/

/-- The files of documents whose names are wanted, each once and in path order. -/
structure Selected (root : Path) (files : List MetadataFile) (wanted : List String)
    (chosen : List MetadataFile) : Prop where
  ascending : chosen.Pairwise fun first second => first.path.before second.path = true
  mem_iff : ∀ file, file ∈ chosen ↔ file ∈ files ∧ file.isAlarm root = false ∧
    ∃ name ∈ wanted, file.documentName? = some name

/-- A file is wanted where its document's name is. -/
theorem isNamed_iff {file : MetadataFile} :
    isNamed wanted file = true ↔ ∃ name ∈ wanted, file.documentName? = some name := by
  simp only [isNamed, Option.any_eq_true, List.contains_iff_mem, and_comm]

/-- The files with wanted names are what is selected of them, in the order of their paths. -/
theorem selected_chosen (root : Path) (apart : Apart files) (wanted : List String) :
    Selected root files wanted ((ofFiles root files).documents.filter (isNamed wanted)) where
  ascending := ((ascending_ofFiles root apart).filter _).filter _
  mem_iff file := by
    rw [List.mem_filter, mem_documents_iff, mem_ofFiles, isNamed_iff, and_assoc]
    rfl

/-- A selection is exact. It fails where a name cannot be resolved. Otherwise it reads the files of
the documents with resolved names, each once and in path order. It succeeds exactly when all of them
have records, and then answers these records, none of which belongs to an alarm. Otherwise it fails
with the violations of the first file that has none. The answer is the same for each order of the
files, and for each order and repetition of the names. -/
theorem select_exact (root : Path) {files : List MetadataFile} (apart : Apart files)
    (once : ∀ file ∈ files, file.raw.KeysOnce) (names : List String) :
    let store := ofFiles root files
    (∀ cause, store.resolve names = .error cause →
      (∃ missing, cause = .dependencyMissing missing) ∧ store.select names = .error cause) ∧
    (∀ wanted, store.resolve names = .ok wanted → ∃ chosen, Selected root files wanted chosen ∧
      ((∃ documents, store.select names = .ok documents) ↔
        ∀ file ∈ chosen, ∃ metadata, file.validate root = .ok metadata) ∧
      (∀ documents, store.select names = .ok documents →
        List.Forall₂ (fun file metadata => file.validate root = .ok metadata) chosen documents ∧
          ∀ file ∈ chosen, file.OutsideAlarms root) ∧
      ∀ cause, store.select names = .error cause →
        ∃ front file back, chosen = front ++ file :: back ∧
          (∀ earlier ∈ front, ∃ metadata, earlier.validate root = .ok metadata) ∧
          file.validate root = .error cause ∧
          cause = .invalid file.path (file.violations root).length (file.violations root)) ∧
    ∀ others otherNames, others.Perm files → (∀ name, name ∈ otherNames ↔ name ∈ names) →
      (ofFiles root others).select otherNames = store.select names := by
  intro store
  refine ⟨fun cause failed => ⟨resolve_eq_error failed, ?_⟩, fun wanted resolved => ?_,
    fun others otherNames perm same => ?_⟩
  · rw [select, failed]
    rfl
  · have selected := selected_chosen root apart wanted
    have read := select_of_resolve resolved
    refine ⟨_, selected, by rw [read]; exact exists_mapM_eq_ok_iff, fun documents found => ?_,
      fun cause failed => ?_⟩
    · have records := mapM_eq_ok_iff.1 (read.symm.trans found)
      refine ⟨records, fun file member => ?_⟩
      obtain ⟨metadata, valid⟩ := exists_of_mem_forall₂ records member
      have clean := (MetadataFile.readFrom_of_validate valid).1
      exact (MetadataFile.violations_eq_nil_iff.1 clean).outsideAlarms
        ((selected.mem_iff file).1 member).2.1
    · obtain ⟨front, file, back, split, earlier, wrong⟩ :=
        mapM_eq_error_iff.1 (read.symm.trans failed)
      have member := ((selected.mem_iff file).1 (split ▸ by simp)).1
      exact ⟨front, file, back, split, earlier, wrong,
        MetadataFile.violations_of_validate_eq_error (once file member) wrong⟩
  · rw [ofFiles_of_perm apart perm, select, select, resolve_of_same _ same]

/-- Two documents of one name have two records, whichever of their files is given first and however
often the name is. -/
theorem select_exact_two_dates :
    let files := (sampleListings ["1", "2"]).files
    let store := ofFiles ⟨"docs"⟩ files
    Apart files ∧ (∀ file ∈ files, file.raw.KeysOnce) ∧
      store.resolve ["Digito-List"] = .ok ["Digito-List"] ∧
      (∃ documents, store.select ["Digito-List"] = .ok documents ∧
        List.Forall₂ (fun file metadata => file.validate ⟨"docs"⟩ = .ok metadata) files documents) ∧
      (ofFiles ⟨"docs"⟩ files.reverse).select ["Digito-List", "Digito-List"] =
        store.select ["Digito-List"] := by
  intro files store
  have apart : Apart files := by
    unfold Apart
    decide +kernel
  have once : ∀ file ∈ files, file.raw.KeysOnce := by
    intro file member
    obtain ⟨date, _, rfl⟩ := List.mem_map.1 member
    exact MetadataFile.keysOnce_sample _ _ _ _
  have same : store = sampleListings ["1", "2"] :=
    congrArg (MetadataStore.mk ⟨"docs"⟩) (List.mergeSort_of_pairwise (by decide +kernel))
  have resolved : store.resolve ["Digito-List"] = .ok ["Digito-List"] := by
    rw [same]
    exact resolve_of_steady (by decide) (by decide) (by decide)
  obtain ⟨-, succeeds, stable⟩ := select_exact ⟨"docs"⟩ apart once ["Digito-List"]
  obtain ⟨chosen, selected, valid, records, -⟩ := succeeds _ resolved
  have named : ∀ file ∈ files, file.isAlarm ⟨"docs"⟩ = false ∧
      file.documentName? = some "Digito-List" := by decide
  obtain rfl : chosen = files := by
    refine eq_of_ascending (fun file => file.path.components) selected.ascending
      (by decide) fun file => ?_
    rw [selected.mem_iff]
    refine ⟨And.left, fun member => ⟨member, (named file member).1, "Digito-List", ?_⟩⟩
    exact ⟨List.mem_cons_self, (named file member).2⟩
  obtain ⟨documents, found⟩ := valid.2 fun file member =>
    exists_validate_sampleListings (by decide) file
      (mem_documents_iff.2 ⟨member, (named file member).1⟩)
  exact ⟨apart, once, resolved, ⟨documents, found, (records documents found).1⟩,
    stable _ _ (List.reverse_perm files) (by simp)⟩

end MetadataStore

end Runbook
