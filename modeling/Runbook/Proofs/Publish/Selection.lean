import Mathlib.Data.List.Infix
import Mathlib.Order.Bounds.Basic
import Runbook.Proofs.Table
import Runbook.Publish.Selection

/-!
# The documents that a list of names stands for

`resolve_least` says that the names to publish are the least set that holds the given names and,
with the name of a document, what that document depends on. It fails with the names of this set
that no document of the store declares. Nothing in this depends on the order of the names or of
the files.
-/

namespace Runbook

namespace DocumentNeeds

/-- With the name of a document a set holds what the document needs. -/
def Closed (documents : List DocumentNeeds) (selected : Set String) : Prop :=
  ∀ document ∈ documents, document.name ∈ selected → ∀ name ∈ document.needs, name ∈ selected

/-! ### One pass -/

/-- Adding names keeps those that are wanted behind them. -/
theorem suffix_addNames (wanted names : List String) : wanted <:+ addNames wanted names := by
  induction names generalizing wanted with
  | nil => exact List.suffix_rfl
  | cons name rest ih => exact (List.suffix_insert name wanted).trans (ih _)

/-- A pass keeps the names that are wanted behind those that it adds. -/
theorem suffix_pass (wanted : List String) (documents : List DocumentNeeds) :
    wanted <:+ pass wanted documents := by
  induction documents generalizing wanted with
  | nil => exact List.suffix_rfl
  | cons document rest ih =>
      simp only [pass]
      split
      · exact (suffix_addNames wanted document.needs).trans (ih _)
      · exact ih wanted

/-- A pass adds what the wanted documents need. -/
theorem mem_pass_of_needed {wanted : List String} {documents : List DocumentNeeds}
    {document : DocumentNeeds} (member : document ∈ documents) (isWanted : document.name ∈ wanted)
    {name : String} (needed : name ∈ document.needs) : name ∈ pass wanted documents := by
  induction documents generalizing wanted with
  | nil => simp at member
  | cons head rest ih =>
      simp only [pass]
      rcases List.mem_cons.1 member with rfl | later
      · rw [if_pos (by simpa using isWanted)]
        exact mem_pass_of_mem (mem_addNames.2 (Or.inr needed))
      · split
        · exact ih later (mem_addNames.2 (Or.inl isWanted))
        · exact ih later isWanted

/-- A pass stays within every closed set. -/
theorem Closed.pass {wanted : List String} {documents : List DocumentNeeds} {selected : Set String}
    (closed : Closed documents selected) (within : ∀ name ∈ wanted, name ∈ selected) :
    ∀ name ∈ pass wanted documents, name ∈ selected := by
  induction documents generalizing wanted with
  | nil => exact within
  | cons document rest ih =>
      have later : Closed rest selected :=
        fun other member => closed other (List.mem_cons_of_mem _ member)
      simp only [DocumentNeeds.pass]
      split
      · rename_i taken
        have isSelected := within document.name (by simpa using taken)
        refine ih later fun name member => ?_
        rcases mem_addNames.1 member with old | needed
        · exact within name old
        · exact closed document List.mem_cons_self isSelected name needed
      · exact ih later within

/-! ### All passes -/

/-- The closure has what is wanted. -/
theorem mem_closure_of_mem {wanted : List String} {documents : List DocumentNeeds} {name : String}
    (member : name ∈ wanted) : name ∈ closure wanted documents := by
  fun_induction closure wanted documents with
  | case1 wanted => exact mem_pass_of_mem member
  | case2 wanted _ ih => exact ih (mem_pass_of_mem member)

/-- The passes end with a closed set, for the last of them adds no name. -/
theorem closed_closure (wanted : List String) (documents : List DocumentNeeds) :
    Closed documents {name | name ∈ closure wanted documents} := by
  fun_induction closure wanted documents with
  | case1 wanted steady =>
      have same : wanted = pass wanted documents :=
        (suffix_pass wanted documents).eq_of_length steady.symm
      intro document member isWanted name needed
      rw [Set.mem_ofPred_eq, ← same] at isWanted
      exact mem_pass_of_needed member isWanted needed
  | case2 wanted _ ih => exact ih

/-- Whatever is closed and has what is wanted has the closure. -/
theorem Closed.closure {wanted : List String} {documents : List DocumentNeeds}
    {selected : Set String} (closed : Closed documents selected)
    (within : ∀ name ∈ wanted, name ∈ selected) :
    ∀ name ∈ closure wanted documents, name ∈ selected := by
  fun_induction DocumentNeeds.closure wanted documents with
  | case1 wanted => exact closed.pass within
  | case2 wanted _ ih => exact ih (closed.pass within)

/-- The wanted names with all that is needed are the least closed set around them. -/
theorem closure_isLeast (wanted : List String) (documents : List DocumentNeeds) :
    IsLeast {selected | (∀ name ∈ wanted, name ∈ selected) ∧ Closed documents selected}
      {name | name ∈ closure wanted documents} := by
  refine ⟨⟨fun name member => mem_closure_of_mem member, closed_closure wanted documents⟩, ?_⟩
  rintro selected ⟨within, closed⟩ name member
  exact closed.closure within name member

end DocumentNeeds

namespace MetadataStore

/-- A set of names holds the given ones and, with the name of a document of the store, what that
document depends on. -/
structure Closed (store : MetadataStore) (names : List String) (selected : Set String) : Prop where
  given : ∀ name ∈ names, name ∈ selected
  needed : ∀ file ∈ store.files, file.isAlarm store.root = false →
    ∀ name ∈ selected, file.documentName? = some name →
      ∀ text, file.attribute? "dependsOn" = some text → ∀ other ∈ splitNames text, other ∈ selected

/-- A document of the store has a name. -/
def Declares (store : MetadataStore) (name : String) : Prop :=
  ∃ file ∈ store.files, file.isAlarm store.root = false ∧ file.documentName? = some name

/-- What a list of names is resolved to: the names to publish, and those of them that no document
has. -/
structure Resolution (store : MetadataStore) (names wanted missing : List String) : Prop where
  least : IsLeast {selected | store.Closed names selected} {name | name ∈ wanted}
  ascending : wanted.Pairwise fun a b => Ordered.before a b = true
  missing_iff : ∀ name, name ∈ missing ↔ name ∈ wanted ∧ ¬ store.Declares name
  missing_ascending : missing.Pairwise fun a b => Ordered.before a b = true

/-- The documents of a store are its files that are no alarms. -/
theorem mem_documents_iff {store : MetadataStore} {file : MetadataFile} :
    file ∈ store.documents ↔ file ∈ store.files ∧ file.isAlarm store.root = false := by
  simp [documents]

/-- The needs of a store are those of its documents that have a name. -/
theorem mem_needs_iff {store : MetadataStore} {document : DocumentNeeds} :
    document ∈ store.needs ↔ ∃ file ∈ store.files, file.isAlarm store.root = false ∧
      file.documentName? = some document.name ∧
      ((file.attribute? "dependsOn").map splitNames).getD [] = document.needs := by
  simp only [needs, List.mem_filterMap, mem_documents_iff, Option.map_eq_some_iff]
  constructor
  · rintro ⟨file, ⟨member, notAlarm⟩, name, named, rfl⟩
    exact ⟨file, member, notAlarm, named, rfl⟩
  · rintro ⟨file, member, notAlarm, named, needs⟩
    exact ⟨file, ⟨member, notAlarm⟩, document.name, named, by rw [needs]⟩

/-- A store declares the names of its needs. -/
theorem declares_iff {store : MetadataStore} {name : String} :
    store.Declares name ↔ name ∈ store.needs.map DocumentNeeds.name := by
  simp only [Declares, List.mem_map, mem_needs_iff]
  constructor
  · rintro ⟨file, member, notAlarm, named⟩
    exact ⟨⟨name, _⟩, ⟨file, member, notAlarm, named, rfl⟩, rfl⟩
  · rintro ⟨document, ⟨file, member, notAlarm, named, _⟩, rfl⟩
    exact ⟨file, member, notAlarm, named⟩

/-- A set is closed for names where it has them and what they need. -/
theorem closed_iff {store : MetadataStore} {names : List String} {selected : Set String} :
    store.Closed names selected ↔
      (∀ name ∈ names, name ∈ selected) ∧ DocumentNeeds.Closed store.needs selected := by
  constructor
  · rintro ⟨given, needed⟩
    refine ⟨given, fun document member isSelected name need => ?_⟩
    obtain ⟨file, inside, notAlarm, named, needs⟩ := mem_needs_iff.1 member
    cases depends : file.attribute? "dependsOn" with
    | none =>
        rw [← needs, depends] at need
        simp at need
    | some text =>
        rw [← needs, depends] at need
        exact needed file inside notAlarm _ isSelected named text depends name need
  · rintro ⟨given, closed⟩
    refine ⟨given, fun file inside notAlarm name isSelected named text depends => ?_⟩
    refine closed ⟨name, splitNames text⟩ (mem_needs_iff.2 ?_) isSelected
    exact ⟨file, inside, notAlarm, named, by rw [depends]; rfl⟩

/-- Names have one resolution. -/
theorem Resolution.unique {store : MetadataStore} {names wanted missing wanted' missing' :
    List String} (one : store.Resolution names wanted missing)
    (other : store.Resolution names wanted' missing') : wanted = wanted' ∧ missing = missing' := by
  have sameSet := one.least.unique other.least
  have sameWanted : wanted = wanted' :=
    eq_of_ascending id one.ascending other.ascending fun name => (Set.ext_iff.1 sameSet) name
  subst sameWanted
  refine ⟨rfl, eq_of_ascending id one.missing_ascending other.missing_ascending fun name => ?_⟩
  rw [one.missing_iff, other.missing_iff]

/-- A resolution does not depend on how names and files are listed. -/
theorem Resolution.of_perm {store other : MetadataStore} {names otherNames wanted missing :
    List String} (resolution : store.Resolution names wanted missing)
    (root : other.root = store.root) (files : other.files.Perm store.files)
    (same : ∀ name, name ∈ otherNames ↔ name ∈ names) :
    other.Resolution otherNames wanted missing := by
  have closed : ∀ selected, other.Closed otherNames selected ↔ store.Closed names selected := by
    intro selected
    constructor
    · rintro ⟨given, needed⟩
      refine ⟨fun name member => given name ((same name).2 member), fun file member => ?_⟩
      rw [← root]
      exact needed file (files.mem_iff.2 member)
    · rintro ⟨given, needed⟩
      refine ⟨fun name member => given name ((same name).1 member), fun file member => ?_⟩
      rw [root]
      exact needed file (files.mem_iff.1 member)
  have declares : ∀ name, other.Declares name ↔ store.Declares name := by
    intro name
    simp only [Declares, files.mem_iff, root]
  refine ⟨?_, resolution.ascending, fun name => ?_, resolution.missing_ascending⟩
  · simpa only [closed] using resolution.least
  · rw [declares, resolution.missing_iff]

/-- What `resolve` computes is a resolution. -/
theorem exists_resolution (store : MetadataStore) (names : List String) :
    ∃ wanted missing, store.Resolution names wanted missing ∧
      store.resolve names =
        if missing = [] then .ok wanted else .error (.dependencyMissing missing) := by
  let reached := DocumentNeeds.closure (DocumentNeeds.addNames [] names) store.needs
  let known := store.needs.map DocumentNeeds.name
  let missing := (sortedDistinct reached).filter fun name => !known.contains name
  refine ⟨sortedDistinct reached, missing, ⟨?_, ?_, ?_, ?_⟩, ?_⟩
  · have least := DocumentNeeds.closure_isLeast (DocumentNeeds.addNames [] names) store.needs
    simpa [closed_iff, mem_sortedDistinct, DocumentNeeds.mem_addNames] using least
  · exact sortedDistinct_pairwise reached
  · intro name
    rw [declares_iff]
    simp [missing, known]
  · exact (sortedDistinct_pairwise reached).filter _
  · rw [resolve]
    split
    · rename_i empty
      exact (if_pos empty).symm
    · rename_i nonempty
      exact (if_neg nonempty).symm

/-- The names to publish are the least set that holds the given names and what its documents
depend on. It is an error when no document has one of these names, and the order of names and files
does not matter. -/
theorem resolve_least (store : MetadataStore) (names : List String) :
    ∃ wanted missing, store.Resolution names wanted missing ∧
      store.resolve names =
        (if missing = [] then .ok wanted else .error (.dependencyMissing missing)) ∧
      ∀ (other : MetadataStore) (otherNames : List String), other.root = store.root →
        other.files.Perm store.files →
        (∀ name, name ∈ otherNames ↔ name ∈ names) →
          other.resolve otherNames = store.resolve names := by
  obtain ⟨wanted, missing, resolution, resolved⟩ := exists_resolution store names
  refine ⟨wanted, missing, resolution, resolved, fun other otherNames root files same => ?_⟩
  obtain ⟨wanted', missing', resolution', resolved'⟩ := exists_resolution other otherNames
  obtain ⟨rfl, rfl⟩ := resolution'.unique (resolution.of_perm root files same)
  rw [resolved, resolved']

end MetadataStore

end Runbook
