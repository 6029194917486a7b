import Runbook.Metadata.Check
import Runbook.Metadata.Store

/-!
# Which documents to publish

A list of names stands for the documents with these names and all that they depend on. Every
name has to belong to a document of the store. The selected files are checked in path order.
-/

namespace Runbook

/-- A document's name with the names it depends on. -/
structure DocumentNeeds where
  name : String
  needs : List String
deriving DecidableEq, Repr

namespace DocumentNeeds

/-- A set of names with more names added. Each name stands in it once. -/
def addNames : List String → List String → List String
  | wanted, [] => wanted
  | wanted, name :: rest => addNames (wanted.insert name) rest

/-- One pass over the documents. What a wanted document needs is wanted from there on. -/
def pass : List String → List DocumentNeeds → List String
  | wanted, [] => wanted
  | wanted, document :: rest =>
      if wanted.contains document.name then pass (addNames wanted document.needs) rest
      else pass wanted rest

/-- The needed names that are not wanted so far. -/
def pending (wanted : List String) (documents : List DocumentNeeds) : List String :=
  (documents.flatMap DocumentNeeds.needs).filter fun name => !wanted.contains name

/-- The names are added to those that are wanted. -/
theorem mem_addNames {wanted names : List String} {name : String} :
    name ∈ addNames wanted names ↔ name ∈ wanted ∨ name ∈ names := by
  induction names generalizing wanted with
  | nil => simp [addNames]
  | cons head rest ih =>
      simp only [addNames, ih, List.mem_insert_iff, List.mem_cons]
      constructor
      · rintro ((here | old) | later)
        · exact Or.inr (Or.inl here)
        · exact Or.inl old
        · exact Or.inr (Or.inr later)
      · rintro (old | here | later)
        · exact Or.inl (Or.inr old)
        · exact Or.inl (Or.inl here)
        · exact Or.inr later

/-- Names that are wanted already change nothing. -/
theorem addNames_eq_self {wanted names : List String} (there : ∀ name ∈ names, name ∈ wanted) :
    addNames wanted names = wanted := by
  induction names with
  | nil => rfl
  | cons head rest ih =>
      rw [addNames, List.insert_of_mem (there head List.mem_cons_self)]
      exact ih fun name member => there name (List.mem_cons_of_mem _ member)

/-- A pass keeps what is wanted. -/
theorem mem_pass_of_mem {wanted : List String} {documents : List DocumentNeeds} {name : String}
    (member : name ∈ wanted) : name ∈ pass wanted documents := by
  induction documents generalizing wanted with
  | nil => exact member
  | cons document rest ih =>
      simp only [pass]
      split
      · exact ih (mem_addNames.2 (Or.inl member))
      · exact ih member

/-- A pass only adds what some document needs. -/
theorem mem_of_mem_pass {wanted : List String} {documents : List DocumentNeeds} {name : String}
    (member : name ∈ pass wanted documents) :
    name ∈ wanted ∨ name ∈ documents.flatMap DocumentNeeds.needs := by
  induction documents generalizing wanted with
  | nil => exact Or.inl member
  | cons document rest ih =>
      rw [List.flatMap_cons, List.mem_append]
      simp only [pass] at member
      split at member
      · rcases ih member with added | later
        · exact (mem_addNames.1 added).imp_right Or.inl
        · exact Or.inr (Or.inr later)
      · exact (ih member).imp_right Or.inr

/-- A pass that adds no name changes nothing. -/
theorem pass_eq_self {wanted : List String} {documents : List DocumentNeeds}
    (steady : ∀ name ∈ pass wanted documents, name ∈ wanted) : pass wanted documents = wanted := by
  induction documents generalizing wanted with
  | nil => rfl
  | cons document rest ih =>
      simp only [pass] at steady ⊢
      split at steady <;> rename_i taken
      · have same : addNames wanted document.needs = wanted :=
          addNames_eq_self fun name member =>
            steady name (mem_pass_of_mem (mem_addNames.2 (Or.inr member)))
        rw [if_pos taken, same]
        rw [same] at steady
        exact ih steady
      · rw [if_neg taken]
        exact ih steady

/-- A pass that adds a name leaves fewer of the needed names to be added. -/
theorem length_pending_pass {wanted : List String} {documents : List DocumentNeeds}
    (grown : (pass wanted documents).length ≠ wanted.length) :
    (pending (pass wanted documents) documents).length < (pending wanted documents).length := by
  obtain ⟨name, added, fresh⟩ : ∃ name ∈ pass wanted documents, name ∉ wanted := by
    apply Classical.byContradiction
    intro steady
    refine grown (congrArg List.length (pass_eq_self fun name member => ?_))
    exact Classical.byContradiction fun fresh => steady ⟨name, member, fresh⟩
  have needed := (mem_of_mem_pass added).resolve_left fresh
  have left : pending (pass wanted documents) documents =
      (pending wanted documents).filter fun name => !(pass wanted documents).contains name := by
    simp only [pending, List.filter_filter]
    refine List.filter_congr fun other _ => ?_
    by_cases old : other ∈ wanted
    · simp [old, mem_pass_of_mem old]
    · simp [old]
  rw [left, List.length_filter_lt_length_iff_exists]
  exact ⟨name, List.mem_filter.2 ⟨needed, by simp [fresh]⟩, by simp [added]⟩

/-- The wanted names with all that the documents of these names need: passes over the documents
until one adds no name. -/
def closure (wanted : List String) (documents : List DocumentNeeds) : List String :=
  if (pass wanted documents).length = wanted.length then pass wanted documents
  else closure (pass wanted documents) documents
termination_by (pending wanted documents).length
decreasing_by exact length_pending_pass ‹_›

end DocumentNeeds

namespace MetadataStore

/-- The names of the store's documents and what they depend on. -/
def needs (store : MetadataStore) : List DocumentNeeds :=
  store.documents.filterMap fun file =>
    file.documentName?.map fun name =>
      ⟨name, ((file.attribute? "dependsOn").map splitNames).getD []⟩

/-- The names to publish in ascending order: the given ones and all that they depend on. -/
def resolve (store : MetadataStore) (names : List String) :
    Except MetadataError (List String) :=
  let documents := store.needs
  let wanted := sortedDistinct (DocumentNeeds.closure (DocumentNeeds.addNames [] names) documents)
  let known := documents.map DocumentNeeds.name
  match wanted.filter fun name => !known.contains name with
  | [] => .ok wanted
  | missing => .error (.dependencyMissing missing)

/-- Is the file's document among some names? -/
def isNamed (names : List String) (file : MetadataFile) : Bool :=
  file.documentName?.any names.contains

/-- The records of the documents to publish, in path order. -/
def select (store : MetadataStore) (names : List String) :
    Except MetadataError (List DocumentMetadata) := do
  let wanted ← store.resolve names
  (store.documents.filter (isNamed wanted)).mapM fun file => file.validate store.root

end MetadataStore

/-- The names in a manifest: one a line, without blank lines and remarks. -/
def manifestNames (text : String) : List String :=
  let lines := (Text.lines text.toList).map Text.trim
  (lines.filter fun line => !line.isEmpty && line.head? ≠ some '#').map String.ofList

/-- The names in the manifest at a path. -/
def readManifest (files : Files) (path : Path) : Except MetadataError (List String) :=
  match files.read path with
  | .ok text => .ok (manifestNames text)
  | .error cause => .error (.read path cause)

end Runbook
