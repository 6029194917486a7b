import Runbook.Metadata.Store
import Runbook.Proofs.Except
import Runbook.Proofs.FileTree
import Runbook.Proofs.Metadata.Validation
import Runbook.Proofs.Order
import Runbook.Proofs.Table

/-!
# Which files a store holds

A store of files at different paths does not depend on the order of the files (`ofFiles_of_perm`).
The store of a directory is due to hold each descriptor below it, in the order of their paths, and
otherwise discovery is due to fail for the first that cannot be read (`Complete`). What a walk finds
is in this order, but directories that cannot be listed are passed over without a word. So discovery
is complete exactly where it fails for another descriptor before it comes to a place where one was
left out (`complete_iff`).
-/

namespace Runbook.MetadataStore

open FileTree (descend? isName isNamed maxPathBytes)
open Files (place isListed)

variable {root : Path}

/-! ### The order of a store -/

section

variable {files others : List MetadataFile}

/-- No two files have one path. -/
def Apart (files : List MetadataFile) : Prop :=
  (files.map fun file => file.path.components).Nodup

/-- A store has the files that it is made of. -/
theorem mem_ofFiles {file : MetadataFile} : file ∈ (ofFiles root files).files ↔ file ∈ files :=
  List.mem_mergeSort

/-- Where no two files have one path, those of a store ascend by their paths. -/
theorem ascending_ofFiles (root : Path) (apart : Apart files) :
    (ofFiles root files).files.Pairwise fun first second => first.path.before second.path = true :=
  ascending_sortedBy apart

/-- The store of files at different paths is the same for each order of the files. -/
theorem ofFiles_of_perm (apart : Apart files) (perm : others.Perm files) :
    ofFiles root others = ofFiles root files := by
  have othersApart : Apart others := (perm.map _).nodup_iff.2 apart
  have same : (ofFiles root others).files = (ofFiles root files).files := by
    refine eq_of_ascending (fun file : MetadataFile => file.path.components)
      (ascending_ofFiles root othersApart) (ascending_ofFiles root apart) ?_
    intro file
    rw [mem_ofFiles, mem_ofFiles, perm.mem_iff]
  exact congrArg (MetadataStore.mk root) same

/-- A store of ascending files is the store of its files in any order. -/
theorem ofFiles_of_ascending
    (ascending : files.Pairwise fun first second => first.path.before second.path = true)
    (perm : others.Perm files) : ofFiles root others = ⟨root, files⟩ := by
  have apart : Apart files := List.pairwise_map.2 (ascending.imp ne_of_before)
  have same : (ofFiles root files).files = files :=
    eq_of_ascending (fun file : MetadataFile => file.path.components)
      (ascending_ofFiles root apart) ascending fun _ => mem_ofFiles
  exact (ofFiles_of_perm apart perm).trans (congrArg (MetadataStore.mk root) same)

end

/-! ### Places of descriptors -/

variable {files : Files} {tree : FileTree} {names first second : List String}
  {cause : MetadataError} {store : MetadataStore}

/-- Names lead to a regular file that describes a document or an alarm. -/
def Describes (tree : FileTree) (names : List String) : Prop :=
  names.getLast? = some Tag.metadataFileName ∧
    ∃ content, tree.descend? names = some (.file content)

/-- Below a root a place has the names as its further components. -/
theorem components_place (named : ∀ name ∈ names, isName name = true) (root : Path) :
    (place root names).components = root.components ++ names.map Component.name := by
  have steps : ∀ name ∈ names, Path.IsStep name := fun name member =>
    (FileTree.isName_iff.1 (named name member)).1
  rw [place, Path.components_foldl_join steps]
  refine congrArg (root.components ++ ·) (List.map_congr_left fun name member => ?_)
  exact if_neg (FileTree.isName_iff.1 (named name member)).2.1

/-- Places are in the order of the names that lead there. -/
theorem before_place (firstNamed : ∀ name ∈ first, isName name = true)
    (secondNamed : ∀ name ∈ second, isName name = true) :
    (place root first).before (place root second) = Ordered.before first second := by
  rw [Path.before, components_place firstNamed, components_place secondNamed, before_append_left]
  exact before_map Component.name (fun _ _ => rfl) (fun _ _ => Component.name.inj) first second

/-- The names that lead to the descriptors that a walk finds, in its order. -/
def descriptors (root : Path) (tree : FileTree) : List (List String) :=
  ((tree.walk.filter fun found => isListed root found.1).map Prod.fst).filter fun names =>
    names.getLast? = some Tag.metadataFileName

/-- The descriptors that are found are those described by the tree whose places are listed. -/
theorem mem_descriptors_iff : names ∈ descriptors root tree ↔
    Describes tree names ∧ isListed root names = true := by
  simp only [descriptors, Describes, List.mem_filter, List.mem_map, Prod.exists,
    FileTree.mem_walk_iff, decide_eq_true_eq, exists_and_right, exists_eq_right]
  tauto

/-- The descriptors are found in the order of their names. -/
theorem ascending_descriptors (root : Path) (tree : FileTree) :
    (descriptors root tree).Pairwise fun first second => Ordered.before first second = true :=
  (List.pairwise_map.2 ((FileTree.ascending_walk tree).filter _)).filter _

/-- A descriptor in a tree of proper names has proper names all the way. -/
theorem named_of_describes (named : tree.isNamed = true) (describes : Describes tree names) :
    ∀ name ∈ names, isName name = true := by
  obtain ⟨_, _, found⟩ := describes
  exact FileTree.named_of_descend? named found

/-- Descriptors are in the order of the names that lead there. -/
theorem before_of_describes (named : tree.isNamed = true) (one : Describes tree first)
    (other : Describes tree second) :
    (place root first).before (place root second) = Ordered.before first second :=
  before_place (named_of_describes named one) (named_of_describes named other)

/-- The error of a file that cannot be loaded tells its path. -/
theorem path_eq_of_load_eq_error {path other : Path} {cause : MetadataError}
    (here : MetadataFile.load files path = .error cause)
    (there : MetadataFile.load files other = .error cause) : path = other := by
  have told {path : Path} (failed : MetadataFile.load files path = .error cause) :
      (∃ reason, cause = .read path reason) ∨ cause = .malformed path := by
    rw [MetadataFile.load] at failed
    generalize files.read path = content at failed
    cases content with
    | error reason => exact .inl ⟨reason, (Except.error.inj failed).symm⟩
    | ok text =>
        simp only [MetadataFile.ofContent, MetadataFile.ofText] at failed
        split at failed
        · cases failed
        · exact .inr (Except.error.inj failed).symm
  rcases told here with ⟨_, rfl⟩ | rfl
  · rcases told there with ⟨_, same⟩ | same
    · exact (MetadataError.read.inj same).1
    · cases same
  · rcases told there with ⟨_, same⟩ | same
    · cases same
    · exact MetadataError.malformed.inj same

/-- Names that entries can have lead to a place of their own. -/
theorem eq_of_place_eq (firstNamed : ∀ name ∈ first, isName name = true)
    (secondNamed : ∀ name ∈ second, isName name = true)
    (same : place root first = place root second) : first = second := by
  have components := congrArg Path.components same
  rw [components_place firstNamed, components_place secondNamed] at components
  exact List.map_injective_iff.2 (fun _ _ => Component.name.inj)
    (List.append_cancel_left components)

/-- A file is not listed exactly where the path of its directory is too long. -/
theorem unlisted_concat_iff (root : Path) (names : List String) (name : String) :
    isListed root (names ++ [name]) = false ↔
      maxPathBytes < (place root names).text.utf8ByteSize := by
  simp [isListed]

/-- A descriptor in a directory that cannot be listed cannot be loaded either. -/
theorem exists_error_of_unlisted (resolved : files.resolve root = .ok tree)
    (named : tree.isNamed = true) (describes : Describes tree names)
    (unlisted : isListed root names = false) :
    ∃ cause, MetadataFile.load files (place root names) = .error cause := by
  obtain ⟨last, content, found⟩ := describes
  obtain ⟨front, rfl⟩ := List.getLast?_eq_some_iff.1 last
  have step : Path.IsStep Tag.metadataFileName := (FileTree.isName_iff.1
    (FileTree.named_of_descend? named found _ (by simp))).1
  have long : maxPathBytes < (place root (front ++ [Tag.metadataFileName])).text.utf8ByteSize := by
    rw [Files.place_concat]
    exact Nat.lt_of_lt_of_le ((unlisted_concat_iff root front _).1 unlisted)
      ((Nat.le_add_right _ _).trans (Path.utf8ByteSize_add_le_join step _))
  refine ⟨.read (place root (front ++ [Tag.metadataFileName])) .nameTooLong, ?_⟩
  rw [MetadataFile.load, Files.read_place resolved named found, Files.Found.read, if_pos long]
  rfl

/-! ### Discovery -/

/-- What is due of discovery below a directory: the store that holds each descriptor once, in the
order of the paths, as it is made of its files in any order; or the error of the first descriptor
that cannot be loaded. -/
inductive Complete (files : Files) (root : Path) (tree : FileTree) :
    Except MetadataError MetadataStore → Prop
  | found {store : MetadataStore}
      (whole : ∀ path, path ∈ store.files.map MetadataFile.path ↔
        ∃ names, Describes tree names ∧ path = place root names)
      (read : ∀ file ∈ store.files, MetadataFile.load files file.path = .ok file)
      (ascending : store.files.Pairwise fun first second => first.path.before second.path = true)
      (settled : ∀ others, others.Perm store.files → ofFiles root others = store) :
      Complete files root tree (.ok store)
  | failed {names : List String} {cause : MetadataError} (describes : Describes tree names)
      (bad : MetadataFile.load files (place root names) = .error cause)
      (first : ∀ earlier, Describes tree earlier →
        (place root earlier).before (place root names) = true →
          ∃ file, MetadataFile.load files (place root earlier) = .ok file) :
      Complete files root tree (.error cause)

/-- Each descriptor in a directory that cannot be listed comes behind another one that cannot be
loaded, in a directory that can be listed. -/
def Covered (files : Files) (root : Path) (tree : FileTree) : Prop :=
  ∀ names, Describes tree names → isListed root names = false →
    ∃ earlier cause, Describes tree earlier ∧ isListed root earlier = true ∧
      (place root earlier).before (place root names) = true ∧
      MetadataFile.load files (place root earlier) = .error cause

section

variable (resolved : files.resolve root = .ok tree) (inside : tree.isDirectory = true)
  (named : tree.isNamed = true)

include resolved inside named

/-- Discovery loads the descriptors that the walk finds, one after the other. -/
theorem discover_eq : discover files root =
    ((descriptors root tree).mapM fun names => MetadataFile.load files (place root names)).map
      (MetadataStore.mk root) := by
  have directory : files.isDirectory root = true := by
    rw [Files.isDirectory, resolved]
    exact inside
  let walked := (tree.walk.filter fun found => isListed root found.1).filter fun found =>
    found.1.getLast? = some Tag.metadataFileName
  have listed : descriptors root tree = walked.map Prod.fst := List.filter_map
  have found : (files.walk root).filter isMetadata =
      walked.map fun found => ⟨place root found.1, found.1, found.2⟩ := by
    rw [Files.walk, resolved]
    exact List.filter_map
  have same : ∀ item ∈ walked, MetadataFile.ofContent (place root item.1)
      (Files.Found.read ⟨place root item.1, item.1, item.2⟩) =
        MetadataFile.load files (place root item.1) := by
    intro item member
    have there := FileTree.mem_walk_iff.1 (List.mem_of_mem_filter (List.mem_of_mem_filter member))
    rw [MetadataFile.load, Files.read_place resolved named there]
  rw [discover, if_pos directory, found, listed]
  simp only [List.mapM_map, Function.comp_def, mapM_congr same]
  rfl

/-- Where discovery succeeds, its store holds the descriptors that the walk finds, as they are
loaded. -/
theorem discover_eq_ok_iff : discover files root = .ok store ↔ store.root = root ∧
    List.Forall₂ (fun names file => MetadataFile.load files (place root names) = .ok file)
      (descriptors root tree) store.files := by
  rw [discover_eq resolved inside named, map_eq_ok_iff]
  constructor
  · rintro ⟨loaded, read, rfl⟩
    exact ⟨rfl, mapM_eq_ok_iff.1 read⟩
  · rintro ⟨rfl, read⟩
    exact ⟨store.files, mapM_eq_ok_iff.2 read, rfl⟩

/-- The files of a store that was found are at the places of the descriptors, in the order of the
paths. -/
theorem files_of_discover (found : discover files root = .ok store) :
    store.files.map MetadataFile.path = (descriptors root tree).map (place root) ∧
      (∀ file ∈ store.files, MetadataFile.load files file.path = .ok file) ∧
      store.files.Pairwise fun first second => first.path.before second.path = true := by
  obtain ⟨-, read⟩ := (discover_eq_ok_iff resolved inside named).1 found
  have paths : store.files.map MetadataFile.path = (descriptors root tree).map (place root) := by
    rw [← List.forall₂_eq_eq_eq, List.forall₂_map_left_iff, List.forall₂_map_right_iff]
    exact read.flip.imp fun _ _ loaded => MetadataFile.path_of_ofContent loaded
  refine ⟨paths, fun file member => ?_, ?_⟩
  · obtain ⟨names, _, loaded⟩ := exists_of_mem_mapM (mapM_eq_ok_iff.2 read) member
    rwa [MetadataFile.path_of_ofContent loaded]
  · have ascending : ((descriptors root tree).map (place root)).Pairwise fun first second =>
        first.before second = true := by
      refine List.pairwise_map.2 ((ascending_descriptors root tree).imp_of_mem ?_)
      intro first second one other before
      rw [before_of_describes named (mem_descriptors_iff.1 one).1 (mem_descriptors_iff.1 other).1]
      exact before
    rw [← paths] at ascending
    exact List.pairwise_map.1 ascending

/-- Otherwise its error is that of the first descriptor that cannot be loaded. -/
theorem discover_eq_error_iff :
    discover files root = .error cause ↔ ∃ names, names ∈ descriptors root tree ∧
      MetadataFile.load files (place root names) = .error cause ∧
      ∀ earlier ∈ descriptors root tree, Ordered.before earlier names = true →
        ∃ file, MetadataFile.load files (place root earlier) = .ok file := by
  rw [discover_eq resolved inside named, map_eq_error_iff, mapM_eq_error_iff]
  have ascending := ascending_descriptors root tree
  constructor
  · rintro ⟨front, names, back, split, good, bad⟩
    rw [split] at ascending ⊢
    refine ⟨names, by simp, bad, fun earlier member before => ?_⟩
    rcases List.mem_append.1 member with inFront | behind
    · exact good earlier inFront
    · have after := (List.pairwise_append.1 ascending).2.1
      rcases List.mem_cons.1 behind with rfl | inBack
      · exact absurd rfl (ne_of_before before)
      · have loop := Ordered.trans before ((List.pairwise_cons.1 after).1 earlier inBack)
        exact absurd rfl (ne_of_before loop)
  · rintro ⟨names, member, bad, first⟩
    obtain ⟨front, back, split⟩ := List.append_of_mem member
    rw [split] at ascending
    refine ⟨front, names, back, split, fun earlier inFront => ?_, bad⟩
    refine first earlier (by simp [split, inFront]) ?_
    exact (List.pairwise_append.1 ascending).2.2 earlier inFront names List.mem_cons_self

/-- Discovery that succeeds is complete when no descriptor is in a directory that cannot be
listed. -/
theorem complete_iff_of_found (found : discover files root = .ok store) :
    Complete files root tree (.ok store) ↔ Covered files root tree := by
  obtain ⟨rfl, each⟩ := (discover_eq_ok_iff resolved inside named).1 found
  obtain ⟨paths, read, ascending⟩ := files_of_discover resolved inside named found
  constructor
  · rintro ⟨whole, _, _, _⟩ names describes unlisted
    have there := (whole (place store.root names)).2 ⟨names, describes, rfl⟩
    rw [paths] at there
    obtain ⟨other, member, same⟩ := List.mem_map.1 there
    obtain ⟨describesOther, listed⟩ := mem_descriptors_iff.1 member
    rw [eq_of_place_eq (named_of_describes named describesOther)
      (named_of_describes named describes) same, unlisted] at listed
    cases listed
  · intro covered
    -- All descriptors that the walk finds are loaded, so none can cover another.
    have listed {names : List String} (describes : Describes tree names) :
        isListed store.root names = true := by
      by_contra unlisted
      obtain ⟨earlier, cause, earlierDescribes, earlierListed, _, bad⟩ :=
        covered names describes (by simpa using unlisted)
      obtain ⟨file, good⟩ := exists_of_mem_forall₂ each
        (mem_descriptors_iff.2 ⟨earlierDescribes, earlierListed⟩)
      rw [good] at bad
      cases bad
    refine .found (fun path => ?_) read ascending fun others perm =>
      ofFiles_of_ascending ascending perm
    rw [paths, List.mem_map]
    constructor
    · rintro ⟨names, member, rfl⟩
      exact ⟨names, (mem_descriptors_iff.1 member).1, rfl⟩
    · rintro ⟨names, describes, rfl⟩
      exact ⟨names, mem_descriptors_iff.2 ⟨describes, listed describes⟩, rfl⟩

/-- Discovery that fails is complete when its error comes before every descriptor in a directory
that cannot be listed. -/
theorem complete_iff_of_failed (ended : discover files root = .error cause) :
    Complete files root tree (.error cause) ↔ Covered files root tree := by
  obtain ⟨bad, member, failed, first⟩ := (discover_eq_error_iff resolved inside named).1 ended
  obtain ⟨describes, listed⟩ := mem_descriptors_iff.1 member
  constructor
  · rintro (_ | ⟨describesOther, badOther, firstOther⟩) names isDescriptor unlisted
    rename_i other
    obtain rfl : bad = other := eq_of_place_eq (named_of_describes named describes)
      (named_of_describes named describesOther) (path_eq_of_load_eq_error failed badOther)
    refine ⟨bad, cause, describes, listed, ?_, failed⟩
    rw [before_of_describes named describes isDescriptor]
    by_contra notBehind
    cases inFront : Ordered.before names bad with
    | true =>
        rw [← before_of_describes named isDescriptor describes] at inFront
        obtain ⟨file, good⟩ := firstOther names isDescriptor inFront
        obtain ⟨reason, wrong⟩ := exists_error_of_unlisted resolved named isDescriptor unlisted
        rw [good] at wrong
        cases wrong
    | false =>
        rw [Ordered.total (by simpa using notBehind) inFront, unlisted] at listed
        cases listed
  · intro covered
    refine .failed describes failed fun earlier isDescriptor before => ?_
    rw [before_of_describes named isDescriptor describes] at before
    cases earlierListed : isListed root earlier with
    | true => exact first earlier (mem_descriptors_iff.2 ⟨isDescriptor, earlierListed⟩) before
    | false =>
        -- What covers it would be a bad one before the first.
        obtain ⟨sooner, reason, soonerDescribes, soonerListed, soonerBefore, soonerBad⟩ :=
          covered earlier isDescriptor earlierListed
        rw [before_of_describes named soonerDescribes isDescriptor] at soonerBefore
        obtain ⟨file, good⟩ := first sooner
          (mem_descriptors_iff.2 ⟨soonerDescribes, soonerListed⟩)
          (Ordered.trans soonerBefore before)
        rw [good] at soonerBad
        cases soonerBad

end

/-- Discovery below a directory is complete exactly where each descriptor in a directory that cannot
be listed comes behind another one that cannot be loaded. -/
theorem complete_iff (resolved : files.resolve root = .ok tree) (inside : tree.isDirectory = true)
    (named : tree.isNamed = true) :
    Complete files root tree (discover files root) ↔ Covered files root tree := by
  cases ended : discover files root with
  | ok store => exact complete_iff_of_found resolved inside named ended
  | error cause => exact complete_iff_of_failed resolved inside named ended

/-! ### Two directories -/

/-- Files in the directory for documents. -/
def sampleDocuments (children : List (String × FileTree)) : Files :=
  ⟨.directory [("documents", .directory children)], []⟩

/-- Three descriptors and other entries, not in the order of their names. -/
def unorderedChildren : List (String × FileTree) :=
  [("b", .directory [("metadata.json", .file (some "\x7b\x7d"))]),
    ("a.b", .directory [("metadata.json", .file (some "[]")), ("up", .link "..")]),
    ("a", .directory [("notes", .file none), ("metadata.json", .file (some "1"))])]

/-- The directory of the sample is there. -/
theorem resolve_sampleDocuments {children : List (String × FileTree)} :
    (sampleDocuments children).resolve ⟨"documents"⟩ = .ok (.directory children) := by
  have start : (sampleDocuments children).stack = [(sampleDocuments children).top] := rfl
  rw [Files.resolve_of_relative (by decide +kernel), start,
    show FileTree.pieces "documents" = ["documents"] by decide,
    FileTree.follow_cons_of_find? rfl (by decide) (by decide) rfl (by nofun), FileTree.follow_nil]

/-- The descriptors of a directory are found in the order of their components. -/
theorem complete_unordered :
    (sampleDocuments unorderedChildren).resolve ⟨"documents"⟩ = .ok (.directory unorderedChildren) ∧
      (FileTree.directory unorderedChildren).isNamed = true ∧
      Complete (sampleDocuments unorderedChildren) ⟨"documents"⟩ (.directory unorderedChildren)
        (discover (sampleDocuments unorderedChildren) ⟨"documents"⟩) ∧
      descriptors ⟨"documents"⟩ (.directory unorderedChildren) =
        [["a", "metadata.json"], ["a.b", "metadata.json"], ["b", "metadata.json"]] := by
  have resolved := @resolve_sampleDocuments unorderedChildren
  have named : (FileTree.directory unorderedChildren).isNamed = true := by decide
  have listed : (FileTree.directory unorderedChildren).walk.all
      (fun found => isListed ⟨"documents"⟩ found.1) = true := by decide +kernel
  refine ⟨resolved, named, (complete_iff resolved rfl named).2 ?_, by decide +kernel⟩
  rintro names ⟨_, content, found⟩ unlisted
  have listedHere := List.all_eq_true.1 listed _ (FileTree.mem_walk_iff.2 found)
  rw [unlisted] at listedHere
  cases listedHere

/-- The directory for documents, written with many slashes behind it. -/
def slashedRoot : Path := ⟨"documents" ++ String.ofList (List.replicate 4000 '/')⟩

/-- A name of 200 characters. -/
def longName : String := String.ofList (List.replicate 200 'a')

/-- A directory with this name and a descriptor in it. -/
def longChildren : List (String × FileTree) :=
  [(longName, .directory [("metadata.json", .file (some "\x7b\x7d"))])]

/-- A file in a directory with too long a path is not listed. -/
theorem unlisted_of_long {name last : String}
    (long : maxPathBytes < (root.join name).text.utf8ByteSize) :
    isListed root [name, last] = false :=
  (unlisted_concat_iff root [name] last).2 long

/-- The slashes make the path too long. -/
theorem long_slashedRoot : maxPathBytes < (slashedRoot.join longName).text.utf8ByteSize := by
  have plain : isName longName = true :=
    FileTree.isName_replicate (by decide) (by decide) (by decide) (by decide)
  have whole := Path.utf8ByteSize_add_le_join (FileTree.isName_iff.1 plain).1 slashedRoot
  have front : slashedRoot.text.utf8ByteSize = "documents".utf8ByteSize + 4000 :=
    FileTree.utf8ByteSize_slashes "documents" 4000
  have back : longName.utf8ByteSize = 200 := Text.utf8ByteSize_replicate (by decide) 200
  have start : "documents".utf8ByteSize = 9 := by decide
  have most : maxPathBytes = 4095 := rfl
  omega

/-- The walk does not come to the descriptor. -/
theorem descriptors_slashedRoot : descriptors slashedRoot (.directory longChildren) = [] := by
  have walked : (FileTree.directory longChildren).walk =
      [([longName, "metadata.json"], some "\x7b\x7d")] := rfl
  have unlisted : isListed slashedRoot [longName, "metadata.json"] = false :=
    unlisted_of_long long_slashedRoot
  rw [descriptors, walked, List.filter_singleton, unlisted]
  rfl

/-- A store below such a root is found empty. -/
theorem discover_slashedRoot :
    discover (sampleDocuments longChildren) slashedRoot = .ok ⟨slashedRoot, []⟩ := by
  have resolved :
      (sampleDocuments longChildren).resolve slashedRoot = .ok (.directory longChildren) :=
    Files.resolve_slashes resolve_sampleDocuments rfl (by decide)
  have plain : isName longName = true :=
    FileTree.isName_replicate (by decide) (by decide) (by decide) (by decide)
  have metadata : isName "metadata.json" = true := by decide
  have named : (FileTree.directory longChildren).isNamed = true := by
    simp [longChildren, isNamed, FileTree.areNamed, plain, metadata]
  rw [discover_eq resolved rfl named, descriptors_slashedRoot]
  rfl

/-- A descriptor in a directory whose path is too long is left out without an error. -/
theorem incomplete_below_slashes : ∃ store,
    discover (sampleDocuments longChildren) slashedRoot = .ok store ∧ store.files = [] ∧
      Describes (.directory longChildren) [longName, "metadata.json"] ∧
      ¬ Complete (sampleDocuments longChildren) slashedRoot (.directory longChildren)
        (discover (sampleDocuments longChildren) slashedRoot) := by
  have describes : Describes (.directory longChildren) [longName, "metadata.json"] :=
    ⟨rfl, some "\x7b\x7d",
      by simp [FileTree.descend?, FileTree.find?, FileTree.children, longChildren]⟩
  refine ⟨⟨slashedRoot, []⟩, discover_slashedRoot, rfl, describes, ?_⟩
  rw [discover_slashedRoot]
  rintro (⟨whole, _, _, _⟩ | _)
  have there := (whole _).2 ⟨_, describes, rfl⟩
  cases there

end Runbook.MetadataStore
