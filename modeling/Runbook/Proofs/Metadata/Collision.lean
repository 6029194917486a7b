import Mathlib.Data.List.Induction
import Runbook.Proofs.Metadata.Record
import Runbook.Proofs.Metadata.Uniqueness
import Runbook.Proofs.Text.Letter

/-!
# What the violations of uniqueness tell

A register takes files one after the other and forgets all of them when it is reset. What it tells
afterwards depends on the files since then alone: one message for each value that two of them with
different paths claim (`Reports`). A path counts by its components, and a message shows it as the
first of the files that claim the value has it. So the order of the files and how often each comes
do not matter but for the spelling of paths (`collisions_exact`).
-/

namespace Runbook.UniquenessRegister

/-- A call to a register. -/
inductive Call where
  | file (file : MetadataFile)
  | reset

/-- The register after one more call. -/
def apply (register : UniquenessRegister) : Call → UniquenessRegister
  | .file file => register.add file.raw file.path
  | .reset => empty

/-- The register after calls. -/
def after (calls : List Call) : UniquenessRegister := calls.foldl apply empty

/-- The register of files. -/
def ofFiles (files : List MetadataFile) : UniquenessRegister :=
  files.foldl (fun register file => register.add file.raw file.path) empty

/-- The files since the last reset, in their order. -/
def sinceReset (calls : List Call) : List MetadataFile :=
  calls.foldl (fun files call =>
    match call with
    | .file file => files ++ [file]
    | .reset => []) []

/-- Only the files since the last reset count. -/
theorem after_eq_ofFiles (calls : List Call) : after calls = ofFiles (sinceReset calls) := by
  induction calls using List.reverseRec with
  | nil => rfl
  | append_singleton calls call ih =>
      rw [after] at ih
      cases call with
      | file file => simp [after, sinceReset, ofFiles, List.foldl_append, apply, ih]
      | reset => simp [after, sinceReset, ofFiles, List.foldl_append, apply]

/-- A descriptor claims its tag as it is, and its names by the letters and digits in them. -/
def Claims (raw : Json) (claimed : String × String) : Prop :=
  ∃ text, (raw.get? "tag" = some (.string text) ∧ claimed = ("tag", text)) ∨
    (raw.get? "alarmName" = some (.string text) ∧
      claimed = ("cfn-alarmName", String.ofList (text.toList.filter Char.isAlphanum))) ∨
    (raw.get? "documentName" = some (.string text) ∧
      claimed = ("cfn-documentName", String.ofList (text.toList.filter Char.isAlphanum)))

/-- The claims of a file are those that it makes. -/
theorem mem_claimsOf_iff_claims {file : MetadataFile} {claimed : String × String} :
    claimed ∈ claimsOf file.raw ↔ Claims file.raw claimed := by
  have name (text : String) :
      logicalName text = String.ofList (text.toList.filter Char.isAlphanum) := by
    rw [logicalName, funext Text.isAlphanumeric_eq]
  simp only [mem_claimsOf_iff, MetadataFile.tag?, MetadataFile.documentName?,
    MetadataFile.attribute?, Option.bind_eq_some_iff, Json.asString_eq_some_iff, name, Claims,
    exists_or, exists_eq_right]

variable {register : UniquenessRegister} {claimed : String × String}
  {components : List Component}

/-- A file claims a value at a path. -/
def claimsAt (claimed : String × String) (components : List Component) (file : MetadataFile) :
    Bool :=
  claimed ∈ claimsOf file.raw ∧ components = file.path.components

/-- The spelling of a path is that of the first file which claims the value there. -/
theorem spelling?_ofFiles (files : List MetadataFile) :
    (ofFiles files).spelling? claimed components =
      (files.find? (claimsAt claimed components)).map MetadataFile.path := by
  induction files using List.reverseRec with
  | nil => rfl
  | append_singleton files file ih =>
      rw [ofFiles] at ih ⊢
      rw [List.foldl_append, List.foldl_cons, List.foldl_nil, spelling?_add, ih,
        List.find?_append, List.find?_singleton]
      by_cases here : claimed ∈ claimsOf file.raw ∧ components = file.path.components <;>
        simp [claimsAt, here]

/-! ### What is told -/

/-- Collisions are listed in the order of what is claimed. -/
theorem collisions_pairwise : register.collisions.Pairwise
    fun first second => Ordered.before first.1 second.1 = true :=
  List.pairwise_map.2 (register.claims.ascending.filter _)

section

variable {β : Type} {one other : UniquenessRegister} {view : Path → β}

/-- What several paths claim in one register they claim in every register whose spellings agree
with it in a view. -/
theorem exists_claimants_of_view {claimants : Claimants}
    (found : one.claims.get? claimed = some claimants) (large : 1 < claimants.size)
    (agree : ∀ components, (one.spelling? claimed components).map view =
      (other.spelling? claimed components).map view) :
    ∃ others, other.claims.get? claimed = some others ∧ 1 < others.size ∧
      claimants.values.map view = others.values.map view := by
  simp only [spelling?, found, Option.bind_some] at agree
  cases there : other.claims.get? claimed with
  | none =>
      have filled : 0 < claimants.entries.length := Nat.lt_of_succ_lt large
      obtain ⟨⟨components, path⟩, member⟩ := List.exists_mem_of_length_pos filled
      have lost := agree components
      rw [Table.get?_eq_some_iff.2 member, there] at lost
      cases lost
  | some others =>
      simp only [there, Option.bind_some] at agree
      have entries := Table.map_entries_eq_of_get? view agree
      have sizes : claimants.size = others.size := by
        simpa [Table.size] using congrArg List.length entries
      have values : claimants.values.map view = others.values.map view := by
        simpa [Table.values, Function.comp_def] using congrArg (List.map Prod.snd) entries
      exact ⟨others, rfl, sizes ▸ large, values⟩

/-- Registers whose spellings look the same have collisions that look the same. -/
theorem map_collisions_subset
    (same : ∀ claimed components, (one.spelling? claimed components).map view =
      (other.spelling? claimed components).map view) :
    (one.collisions.map fun collision => (collision.1, collision.2.map view)) ⊆
      other.collisions.map fun collision => (collision.1, collision.2.map view) := by
  intro shown member
  obtain ⟨⟨claimed, paths⟩, told, rfl⟩ := List.mem_map.1 member
  obtain ⟨claimants, found, large, rfl⟩ := mem_collisions_iff.1 told
  obtain ⟨others, there, enough, values⟩ := exists_claimants_of_view found large (same claimed)
  exact List.mem_map.2 ⟨(claimed, others.values),
    mem_collisions_iff.2 ⟨others, there, enough, rfl⟩, by simp only [values]⟩

/-- Registers whose spellings agree in a view tell the same in it. -/
theorem map_collisions_eq
    (same : ∀ claimed components, (one.spelling? claimed components).map view =
      (other.spelling? claimed components).map view) :
    (one.collisions.map fun collision => (collision.1, collision.2.map view)) =
      other.collisions.map fun collision => (collision.1, collision.2.map view) := by
  have back (claimed : String × String) (components : List Component) :=
    (same claimed components).symm
  refine eq_of_ascending Prod.fst (List.pairwise_map.2 collisions_pairwise)
    (List.pairwise_map.2 collisions_pairwise) fun shown => ?_
  exact ⟨fun member => map_collisions_subset same member,
    fun member => map_collisions_subset back member⟩

end

/-- Of the files that claim a value at one path this is how the first one spells the path. -/
def FirstSpelled (files : List MetadataFile) (claimed : String × String) (path : Path) : Prop :=
  ∃ before file behind, files = before ++ file :: behind ∧ Claims file.raw claimed ∧
    file.path = path ∧
    ∀ earlier ∈ before, Claims earlier.raw claimed → earlier.path.components ≠ path.components

/-- The spelling that is kept of a place is that of the first file there that makes the claim. -/
theorem spelling?_ofFiles_eq_some_iff {files : List MetadataFile} {path : Path} :
    (ofFiles files).spelling? claimed components = some path ↔
      path.components = components ∧ FirstSpelled files claimed path := by
  simp only [spelling?_ofFiles, Option.map_eq_some_iff, List.find?_eq_some_iff_append, claimsAt,
    decide_eq_true_eq, Bool.not_eq_true', decide_eq_false_iff_not, mem_claimsOf_iff_claims,
    not_and, FirstSpelled]
  constructor
  · rintro ⟨file, ⟨⟨claims, rfl⟩, before, behind, rfl, earlier⟩, rfl⟩
    exact ⟨rfl, before, file, behind, rfl, claims, rfl,
      fun other member first same => earlier other member first same.symm⟩
  · rintro ⟨rfl, before, file, behind, rfl, claims, rfl, earlier⟩
    exact ⟨file, ⟨⟨claims, rfl⟩, before, behind, rfl,
      fun other member first same => earlier other member first same.symm⟩, rfl⟩

/-- What files have in common: each value that two of them with different paths claim, in ascending
order, with each of the paths once, in path order and as it is first spelled. -/
structure Reports (files : List MetadataFile)
    (collisions : List ((String × String) × List Path)) : Prop where
  ascending : (collisions.map Prod.fst).Pairwise
    fun first second => Ordered.before first second = true
  contested : ∀ claimed, claimed ∈ collisions.map Prod.fst ↔
    ∃ one ∈ files, ∃ other ∈ files, Claims one.raw claimed ∧ Claims other.raw claimed ∧
      one.path.components ≠ other.path.components
  ordered : ∀ claimed paths, (claimed, paths) ∈ collisions →
    (paths.map Path.components).Pairwise fun first second => Ordered.before first second = true
  complete : ∀ claimed paths, (claimed, paths) ∈ collisions → ∀ components,
    components ∈ paths.map Path.components ↔
      ∃ file ∈ files, Claims file.raw claimed ∧ file.path.components = components
  spelled : ∀ claimed paths, (claimed, paths) ∈ collisions → ∀ path ∈ paths,
    FirstSpelled files claimed path

/-- A place claims something exactly where some file there does. -/
theorem claimed_ofFiles {files : List MetadataFile} :
    (ofFiles files).Claimed claimed components ↔
      ∃ file ∈ files, Claims file.raw claimed ∧ file.path.components = components := by
  simp only [ofFiles, claimed_foldl, not_claimed_empty, or_false, mem_claimsOf_iff_claims,
    eq_comm]

/-- The collisions of a register of files report on the files. -/
theorem reports_ofFiles (files : List MetadataFile) : Reports files (ofFiles files).collisions := by
  have spelled {claimed : String × String} {claimants : Claimants}
      (found : (ofFiles files).claims.get? claimed = some claimants)
      {entry : List Component × Path} (member : entry ∈ claimants.entries) :
      entry.2.components = entry.1 ∧ FirstSpelled files claimed entry.2 := by
    apply spelling?_ofFiles_eq_some_iff.1
    rw [spelling?, found, Option.bind_some]
    exact Table.get?_eq_some_iff.2 member
  have shown {claimed : String × String} {claimants : Claimants}
      (found : (ofFiles files).claims.get? claimed = some claimants) :
      claimants.values.map Path.components = claimants.keys := by
    rw [Table.values, List.map_map]
    exact List.map_congr_left fun entry member => (spelled found member).1
  refine ⟨List.pairwise_map.2 collisions_pairwise, fun claimed => ?_, fun claimed paths told => ?_,
    fun claimed paths told components => ?_, fun claimed paths told path member => ?_⟩
  · simp only [mem_map_collisions_iff, claimed_ofFiles]
    constructor
    · rintro ⟨_, _, ⟨one, first, claims, rfl⟩, ⟨other, second, again, rfl⟩, differ⟩
      exact ⟨one, first, other, second, claims, again, differ⟩
    · rintro ⟨one, first, other, second, claims, again, differ⟩
      exact ⟨_, _, ⟨one, first, claims, rfl⟩, ⟨other, second, again, rfl⟩, differ⟩
  · obtain ⟨claimants, found, -, rfl⟩ := mem_collisions_iff.1 told
    rw [shown found]
    exact claimants.keys_pairwise
  · obtain ⟨claimants, found, -, rfl⟩ := mem_collisions_iff.1 told
    rw [shown found, ← claimed_ofFiles]
    simp only [Claimed, found, Option.some.injEq, exists_eq_left']
  · obtain ⟨claimants, found, -, rfl⟩ := mem_collisions_iff.1 told
    obtain ⟨entry, entered, rfl⟩ := List.mem_map.1 member
    exact (spelled found entered).2

/-- Files that claim one value at one path spell the path in one way. -/
def SpelledAlike (files : List MetadataFile) : Prop :=
  ∀ one ∈ files, ∀ other ∈ files, ∀ claimed, Claims one.raw claimed → Claims other.raw claimed →
    one.path.components = other.path.components → one.path = other.path

variable {files others : List MetadataFile}

/-- A spelling is that of a file which claims the value at this path. -/
theorem exists_file_of_spelling? {path : Path}
    (spelled : (ofFiles files).spelling? claimed components = some path) :
    ∃ file ∈ files, Claims file.raw claimed ∧ file.path = path ∧ path.components = components := by
  obtain ⟨here, before, file, behind, rfl, claims, same, -⟩ :=
    spelling?_ofFiles_eq_some_iff.1 spelled
  exact ⟨file, by simp, claims, same, here⟩

/-- The paths that claim a value depend on what files there are only. -/
theorem map_components_spelling?_congr (same : ∀ file, file ∈ others ↔ file ∈ files)
    (claimed : String × String) (components : List Component) :
    ((ofFiles others).spelling? claimed components).map Path.components =
      ((ofFiles files).spelling? claimed components).map Path.components := by
  have shown (files : List MetadataFile) (image : List Component) :
      ((ofFiles files).spelling? claimed components).map Path.components = some image ↔
        (ofFiles files).Claimed claimed components ∧ components = image := by
    rw [Option.map_eq_some_iff, claimed_iff]
    constructor
    · rintro ⟨path, spelled, rfl⟩
      exact ⟨⟨path, spelled⟩, (spelling?_ofFiles_eq_some_iff.1 spelled).1.symm⟩
    · rintro ⟨⟨path, spelled⟩, rfl⟩
      exact ⟨path, spelled, (spelling?_ofFiles_eq_some_iff.1 spelled).1⟩
  refine Option.ext fun image => ?_
  rw [shown, shown, claimed_ofFiles, claimed_ofFiles]
  simp only [same]

/-- So do their spellings, where the files agree on them. -/
theorem SpelledAlike.spelling?_congr (alike : SpelledAlike files)
    (same : ∀ file, file ∈ others ↔ file ∈ files)
    (claimed : String × String) (components : List Component) :
    (ofFiles others).spelling? claimed components =
      (ofFiles files).spelling? claimed components := by
  have paths := map_components_spelling?_congr same claimed components
  cases there : (ofFiles others).spelling? claimed components with
  | none =>
      rw [there, Option.map_none, eq_comm, Option.map_eq_none_iff] at paths
      exact paths.symm
  | some path =>
      rw [there, Option.map_some, eq_comm, Option.map_eq_some_iff] at paths
      obtain ⟨another, here, -⟩ := paths
      obtain ⟨one, first, claims, rfl, left⟩ := exists_file_of_spelling? there
      obtain ⟨other, second, again, rfl, right⟩ := exists_file_of_spelling? here
      rw [here, alike one ((same one).1 first) other second claimed claims again
        (left.trans right.symm)]

/-- After any calls there is one message for each attribute and value that two different paths have
claimed since the last reset, in ascending order; it lists each claiming path once, in path order
and as it was first spelled. Other calls with the same files since the last reset, in whatever order
and however often, lead to the same values and paths, and to the same messages where each path that
claims a value is spelled in one way. -/
theorem collisions_exact (calls : List Call) :
    (after calls).violations = (after calls).collisions.map
        (fun collision => message collision.1.1 collision.1.2 collision.2) ∧
      Reports (sinceReset calls) (after calls).collisions ∧
      ∀ others, (∀ file, file ∈ sinceReset others ↔ file ∈ sinceReset calls) →
        ((after others).collisions.map fun collision =>
          (collision.1, collision.2.map Path.components)) =
            ((after calls).collisions.map fun collision =>
              (collision.1, collision.2.map Path.components)) ∧
          (SpelledAlike (sinceReset calls) → (after others).violations = (after calls).violations)
        := by
  refine ⟨violations_eq_map_collisions, ?_, fun others same => ⟨?_, fun alike => ?_⟩⟩
  · rw [after_eq_ofFiles]
    exact reports_ofFiles _
  · rw [after_eq_ofFiles, after_eq_ofFiles]
    exact map_collisions_eq (map_components_spelling?_congr same)
  · have told : (after others).collisions = (after calls).collisions := by
      rw [after_eq_ofFiles, after_eq_ofFiles]
      simpa using map_collisions_eq fun claimed components =>
        congrArg (Option.map id) (alike.spelling?_congr same claimed components)
    rw [violations_eq_map_collisions, told, violations_eq_map_collisions]

/-- A file whose descriptor claims a tag. -/
def taggedFile (path : String) : Call := .file ⟨⟨path⟩, .object [("tag", .string "t")]⟩

/-- Two files claim a tag after a reset; then the second comes first and once more at the end. -/
theorem collisions_exact_reordered :
    let calls := [taggedFile "z/m", .reset, taggedFile "b/m", taggedFile "a/m"]
    let others := [taggedFile "a/m", taggedFile "b/m", taggedFile "a/m"]
    (after calls).violations =
        ["Attribute 'tag' with value 't' must be unique but is used by: a/m, b/m"] ∧
      (after others).violations = (after calls).violations := by
  intro calls others
  have same (file : MetadataFile) : file ∈ sinceReset others ↔ file ∈ sinceReset calls := by
    simp [sinceReset, others, calls, taggedFile]
    tauto
  have alike : SpelledAlike (sinceReset calls) := by
    have differ : (Path.mk "b/m").components ≠ (Path.mk "a/m").components := by decide
    rintro one first other second - - - components
    simp only [sinceReset, calls, taggedFile, List.foldl_cons, List.foldl_nil, List.nil_append,
      List.singleton_append, List.mem_cons, List.not_mem_nil, or_false] at first second
    rcases first with rfl | rfl <;> rcases second with rfl | rfl
    · rfl
    · exact absurd components differ
    · exact absurd components.symm differ
    · rfl
  exact ⟨by decide, ((collisions_exact calls).2.2 others same).2 alike⟩

/-- A path that is spelled in two ways is shown as the call that comes first has it. -/
theorem violations_change_with_order :
    let calls := [taggedFile "a//m", taggedFile "a/m", taggedFile "b/m"]
    let others := [taggedFile "a/m", taggedFile "a//m", taggedFile "b/m"]
    others.Perm calls ∧
      (after calls).violations =
        ["Attribute 'tag' with value 't' must be unique but is used by: a//m, b/m"] ∧
      (after others).violations =
        ["Attribute 'tag' with value 't' must be unique but is used by: a/m, b/m"] ∧
      (after others).violations ≠ (after calls).violations := by
  intro calls others
  have first : (after calls).violations =
      ["Attribute 'tag' with value 't' must be unique but is used by: a//m, b/m"] := by
    decide
  have second : (after others).violations =
      ["Attribute 'tag' with value 't' must be unique but is used by: a/m, b/m"] := by
    decide
  refine ⟨List.Perm.swap _ _ _, first, second, ?_⟩
  rw [first, second]
  decide

end Runbook.UniquenessRegister
