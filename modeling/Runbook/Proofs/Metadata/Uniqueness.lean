import Mathlib.Data.List.Pairwise
import Runbook.Metadata.Store
import Runbook.Metadata.Uniqueness
import Runbook.Proofs.Table

/-!
# What several files claim

A register has no violation exactly when each value is claimed by one path. So the files of a store
whose paths differ are free of violations together exactly when any two of them are apart
(`UniquenessRegister.violations_files_eq_nil_iff`).
-/

namespace Runbook

variable {κ α : Type} [Ordered κ]

/-- A table is no larger than one entry when all its keys are the same. -/
theorem Table.size_le_one_iff {table : Table κ α} :
    table.size ≤ 1 ↔ ∀ one ∈ table.keys, ∀ other ∈ table.keys, one = other := by
  have ascending := table.keys_pairwise
  have size : table.size = table.keys.length := (List.length_map _).symm
  rw [size]
  match table.keys, ascending with
  | [], _ => simp
  | [key], _ => simp
  | first :: second :: rest, ascending =>
      have before : Ordered.before first second = true :=
        List.rel_of_pairwise_cons ascending (by simp)
      refine ⟨fun small => by simp at small, fun same => ?_⟩
      rw [same first (by simp) second (by simp), Ordered.irrefl] at before
      cases before

/-- What two descriptors may not both declare. -/
structure MetadataFile.Apart (one other : MetadataFile) : Prop where
  tag : ∀ tag, one.tag? = some tag → other.tag? ≠ some tag
  alarmName : ∀ name another, one.attribute? "alarmName" = some name →
    other.attribute? "alarmName" = some another → logicalName name ≠ logicalName another
  documentName : ∀ name another, one.documentName? = some name →
    other.documentName? = some another → logicalName name ≠ logicalName another

namespace UniquenessRegister

variable {register : UniquenessRegister} {path : Path} {claimed : String × String}
  {components : List Component}

/-- How a register spells a path that claims a value. -/
def spelling? (register : UniquenessRegister) (claimed : String × String)
    (components : List Component) : Option Path :=
  (register.claims.get? claimed).bind fun claimants => claimants.get? components

/-- One more claimant is kept unless its place has claimed already. -/
theorem get?_addClaimant (claimants : Claimants) (path : Path) :
    (addClaimant claimants path).get? components = (claimants.get? components).or
      (if components = path.components then some path else none) := by
  rw [addClaimant]
  split
  · rename_i known
    obtain ⟨old, found⟩ := Table.contains_eq_true_iff.1 known
    by_cases here : components = path.components
    · rw [here, found, Option.or]
    · rw [if_neg here, Option.or_none]
  · rename_i fresh
    rw [Table.get?_insert]
    by_cases here : components = path.components
    · rw [if_pos here, if_pos here, here,
        Table.contains_eq_false_iff.1 (by simpa using fresh), Option.or]
    · rw [if_neg here, if_neg here, Option.or_none]

/-- A claim gives a path its spelling, unless it has one. -/
theorem spelling?_claim (path : Path) (name value : String) :
    (register.claim path name value).spelling? claimed components =
      (register.spelling? claimed components).or
        (if claimed = (name, value) ∧ components = path.components then some path else none) := by
  simp only [spelling?, claim, Table.get?_insert]
  by_cases here : claimed = (name, value)
  · subst here
    simp only [↓reduceIte, Option.bind_some, get?_addClaimant, true_and]
    cases register.claims.get? (name, value) <;> simp
  · simp [here]

/-- A file gives its path a spelling in all its claims, unless it has one there. -/
theorem spelling?_add (raw : Json) (path : Path) :
    (register.add raw path).spelling? claimed components =
      (register.spelling? claimed components).or
        (if claimed ∈ claimsOf raw ∧ components = path.components then some path else none) := by
  rw [add]
  induction claimsOf raw generalizing register with
  | nil => simp
  | cons head rest ih =>
      rw [List.foldl_cons, ih, spelling?_claim, Option.or_assoc]
      congr 1
      by_cases here : claimed = head <;> by_cases there : components = path.components <;>
        simp [here, there]

/-- A path claims a value. -/
def Claimed (register : UniquenessRegister) (claimed : String × String)
    (components : List Component) : Prop :=
  ∃ claimants, register.claims.get? claimed = some claimants ∧ components ∈ claimants.keys

/-- A place has claimed something exactly where a spelling of it is kept. -/
theorem claimed_iff : register.Claimed claimed components ↔
    ∃ path, register.spelling? claimed components = some path := by
  simp only [Claimed, spelling?, Option.bind_eq_some_iff, Table.mem_keys_iff]
  constructor
  · rintro ⟨claimants, found, path, spelled⟩
    exact ⟨path, claimants, found, spelled⟩
  · rintro ⟨path, claimants, found, spelled⟩
    exact ⟨claimants, found, path, spelled⟩

/-- A file adds its claims at its place, and no others. -/
theorem claimed_add {raw : Json} :
    (register.add raw path).Claimed claimed components ↔
      claimed ∈ claimsOf raw ∧ components = path.components ∨
        register.Claimed claimed components := by
  rw [claimed_iff, claimed_iff, spelling?_add]
  by_cases here : claimed ∈ claimsOf raw ∧ components = path.components
  · cases register.spelling? claimed components <;> simp [here]
  · simp [here]

/-- The values that several paths claim, each with these paths. -/
def collisions (register : UniquenessRegister) : List ((String × String) × List Path) :=
  (register.claims.entries.filter fun entry => 1 < entry.2.size).map fun entry =>
    (entry.1, entry.2.values)

/-- There is one message for each collision. -/
theorem violations_eq_map_collisions : register.violations = register.collisions.map
    fun collision => message collision.1.1 collision.1.2 collision.2 := by
  rw [violations, collisions, List.map_map]
  rfl

/-- A collision is a claim with several claimants, listed by their places. -/
theorem mem_collisions_iff {paths : List Path} : (claimed, paths) ∈ register.collisions ↔
    ∃ claimants, register.claims.get? claimed = some claimants ∧ 1 < claimants.size ∧
      paths = claimants.values := by
  simp only [collisions, List.mem_map, List.mem_filter, decide_eq_true_eq, Prod.mk.injEq,
    Table.get?_eq_some_iff]
  constructor
  · rintro ⟨⟨_, claimants⟩, ⟨member, large⟩, rfl, rfl⟩
    exact ⟨claimants, member, large, rfl⟩
  · rintro ⟨claimants, member, large, rfl⟩
    exact ⟨(claimed, claimants), ⟨member, large⟩, rfl, rfl⟩

/-- A register tells of the values that two different paths claim. -/
theorem mem_map_collisions_iff : claimed ∈ register.collisions.map Prod.fst ↔
    ∃ one other, register.Claimed claimed one ∧ register.Claimed claimed other ∧ one ≠ other := by
  have told : claimed ∈ register.collisions.map Prod.fst ↔
      ∃ claimants, register.claims.get? claimed = some claimants ∧ 1 < claimants.size := by
    simp only [List.mem_map, Prod.exists, mem_collisions_iff, exists_and_right, exists_eq_right]
    constructor
    · rintro ⟨_, claimants, found, large, -⟩
      exact ⟨claimants, found, large⟩
    · rintro ⟨claimants, found, large⟩
      exact ⟨_, claimants, found, large, rfl⟩
  rw [told]
  constructor
  · rintro ⟨claimants, found, large⟩
    have several := mt Table.size_le_one_iff.2 (Nat.not_le.2 large)
    push Not at several
    obtain ⟨one, first, other, second, differ⟩ := several
    exact ⟨one, other, ⟨claimants, found, first⟩, ⟨claimants, found, second⟩, differ⟩
  · rintro ⟨one, other, ⟨claimants, found, first⟩, ⟨_, again, second⟩, differ⟩
    rw [found, Option.some.injEq] at again
    subst again
    refine ⟨claimants, found, Nat.not_le.1 fun small => differ ?_⟩
    exact Table.size_le_one_iff.1 small one first other second

/-- A register is free of violations when no two paths claim one value. -/
theorem violations_eq_nil_iff : register.violations = [] ↔
    ∀ claimed one other, register.Claimed claimed one → register.Claimed claimed other →
      one = other := by
  have told : register.violations = [] ↔ ∀ claimed, claimed ∉ register.collisions.map Prod.fst := by
    rw [violations_eq_map_collisions, List.map_eq_nil_iff, ← List.eq_nil_iff_forall_not_mem,
      List.map_eq_nil_iff]
  rw [told]
  simp only [mem_map_collisions_iff]
  constructor
  · intro single claimed one other first second
    by_contra differ
    exact single claimed ⟨one, other, first, second, differ⟩
  · rintro single claimed ⟨one, other, first, second, differ⟩
    exact differ (single claimed one other first second)

/-- The register of files, each with the claims of its descriptor. -/
theorem claimed_foldl {files : List MetadataFile} :
    (files.foldl (fun register file => register.add file.raw file.path) register).Claimed claimed
        components ↔
      (∃ file ∈ files, claimed ∈ claimsOf file.raw ∧ components = file.path.components) ∨
        register.Claimed claimed components := by
  induction files generalizing register with
  | nil => simp
  | cons file rest ih =>
      rw [List.foldl_cons, ih, claimed_add]
      simp only [List.mem_cons, exists_eq_or_imp]
      rw [or_left_comm, or_assoc]

/-- Nothing is claimed at the beginning. -/
theorem not_claimed_empty : ¬ empty.Claimed claimed components := by
  rintro ⟨claimants, found, -⟩
  simp [empty] at found

/-- A file claims its tag, and its alarm's name and its document's name as logical names. -/
theorem mem_claimsOf_iff {file : MetadataFile} : claimed ∈ claimsOf file.raw ↔
    (∃ tag, file.tag? = some tag ∧ claimed = ("tag", tag)) ∨
    (∃ name, file.attribute? "alarmName" = some name ∧
      claimed = ("cfn-alarmName", logicalName name)) ∨
    ∃ name, file.documentName? = some name ∧ claimed = ("cfn-documentName", logicalName name) := by
  simp only [claimsOf, List.mem_append, Option.mem_toList, Option.map_eq_some_iff, or_assoc,
    MetadataFile.tag?, MetadataFile.documentName?, MetadataFile.attribute?, id_eq,
    @eq_comm _ claimed]

/-- Two descriptors are apart when no claim is made by both. -/
theorem apart_iff {one other : MetadataFile} :
    one.Apart other ↔ ∀ claimed ∈ claimsOf one.raw, claimed ∉ claimsOf other.raw := by
  simp only [mem_claimsOf_iff]
  constructor
  · rintro ⟨tags, alarms, documents⟩ claimed claims shared
    rcases claims with ⟨tag, there, rfl⟩ | ⟨name, there, rfl⟩ | ⟨name, there, rfl⟩
    · rcases shared with ⟨another, again, same⟩ | ⟨_, _, same⟩ | ⟨_, _, same⟩
      · cases same
        exact tags tag there again
      · simp at same
      · simp at same
    · rcases shared with ⟨_, _, same⟩ | ⟨another, again, same⟩ | ⟨_, _, same⟩
      · simp at same
      · exact alarms name another there again (Prod.mk.inj same).2
      · simp at same
    · rcases shared with ⟨_, _, same⟩ | ⟨_, _, same⟩ | ⟨another, again, same⟩
      · simp at same
      · simp at same
      · exact documents name another there again (Prod.mk.inj same).2
  · intro differ
    refine ⟨fun tag there again => ?_, fun name another there again same => ?_,
      fun name another there again same => ?_⟩
    · exact differ _ (.inl ⟨tag, there, rfl⟩) (.inl ⟨tag, again, rfl⟩)
    · exact differ _ (.inr (.inl ⟨name, there, rfl⟩)) (.inr (.inl ⟨another, again, by rw [same]⟩))
    · exact differ _ (.inr (.inr ⟨name, there, rfl⟩)) (.inr (.inr ⟨another, again, by rw [same]⟩))

instance : Std.Symm MetadataFile.Apart where
  symm _ _ apart := apart_iff.2 fun claimed second first => apart_iff.1 apart claimed first second

/-- Files at different paths are free of violations together when any two of them are apart. -/
theorem violations_files_eq_nil_iff {files : List MetadataFile}
    (distinct : (files.map fun file => file.path.components).Nodup) :
    (files.foldl (fun register file => register.add file.raw file.path) empty).violations = [] ↔
      files.Pairwise MetadataFile.Apart := by
  simp only [violations_eq_nil_iff, claimed_foldl, not_claimed_empty, or_false]
  constructor
  · intro single
    have different := List.pairwise_map.1 distinct
    refine different.imp_of_mem fun {one other} member found differs => apart_iff.2 ?_
    intro claimed first second
    exact differs (single claimed _ _ ⟨one, member, first, rfl⟩ ⟨other, found, second, rfl⟩)
  · rintro apart claimed _ _ ⟨one, member, first, rfl⟩ ⟨other, found, second, rfl⟩
    by_contra differs
    have pair := apart.forall member found fun same => differs (by rw [same])
    exact apart_iff.1 pair claimed first second

end UniquenessRegister

end Runbook
