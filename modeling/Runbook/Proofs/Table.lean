import Mathlib.Data.List.Dedup
import Mathlib.Data.List.Induction
import Mathlib.Data.List.Perm.Subperm
import Mathlib.Data.List.Sort
import Runbook.Table

/-!
# Tables and ascending lists by what they hold

A table is determined by its look-ups, and a strictly ascending list by its members. So an entry
that is set twice is as one set once, and `sortedDistinct` depends on the members of its list only.
-/

namespace Runbook

variable {κ α : Type} [Ordered κ]

/-- Lists that ascend strictly by a key are equal when they hold the same members. -/
theorem eq_of_ascending {β : Type} (key : β → κ) {left right : List β}
    (leftAscends : left.Pairwise fun a b => Ordered.before (key a) (key b) = true)
    (rightAscends : right.Pairwise fun a b => Ordered.before (key a) (key b) = true)
    (same : ∀ member, member ∈ left ↔ member ∈ right) : left = right := by
  have irrefl : Std.Irrefl fun a b : β => Ordered.before (key a) (key b) = true :=
    ⟨fun a => by simp [Ordered.irrefl]⟩
  have antisymm : Std.Antisymm fun a b : β => Ordered.before (key a) (key b) = true :=
    ⟨fun a b first second => by
      have loop := Ordered.trans first second
      simp [Ordered.irrefl] at loop⟩
  exact leftAscends.eq_of_mem_iff rightAscends same

namespace Table

variable [DecidableEq κ]

/-- Tables with the same look-ups but for what a view leaves out list the same entries in it. -/
theorem map_entries_eq_of_get? {β : Type} {left right : Table κ α} (view : α → β)
    (same : ∀ key, (left.get? key).map view = (right.get? key).map view) :
    (left.entries.map fun entry => (entry.1, view entry.2)) =
      right.entries.map fun entry => (entry.1, view entry.2) := by
  have shown (table : Table κ α) (key : κ) (image : β) :
      (key, image) ∈ table.entries.map (fun entry => (entry.1, view entry.2)) ↔
        (table.get? key).map view = some image := by
    simp only [List.mem_map, Prod.mk.injEq, Option.map_eq_some_iff, get?_eq_some_iff]
    constructor
    · rintro ⟨⟨_, value⟩, member, rfl, rfl⟩
      exact ⟨value, member, rfl⟩
    · rintro ⟨value, member, rfl⟩
      exact ⟨(key, value), member, rfl, rfl⟩
  refine eq_of_ascending Prod.fst (List.pairwise_map.2 left.ascending)
    (List.pairwise_map.2 right.ascending) ?_
  rintro ⟨key, image⟩
  rw [shown, shown, same]

/-- Tables with the same look-ups are equal. -/
theorem eq_of_get? {left right : Table κ α} (same : ∀ key, left.get? key = right.get? key) :
    left = right := by
  apply ext
  simpa using map_entries_eq_of_get? id fun key => congrArg (Option.map id) (same key)

/-- A value is under its key once it is put there. -/
@[simp] theorem get?_insert_self (table : Table κ α) (key : κ) (value : α) :
    (table.insert key value).get? key = some value := by
  rw [get?_insert, if_pos rfl]

/-- What holds of all values and of a new one holds of all values when that is set. -/
theorem forall_get?_insert {Good : α → Prop} {table : Table κ α} {key : κ} {value : α}
    (good : ∀ other found, table.get? other = some found → Good found) (new : Good value) :
    ∀ other found, (table.insert key value).get? other = some found → Good found := by
  intro other found there
  rw [get?_insert] at there
  split at there
  · cases there
    exact new
  · exact good other found there

/-- Of two values set under one key the later counts. -/
@[simp] theorem insert_insert (table : Table κ α) (key : κ) (first second : α) :
    (table.insert key first).insert key second = table.insert key second := by
  apply eq_of_get?
  intro other
  simp only [get?_insert]
  split <;> rfl

/-- A key is in a table exactly where a value is under it. -/
theorem contains_eq_true_iff {table : Table κ α} {key : κ} :
    table.contains key = true ↔ ∃ value, table.get? key = some value :=
  Option.isSome_iff_exists

/-- A key is not in a table exactly where nothing is under it. -/
theorem contains_eq_false_iff {table : Table κ α} {key : κ} :
    table.contains key = false ↔ table.get? key = none := by
  simp [contains]

/-- The keys are those that a look-up finds. -/
theorem mem_keys_iff {table : Table κ α} {key : κ} :
    key ∈ table.keys ↔ ∃ value, table.get? key = some value := by
  simp only [keys, List.mem_map, get?_eq_some_iff]
  constructor
  · rintro ⟨⟨_, value⟩, member, rfl⟩
    exact ⟨value, member⟩
  · rintro ⟨value, member⟩
    exact ⟨(key, value), member, rfl⟩

/-- The values are those that a look-up finds. -/
theorem mem_values_iff {table : Table κ α} {value : α} :
    value ∈ table.values ↔ ∃ key, table.get? key = some value := by
  simp only [values, List.mem_map, get?_eq_some_iff]
  constructor
  · rintro ⟨⟨key, _⟩, member, rfl⟩
    exact ⟨key, member⟩
  · rintro ⟨key, member⟩
    exact ⟨(key, value), member, rfl⟩

omit [DecidableEq κ] in
/-- No key is in a table twice. -/
theorem keys_nodup (table : Table κ α) : table.keys.Nodup :=
  table.keys_pairwise.imp fun {key later} below same => by
    simp [same, Ordered.irrefl] at below

omit [DecidableEq κ] in
/-- No entry is in a table twice. -/
theorem entries_nodup (table : Table κ α) : table.entries.Nodup :=
  List.Nodup.of_map Prod.fst table.keys_nodup

/-- What tells the values under any two keys apart lists no two values as one. -/
theorem nodup_map_values {β : Type} {table : Table κ α} {view : α → β}
    (apart : ∀ key other value another, table.get? key = some value →
      table.get? other = some another → view value = view another → key = other) :
    (table.values.map view).Nodup := by
  rw [values, List.map_map]
  refine List.Nodup.map_on (fun first member second found same => ?_) table.entries_nodup
  have value := get?_eq_some_iff.2 member
  have another := get?_eq_some_iff.2 found
  have keys : first.1 = second.1 := apart _ _ _ _ value another same
  rw [keys, another, Option.some.injEq] at value
  exact Prod.ext keys value.symm

/-! ### Tables of lists -/

omit [DecidableEq κ] in
/-- The last entry of a list is set last. -/
theorem ofList_append_singleton (entries : List (κ × α)) (entry : κ × α) :
    ofList (entries ++ [entry]) = (ofList entries).insert entry.1 entry.2 := by
  simp only [ofList, List.foldl_append, List.foldl_cons, List.foldl_nil]

/-- The keys of a table are those of the list it was made from. -/
theorem mem_keys_ofList {key : κ} {entries : List (κ × α)} :
    key ∈ (ofList entries).keys ↔ key ∈ entries.map Prod.fst := by
  induction entries using List.reverseRec with
  | nil => simp [ofList, keys, empty]
  | append_singleton entries entry ih =>
      have same : key ∈ (ofList (entries ++ [entry])).keys ↔
          key = entry.1 ∨ key ∈ (ofList entries).keys := by
        by_cases here : key = entry.1 <;>
          simp [ofList_append_singleton, mem_keys_iff, get?_insert, here]
      rw [same, ih, List.map_append, List.mem_append, or_comm, List.map_singleton,
        List.mem_singleton]

/-- A table is empty exactly where it is made of nothing. -/
theorem entries_ofList_eq_nil_iff {entries : List (κ × α)} :
    (ofList entries).entries = [] ↔ entries = [] := by
  have keys : (ofList entries).keys = [] ↔ entries.map Prod.fst = [] := by
    simp only [List.eq_nil_iff_forall_not_mem, mem_keys_ofList]
  simpa [Table.keys] using keys

/-- The entries of a table are entries of the list it was made from. -/
theorem subset_of_ofList (entries : List (κ × α)) : (ofList entries).entries ⊆ entries := by
  induction entries using List.reverseRec with
  | nil => simp [ofList, empty]
  | append_singleton entries entry ih =>
      rintro ⟨key, value⟩ member
      rw [ofList_append_singleton, ← get?_eq_some_iff, get?_insert] at member
      split at member
      · rename_i here
        cases member
        simp [here]
      · exact List.mem_append_left _ (ih (get?_eq_some_iff.1 member))

/-- A key has the one value that the list has for it. -/
theorem get?_ofList_of_unique {entries : List (κ × α)} {key : κ} {value : α}
    (listed : (key, value) ∈ entries) (unique : ∀ other, (key, other) ∈ entries → other = value) :
    (ofList entries).get? key = some value := by
  have there : key ∈ (ofList entries).keys :=
    mem_keys_ofList.2 (List.mem_map_of_mem listed)
  obtain ⟨other, found⟩ := mem_keys_iff.1 there
  rw [found, unique other (subset_of_ofList entries (get?_eq_some_iff.1 found))]

/-- A table holds as many keys as the list it was made from has different ones. -/
theorem size_ofList (entries : List (κ × α)) :
    (ofList entries).size = (entries.map Prod.fst).dedup.length := by
  have perm : (ofList entries).keys.Perm (entries.map Prod.fst).dedup := by
    refine (List.perm_ext_iff_of_nodup (keys_nodup _) (List.nodup_dedup _)).2 fun key => ?_
    rw [mem_keys_ofList, List.mem_dedup]
  rw [← perm.length_eq, keys, List.length_map, size]

/-- A table of a function's values at some keys. -/
theorem get?_ofList_map (image : κ → α) (members : List κ) (key : κ) :
    (ofList (members.map fun member => (member, image member))).get? key =
      if key ∈ members then some (image key) else none := by
  induction members using List.reverseRec with
  | nil => rfl
  | append_singleton members member ih =>
      rw [List.map_append, List.map_singleton, ofList_append_singleton, get?_insert, ih]
      by_cases here : key = member
      · simp [here]
      · simp [here]

/-- A table holds the entries of the list it was made from, but for those lost. -/
theorem exists_lost (entries : List (κ × α)) :
    ∃ lost, entries.Perm ((ofList entries).entries ++ lost) := by
  obtain ⟨kept, perm, sublist⟩ := (ofList entries).entries_nodup.subperm (subset_of_ofList entries)
  obtain ⟨lost, whole⟩ := sublist.exists_perm_append
  exact ⟨lost, whole.trans (perm.append_right lost)⟩

/-- No entry is lost when their keys differ. -/
theorem perm_entries_ofList {entries : List (κ × α)} (distinct : (entries.map Prod.fst).Nodup) :
    entries.Perm (ofList entries).entries := by
  obtain ⟨lost, whole⟩ := exists_lost entries
  have keys := whole.map Prod.fst
  rw [List.map_append] at keys
  cases lost with
  | nil => simpa using whole
  | cons entry rest =>
      have here : entry.1 ∈ entries.map Prod.fst := keys.mem_iff.2 (by simp)
      have kept : entry.1 ∈ (ofList entries).keys := mem_keys_ofList.2 here
      exact absurd rfl ((List.nodup_append.1 (keys.nodup_iff.1 distinct)).2.2 _ kept _ (by simp))

end Table

/-! ### Sorted members -/

/-- The sorted members are strictly ascending. -/
theorem sortedDistinct_pairwise (members : List κ) :
    (sortedDistinct members).Pairwise fun a b => Ordered.before a b = true :=
  Table.keys_pairwise _

variable [DecidableEq κ]

/-- Sorting without repetitions keeps the members. -/
theorem mem_sortedDistinct {member : κ} {members : List κ} :
    member ∈ sortedDistinct members ↔ member ∈ members := by
  rw [sortedDistinct, Table.mem_keys_ofList, List.map_map]
  simp

end Runbook
