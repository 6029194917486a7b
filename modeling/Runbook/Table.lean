import Runbook.Order

/-!
# Sorted tables

A table holds one value per key and lists its entries in ascending order of the keys. The laws
say what insertion, removal and the fold of a list of entries do to look-ups, and that a table
is determined by its look-ups.
-/

namespace Runbook

/-- The entries of a list in key order with the value of `key` set; the other entries stay. -/
def insertEntry {κ α : Type} [Ordered κ] (key : κ) (value : α) : List (κ × α) → List (κ × α)
  | [] => [(key, value)]
  | entry :: rest =>
      if Ordered.before key entry.1 then (key, value) :: entry :: rest
      else if Ordered.before entry.1 key then entry :: insertEntry key value rest
      else (key, value) :: rest

/-- Are the keys strictly ascending? -/
def Ascending {κ α : Type} [Ordered κ] (entries : List (κ × α)) : Prop :=
  entries.Pairwise fun a b => Ordered.before a.1 b.1 = true

/-- An entry of the result is the new one, or was there. -/
theorem mem_insertEntry {κ α : Type} [Ordered κ] {key : κ} {value : α} {entry : κ × α}
    {entries : List (κ × α)} (member : entry ∈ insertEntry key value entries) :
    entry = (key, value) ∨ entry ∈ entries := by
  induction entries with
  | nil => exact Or.inl (by simpa [insertEntry] using member)
  | cons head rest ih =>
      simp only [insertEntry] at member
      split at member
      · simpa using member
      · split at member
        · rcases List.mem_cons.1 member with same | later
          · exact Or.inr (by simp [same])
          · rcases ih later with new | old
            · exact Or.inl new
            · exact Or.inr (by simp [old])
        · rcases List.mem_cons.1 member with same | later
          · exact Or.inl same
          · exact Or.inr (by simp [later])

/-- Putting an entry in keeps the keys ascending. -/
theorem Ascending.insertEntry {κ α : Type} [Ordered κ] {entries : List (κ × α)} (key : κ)
    (value : α) (ascending : Ascending entries) :
    Ascending (Runbook.insertEntry key value entries) := by
  induction entries with
  | nil => simp [Ascending, Runbook.insertEntry]
  | cons head rest ih =>
      obtain ⟨above, tail⟩ := List.pairwise_cons.1 ascending
      simp only [Runbook.insertEntry]
      split
      · rename_i first
        refine List.pairwise_cons.2 ⟨fun entry member => ?_, ascending⟩
        rcases List.mem_cons.1 member with same | later
        · simpa [same] using first
        · exact Ordered.trans first (above entry later)
      · split
        · rename_i later
          refine List.pairwise_cons.2 ⟨fun entry member => ?_, ih tail⟩
          rcases mem_insertEntry member with new | old
          · simpa [new] using later
          · exact above entry old
        · rename_i notBefore notAfter
          have same : key = head.1 := Ordered.total (by simpa using notBefore) (by simpa using notAfter)
          refine List.pairwise_cons.2 ⟨fun entry member => ?_, tail⟩
          simpa [same] using above entry member

/-- A table of values by key. -/
structure Table (κ α : Type) [Ordered κ] where
  entries : List (κ × α)
  ascending : Ascending entries

namespace Table

variable {κ α : Type} [Ordered κ]

/-- The table without entries. -/
def empty : Table κ α := ⟨[], List.Pairwise.nil⟩

instance : Inhabited (Table κ α) := ⟨empty⟩

/-- The value of the first entry with a key. -/
def find? [DecidableEq κ] (key : κ) : List (κ × α) → Option α
  | [] => none
  | entry :: rest => if entry.1 = key then some entry.2 else find? key rest

/-- The value of a key. -/
def get? [DecidableEq κ] (table : Table κ α) (key : κ) : Option α := find? key table.entries

/-- Does the table hold a key? -/
def contains [DecidableEq κ] (table : Table κ α) (key : κ) : Bool := (table.get? key).isSome

/-- The table with the value of a key set. -/
def insert (table : Table κ α) (key : κ) (value : α) : Table κ α :=
  ⟨insertEntry key value table.entries, table.ascending.insertEntry key value⟩

/-- The table without a key. -/
def erase [DecidableEq κ] (table : Table κ α) (key : κ) : Table κ α :=
  ⟨table.entries.filter fun entry => entry.1 ≠ key, table.ascending.filter _⟩

/-- The keys in ascending order. -/
def keys (table : Table κ α) : List κ := table.entries.map Prod.fst

/-- The values in the order of their keys. -/
def values (table : Table κ α) : List α := table.entries.map Prod.snd

/-- How many keys the table holds. -/
def size (table : Table κ α) : Nat := table.entries.length

/-- The table of a list of entries; of those with one key the last counts. -/
def ofList (entries : List (κ × α)) : Table κ α :=
  entries.foldl (fun table entry => table.insert entry.1 entry.2) empty

/-- Tables of the same entries are one. -/
theorem ext {a b : Table κ α} (same : a.entries = b.entries) : a = b := by
  cases a; cases b; simp_all

/-- The new value is found under its key. -/
theorem find?_insertEntry_self [DecidableEq κ] (key : κ) (value : α) (entries : List (κ × α)) :
    find? key (insertEntry key value entries) = some value := by
  induction entries with
  | nil => simp [insertEntry, find?]
  | cons head rest ih =>
      simp only [insertEntry]
      split
      · simp [find?]
      · split
        · rename_i later
          have differs : head.1 ≠ key := by
            intro same
            rw [same] at later
            simp [Ordered.irrefl] at later
          simp [find?, differs, ih]
        · simp [find?]

/-- Under other keys the same is found as before. -/
theorem find?_insertEntry_of_ne [DecidableEq κ] {key other : κ} (differs : other ≠ key)
    (value : α) (entries : List (κ × α)) :
    find? other (insertEntry key value entries) = find? other entries := by
  induction entries with
  | nil => simp [insertEntry, find?, differs.symm]
  | cons head rest ih =>
      simp only [insertEntry]
      split
      · simp [find?, differs.symm]
      · split
        · simp [find?, ih]
        · rename_i notBefore notAfter
          have same : key = head.1 :=
            Ordered.total (by simpa using notBefore) (by simpa using notAfter)
          subst same
          simp [find?, differs.symm]

/-- A table answers what was inserted under a key, and as before for the other keys. -/
theorem get?_insert [DecidableEq κ] (table : Table κ α) (key other : κ) (value : α) :
    (table.insert key value).get? other = if other = key then some value else table.get? other := by
  by_cases same : other = key
  · subst same
    simpa [get?, insert] using find?_insertEntry_self other value table.entries
  · simpa [get?, insert, same] using find?_insertEntry_of_ne same value table.entries

/-- An erased key is not there, and the other keys are as before. -/
theorem get?_erase [DecidableEq κ] (table : Table κ α) (key other : κ) :
    (table.erase key).get? other = if other = key then none else table.get? other := by
  simp only [get?, erase]
  induction table.entries with
  | nil => simp [find?]
  | cons head rest ih =>
      by_cases gone : head.1 = key
      · simp only [List.filter_cons, gone, ne_eq, not_true_eq_false, decide_false,
          Bool.false_eq_true, ↓reduceIte, ih, find?]
        by_cases same : other = key
        · simp [same]
        · simp [same, show key ≠ other from fun equal => same equal.symm]
      · simp only [List.filter_cons, gone, ne_eq, not_false_eq_true, decide_true, ↓reduceIte, find?]
        by_cases here : head.1 = other
        · subst here
          simp [gone]
        · simpa [here] using ih

/-- Nothing is in the empty table. -/
@[simp] theorem get?_empty [DecidableEq κ] (key : κ) : (empty : Table κ α).get? key = none := rfl

/-- A value is found exactly where its entry stands. -/
theorem find?_eq_some_iff [DecidableEq κ] {entries : List (κ × α)} (ascending : Ascending entries)
    {key : κ} {value : α} : find? key entries = some value ↔ (key, value) ∈ entries := by
  induction entries with
  | nil => simp [find?]
  | cons head rest ih =>
      obtain ⟨above, tail⟩ := List.pairwise_cons.1 ascending
      by_cases here : head.1 = key
      · simp only [find?, here, ↓reduceIte, Option.some.injEq, List.mem_cons]
        constructor
        · intro same
          exact Or.inl (Prod.ext here.symm same.symm)
        · rintro (same | later)
          · rw [← same]
          · have := above _ later
            rw [here] at this
            simp [Ordered.irrefl] at this
      · have other : (key, value) ≠ head := fun same => here (by rw [← same])
        simp [find?, here, ih tail, other]

/-- The entries of a table are its look-ups. -/
theorem get?_eq_some_iff [DecidableEq κ] {table : Table κ α} {key : κ} {value : α} :
    table.get? key = some value ↔ (key, value) ∈ table.entries :=
  find?_eq_some_iff table.ascending

/-- The keys are listed in strictly ascending order. -/
theorem keys_pairwise (table : Table κ α) :
    table.keys.Pairwise fun a b => Ordered.before a b = true :=
  List.pairwise_map.2 table.ascending

end Table

/-- Members in ascending order, each once. -/
def sortedDistinct {κ : Type} [Ordered κ] (members : List κ) : List κ :=
  (Table.ofList (members.map fun member => (member, ()))).keys

end Runbook
