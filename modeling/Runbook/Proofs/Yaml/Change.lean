import Mathlib.Data.List.InsertIdx
import Runbook.Yaml.Basic

/-!
# Changing a part of a value

What stands under the tags of a value is changed and the tags are kept: an item is put into a
sequence, the entries of a mapping are changed, or the value under one of its keys. The accessors
then see this change and no other (`asSequence_insertItem`, `asMapping_changeEntries`,
`get?_changeUnder`).
-/

namespace Runbook.Yaml

/-- The value with what stands under its tags changed. -/
def underTags (change : Yaml → Yaml) : Yaml → Yaml
  | .tagged tag value => .tagged tag (value.underTags change)
  | value => change value

/-- A change under the tags changes what is under them. -/
theorem untagged_underTags (change : Yaml → Yaml) (value : Yaml) :
    (value.underTags change).untagged = (change value.untagged).untagged := by
  fun_induction underTags change value with
  | case1 tag value ih => rw [untagged, untagged, ih]
  | case2 value plain =>
      have bare : value.untagged = value := by
        cases value with
        | tagged tag inner => exact absurd rfl (plain tag inner)
        | _ => rfl
      rw [bare]

/-- Without its tags a value has none. -/
theorem untagged_ne_tagged (value : Yaml) (tag : String) (inner : Yaml) :
    value.untagged ≠ .tagged tag inner := by
  fun_induction untagged value with
  | case1 _ _ ih => exact ih
  | case2 value plain => exact plain tag inner

/-- The sequence with an item put in at a position; a value that is no sequence stays as it is. -/
def insertItem (value : Yaml) (position : Nat) (item : Yaml) : Yaml :=
  value.underTags fun value =>
    match value with
    | .sequence items => .sequence (items.insertIdx position item)
    | value => value

/-- A sequence has the item at its place, and nothing else becomes one. -/
theorem asSequence_insertItem (value : Yaml) (position : Nat) (item : Yaml) :
    (value.insertItem position item).asSequence =
      value.asSequence.map fun items => items.insertIdx position item := by
  rw [asSequence, asSequence, insertItem, untagged_underTags]
  cases bare : value.untagged with
  | tagged tag inner => exact absurd bare (untagged_ne_tagged value tag inner)
  | _ => rfl

/-- A mapping is kept. -/
theorem asMapping_insertItem (value : Yaml) (position : Nat) (item : Yaml) :
    (value.insertItem position item).asMapping = value.asMapping := by
  rw [asMapping, asMapping, insertItem, untagged_underTags]
  cases bare : value.untagged with
  | tagged tag inner => exact absurd bare (untagged_ne_tagged value tag inner)
  | _ => rfl

/-- The mapping with its entries changed; a value that is no mapping stays as it is. -/
def changeEntries (value : Yaml) (change : List (Yaml × Yaml) → List (Yaml × Yaml)) : Yaml :=
  value.underTags fun value =>
    match value with
    | .mapping entries => .mapping (change entries)
    | value => value

/-- A mapping has its entries changed, and nothing else becomes one. -/
theorem asMapping_changeEntries (value : Yaml)
    (change : List (Yaml × Yaml) → List (Yaml × Yaml)) :
    (value.changeEntries change).asMapping = value.asMapping.map change := by
  rw [asMapping, asMapping, changeEntries, untagged_underTags]
  cases bare : value.untagged with
  | tagged tag inner => exact absurd bare (untagged_ne_tagged value tag inner)
  | _ => rfl

/-- The entries with the first value under a key changed. -/
def changeEntry (key : String) (change : Yaml → Yaml) :
    List (Yaml × Yaml) → List (Yaml × Yaml)
  | [] => []
  | (.string name, value) :: entries =>
      if name = key then (.string name, change value) :: entries
      else (.string name, value) :: changeEntry key change entries
  | entry :: entries => entry :: changeEntry key change entries

/-- The entry under the key is changed, and no other. -/
theorem lookupEntry_changeEntry (key other : String) (change : Yaml → Yaml)
    (entries : List (Yaml × Yaml)) :
    lookupEntry other (changeEntry key change entries) =
      if other = key then (lookupEntry key entries).map change else lookupEntry other entries := by
  fun_induction changeEntry key change entries with
  | case1 => simp [lookupEntry]
  | case2 value rest =>
      by_cases same : other = key
      · simp [lookupEntry, same]
      · simp [lookupEntry, same, Ne.symm same]
  | case3 name value rest differs ih =>
      by_cases same : name = other
      · subst same
        simp [lookupEntry, differs]
      · simp [lookupEntry, same, differs, ih]
  -- An entry whose key is no string is passed over by the look-up as well.
  | case4 head rest plain ih =>
      have passed (needle : String) (entries : List (Yaml × Yaml)) :
          lookupEntry needle (head :: entries) = lookupEntry needle entries := by
        rw [lookupEntry]
        exact fun name value => plain name value
      rw [passed, passed, passed, ih]

/-- The mapping with the value under a key changed. -/
def changeUnder (value : Yaml) (key : String) (change : Yaml → Yaml) : Yaml :=
  value.changeEntries (changeEntry key change)

/-- The value under the key is changed, and no other. -/
theorem get?_changeUnder (value : Yaml) (key other : String) (change : Yaml → Yaml) :
    (value.changeUnder key change).get? other =
      if other = key then (value.get? key).map change else value.get? other := by
  rw [get?, changeUnder, asMapping_changeEntries]
  cases entries : value.asMapping with
  | none => simp [get?, entries]
  | some entries => simp [get?, entries, lookupEntry_changeEntry]

end Runbook.Yaml
