import Runbook.Yaml.Basic

/-!
# Equality of YAML values

Whether two values are equal is decided entry by entry (`equal_iff`), so that what a text denotes
can be computed. Other than in `Yaml.same`, the order of a mapping's entries counts.
-/

namespace Runbook.Yaml

mutual

/-- Are two values equal? -/
def equal : Yaml → Yaml → Bool
  | .null, .null => true
  | .bool a, .bool b => a == b
  | .number a, .number b => decide (a = b)
  | .string a, .string b => a == b
  | .sequence a, .sequence b => equalItems a b
  | .mapping a, .mapping b => equalEntries a b
  | .tagged s a, .tagged t b => s == t && equal a b
  | _, _ => false

/-- Are two lists of values equal? -/
def equalItems : List Yaml → List Yaml → Bool
  | [], [] => true
  | a :: as, b :: bs => equal a b && equalItems as bs
  | _, _ => false

/-- Are two lists of entries equal? -/
def equalEntries : List (Yaml × Yaml) → List (Yaml × Yaml) → Bool
  | [], [] => true
  | (j, a) :: as, (k, b) :: bs => equal j k && equal a b && equalEntries as bs
  | _, _ => false

end

mutual

/-- Values are equal exactly where they are found so. -/
theorem equal_iff : ∀ a b : Yaml, equal a b = true ↔ a = b
  | .null, b => by cases b <;> simp [equal]
  | .bool _, b => by cases b <;> simp [equal]
  | .number _, b => by cases b <;> simp [equal]
  | .string _, b => by cases b <;> simp [equal]
  | .sequence items, b => by cases b <;> simp [equal, equalItems_iff items]
  | .mapping entries, b => by cases b <;> simp [equal, equalEntries_iff entries]
  | .tagged _ value, b => by cases b <;> simp [equal, equal_iff value]

/-- Items are equal exactly where they are found so. -/
theorem equalItems_iff : ∀ a b : List Yaml, equalItems a b = true ↔ a = b
  | [], b => by cases b <;> simp [equalItems]
  | value :: items, b => by cases b <;> simp [equalItems, equal_iff value, equalItems_iff items]

/-- Entries are equal exactly where they are found so. -/
theorem equalEntries_iff : ∀ a b : List (Yaml × Yaml), equalEntries a b = true ↔ a = b
  | [], b => by cases b <;> simp [equalEntries]
  | (key, value) :: entries, b => by
      cases b <;> simp [equalEntries, equal_iff key, equal_iff value, equalEntries_iff entries,
        Prod.ext_iff]

end

instance : DecidableEq Yaml := fun a b => decidable_of_iff _ (equal_iff a b)

end Runbook.Yaml
