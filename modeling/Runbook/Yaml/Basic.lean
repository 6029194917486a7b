import Runbook.Decimal.Shortest

/-!
# YAML values

A value is a tree whose mappings keep the order of the document and may have any value as a
key. A tagged value is looked through by every accessor, however many tags it carries.
-/

namespace Runbook

/-- A YAML number: an integer of 64 bits, signed or not, or a double. -/
inductive Yaml.Number where
  | integer (value : Int)
  | real (value : Binary64)
deriving DecidableEq, Repr

/-- A YAML value. A tag is kept without its exclamation mark. -/
inductive Yaml where
  | null
  | bool (value : Bool)
  | number (value : Yaml.Number)
  | string (value : String)
  | sequence (items : List Yaml)
  | mapping (entries : List (Yaml × Yaml))
  | tagged (tag : String) (value : Yaml)
deriving Repr, Inhabited

namespace Yaml

/-- The spelling of doubles. -/
def Number.spelling : Binary64.Spelling := ⟨false, ".inf", ".nan"⟩

/-- The text of a number. -/
def Number.text : Number → String
  | .integer value => toString value
  | .real value => value.text Number.spelling

/-- Are two numbers the same? Integers and doubles always differ. -/
def Number.same : Number → Number → Bool
  | .integer a, .integer b => a == b
  | .real a, .real b => a.sameValue b
  | _, _ => false

mutual

/-- Are two values the same? The order of a mapping's entries does not count. -/
def same : Yaml → Yaml → Bool
  | .null, .null => true
  | .bool a, .bool b => a == b
  | .number a, .number b => a.same b
  | .string a, .string b => a == b
  | .sequence a, .sequence b => sameItems a b
  | .mapping a, .mapping b => a.length == b.length && sameEntries a b
  | .tagged s a, .tagged t b => s == t && same a b
  | _, _ => false

/-- Are two lists of values the same, item by item? -/
def sameItems : List Yaml → List Yaml → Bool
  | [], [] => true
  | a :: as, b :: bs => same a b && sameItems as bs
  | _, _ => false

/-- Has every entry its like among `others`? -/
def sameEntries : List (Yaml × Yaml) → List (Yaml × Yaml) → Bool
  | [], _ => true
  | (key, value) :: entries, others =>
      others.any (fun other => same key other.1 && same value other.2) &&
        sameEntries entries others

end

/-- The value under all tags. -/
def untagged : Yaml → Yaml
  | .tagged _ value => value.untagged
  | value => value

/-- The value under a key of a mapping that is the string `key` itself, with no tag on it. -/
def lookupEntry (key : String) : List (Yaml × Yaml) → Option Yaml
  | [] => none
  | (.string k, value) :: entries => if k = key then some value else lookupEntry key entries
  | _ :: entries => lookupEntry key entries

/-- The entries of a mapping. -/
def asMapping (value : Yaml) : Option (List (Yaml × Yaml)) :=
  match value.untagged with
  | .mapping entries => some entries
  | _ => none

/-- The items of a sequence. -/
def asSequence (value : Yaml) : Option (List Yaml) :=
  match value.untagged with
  | .sequence items => some items
  | _ => none

/-- The text of a string. -/
def asString (value : Yaml) : Option String :=
  match value.untagged with
  | .string s => some s
  | _ => none

/-- The value of a mapping under a key. -/
def get? (value : Yaml) (key : String) : Option Yaml :=
  value.asMapping.bind (lookupEntry key)

end Yaml

end Runbook
