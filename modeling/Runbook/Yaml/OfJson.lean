import Runbook.Json.Basic
import Runbook.Yaml.Basic

/-!
# JSON values as YAML values

Every JSON value is a YAML value of the same shape. A mapping lists its entries in the order
of the members, and no key of a JSON object becomes a tag.
-/

namespace Runbook.Yaml

/-- A number, of the same kind. -/
def Number.ofJson : Json.Number → Number
  | .integer value => .integer value
  | .real value => .real value

mutual

/-- The YAML value of the same shape. -/
def ofJson : Json → Yaml
  | .null => .null
  | .bool value => .bool value
  | .number value => .number (Number.ofJson value)
  | .string value => .string value
  | .array items => .sequence (ofItems items)
  | .object members => .mapping (ofMembers members)

/-- The items of an array. -/
def ofItems : List Json → List Yaml
  | [] => []
  | item :: items => ofJson item :: ofItems items

/-- The members of an object. -/
def ofMembers : List (String × Json) → List (Yaml × Yaml)
  | [] => []
  | (key, value) :: members => (.string key, ofJson value) :: ofMembers members

end

end Runbook.Yaml
