import Runbook.Json.Basic

/-!
# Writing JSON

The compact form has no space, and the indented form a line for each item and member. Members
stay in order, and only what the format demands is escaped.
-/

namespace Runbook.Json

/-- A double always has a point or an exponent, whose sign is written. The words are never
reached: no value read from JSON is infinite. -/
def spelling : Binary64.Spelling := ⟨true, "null", "null"⟩

/-- The text of a number. -/
def Number.text : Number → String
  | .integer value => toString value
  | .real value => value.text spelling

/-- A digit of base sixteen. -/
def hexDigit (n : Nat) : Char := Nat.digitChar (n % 16)

/-- A character inside quotation marks. -/
def escape (c : Char) : List Char :=
  if c = '"' then ['\\', '"']
  else if c = '\\' then ['\\', '\\']
  else if c = '\n' then ['\\', 'n']
  else if c = '\r' then ['\\', 'r']
  else if c = '\t' then ['\\', 't']
  else if c = '\x08' then ['\\', 'b']
  else if c = '\x0c' then ['\\', 'f']
  else if c.toNat < 32 then ['\\', 'u', '0', '0', hexDigit (c.toNat / 16), hexDigit c.toNat]
  else [c]

/-- A string in quotation marks. -/
def quote (s : String) : String :=
  String.ofList ('"' :: s.toList.flatMap escape ++ ['"'])

mutual

/-- The compact text of a value. -/
def render : Json → String
  | .null => "null"
  | .bool true => "true"
  | .bool false => "false"
  | .number n => n.text
  | .string s => quote s
  | .array items => "[" ++ renderItems items ++ "]"
  | .object members => "\x7b" ++ renderMembers members ++ "\x7d"

/-- The items of an array, with commas between. -/
def renderItems : List Json → String
  | [] => ""
  | [item] => render item
  | item :: items => render item ++ "," ++ renderItems items

/-- The members of an object, with commas between. -/
def renderMembers : List (String × Json) → String
  | [] => ""
  | [(key, value)] => quote key ++ ":" ++ render value
  | (key, value) :: members => quote key ++ ":" ++ render value ++ "," ++ renderMembers members

end

/-- A new line at a depth. -/
def lineAt (depth : Nat) : String := String.ofList ('\n' :: List.replicate (2 * depth) ' ')

mutual

/-- The text of a value that stands at a depth, each item and member on a line of its own. -/
def renderAt (depth : Nat) : Json → String
  | .array [] => "[]"
  | .array items => "[" ++ renderItemsAt (depth + 1) items ++ lineAt depth ++ "]"
  | .object [] => "\x7b\x7d"
  | .object members => "\x7b" ++ renderMembersAt (depth + 1) members ++ lineAt depth ++ "\x7d"
  | .null => render .null
  | .bool value => render (.bool value)
  | .number n => render (.number n)
  | .string s => render (.string s)

/-- The items of an array on their lines. -/
def renderItemsAt (depth : Nat) : List Json → String
  | [] => ""
  | [item] => lineAt depth ++ renderAt depth item
  | item :: items => lineAt depth ++ renderAt depth item ++ "," ++ renderItemsAt depth items

/-- The members of an object on their lines. -/
def renderMembersAt (depth : Nat) : List (String × Json) → String
  | [] => ""
  | [(key, value)] => lineAt depth ++ quote key ++ ": " ++ renderAt depth value
  | (key, value) :: members =>
      lineAt depth ++ quote key ++ ": " ++ renderAt depth value ++ ","
        ++ renderMembersAt depth members

end

/-- The text of a value, indented. -/
def renderIndented (value : Json) : String := renderAt 0 value

end Runbook.Json
