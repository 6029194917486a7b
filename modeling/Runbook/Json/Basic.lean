import Runbook.Decimal.Shortest
import Runbook.Order
import Runbook.Text.Basic

/-!
# JSON values

A value is a tree. The members of an object stand in the order of their keys, each key
once, which `Json.ofMembers` establishes: of repeated keys the last one wins.
-/

namespace Runbook

/-- A JSON number: an integer of 64 bits, signed or not, or a double. -/
inductive Json.Number where
  | integer (value : Int)
  | real (value : Binary64)
deriving DecidableEq, Repr

/-- A JSON value. -/
inductive Json where
  | null
  | bool (value : Bool)
  | number (value : Json.Number)
  | string (value : String)
  | array (items : List Json)
  | object (members : List (String × Json))
deriving Repr, Inhabited

namespace Json

/-- A member put in its place among members in order of their keys; a member with the same
key gives way to it. -/
def insertMember (key : String) (value : Json) :
    List (String × Json) → List (String × Json)
  | [] => [(key, value)]
  | (k, v) :: members =>
      if Ordered.before key k then (key, value) :: (k, v) :: members
      else if key = k then (key, value) :: members
      else (k, v) :: insertMember key value members

/-- The object with the given members, whatever their order. -/
def ofMembers (members : List (String × Json)) : Json :=
  .object (members.foldl (fun sorted member => insertMember member.1 member.2 sorted) [])

/-- The integer `n`. -/
def ofNat (n : Nat) : Json := .number (.integer n)

/-- The strings, as an array. -/
def ofStrings (items : List String) : Json := .array (items.map .string)

/-- The value, or `null` for none. -/
def ofOption (encode : α → Json) : Option α → Json
  | none => .null
  | some a => encode a

/-- The member of an object under `key`; other values have no members. -/
def get? (key : String) : Json → Option Json
  | .object members => members.lookup key
  | _ => none

/-- The text of a string. -/
def asString : Json → Option String
  | .string s => some s
  | _ => none

/-- The truth value of a boolean. -/
def asBool : Json → Option Bool
  | .bool b => some b
  | _ => none

/-- The items of an array. -/
def asArray : Json → Option (List Json)
  | .array items => some items
  | _ => none

/-- The members of an object. -/
def asObject : Json → Option (List (String × Json))
  | .object members => some members
  | _ => none

/-- A number that is an integer and not negative. -/
def asNat : Json → Option Nat
  | .number (.integer i) => if 0 ≤ i then some i.toNat else none
  | _ => none

end Json

end Runbook
