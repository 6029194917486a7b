import Runbook.Json.Printer
import Runbook.Text.Debug

/-!
# Reading records

A record is read from an object member by member, or from an array position by position. The
first value that does not fit its field is the error; only when all fit does a missing field
count, in the order of the fields. Members that no field names are ignored.
-/

namespace Runbook

/-- Why a JSON value does not give a record. -/
inductive ShapeError where
  | wrongType (found : Json) (expected : String)
  | unknownChoice (found : String) (allowed : List String)
  | notOneKey
  | missing (field : String)
  | tooShort (length : Nat) (record : String) (fields : Nat)
  | tooLong (length : Nat)
  | refused (reason : String)

namespace ShapeError

/-- What a value is called in messages. -/
def describe : Json → String
  | .null => "null"
  | .bool b => "boolean \x60" ++ (if b then "true" else "false") ++ "\x60"
  | .number (.integer n) => "integer \x60" ++ toString n ++ "\x60"
  | .number (.real x) => "floating point \x60" ++ (Json.Number.real x).text ++ "\x60"
  | .string s => "string " ++ Text.inspect s
  | .array _ => "sequence"
  | .object _ => "map"

/-- A name between backticks. -/
def quoted (name : String) : String := "\x60" ++ name ++ "\x60"

/-- The choices that a message lists. -/
def listed : List String → String
  | [only] => quoted only
  | [one, other] => quoted one ++ " or " ++ quoted other
  | names => "one of " ++ Text.commaJoin ", " (names.map quoted)

/-- The display text of an error. -/
def message : ShapeError → String
  | wrongType found expected => "invalid type: " ++ describe found ++ ", expected " ++ expected
  | unknownChoice found allowed =>
      "unknown variant " ++ quoted found ++ ", expected " ++ listed allowed
  | notOneKey => "invalid value: map, expected map with a single key"
  | missing field => "missing field " ++ quoted field
  | tooShort length record fields =>
      "invalid length " ++ toString length ++ ", expected struct " ++ record ++ " with "
        ++ toString fields ++ " elements"
  | tooLong length => "invalid length " ++ toString length ++ ", expected fewer elements in array"
  | refused reason => reason

end ShapeError

/-- A way to read a value. -/
abbrev Decoder (α : Type) := Json → Except ShapeError α

namespace Decoder

/-- A string. -/
def text : Decoder String
  | .string s => .ok s
  | value => .error (.wrongType value "a string")

/-- A truth value. -/
def flag : Decoder Bool
  | .bool b => .ok b
  | value => .error (.wrongType value "a boolean")

/-- One of some named choices: its name, or an object with the name as its only key and null as
its value. -/
def choice (parse? : String → Option α) (names : List String) : Decoder α
  | .string s =>
      match parse? s with
      | some a => .ok a
      | none => .error (.unknownChoice s names)
  | .object [(key, value)] =>
      match parse? key, value with
      | none, _ => .error (.unknownChoice key names)
      | some a, .null => .ok a
      | some _, value => .error (.wrongType value "unit")
  | .object _ => .error .notOneKey
  | value => .error (.wrongType value "string or map")

/-- Null, or a value. -/
def optional (decode : Decoder α) : Decoder (Option α)
  | .null => .ok none
  | value => (decode value).map some

/-- An object whose members are all read alike. -/
def members (decode : Decoder α) : Decoder (List (String × α))
  | .object entries =>
      entries.mapM fun entry => (decode entry.2).map fun value => (entry.1, value)
  | value => .error (.wrongType value "a map")

end Decoder

/-- A field of a record: its name, whether a record needs it, and what keeps a value from being
its value. -/
structure RecordField where
  name : String
  required : Bool
  fault? : Json → Option ShapeError

namespace RecordField

/-- What keeps a decoder from reading a value. -/
def faultOf (decode : Decoder α) (value : Json) : Option ShapeError :=
  match decode value with
  | .ok _ => none
  | .error error => some error

/-- A field that a record needs. -/
def needed (name : String) (decode : Decoder α) : RecordField := ⟨name, true, faultOf decode⟩

/-- A field that may be absent or null. -/
def optional (name : String) (decode : Decoder α) : RecordField :=
  ⟨name, false, faultOf (Decoder.optional decode)⟩

end RecordField

/-- The fields of a record in order. -/
structure RecordShape where
  title : String
  fields : List RecordField

namespace RecordShape

/-- The fault of a member that a field names. -/
def memberFault? (shape : RecordShape) (member : String × Json) : Option ShapeError :=
  match shape.fields.find? fun field => field.name = member.1 with
  | some field => field.fault? member.2
  | none => none

/-- The first field that is needed and not among the members. -/
def absentField? (shape : RecordShape) (members : List (String × Json)) : Option RecordField :=
  shape.fields.find? fun field => field.required && (members.lookup field.name).isNone

/-- The first of the fields that is needed and has no item. -/
def uncoveredAt? (position : Nat) : List RecordField → List Json → Option Nat
  | [], _ => none
  | field :: fields, [] =>
      if field.required then some position else uncoveredAt? (position + 1) fields []
  | _ :: fields, _ :: items => uncoveredAt? (position + 1) fields items

/-- The members of a record, each one fitting its field and none missing that is needed. -/
def membersOf (shape : RecordShape) : Json → Except ShapeError (List (String × Json))
  | .object members =>
      match members.findSome? shape.memberFault? with
      | some error => .error error
      | none =>
          match shape.absentField? members with
          | some field => .error (.missing field.name)
          | none => .ok members
  | .array items =>
      let members := (shape.fields.map RecordField.name).zip items
      match members.findSome? shape.memberFault? with
      | some error => .error error
      | none =>
          match uncoveredAt? 0 shape.fields items with
          | some position => .error (.tooShort position shape.title shape.fields.length)
          | none =>
              if shape.fields.length < items.length then .error (.tooLong items.length)
              else .ok members
  | value => .error (.wrongType value ("struct " ++ shape.title))

end RecordShape

/-- The value of a needed member. -/
def neededMember (members : List (String × Json)) (name : String) (decode : Decoder α) :
    Except ShapeError α :=
  match members.lookup name with
  | some value => decode value
  | none => .error (.missing name)

/-- The value of a member that may be absent or null. -/
def optionalMember (members : List (String × Json)) (name : String) (decode : Decoder α) :
    Except ShapeError (Option α) :=
  match members.lookup name with
  | some value => Decoder.optional decode value
  | none => .ok none

end Runbook
