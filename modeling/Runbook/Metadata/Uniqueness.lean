import Runbook.Json.Basic
import Runbook.Path
import Runbook.Table

/-!
# Uniqueness over all metadata

Tags are unique as they are, names of documents and alarms by the letters and digits in them.
A register notes which paths claim which value; a value claimed by two paths is a violation.
-/

namespace Runbook

/-- The letters and digits of ASCII in a text. -/
def logicalName (text : String) : String :=
  String.ofList (text.toList.filter Text.isAlphanumeric)

/-- The paths that claim values, in path order. A path counts by its components and is shown as
it was first written. -/
abbrev Claimants := Table (List Component) Path

/-- Which paths claim which value of which attribute. -/
structure UniquenessRegister where
  claims : Table (String × String) Claimants

namespace UniquenessRegister

/-- The register without claims. -/
def empty : UniquenessRegister := ⟨Table.empty⟩

/-- The claimants with one more. -/
def addClaimant (claimants : Claimants) (path : Path) : Claimants :=
  if claimants.contains path.components then claimants
  else claimants.insert path.components path

/-- The register with a claim noted. -/
def claim (register : UniquenessRegister) (path : Path) (name value : String) :
    UniquenessRegister :=
  let claimants := (register.claims.get? (name, value)).getD Table.empty
  ⟨register.claims.insert (name, value) (addClaimant claimants path)⟩

/-- What a descriptor claims: its tag, and the logical names of the alarm and the document. -/
def claimsOf (raw : Json) : List (String × String) :=
  let text (key : String) : Option String := (raw.get? key).bind Json.asString
  let named (claimed key : String) (read : String → String) : List (String × String) :=
    ((text key).map fun value => (claimed, read value)).toList
  named "tag" "tag" id
    ++ named "cfn-alarmName" "alarmName" logicalName
    ++ named "cfn-documentName" "documentName" logicalName

/-- The register with the claims of a descriptor at a path. -/
def add (register : UniquenessRegister) (raw : Json) (path : Path) : UniquenessRegister :=
  (claimsOf raw).foldl (fun register claimed => register.claim path claimed.1 claimed.2) register

/-- The display text of a value that several paths claim. -/
def message (name value : String) (paths : List Path) : String :=
  "Attribute '" ++ name ++ "' with value '" ++ value ++ "' must be unique but is used by: "
    ++ Text.commaJoin ", " (paths.map Path.text)

/-- One message for each value that more than one path claims, by attribute and value. -/
def violations (register : UniquenessRegister) : List String :=
  (register.claims.entries.filter fun entry => 1 < entry.2.size).map fun entry =>
    message entry.1.1 entry.1.2 entry.2.values

end UniquenessRegister

end Runbook
