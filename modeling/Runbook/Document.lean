import Runbook.Json.Reader
import Runbook.Yaml.OfJson
import Runbook.Yaml.Reader

/-!
# Automation documents

A document is a mapping, written in YAML or JSON. The rest of the library reads it through a
few accessors: its top-level keys, the parameters it declares, and the names of its steps and
outputs.
-/

namespace Runbook

/-- The languages that documents are written in. -/
inductive DocumentFormat where
  | yaml
  | json
deriving DecidableEq, Repr

namespace DocumentFormat

/-- The name of a format in metadata. -/
def name : DocumentFormat → String
  | .yaml => "YAML"
  | .json => "JSON"

/-- The names, in order. -/
def names : List String := ["YAML", "JSON"]

/-- The format of a name. -/
def parse? (text : String) : Option DocumentFormat :=
  if text = "YAML" then some .yaml else if text = "JSON" then some .json else none

end DocumentFormat

/-- An automation document. -/
structure Document where
  root : Yaml

/-- Why a text is no document. -/
inductive DocumentError where
  | invalidYaml
  | invalidJson
  | notMapping
deriving DecidableEq, Repr

/-- The display text of an error. What a reader has to say about a text it cannot read is left
out. -/
def DocumentError.message : DocumentError → String
  | .invalidYaml => "invalid YAML"
  | .invalidJson => "invalid JSON"
  | .notMapping => "document root must be a mapping"

/-- A parameter that a document declares. -/
structure DeclaredParameter where
  name : String
  definition : Yaml

namespace DeclaredParameter

/-- The description, where it is a string. -/
def description (parameter : DeclaredParameter) : Option String :=
  (parameter.definition.get? "description").bind Yaml.asString

/-- The type, where it is a string. -/
def type (parameter : DeclaredParameter) : Option String :=
  (parameter.definition.get? "type").bind Yaml.asString

/-- The default value, of any kind. -/
def default? (parameter : DeclaredParameter) : Option Yaml :=
  parameter.definition.get? "default"

/-- Is there a default value? -/
def hasDefault (parameter : DeclaredParameter) : Bool := parameter.default?.isSome

end DeclaredParameter

namespace Document

/-- A mapping, as a document. -/
def ofValue (root : Yaml) : Except DocumentError Document :=
  if root.asMapping.isSome then .ok ⟨root⟩ else .error .notMapping

/-- The document that a text denotes. -/
def parse (content : String) : DocumentFormat → Except DocumentError Document
  | .yaml =>
      match Yaml.parse? content with
      | some root => ofValue root
      | none => .error .invalidYaml
  | .json =>
      match Json.parse? content with
      | some value => ofValue (Yaml.ofJson value)
      | none => .error .invalidJson

/-- Is `key` among the top-level keys? -/
def hasElement (document : Document) (key : String) : Bool :=
  (document.root.get? key).isSome

/-- The declared parameters in the order of the document. Keys that are no strings declare
nothing. -/
def parameters (document : Document) : List DeclaredParameter :=
  (((document.root.get? "parameters").bind Yaml.asMapping).getD []).filterMap fun entry =>
    entry.1.asString.map fun name => ⟨name, entry.2⟩

/-- The first declared parameter of that name. -/
def parameter? (document : Document) (name : String) : Option DeclaredParameter :=
  document.parameters.find? fun parameter => parameter.name = name

/-- The name of a step, where it is a string. -/
def stepName? (step : Yaml) : Option String := (step.get? "name").bind Yaml.asString

/-- The names of the steps, in order. -/
def stepNames (document : Document) : List String :=
  (((document.root.get? "mainSteps").bind Yaml.asSequence).getD []).filterMap stepName?

/-- The name of an output: the output itself where it is an untagged string, and else the
string under one of two keys. -/
def outputName? : Yaml → Option String
  | .string name => some name
  | output => ((output.get? "Name").or (output.get? "name")).bind Yaml.asString

/-- The names of the outputs, in order. -/
def outputNames (document : Document) : List String :=
  (((document.root.get? "outputs").bind Yaml.asSequence).getD []).filterMap outputName?

end Document

end Runbook
