import Runbook.Document
import Runbook.Path
import Runbook.Pattern.Engine
import Runbook.Tag

/-!
# Rules for documents

A rule says which top-level elements, parameters, outputs and steps the documents of a category
must have. Names are given as patterns that are anchored at both ends.
-/

namespace Runbook

/-- A pattern for the names of parameters, steps or outputs. Patterns are the same when their
sources are. -/
structure NamePattern where
  source : String
deriving DecidableEq, Repr

namespace NamePattern

/-- Does the pattern match the whole name, with an engine for expressions? The source is written
between anchors. Where that is no expression the pattern matches only its source. -/
def holdsWith (engine : Pattern.Engine) (pattern : NamePattern) (name : String) : Bool :=
  match engine.compile? (Pattern.anchored pattern.source.toList) with
  | some expression => engine.isMatch expression name.toList
  | none => pattern.source = name

/-- Does the pattern match the whole name? -/
def holds (pattern : NamePattern) (name : String) : Bool := pattern.holdsWith Pattern.engine name

end NamePattern

/-- A parameter that a rule demands: its name, its type, and whether callers must give it, so
that it has no default. -/
structure ExpectedParameter where
  name : NamePattern
  type : String
  required : Bool
deriving DecidableEq, Repr

/-- What the documents of a category must have. A step group is satisfied by one step that
matches one of its patterns. -/
structure Rule where
  elements : List String
  parameters : List ExpectedParameter
  outputs : List NamePattern
  stepGroups : List (List NamePattern)
deriving DecidableEq, Repr

namespace Rule

/-- The role that every automation runs under. -/
def assumeRole : ExpectedParameter := ⟨⟨"AutomationAssumeRole"⟩, "String", true⟩

/-- The rule for remediation documents. -/
def sop : Rule where
  elements := ["description", "schemaVersion", "assumeRole", "parameters", "mainSteps", "outputs"]
  parameters := [assumeRole]
  outputs := [⟨".*RecoveryTime"⟩]
  stepGroups := [[⟨"RecordStartTime"⟩], [⟨"OutputRecoveryTime"⟩]]

/-- The rule for fault-injection documents. -/
def test : Rule where
  elements := ["description", "schemaVersion", "assumeRole", "parameters", "mainSteps"]
  parameters := [assumeRole]
  outputs := []
  stepGroups := []

end Rule

/-- A way in which a document breaks a rule: what it is about, the document's file, and the
finding. -/
structure Violation where
  identifier : String
  file : Path
  message : String
deriving DecidableEq, Repr

/-- The display text of a violation. -/
def Violation.text (violation : Violation) : String :=
  violation.file.text ++ ": [" ++ violation.identifier ++ "] " ++ violation.message

end Runbook
