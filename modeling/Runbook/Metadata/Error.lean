import Runbook.ErrorCode
import Runbook.FileTree
import Runbook.Json.Record

/-!
# Why metadata cannot be used
-/

namespace Runbook

/-- The causes that keep metadata from being read, checked or selected. -/
inductive MetadataError where
  | rootMissing (path : Path)
  | read (path : Path) (cause : FileError)
  | malformed (path : Path)
  | shape (path : Path) (cause : ShapeError)
  | invalid (path : Path) (count : Nat) (violations : List String)
  | notUnique (violations : List String)
  | dependencyMissing (names : List String)

namespace MetadataError

/-- The display text of an error. What the JSON reader has to say about a malformed text is
left out. -/
def message : MetadataError → String
  | rootMissing path => "documents root not found: " ++ path.text
  | read path cause => "failed to read " ++ path.text ++ ": " ++ cause.message
  | malformed path => "failed to parse " ++ path.text ++ ": "
  | shape path cause => "failed to parse " ++ path.text ++ ": " ++ cause.message
  | invalid path count _ =>
      toString count ++ " metadata violation(s) in " ++ path.text
  | notUnique violations =>
      toString violations.length ++ " global metadata uniqueness violation(s)"
  | dependencyMissing names =>
      "no metadata found for document(s): " ++ Text.commaJoin ", " names

/-- The catalogue's code for an error. -/
def code : MetadataError → ErrorCode
  | rootMissing _ => .metadataMissing
  | read _ _ => .metadataRead
  | malformed _ => .metadataParse
  | shape _ _ => .metadataParse
  | invalid _ _ _ => .metadataInvalid
  | notUnique _ => .metadataNotUnique
  | dependencyMissing _ => .dependencyMissing

/-- What an error goes back to, the nearest cause first. -/
def causes : MetadataError → List String
  | read _ cause => [cause.message]
  | shape _ cause => [cause.message]
  | _ => []

end MetadataError

end Runbook
