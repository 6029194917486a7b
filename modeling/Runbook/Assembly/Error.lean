import Runbook.ErrorCode
import Runbook.FileTree

/-!
# Why a document cannot be assembled
-/

namespace Runbook

/-- The causes that keep the content of a document from being assembled. -/
inductive AssemblyError where
  | contentRead (path : Path) (cause : FileError)
  | scriptRead (path : Path) (cause : FileError)
  | scriptInvalid (path : Path)
  | snippetMissing (id : String) (path : Path) (line : Nat)
  | malformedPlaceholder (path : Path) (line : Nat)
  | builderMissing (id : String)
  | builderFailed (id : String) (reason : String)
deriving DecidableEq, Repr

namespace AssemblyError

/-- The display text of an error. -/
def message : AssemblyError → String
  | contentRead path cause =>
      "failed to read document content " ++ path.text ++ ": " ++ cause.message
  | scriptRead path cause => "failed to read script " ++ path.text ++ ": " ++ cause.message
  | scriptInvalid path => "failed to parse script " ++ path.text ++ ": syntax error"
  | snippetMissing id path line =>
      "snippet '" ++ id ++ "' referenced in " ++ path.text ++ " line " ++ toString line
        ++ " was not found"
  | malformedPlaceholder path line =>
      "malformed placeholder in " ++ path.text ++ " line " ++ toString line
        ++ ", expected SCRIPT_PLACEHOLDER::<module>.<function>"
  | builderMissing id => "no document builder registered for '" ++ id ++ "'"
  | builderFailed id reason => "document builder '" ++ id ++ "' failed: " ++ reason

/-- The catalogue's code for an error. -/
def code : AssemblyError → ErrorCode
  | contentRead _ _ => .contentRead
  | scriptRead _ _ => .contentRead
  | scriptInvalid _ => .scriptParse
  | snippetMissing _ _ _ => .snippetMissing
  | malformedPlaceholder _ _ => .snippetMissing
  | builderMissing _ => .builderMissing
  | builderFailed _ _ => .builderFailed

/-- What an error goes back to, the nearest cause first. -/
def causes : AssemblyError → List String
  | contentRead _ cause => [cause.message]
  | scriptRead _ cause => [cause.message]
  | builderFailed _ reason => [reason]
  | _ => []

/-- The error as it stands after `count` more lines in front. -/
def later (count : Nat) : AssemblyError → AssemblyError
  | snippetMissing id path line => snippetMissing id path (line + count)
  | malformedPlaceholder path line => malformedPlaceholder path (line + count)
  | error => error

end AssemblyError

end Runbook
