import Runbook.Assembly.Builder
import Runbook.Assembly.Placeholder
import Runbook.Metadata.Basic

/-!
# Assembling documents

The content of a document is what its builder answers, where it names one, and otherwise its
content file with the placeholders replaced.
-/

namespace Runbook

/-- The snippets and builders that documents are assembled from. -/
structure Assembler where
  snippets : Snippets
  builders : Builders

namespace Assembler

/-- The content that a builder gives. -/
def build (assembler : Assembler) (id : String) : Except AssemblyError String :=
  match assembler.builders.get? id with
  | none => .error (.builderMissing id)
  | some builder =>
      match builder.result with
      | .ok text => .ok text
      | .error reason => .error (.builderFailed id reason)

/-- The content of a document. -/
def content (assembler : Assembler) (files : Files) (metadata : DocumentMetadata) :
    Except AssemblyError String :=
  match metadata.builder with
  | some id => assembler.build id
  | none =>
      let path := metadata.contentPath
      match files.read path with
      | .error cause => .error (.contentRead path cause)
      | .ok text => Placeholder.inlineAll assembler.snippets path text

end Assembler

end Runbook
