import Runbook.Assembly.Snippet

/-!
# Placeholders

A line of a document may hold a placeholder, the marker and `::` before the identifier of a
snippet, which reaches to the next blank. The snippet takes the placeholder's place; its later
lines are indented. A line without marker stays as it is.
-/

namespace Runbook.Placeholder

/-- What a placeholder begins with. -/
def marker : List Char := "SCRIPT_PLACEHOLDER".toList

/-- What stands between the marker and the identifier. -/
def separator : List Char := "::".toList

/-- The indentation of a snippet's lines after the first. -/
def indent : List Char := List.replicate 8 ' '

/-- A snippet as it stands in a document. -/
def indented (snippet : String) : List Char :=
  match Text.lines snippet.toList with
  | [] => []
  | first :: rest => Text.joinWith ['\n'] (first :: rest.map (indent ++ ·))

/-- One line with its first placeholder replaced. -/
def inlineLine (snippets : Snippets) (path : Path) (number : Nat) (line : List Char) :
    Except AssemblyError (List Char) :=
  match Text.cutAt marker line with
  | none => .ok line
  | some (before, after) =>
      match Text.dropLead separator after with
      | none => .error (.malformedPlaceholder path number)
      | some rest =>
          let id := rest.takeWhile fun c => !Text.isBlank c
          let suffix := rest.dropWhile fun c => !Text.isBlank c
          if id.isEmpty then .error (.malformedPlaceholder path number)
          else
            match snippets.get? (String.ofList id) with
            | none => .error (.snippetMissing (String.ofList id) path number)
            | some snippet => .ok (before ++ indented snippet ++ suffix)

/-- Lines numbered from `number` on, each with its first placeholder replaced. The first line
that fails is the error. -/
def inlineLines (snippets : Snippets) (path : Path) (number : Nat) :
    List (List Char) → Except AssemblyError (List (List Char))
  | [] => .ok []
  | line :: rest => do
      let written ← inlineLine snippets path number line
      return written :: (← inlineLines snippets path (number + 1) rest)

/-- A document's content with the placeholders replaced. A line feed at its end stays. -/
def inlineAll (snippets : Snippets) (path : Path) (content : String) :
    Except AssemblyError String := do
  let lines ← inlineLines snippets path 1 (Text.lines content.toList)
  let joined := Text.joinWith ['\n'] lines
  return String.ofList (if content.endsWith "\n" then joined ++ ['\n'] else joined)

end Runbook.Placeholder
