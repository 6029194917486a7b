import Runbook.ErrorCode
import Runbook.Text.Basic

/-!
# How a run ends

A run ends with lines for its output, or with a failure: notes that are printed first, a message,
and the causes that the message goes back to, one below the other. Several causes are numbered,
and the lines of a cause stand below each other.
-/

namespace Runbook

/-- Why a run ends early. -/
structure Failure where
  notes : List String
  message : String
  causes : List String
deriving DecidableEq, Repr

namespace Failure

/-- A failure that goes back to nothing. -/
def plain (message : String) : Failure := ⟨[], message, []⟩

/-- The mark of a numbered cause. -/
def mark (number : Nat) : List Char :=
  let digits := Nat.toDigits 10 number
  List.replicate (5 - digits.length) ' ' ++ digits ++ [':', ' ']

/-- A text whose first line follows a mark, and whose other lines stand below the first. -/
def hang (mark : List Char) (text : String) : String :=
  let margin := '\n' :: List.replicate mark.length ' '
  String.ofList (mark ++ Text.joinWith margin (Text.splitOn '\n' text.toList))

/-- The causes, each on lines of its own. -/
def causeLines : List String → List String
  | [cause] => [hang (List.replicate 4 ' ') cause]
  | causes => causes.zipIdx.map fun entry => hang (mark entry.2) entry.1

/-- The text of a failure after its notes. -/
def text (failure : Failure) : String :=
  if failure.causes.isEmpty then "Error: " ++ failure.message
  else
    "Error: " ++ failure.message ++ "\n\nCaused by:\n"
      ++ Text.commaJoin "\n" (causeLines failure.causes)

/-- The note about a code. -/
def note (code : ErrorCode) : String := code.entry.full

end Failure

/-- What a run that went through prints, and whether all was well. -/
structure Report where
  lines : List String
  success : Bool
deriving DecidableEq, Repr

/-- What a run leaves: its status and what it printed. -/
structure Output where
  exit : Nat
  out : String
  err : String
deriving DecidableEq, Repr

namespace Output

/-- Lines, each with its end. -/
def ofLines (lines : List String) : String := String.join (lines.map fun line => line ++ "\n")

/-- The output of a run. -/
def ofResult : Except Failure Report → Output
  | .ok report => ⟨if report.success then 0 else 1, ofLines report.lines, ""⟩
  | .error failure => ⟨1, "", ofLines (failure.notes ++ [failure.text])⟩

end Output

end Runbook
