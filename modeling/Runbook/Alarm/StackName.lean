import Runbook.Text.Basic

/-!
# Stack names

A stack is named for the alarm it holds: lower-case letters and digits of the reference with
hyphens between, then the run and a number. A name starts with a letter and has at most 128
characters, which shortens the first part.
-/

namespace Runbook.StackName

/-- The most bytes of a name. -/
def maxLength : Nat := 128

/-- Letters and digits in lower case; each run of other characters becomes one hyphen. `hyphen`
says whether the character before was written as one. -/
def slugOf (hyphen : Bool) : List Char → List Char
  | [] => []
  | c :: rest =>
      if Text.isAlphanumeric c then Text.toLowerAscii c :: slugOf false rest
      else if hyphen then slugOf true rest
      else '-' :: slugOf true rest

/-- A text without the hyphens at its end. -/
def dropHyphens (text : List Char) : List Char :=
  (text.reverse.dropWhile (· = '-')).reverse

/-- What a name begins with where its reference does not begin with a letter. -/
def lead : List Char := "alarm-".toList

/-- The first part of a name, at full length. -/
def head (reference : String) : List Char :=
  let slug := dropHyphens ((slugOf false reference.toList).dropWhile (· = '-'))
  if slug.head?.any Text.isLetter then slug else lead ++ slug

/-- The name of a run: eight digits of base sixteen. -/
def runOf (seed : Nat) : String :=
  String.ofList (Nat.toDigits 16 (Nat.pow 16 8 + seed % Nat.pow 16 8)).tail

/-- The last part of a name. -/
def tail (run : String) (number : Nat) : String := "-" ++ run ++ "-" ++ toString number

/-- The name of a stack. -/
def make (reference run : String) (number : Nat) : String :=
  let tail := tail run number
  let kept := (head reference).take (maxLength - tail.utf8ByteSize)
  String.ofList (dropHyphens kept) ++ tail

end Runbook.StackName
