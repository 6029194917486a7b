import Runbook.Text.Blank

/-!
# Reading expressions

The steps with which an expression is read from its text: looking at the next character, taking
characters, and passing over blanks and comments where a flag asks for it.
-/

namespace Runbook.Pattern

/-- The flags in force. -/
structure Mode where
  anyCase : Bool
  manyLines : Bool
  dotAll : Bool
  unicode : Bool
  spaced : Bool
  carriage : Bool

/-- The flags at the start. -/
def Mode.initial : Mode := ⟨false, false, false, true, false, false⟩

/-- The characters of a kind at the front of a text, and the rest. In a `spaced` text blanks and
comments before, between and after them are passed over; a comment reaches to the end of its
line. -/
def gathered (spaced : Bool) (kind : Char → Bool) :
    (comment : Bool) → List Char → List Char × List Char
  | _, [] => ([], [])
  | true, c :: rest => gathered spaced kind (c ≠ '\n') rest
  | false, c :: rest =>
      if spaced && Text.isBlank c then gathered spaced kind false rest
      else if spaced && c = '#' then gathered spaced kind true rest
      else if kind c then
        let (found, rest) := gathered spaced kind false rest
        (c :: found, rest)
      else ([], c :: rest)

/-- The first character of a text that is not blank, in a `spaced` text. A number sign is passed
over as a blank is, once. -/
def inkAhead (spaced : Bool) (text : List Char) : Char :=
  if spaced then
    match text.dropWhile Text.isBlank with
    | '#' :: rest => (rest.dropWhile Text.isBlank).headD ')'
    | rest => rest.headD ')'
  else text.headD ')'

/-- Reading takes characters from the front. -/
abbrev Reading := StateT (List Char) Option

namespace Reading

/-- The next character. The end of the text looks like a closing bracket there: both end an
expression. -/
def peek : Reading Char := do
  return (← get).headD ')'

/-- The next character is taken; there has to be one. -/
def next : Reading Char := do
  match ← get with
  | c :: rest => set rest; return c
  | [] => failure

/-- The characters are taken where they come next. -/
def take (lead : List Char) : Reading Bool := do
  match Text.dropLead lead (← get) with
  | some rest => set rest; return true
  | none => return false

/-- The character has to come next. -/
def need (c : Char) : Reading Unit := do
  if ← take [c] then return else failure

/-- A result where there is one. -/
def ofOption : Option α → Reading α
  | some a => return a
  | none => failure

/-- The characters of a kind are taken, with blanks and comments as `gathered` says. -/
def gather (spaced : Bool) (kind : Char → Bool) : Reading (List Char) := do
  let (found, rest) := gathered spaced kind false (← get)
  set rest
  return found

/-- With the flag for it, blanks and comments are passed over. -/
def skip (mode : Mode) : Reading Unit :=
  discard (gather mode.spaced fun _ => false)

/-- The first ink behind the next character, where that is `c`. -/
def ahead (mode : Mode) (c : Char) : Reading (Option Char) := do
  match ← get with
  | d :: rest => return if d = c then some (inkAhead mode.spaced rest) else none
  | [] => return none

end Reading

end Runbook.Pattern
