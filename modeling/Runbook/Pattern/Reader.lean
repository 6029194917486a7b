import Runbook.Pattern.Set

/-!
# Reading regular expressions

The syntax: alternatives, groups with names and flags, classes with set operations, counted
repetitions, and escapes. There is no look-around and there are no back-references. A text
that breaks the syntax, whose parts stand too deep inside one another, or whose counted repetitions
come to too much, is no expression.
-/

namespace Runbook.Pattern

open Reading

/-- A number inside the braces of a repetition, blanks around it passed over. -/
def readCount (mode : Mode) : Reading Nat := do
  discard (gather false Text.isBlank)
  let digits ← gather mode.spaced Text.isDigit
  discard (gather false Text.isBlank)
  let n ← ofOption (Text.number? 10 digits)
  if n < Nat.pow 2 32 then return n else failure

/-- A counted repetition after its brace: the least and the greatest count. -/
def readCounts (mode : Mode) : Reading (Nat × Option Nat) := do
  skip mode
  let least ← readCount mode
  if ← take [','] then
    skip mode
    if ← take ['\x7d'] then return (least, none)
    else
      let most ← readCount mode
      need '\x7d'
      if least ≤ most then return (least, some most) else failure
  else
    need '\x7d'
    return (least, some least)

/-- A flag set or cleared. -/
def Mode.change (mode : Mode) (on : Bool) : Char → Option Mode
  | 'i' => some { mode with anyCase := on }
  | 'm' => some { mode with manyLines := on }
  | 's' => some { mode with dotAll := on }
  | 'u' => some { mode with unicode := on }
  | 'x' => some { mode with spaced := on }
  | 'R' => some { mode with carriage := on }
  | 'U' => some mode
  | _ => none

/-- What a bracket opens: a group with flags of its own, or flags for the rest of the group around
it. -/
inductive Opening where
  | group (mode : Mode) (name : Option String)
  | flags (mode : Mode)

/-- The flags after the question mark of a group, up to the colon or bracket that ends them. `seen`
are the flags before, each of which stands there once; after a hyphen they are cleared. -/
def readFlags : (left : Nat) → Mode → (seen : List Char) → (negating dangling : Bool) →
    Reading Opening
  | 0, _, _, _, _ => failure
  | left + 1, mode, seen, negating, dangling => do
      let c ← next
      if c = ':' then if dangling then failure else return .group mode none
      else if c = ')' then if dangling || seen.isEmpty then failure else return .flags mode
      else if c = '-' then if negating then failure else readFlags left mode seen true true
      else if seen.contains c then failure
      else
        let mode ← ofOption (mode.change (!negating) c)
        readFlags left mode (c :: seen) negating false

/-- There are seven flags and one hyphen, and the end. -/
def flagLimit : Nat := 9

/-- May the character stand in the name of a group? -/
def isNameChar (c : Char) : Bool :=
  c = '_' || c = '.' || c = '[' || c = ']' || Text.isAlphabetic c || Text.isNumeric c

/-- The name of a group up to its closing angle, which is taken. -/
def readGroupName : Reading String := do
  let name ← gather false isNameChar
  need '>'
  if name.head?.any fun c => c = '_' || Text.isAlphabetic c then return String.ofList name
  else failure

/-- What a bracket opens. -/
def readOpening (mode : Mode) : Reading Opening := do
  skip mode
  if ← take ['?', 'P', '<'] then return .group mode (some (← readGroupName))
  else if ← take ['?', '<'] then return .group mode (some (← readGroupName))
  else if ← take ['?'] then readFlags flagLimit mode [] false false
  else return .group mode none

/-- The condition of a circumflex. -/
def startLook (mode : Mode) : Look :=
  if mode.manyLines then .lineStart mode.carriage else .textStart

/-- The condition of a dollar sign. -/
def endLook (mode : Mode) : Look :=
  if mode.manyLines then .lineEnd mode.carriage else .textEnd

/-- The characters that a dot stands for. -/
def dotSet (mode : Mode) : CharSet :=
  if mode.dotAll then CharSet.all
  else if mode.carriage then .complement (.union (.single '\n') (.single '\r'))
  else .complement (.single '\n')

/-- A literal character. -/
def literal (mode : Mode) (c : Char) : Pattern := .set (foldSet mode (.single c))

/-- The expression of an escape. -/
def ofEscape (mode : Mode) : Escape → Pattern
  | .literal c => literal mode c
  | .set chars => .set chars
  | .look place => .look place

/-- The alternatives that are complete, and the parts of the one under way, both in reverse. A part
that only sets flags has no expression and cannot be repeated. -/
structure Parts where
  alternatives : List (Nested Pattern)
  items : List (Nested (Option Pattern))

namespace Parts

/-- Nothing read yet. -/
def none : Parts := ⟨[], []⟩

/-- One more part. -/
def push (parts : Parts) (item : Nested (Option Pattern)) : Parts :=
  { parts with items := item :: parts.items }

/-- One more part that holds no other. -/
def pushLeaf (parts : Parts) (pattern : Pattern) : Parts := parts.push ⟨some pattern, 0⟩

/-- The alternative under way, as one expression. -/
def last (parts : Parts) : Nested Pattern :=
  ⟨Pattern.seqs (parts.items.reverse.filterMap Nested.value), rowDepth (parts.items.map Nested.depth)⟩

/-- The alternative under way is complete. -/
def close (parts : Parts) : Parts := ⟨parts.last :: parts.alternatives, []⟩

/-- All that was read, as one expression. -/
def whole (parts : Parts) : Nested Pattern :=
  ⟨parts.alternatives.foldl (fun later earlier => .alt earlier.value later) parts.last.value,
    rowDepth (parts.last.depth :: parts.alternatives.map Nested.depth)⟩

/-- The last part repeated. -/
def repeatLast (parts : Parts) (repetition : Pattern → Pattern) : Option Parts :=
  match parts.items with
  | ⟨some item, depth⟩ :: items =>
      some { parts with items := ⟨some (repetition item), depth + 1⟩ :: items }
  | _ => Option.none

end Parts

/-- What comes next in an expression: its end, more of its parts, and the flags behind them, a
group, or a class. -/
inductive Step where
  | finished
  | more (parts : Parts) (mode : Mode)
  | group (mode : Mode) (name : Option String)
  | set

/-- The last part is repeated. A question mark behind makes no difference to what is matched. -/
def readRepeated (mode : Mode) (parts : Parts) (repetition : Pattern → Pattern) : Reading Step := do
  let parts ← ofOption (parts.repeatLast repetition)
  discard (take ['?'])
  return .more parts mode

/-- One step of reading an expression. -/
def readStep (mode : Mode) (parts : Parts) : Reading Step := do
  skip mode
  if (← peek) = ')' then return .finished
  else
    match ← next with
    | '|' => return .more parts.close mode
    | '(' =>
        match ← readOpening mode with
        | .group inner name => return .group inner name
        | .flags inner => return .more (parts.push ⟨none, 0⟩) inner
    | '*' => readRepeated mode parts .star
    | '+' => readRepeated mode parts (between 1 none)
    | '?' => readRepeated mode parts (.atMost 1)
    | '\x7b' =>
        let (least, most) ← readCounts mode
        skip mode
        readRepeated mode parts (between least most)
    | '[' => return .set
    | '.' =>
        if mode.unicode then return .more (parts.pushLeaf (.set (dotSet mode))) mode else failure
    | '^' => return .more (parts.pushLeaf (.look (startLook mode))) mode
    | '$' => return .more (parts.pushLeaf (.look (endLook mode))) mode
    | '\\' => return .more (parts.pushLeaf (ofEscape mode (← readEscape mode))) mode
    | c => return .more (parts.pushLeaf (literal mode c)) mode

/-- The names of groups with one more, which has to be new. -/
def addName (names : List String) : Option String → Option (List String)
  | none => some names
  | some name => if names.contains name then none else some (name :: names)

/-- The inside of a group, up to its closing bracket or the end of the text, and the names of all
groups so far. -/
def readBody : Nat → Mode → List String → Parts → Reading (Nested Pattern × List String)
  | 0, _, _, _ => failure
  | fuel + 1, mode, names, parts => do
      match ← readStep mode parts with
      | .finished => return (parts.whole, names)
      | .more parts mode => readBody fuel mode names parts
      | .set =>
          let set ← readSet mode fuel
          readBody fuel mode names (parts.push ⟨some (.set set.value), set.depth⟩)
      | .group inner name =>
          let names ← ofOption (addName names name)
          let (body, names) ← readBody fuel inner names Parts.none
          need ')'
          readBody fuel mode names (parts.push ⟨some body.value, body.depth + 1⟩)

/-- The expression that a text is by its syntax. -/
def read? (text : List Char) : Option (Nested Pattern) :=
  match readBody (text.length + 1) Mode.initial [] Parts.none text with
  | some ((pattern, _), []) => some pattern
  | _ => none

/-- How many bytes the matcher of an expression may take. -/
def maxSize : Nat := 10 * 1024 * 1024

/-- How many parts of an expression may stand one inside the other. -/
def maxDepth : Nat := 250

/-- Is the expression within the limits? -/
def Nested.fits (pattern : Nested Pattern) : Bool :=
  pattern.value.size ≤ maxSize && pattern.depth ≤ maxDepth

/-- The expression that a text denotes. -/
def parse? (text : List Char) : Option Pattern :=
  ((read? text).filter Nested.fits).map Nested.value

end Runbook.Pattern
