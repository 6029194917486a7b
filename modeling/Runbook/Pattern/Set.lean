import Runbook.Pattern.Property
import Runbook.Pattern.Reading

/-!
# Reading escapes and sets of characters

What stands after a backslash, and sets in brackets with ranges, sets inside sets, and operations
on them.
-/

namespace Runbook.Pattern

open Reading

/-- A part of an expression, and how many parts of it stand one inside the other. -/
structure Nested (α : Type) where
  value : α
  depth : Nat
deriving Repr

/-- How deep a row of parts is: a row of several is a part of its own. -/
def rowDepth : List Nat → Nat
  | [] => 0
  | [depth] => depth
  | depths => depths.foldl max 0 + 1

/-- The characters that have a meaning of their own somewhere. -/
def isMeta (c : Char) : Bool := "\\.+*?()|[]\x7b\x7d^$#&-~".toList.contains c

/-- May a backslash stand before the character to no effect? -/
def isEscapable (c : Char) : Bool :=
  isMeta c || (c.toNat < 128 && !Text.isAlphanumeric c && c ≠ '<' && c ≠ '>')

/-- What an escape stands for. -/
inductive Escape where
  | literal (c : Char)
  | set (set : CharSet)
  | look (look : Look)

/-- The word characters that the flags select. -/
def wordSet (mode : Mode) : CharSet := if mode.unicode then .wordChars else asciiWord

/-- The class of a lower-case letter after a backslash. -/
def letterSet? (mode : Mode) : Char → Option CharSet
  | 'd' => some (if mode.unicode then .table Text.runsNd else asciiDigits)
  | 's' =>
      some (if mode.unicode then .blankChars else CharSet.unions [.range 9 13, .single ' '])
  | 'w' => some (wordSet mode)
  | _ => none

/-- A set under the flags: closed under case where that is asked for. Where not all characters are
known, only the letters of ASCII have a case. -/
def foldSet (mode : Mode) (chars : CharSet) : CharSet :=
  if !mode.anyCase then chars
  else if mode.unicode then .anyCase chars
  else .asciiCase chars

/-- A class or its complement. Complements take all characters to be known. -/
def complementIf (mode : Mode) (negated : Bool) (chars : CharSet) : Option CharSet :=
  if !negated then some chars
  else if mode.unicode then some (.complement chars)
  else none

/-- The escapes that are complete with the character after the backslash. -/
def plainEscape? (mode : Mode) (c : Char) : Option Escape :=
  if isEscapable c then some (.literal c)
  else
    match c with
    | 'a' => some (.literal '\x07')
    | 'f' => some (.literal '\x0c')
    | 't' => some (.literal '\t')
    | 'n' => some (.literal '\n')
    | 'r' => some (.literal '\r')
    | 'v' => some (.literal '\x0b')
    | 'A' => some (.look .textStart)
    | 'z' => some (.look .textEnd)
    | 'B' => some (.look (.noWordEdge (wordSet mode)))
    | '<' => some (.look (.wordStart (wordSet mode)))
    | '>' => some (.look (.wordEnd (wordSet mode)))
    | _ =>
        ((letterSet? mode (Text.toLowerAscii c)).bind
          (complementIf mode (Text.isUpper c))).map Escape.set

/-- The character of a code written in base sixteen. -/
def codeChar? (digits : List Char) : Option Char := do
  let n ← Text.number? 16 digits
  if n < 0xD800 ∨ (0xDFFF < n ∧ n < 0x110000) then some (Char.ofNat n) else none

/-- A number of characters, with what may be passed over before each. -/
def readChars (mode : Mode) : Nat → Reading (List Char)
  | 0 => return []
  | count + 1 => do
      skip mode
      let c ← next
      return c :: (← readChars mode count)

/-- The code after its letter: in braces, or of a fixed length. Two digits alone are a byte, which
is a character beyond ASCII only where all characters are known. -/
def readCode (mode : Mode) (length : Nat) : Reading Char := do
  skip mode
  if ← take ['\x7b'] then
    let digits ← gather mode.spaced Text.isAlphanumeric
    need '\x7d'
    ofOption (codeChar? digits)
  else
    let c ← ofOption (codeChar? (← readChars mode length))
    if length = 2 && !mode.unicode && 127 < c.toNat then failure else return c

/-- The word conditions with names. -/
def namedLook? (chars : CharSet) (name : String) : Option Look :=
  match name with
  | "start" => some (.wordStart chars)
  | "end" => some (.wordEnd chars)
  | "start-half" => some (.noWordBefore chars)
  | "end-half" => some (.noWordAfter chars)
  | _ => none

/-- May the character stand in the name of a word condition? -/
def isLookChar (c : Char) : Bool := Text.isLetter c || c = '-'

/-- A word condition after its letter, with the name in braces that may follow. -/
def readWordLook (mode : Mode) : Reading Look := do
  if (← ahead mode '\x7b').any isLookChar then
    need '\x7b'
    let name ← gather mode.spaced isLookChar
    need '\x7d'
    ofOption (namedLook? (wordSet mode) (String.ofList name))
  else return .wordEdge (wordSet mode)

/-- May the character stand in the name of a property? -/
def isPropertyChar (c : Char) : Bool := c ≠ '\x7d' && c ≠ ')'

/-- A property after its letter: one letter, or a name in braces. -/
def readProperty (mode : Mode) : Reading CharSet := do
  skip mode
  let named ←
    if ← take ['\x7b'] then
      let name ← gather mode.spaced isPropertyChar
      need '\x7d'
      pure (namedProperty? name)
    else
      let c ← next
      pure (if c = '\\' then none else namedProperty? [c])
  let (negated, chars) ← ofOption named
  if mode.unicode then ofOption (complementIf mode negated (foldSet mode chars)) else failure

/-- An escape after its backslash. -/
def readEscape (mode : Mode) : Reading Escape := do
  let c ← next
  match plainEscape? mode c with
  | some escape => return escape
  | none =>
      match c with
      | 'x' => return .literal (← readCode mode 2)
      | 'u' => return .literal (← readCode mode 4)
      | 'U' => return .literal (← readCode mode 8)
      | 'b' => return .look (← readWordLook mode)
      | 'p' => return .set (← readProperty mode)
      | 'P' => return .set (.complement (← readProperty mode))
      | _ => failure

/-- An operation on two sets. -/
inductive SetOp where
  | inter
  | diff
  | symDiff

/-- The set that an operation makes of two. -/
def SetOp.apply (op : SetOp) (a b : CharSet) : CharSet :=
  match op with
  | .inter => .inter a b
  | .diff => .diff a b
  | .symDiff => .union (.diff a b) (.diff b a)

/-- A class named inside brackets and colons, after its opening bracket. -/
def readNamedSet (mode : Mode) : List (String × CharSet) → Reading (Option CharSet)
  | [] => return none
  | (name, chars) :: others => do
      if ← take (':' :: name.toList ++ [':', ']']) then return some chars
      else if ← take (':' :: '^' :: name.toList ++ [':', ']']) then
        return some (← ofOption (complementIf mode true chars))
      else readNamedSet mode others

/-- One character or class inside brackets. -/
def readSetItem (mode : Mode) : Reading Escape := do
  if ← take ['\\'] then readEscape mode else return .literal (← next)

/-- A character of a set. Where not all characters are known, it is one of ASCII. -/
def setChar? (mode : Mode) : Escape → Option Char
  | .literal c => if mode.unicode || c.toNat < 128 then some c else none
  | _ => none

/-- The set that an item inside brackets is by itself. -/
def setOfItem? (mode : Mode) : Escape → Option CharSet
  | .set chars => some chars
  | item => (setChar? mode item).map .single

/-- A single item or a range inside brackets. A hyphen makes a range unless the closing bracket or
a further hyphen follows it. -/
def readSetRange (mode : Mode) : Reading CharSet := do
  let first ← readSetItem mode
  skip mode
  if (← ahead mode '-').any fun c => c ≠ ']' && c ≠ '-' then
    need '-'
    skip mode
    let last ← readSetItem mode
    let low ← ofOption (setChar? mode first)
    let high ← ofOption (setChar? mode last)
    if low ≤ high then return .range low.toNat high.toNat else failure
  else ofOption (setOfItem? mode first)

/-- The start of a class after its bracket: negation, and the hyphens or the closing bracket that
stand for themselves there. -/
def readSetStart (mode : Mode) : Reading (Bool × List CharSet) := do
  skip mode
  let negated ← take ['^']
  let hyphens ← gather mode.spaced (· = '-')
  if hyphens.isEmpty && (← peek) = ']' then
    need ']'
    return (negated, [.single ']'])
  else return (negated, hyphens.map .single)

/-- The parts of a set: those since the last operation, the last one first, and what stands left of
that operation. -/
structure SetParts where
  left : Option (SetOp × Nested CharSet)
  items : List (Nested CharSet)

namespace SetParts

/-- Parts that hold nothing inside them. -/
def ofSets (sets : List CharSet) : SetParts := ⟨none, sets.map fun chars => ⟨chars, 0⟩⟩

/-- One more part. -/
def push (parts : SetParts) (item : Nested CharSet) : SetParts :=
  { parts with items := item :: parts.items }

/-- The set of all parts. -/
def whole (mode : Mode) (parts : SetParts) : Nested CharSet :=
  let right := CharSet.unions (parts.items.reverse.map Nested.value)
  let depth := rowDepth (parts.items.map Nested.depth)
  match parts.left with
  | some (op, left) =>
      ⟨op.apply (foldSet mode left.value) (foldSet mode right), max left.depth depth + 1⟩
  | none => ⟨right, depth⟩

/-- An operation follows. -/
def operate (mode : Mode) (parts : SetParts) (op : SetOp) : SetParts :=
  ⟨some (op, parts.whole mode), []⟩

end SetParts

/-- What comes next in a class: its end, more of its parts, or a set inside it. -/
inductive SetStep where
  | finished
  | more (parts : SetParts)
  | inner

/-- One step of reading a class. -/
def readSetStep (mode : Mode) (parts : SetParts) : Reading SetStep := do
  skip mode
  if ← take [']'] then return .finished
  else if ← take ['&', '&'] then return .more (parts.operate mode .inter)
  else if ← take ['-', '-'] then return .more (parts.operate mode .diff)
  else if ← take ['~', '~'] then return .more (parts.operate mode .symDiff)
  else if ← take ['['] then
    match ← readNamedSet mode namedSets with
    | some chars => return .more (parts.push ⟨chars, 0⟩)
    | none => return .inner
  else return .more (parts.push ⟨← readSetRange mode, 0⟩)

/-- A class as a whole, a part of its own. -/
def closeSet (mode : Mode) (negated : Bool) (inside : Nested CharSet) :
    Option (Nested CharSet) :=
  (complementIf mode negated (foldSet mode inside.value)).map fun chars =>
    ⟨chars, inside.depth + 1⟩

/-- The inside of a class up to its closing bracket, which is taken. -/
def readInside (mode : Mode) : Nat → SetParts → Reading (Nested CharSet)
  | 0, _ => failure
  | fuel + 1, parts => do
      match ← readSetStep mode parts with
      | .finished => return parts.whole mode
      | .more parts => readInside mode fuel parts
      | .inner =>
          let (negated, start) ← readSetStart mode
          let inside ← readInside mode fuel (.ofSets start)
          let inner ← ofOption (closeSet mode negated inside)
          readInside mode fuel (parts.push inner)

/-- A class after its opening bracket. -/
def readSet (mode : Mode) (fuel : Nat) : Reading (Nested CharSet) := do
  let (negated, start) ← readSetStart mode
  let inside ← readInside mode fuel (.ofSets start)
  ofOption (closeSet mode negated inside)

end Runbook.Pattern
