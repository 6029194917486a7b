import Runbook.Text.Basic

/-!
# A place in a text

A cursor is the rest of a text with the place it starts at. Line breaks are a line feed, a
carriage return, both together, and three breaks of Unicode.
-/

namespace Runbook.Yaml

/-- The rest of a text, and how far into the text, into its lines and into its last line that
rest begins. -/
structure Cursor where
  rest : List Char
  index : Nat
  line : Nat
  column : Nat

/-- Ends a line. -/
def isBreak (c : Char) : Bool :=
  c = '\n' || c = '\r' || c.toNat == 0x85 || c.toNat == 0x2028 || c.toNat == 0x2029

/-- A space or a tab. -/
def isBlank (c : Char) : Bool := c = ' ' || c = '\t'

/-- A letter or digit of ASCII, an underscore or a hyphen. -/
def isNameChar (c : Char) : Bool := Text.isAlphanumeric c || c = '_' || c = '-'

/-- The characters that a text may hold. -/
def isPrintable (c : Char) : Bool :=
  let n := c.toNat
  n == 0x09 || n == 0x0A || n == 0x0D || (0x20 ≤ n && n ≤ 0x7E) || n == 0x85 ||
    (0xA0 ≤ n && n ≤ 0xD7FF) || (0xE000 ≤ n && n ≤ 0xFFFD) || 0x10000 ≤ n

/-- Does a text start with a blank or a break, or has it ended? -/
def atGap : List Char → Bool
  | [] => true
  | c :: _ => isBlank c || isBreak c

/-- Does a text start with a break, or has it ended? -/
def atLineEnd : List Char → Bool
  | [] => true
  | c :: _ => isBreak c

namespace Cursor

/-- The start of a text. -/
def start (text : List Char) : Cursor := ⟨text, 0, 0, 0⟩

/-- The character under the cursor. -/
def head? (cursor : Cursor) : Option Char := cursor.rest.head?

/-- Is `c` under the cursor? -/
def isAt (cursor : Cursor) (c : Char) : Bool := cursor.rest.head? = some c

/-- The cursor `count` characters further on the same line. -/
def skip (cursor : Cursor) (count : Nat) : Cursor :=
  { cursor with
    rest := cursor.rest.drop count
    index := cursor.index + count
    column := cursor.column + count }

/-- The characters up to the first that fails `p`, none of them a break, and the cursor
there. -/
def take (cursor : Cursor) (p : Char → Bool) : List Char × Cursor :=
  let taken := cursor.rest.takeWhile p
  (taken, cursor.skip taken.length)

/-- The cursor past the characters that satisfy `p`. -/
def dropWhile (cursor : Cursor) (p : Char → Bool) : Cursor := (cursor.take p).2

/-- The cursor at the end of its line. -/
def toLineEnd (cursor : Cursor) : Cursor := cursor.dropWhile fun c => !isBreak c

/-- The line break under the cursor, as it counts in a scalar, and the cursor on the next
line; nothing is taken where there is no break. -/
def takeBreak (cursor : Cursor) : List Char × Cursor :=
  let next (rest : List Char) (count : Nat) : Cursor :=
    ⟨rest, cursor.index + count, cursor.line + 1, 0⟩
  match cursor.rest with
  | '\r' :: '\n' :: rest => (['\n'], next rest 2)
  | c :: rest =>
      if isBreak c then
        (if c.toNat == 0x2028 || c.toNat == 0x2029 then [c] else ['\n'], next rest 1)
      else ([], cursor)
  | [] => ([], cursor)

/-- Is a document mark, three times `mark` and then a gap, under the cursor at the start of its
line? -/
def atMark (cursor : Cursor) (mark : Char) : Bool :=
  cursor.column = 0 &&
    match cursor.rest with
    | a :: b :: c :: rest => a = mark && b = mark && c = mark && atGap rest
    | _ => false

/-- Is either document mark under the cursor? -/
def atDocumentMark (cursor : Cursor) : Bool := cursor.atMark '-' || cursor.atMark '.'

end Cursor

end Runbook.Yaml
