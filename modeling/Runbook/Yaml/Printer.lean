import Runbook.Yaml.Cursor
import Runbook.Yaml.Scalar

/-!
# Writing YAML

Block style throughout, two spaces a level, sequences flush with the key they belong to. A
string is plain where it reads back as itself, a literal block when it has line feeds, and
otherwise quoted: singly where that is possible.
-/

namespace Runbook.Yaml

/-- How a string is written. -/
inductive Quoting where
  | plain
  | single
  | double
  | literal
deriving DecidableEq

/-- May the character stand outside of escapes? -/
def isVisible (c : Char) : Bool :=
  let n := c.toNat
  n == 0x0A || (0x20 ≤ n && n ≤ 0x7E) || (0xA0 ≤ n && n ≤ 0xFFFD && n != 0xFEFF) || 0x10000 ≤ n

/-- Is a character among those where a plain string may not start? -/
def isLeadMark (c : Char) : Bool := "#,[]\x7b\x7d&*!|>'\"%@\x60".toList.contains c

/-- Would the string, written plain in block context, be taken for something else? -/
def hasBlockMark (text : List Char) : Bool :=
  let rec later (afterGap : Bool) : List Char → Bool
    | [] => false
    | c :: rest =>
        (c = ':' && atGap rest) || (c = '#' && afterGap) || later (isBlank c || isBreak c) rest
  match text with
  | [] => false
  | c :: rest =>
      isLeadMark c || ((c = '?' || c = ':' || c = '-') && atGap rest) ||
        later (isBlank c || isBreak c) rest ||
        text.take 3 = "---".toList || text.take 3 = "...".toList

/-- Do two neighbours satisfy `p`? -/
def hasPair (p : Char → Char → Bool) : List Char → Bool
  | a :: b :: rest => p a b || hasPair p (b :: rest)
  | _ => false

/-- The quoting of a string that is written plain unless something speaks against it, or as a
literal block when `wish` is that. In the place of a simple key no string has several lines. -/
def quotingOf (wish : Quoting) (text : List Char) : Quoting :=
  let spaceBreak := hasPair (fun a b => a = ' ' && isBreak b) text
  let breakSpace := hasPair (fun a b => isBreak a && b = ' ') text
  let special := !text.all isVisible
  let edges (p : Char → Bool) : Bool := text.head?.any p || text.getLast?.any p
  let plainAllowed :=
    !edges (fun c => c = ' ' || isBreak c) && !text.any isBreak && !special && !hasBlockMark text
  let singleAllowed := !breakSpace && !spaceBreak && !special
  let literalAllowed := !text.isEmpty && text.getLast? ≠ some ' ' && !spaceBreak && !special
  match wish with
  | .literal => if literalAllowed then .literal else .double
  | .plain => if plainAllowed then .plain else if singleAllowed then .single else .double
  | .single => if singleAllowed then .single else .double
  | .double => .double

/-- How a string is meant to be written: with quotes where it would not read back as a
string. -/
def wishFor (text : String) : Quoting :=
  if text.toList.contains '\n' then .literal
  else if isPaddedDigits text.toList then .single
  else
    match meaning text with
    | .value (.string _) => .plain
    | _ => .single

/-- The last `count` digits of a number in base sixteen. -/
def hexDigits (count n : Nat) : List Char :=
  (List.range count).reverse.map fun k => (Nat.digitChar (n / Nat.pow 16 k % 16)).toUpper

/-- A character inside double quotes. -/
def escapeDouble (c : Char) : List Char :=
  let n := c.toNat
  if isVisible c && !isBreak c && c ≠ '"' && c ≠ '\\' then [c]
  else
    '\\' ::
      if n = 0 then ['0']
      else if n = 0x07 then ['a']
      else if n = 0x08 then ['b']
      else if n = 0x09 then ['t']
      else if n = 0x0A then ['n']
      else if n = 0x0B then ['v']
      else if n = 0x0C then ['f']
      else if n = 0x0D then ['r']
      else if n = 0x1B then ['e']
      else if n = 0x22 then ['"']
      else if n = 0x5C then ['\\']
      else if n = 0x85 then ['N']
      else if n = 0x2028 then ['L']
      else if n = 0x2029 then ['P']
      else if n ≤ 0xFF then 'x' :: hexDigits 2 n
      else if n ≤ 0xFFFF then 'u' :: hexDigits 4 n
      else 'U' :: hexDigits 8 n

/-- A character inside single quotes; a further line is indented. -/
def escapeSingle (indent : Nat) (c : Char) : List Char :=
  if c = '\'' then ['\'', '\'']
  else if isBreak c then c :: List.replicate indent ' '
  else [c]

/-- What a literal block says about its own text: an indentation when the text starts with a
space or break, and what becomes of the breaks at the end. -/
def literalHints (text : List Char) : List Char :=
  let lead := if text.head?.any fun c => c = ' ' || isBreak c then ['2'] else []
  let tail :=
    match text.reverse with
    | [] => ['-']
    | last :: before =>
        if !isBreak last then ['-']
        else if before.head?.all isBreak then ['+']
        else []
  lead ++ tail

/-- The lines of a literal block, each indented unless it is empty. -/
def indentLines (indent : Nat) : Bool → List Char → List Char
  | _, [] => []
  | atStart, c :: rest =>
      if isBreak c then c :: indentLines indent true rest
      else if atStart then List.replicate indent ' ' ++ c :: indentLines indent false rest
      else c :: indentLines indent false rest

/-- A string in its quoting; `indent` is the indentation of its further lines. -/
def quoteString (quoting : Quoting) (indent : Nat) (text : List Char) : List Char :=
  match quoting with
  | .plain => text
  | .single => '\'' :: text.flatMap (escapeSingle indent) ++ ['\'']
  | .double => '"' :: text.flatMap escapeDouble ++ ['"']
  | .literal => '|' :: literalHints text ++ '\n' :: indentLines indent true text

/-- A byte of a tag: itself, or a percent sign and two digits. -/
def tagByte (byte : UInt8) : List Char :=
  let c := Char.ofNat byte.toNat
  if byte.toNat < 128 ∧ (isNameChar c ∨ ";/?:@&=+$,.~*'()[]!".toList.contains c) then [c]
  else '%' :: hexDigits 2 byte.toNat

/-- A tag as it is written. -/
def writtenTag (tag : String) : List Char :=
  '!' :: tag.toUTF8.toList.flatMap tagByte

/-- The text of a scalar, in the quoting that suits it. -/
def scalarText (simpleKey : Bool) (indent : Nat) : Yaml → List Char
  | .null => "null".toList
  | .bool true => "true".toList
  | .bool false => "false".toList
  | .number n => n.text.toList
  | .string s =>
      let text := s.toList
      let quoting := quotingOf (wishFor s) text
      quoteString (if simpleKey && text.any isBreak then .double else quoting) indent text
  | .sequence _ => "[]".toList
  | .mapping _ => "\x7b\x7d".toList
  | .tagged _ _ => []

/-- Is the value written in one piece, as scalars and empty collections are? -/
def isAtom : Yaml → Bool
  | .sequence items => items.isEmpty
  | .mapping entries => entries.isEmpty
  | .tagged _ value => isAtom value
  | _ => true

/-- Can the value be a key on the line of its value: in one piece, on one line, and of at most
128 bytes? -/
def isSimpleKey (value : Yaml) : Bool :=
  let rec measure : Yaml → Nat × Bool
    | .string s => (s.utf8ByteSize, s.toList.any isBreak)
    | .tagged tag inner =>
        let (size, broken) := measure inner
        (size + 1 + tag.utf8ByteSize, broken)
    | .sequence _ => (0, false)
    | .mapping _ => (0, false)
    | atom => ((scalarText true 0 atom).length, false)
  let (size, broken) := measure value
  isAtom value && !broken && size ≤ 128

/-- What stands before a value: nothing, a key with its colon, the hyphen of an item, or the
mark of a key or value that has a line of its own. -/
inductive Place where
  | root
  | afterKey
  | item
  | mark
deriving DecidableEq

/-- A text with a line feed at its end. -/
def endLine (text : List Char) : List Char :=
  if text.getLast? = some '\n' then text else text ++ ['\n']

/-- Lines that begin on the line of a mark, or on lines of their own. -/
def placeLines (place : Place) (indent : Nat) (tag : List Char) (lines : List (List Char)) :
    List Char :=
  let margin := List.replicate indent ' '
  let separator := if place = .root then [] else [' ']
  let onOwnLines := lines.flatMap fun line => margin ++ line
  if !tag.isEmpty then separator ++ tag ++ '\n' :: onOwnLines
  else
    match place with
    | .root => onOwnLines
    | .afterKey => '\n' :: onOwnLines
    | _ =>
        match lines with
        | [] => []
        | line :: lines => ' ' :: line ++ lines.flatMap fun line => margin ++ line

mutual

/-- A value after what stands before it, up to the end of its last line. `parent` is the
indentation of the collection around it. -/
def renderAt (place : Place) (parent : Option Nat) (tag : List Char) : Yaml → List Char
  | .tagged name value => renderAt place parent (tag ++ writtenTag name) value
  | .sequence (item :: items) =>
      let indent :=
        match parent with
        | none => 0
        | some p =>
            if place = .afterKey ∨ (place = .mark ∧ !tag.isEmpty) then p else p + 2
      placeLines place indent tag (renderItems indent (item :: items))
  | .mapping (entry :: entries) =>
      let indent :=
        match parent with
        | none => 0
        | some p => p + 2
      placeLines place indent tag (renderEntries indent (entry :: entries))
  | atom =>
      let indent := (parent.map (· + 2)).getD 2
      let tagged := if tag.isEmpty then [] else tag ++ [' ']
      let separator := if place = .root then [] else [' ']
      endLine (separator ++ tagged ++ scalarText false indent atom)

/-- The items of a sequence, each from its hyphen to the end of its last line. -/
def renderItems (indent : Nat) : List Yaml → List (List Char)
  | [] => []
  | item :: items => ('-' :: renderAt .item (some indent) [] item) :: renderItems indent items

/-- The entries of a mapping, each to the end of its last line. -/
def renderEntries (indent : Nat) : List (Yaml × Yaml) → List (List Char)
  | [] => []
  | (key, value) :: entries =>
      let entry :=
        if isSimpleKey key then
          renderKey [] key ++ ':' :: renderAt .afterKey (some indent) [] value
        else
          '?' :: renderAt .mark (some indent) [] key ++
            (List.replicate indent ' ' ++ ':' :: renderAt .mark (some indent) [] value)
      entry :: renderEntries indent entries

/-- A simple key. -/
def renderKey (tag : List Char) : Yaml → List Char
  | .tagged name value => renderKey (tag ++ writtenTag name) value
  | atom => (if tag.isEmpty then [] else tag ++ [' ']) ++ scalarText true 0 atom

end

/-- The text of a value. -/
def render (value : Yaml) : String :=
  String.ofList (renderAt .root none [] value)

end Runbook.Yaml
