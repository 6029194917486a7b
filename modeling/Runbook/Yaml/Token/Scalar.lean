import Runbook.Yaml.Cursor

/-!
# The text of scalars

Quoted, plain and block scalars may run over several lines. Between lines, quoted and plain
scalars fold: one break is a space, more breaks lose the first. Block scalars keep their
indentation as the guide to where they end, and a chomping mark decides about their last
breaks.
-/

namespace Runbook.Yaml

/-- The blanks and breaks between two pieces of a scalar. -/
structure Gap where
  blanks : List Char
  first : List Char
  others : List Char
  broken : Bool

namespace Gap

/-- No gap. -/
def none : Gap := ⟨[], [], [], false⟩

/-- The gap after an escaped line break, which counts for nothing by itself. -/
def escapedBreak : Gap := ⟨[], [], [], true⟩

/-- What stands in the scalar for the gap. -/
def folded (gap : Gap) : List Char :=
  if gap.broken then
    if gap.first = ['\n'] then if gap.others.isEmpty then [' '] else gap.others
    else gap.first ++ gap.others
  else gap.blanks

/-- The gap under the cursor, added to `gap`. A tab in the indentation of a later line, left of
column `margin`, is an error. -/
def scan (margin : Nat) : Nat → Gap → Cursor → Option (Gap × Cursor)
  | 0, gap, cursor => some (gap, cursor)
  | fuel + 1, gap, cursor =>
      match cursor.head? with
      | some c =>
          if isBlank c then
            if gap.broken then
              if c = '\t' ∧ cursor.column < margin then Option.none
              else scan margin fuel gap (cursor.skip 1)
            else scan margin fuel { gap with blanks := gap.blanks ++ [c] } (cursor.skip 1)
          else if isBreak c then
            let (text, next) := cursor.takeBreak
            if gap.broken then scan margin fuel { gap with others := gap.others ++ text } next
            else scan margin fuel ⟨[], text, [], true⟩ next
          else some (gap, cursor)
      | Option.none => some (gap, cursor)

end Gap

/-- Does a flow collection end a plain scalar at this character? -/
def isFlowMark (c : Char) : Bool :=
  c = ',' || c = '[' || c = ']' || c = '\x7b' || c = '\x7d'

/-- A piece of a plain scalar without gaps. Inside a flow collection a colon before one of its
marks is an error. -/
def plainPiece (inFlow : Bool) : List Char → Option (List Char)
  | [] => some []
  | c :: rest =>
      if isBlank c || isBreak c then some []
      else if inFlow && c = ':' && rest.head?.any (fun d => isFlowMark d || d = '?') then none
      else if (c = ':' && atGap rest) || (inFlow && isFlowMark c) then some []
      else (plainPiece inFlow rest).map (c :: ·)

/-- A plain scalar and whether it ends after a line break. `margin` is the least column at
which a later line may continue it. -/
def scanPlain (inFlow : Bool) (margin : Nat) :
    Nat → List Char → Gap → Cursor → Option (List Char × Bool × Cursor)
  | 0, text, gap, cursor => some (text, gap.broken, cursor)
  | fuel + 1, text, gap, cursor =>
      if cursor.atDocumentMark || cursor.isAt '#' then some (text, gap.broken, cursor)
      else do
        let piece ← plainPiece inFlow cursor.rest
        let (text, gap) := if piece.isEmpty then (text, gap) else (text ++ gap.folded ++ piece, Gap.none)
        let cursor := cursor.skip piece.length
        if cursor.rest.isEmpty || !atGap cursor.rest then return (text, gap.broken, cursor)
        let (gap, cursor) ← Gap.scan margin cursor.rest.length gap cursor
        if !inFlow && cursor.column < margin then return (text, gap.broken, cursor)
        scanPlain inFlow margin fuel text gap cursor

/-- The character written by a backslash and one letter. -/
def letterEscape? : Char → Option Char
  | '0' => some '\x00'
  | 'a' => some '\x07'
  | 'b' => some '\x08'
  | 't' => some '\t'
  | '\t' => some '\t'
  | 'n' => some '\n'
  | 'v' => some '\x0b'
  | 'f' => some '\x0c'
  | 'r' => some '\r'
  | 'e' => some '\x1b'
  | ' ' => some ' '
  | '"' => some '"'
  | '/' => some '/'
  | '\\' => some '\\'
  | 'N' => some (Char.ofNat 0x85)
  | '_' => some (Char.ofNat 0xA0)
  | 'L' => some (Char.ofNat 0x2028)
  | 'P' => some (Char.ofNat 0x2029)
  | _ => none

/-- How many digits of base sixteen follow the letter of an escape. -/
def codeLength? : Char → Option Nat
  | 'x' => some 2
  | 'u' => some 4
  | 'U' => some 8
  | _ => none

/-- A piece of a quoted scalar without gaps: its text, how many characters it took, and whether
an escaped line break ends it. -/
def quotedPiece (single : Bool) : Nat → List Char → Option (List Char × Nat × Bool)
  | 0, _ => none
  | fuel + 1, text =>
      let more (count : Nat) (c : Char) (rest : List Char) := do
        let (piece, taken, escaped) ← quotedPiece single fuel rest
        return (c :: piece, taken + count, escaped)
      match text with
      | [] => some ([], 0, false)
      | c :: rest =>
          if isBlank c || isBreak c then some ([], 0, false)
          else if single then
            if c = '\'' then
              match rest with
              | '\'' :: rest => more 2 '\'' rest
              | _ => some ([], 0, false)
            else more 1 c rest
          else if c = '"' then some ([], 0, false)
          else if c = '\\' then
            match rest with
            | [] => none
            | e :: rest =>
                if isBreak e then some ([], 1, true)
                else
                  match letterEscape? e, codeLength? e with
                  | some d, _ => more 2 d rest
                  | none, some count =>
                      match Text.number? 16 (rest.take count) with
                      | some code =>
                          if rest.length < count ∨ (0xD800 ≤ code ∧ code ≤ 0xDFFF) ∨
                              0x10FFFF < code then none
                          else more (2 + count) (Char.ofNat code) (rest.drop count)
                      | none => none
                  | none, none => none
          else more 1 c rest

/-- A quoted scalar after its opening mark. -/
def scanQuoted (single : Bool) : Nat → List Char → Cursor → Option (List Char × Cursor)
  | 0, _, _ => none
  | fuel + 1, text, cursor =>
      if cursor.atDocumentMark then none
      else do
        let (piece, taken, escaped) ← quotedPiece single (cursor.rest.length + 1) cursor.rest
        let text := text ++ piece
        let cursor := cursor.skip taken
        if !escaped && cursor.isAt (if single then '\'' else '"') then
          return (text, cursor.skip 1)
        else if cursor.rest.isEmpty then none
        else
          let (gap, cursor) :=
            if escaped then (Gap.escapedBreak, cursor.takeBreak.2) else (Gap.none, cursor)
          let (gap, cursor) ← Gap.scan 0 cursor.rest.length gap cursor
          scanQuoted single fuel (text ++ gap.folded) cursor

/-- What a block scalar does with the breaks at its end. -/
inductive Chomping where
  | strip
  | clip
  | keep
deriving DecidableEq

/-- The marks after the sign of a block scalar: chomping and indentation in either order. -/
def blockHeader (cursor : Cursor) : Option (Chomping × Nat × Cursor) :=
  let chomping (c : Char) : Option Chomping :=
    if c = '+' then some .keep else if c = '-' then some .strip else none
  let indentation (c : Char) : Option Nat :=
    if Text.isDigit c then some (c.toNat - 48) else none
  match cursor.rest with
  | a :: rest =>
      match chomping a with
      | some chomp =>
          match rest.head?.bind indentation with
          | some 0 => none
          | some n => some (chomp, n, cursor.skip 2)
          | none => some (chomp, 0, cursor.skip 1)
      | none =>
          match indentation a with
          | some 0 => none
          | some n =>
              match rest.head?.bind chomping with
              | some chomp => some (chomp, n, cursor.skip 2)
              | none => some (.clip, n, cursor.skip 1)
          | none => some (.clip, 0, cursor)
  | [] => some (.clip, 0, cursor)

/-- The empty lines of a block scalar and the indentation before its next line. An indentation
of zero is not yet known: every space counts, and `deepest` is the furthest column reached. -/
def blockBreaks (indent : Nat) : Nat → List Char → Nat → Cursor → Option (List Char × Nat × Cursor)
  | 0, breaks, deepest, cursor => some (breaks, deepest, cursor)
  | fuel + 1, breaks, deepest, cursor =>
      let room := if indent = 0 then cursor.rest.length else indent - cursor.column
      let spaces := ((cursor.rest.take room).takeWhile (· = ' ')).length
      let cursor := cursor.skip spaces
      let deepest := max deepest cursor.column
      if (indent = 0 ∨ cursor.column < indent) ∧ cursor.isAt '\t' then none
      else if cursor.head?.any isBreak then
        let (text, next) := cursor.takeBreak
        blockBreaks indent fuel (breaks ++ text) deepest next
      else some (breaks, deepest, cursor)

/-- The lines of a block scalar. `lead` is the break before the coming line, `breaks` the empty
lines before it, and `blank` says whether the line before starts with a blank. -/
def blockLines (literal : Bool) (indent : Nat) :
    Nat → List Char → List Char → List Char → Bool → Cursor →
      Option (List Char × List Char × List Char × Cursor)
  | 0, text, lead, breaks, _, cursor => some (text, lead, breaks, cursor)
  | fuel + 1, text, lead, breaks, blank, cursor =>
      if cursor.column = indent ∧ !cursor.rest.isEmpty then do
        let startsBlank := cursor.head?.any isBlank
        let joint :=
          if !literal && lead = ['\n'] && !blank && !startsBlank then
            if breaks.isEmpty then [' '] else []
          else lead
        let (line, cursor) := cursor.take fun c => !isBreak c
        let (lead, cursor) := cursor.takeBreak
        let (nextBreaks, _, cursor) ← blockBreaks indent (cursor.rest.length + 1) [] 0 cursor
        blockLines literal indent fuel (text ++ joint ++ breaks ++ line) lead nextBreaks
          startsBlank cursor
      else some (text, lead, breaks, cursor)

/-- A block scalar after its sign. `parent` is the indentation of the collection around it, -1
for none. -/
def scanBlock (literal : Bool) (parent : Int) (cursor : Cursor) : Option (List Char × Cursor) := do
  let (chomping, increment, cursor) ← blockHeader cursor
  let cursor := cursor.dropWhile isBlank
  let cursor := if cursor.isAt '#' then cursor.toLineEnd else cursor
  if !atLineEnd cursor.rest then none
  else
    let cursor := cursor.takeBreak.2
    let indent := if increment = 0 then 0 else ((max parent 0) + increment).toNat
    let (breaks, deepest, cursor) ← blockBreaks indent (cursor.rest.length + 1) [] 0 cursor
    let indent := if indent = 0 then max deepest (max (parent + 1).toNat 1) else indent
    let (text, lead, breaks, cursor) ←
      blockLines literal indent (cursor.rest.length + 1) [] [] breaks false cursor
    let text := if chomping = .strip then text else text ++ lead
    return (if chomping = .keep then text ++ breaks else text, cursor)

end Runbook.Yaml
