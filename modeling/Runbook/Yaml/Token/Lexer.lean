import Runbook.Yaml.Token
import Runbook.Yaml.Token.Scalar

/-!
# From text to tokens

The lexer keeps the columns of the open block collections, and for each open flow collection
the place where a key may have begun: that it was one shows only at a later colon, and its
tokens are then put in where it began. A key written on one line is found within that line
and 1024 characters.
-/

namespace Runbook.Yaml

/-- A place where a key may have begun. -/
structure PossibleKey where
  required : Bool
  position : Nat
  index : Nat
  line : Nat
  column : Nat

/-- The lexer in mid-run. `keys` has an entry for the block context and one for each open flow
collection, innermost first. -/
structure Lexer where
  cursor : Cursor
  tokens : Array Token
  indent : Int
  indents : List Int
  keys : List (Option PossibleKey)
  keyAllowed : Bool

namespace Lexer

/-- The lexer before the first token. -/
def start (text : List Char) : Lexer := ⟨.start text, #[], -1, [], [none], true⟩

/-- Is a flow collection open? -/
def inFlow (lexer : Lexer) : Bool := 1 < lexer.keys.length

/-- One more token. -/
def push (lexer : Lexer) (token : Token) : Lexer :=
  { lexer with tokens := lexer.tokens.push token }

/-- A token put in before the one at `position`. -/
def insertAt (lexer : Lexer) (position : Nat) (token : Token) : Lexer :=
  let tokens := lexer.tokens
  { lexer with
    tokens := (tokens.extract 0 position).push token ++ tokens.extract position tokens.size }

/-- The cursor moved, with keys allowed or not from there on. -/
def moveTo (lexer : Lexer) (cursor : Cursor) (keyAllowed : Bool) : Lexer :=
  { lexer with cursor, keyAllowed }

/-- The possible key of the innermost context replaced. -/
def setKey (lexer : Lexer) (key : Option PossibleKey) : Lexer :=
  match lexer.keys with
  | _ :: outer => { lexer with keys := key :: outer }
  | [] => lexer

/-- No key began here after all; one that had to be a key is an error. -/
def dropKey (lexer : Lexer) : Option Lexer :=
  match lexer.keys with
  | some key :: _ => if key.required then none else some (lexer.setKey none)
  | _ => some lexer

/-- A key may begin under the cursor, where keys are allowed. -/
def saveKey (lexer : Lexer) : Option Lexer :=
  let cursor := lexer.cursor
  let required := !lexer.inFlow && lexer.indent = cursor.column
  if lexer.keyAllowed then do
    let lexer ← lexer.dropKey
    return lexer.setKey
      (some ⟨required, lexer.tokens.size, cursor.index, cursor.line, cursor.column⟩)
  else some lexer

/-- Possible keys that began too far back are forgotten. -/
def dropStaleKeys (lexer : Lexer) : Option Lexer := do
  let cursor := lexer.cursor
  let keys ← lexer.keys.mapM fun entry =>
    match entry with
    | some key =>
        if key.line < cursor.line ∨ key.index + 1024 < cursor.index then
          if key.required then none else some none
        else some (some key)
    | none => some none
  return { lexer with keys }

/-- A block collection opens at `column`, unless one is open there; its first token goes in at
`position`, or at the end. -/
def openBlock (lexer : Lexer) (column : Nat) (position : Option Nat) (token : Token) : Lexer :=
  if !lexer.inFlow && lexer.indent < column then
    let lexer :=
      { lexer with indents := lexer.indent :: lexer.indents, indent := (column : Int) }
    match position with
    | some position => lexer.insertAt position token
    | none => lexer.push token
  else lexer

/-- The block collections that are open beyond `column` end. -/
def closeBlocks (lexer : Lexer) (column : Int) : Lexer :=
  if lexer.inFlow then lexer
  else
    let rec close : List Int → Int → Array Token → Int × List Int × Array Token
      | [], indent, tokens => (indent, [], tokens)
      | outer :: indents, indent, tokens =>
          if column < indent then close indents outer (tokens.push .blockEnd)
          else (indent, outer :: indents, tokens)
    let (indent, indents, tokens) := close lexer.indents lexer.indent lexer.tokens
    { lexer with indent, indents, tokens }

/-- Blanks, comments and breaks before the next token are passed over. A break in the block
context allows a key. Tabs count as blanks only where no key is allowed. -/
def skipGaps : Nat → Lexer → Lexer
  | 0, lexer => lexer
  | fuel + 1, lexer =>
      let cursor := lexer.cursor
      let cursor :=
        if cursor.index = 0 && cursor.isAt (Char.ofNat 0xFEFF) then cursor.skip 1 else cursor
      let tabs := lexer.inFlow || !lexer.keyAllowed
      let cursor := cursor.dropWhile fun c => c = ' ' || (tabs && c = '\t')
      let cursor := if cursor.isAt '#' then cursor.toLineEnd else cursor
      if cursor.head?.any isBreak then
        skipGaps fuel (lexer.moveTo cursor.takeBreak.2 (lexer.keyAllowed || !lexer.inFlow))
      else lexer.moveTo cursor lexer.keyAllowed

/-- The characters of a tag, apart from escapes. Those that end a flow entry belong only to a
tag between angle brackets. -/
def isTagChar (verbatim : Bool) (c : Char) : Bool :=
  isNameChar c || ";/?:@&=+$.!~*'()".toList.contains c ||
    (verbatim && (c = ',' || c = '[' || c = ']'))

/-- The characters that bytes in UTF-8 stand for. -/
def decodeBytes (bytes : List Nat) : Option (List Char) :=
  (String.fromUTF8? (ByteArray.mk (bytes.map UInt8.ofNat).toArray)).map String.toList

/-- The bytes written as escapes at the start of a text: a percent sign and two digits each. -/
def takeEscapes : List Char → List Nat
  | '%' :: a :: b :: rest =>
      match Text.number? 16 [a, b] with
      | some byte => byte :: takeEscapes rest
      | none => []
  | _ => []

/-- The text of a tag and the cursor after it. -/
def scanTagText (verbatim : Bool) : Nat → List Char → Cursor → Option (List Char × Cursor)
  | 0, text, cursor => some (text, cursor)
  | fuel + 1, text, cursor =>
      let (plain, cursor) := cursor.take (isTagChar verbatim)
      let text := text ++ plain
      if cursor.isAt '%' then do
        let bytes := takeEscapes cursor.rest
        if bytes.isEmpty then none
        else
          let chars ← decodeBytes bytes
          scanTagText verbatim fuel (text ++ chars) (cursor.skip (3 * bytes.length))
      else some (text, cursor)

/-- The text of a tag, which may not be empty unless something stands before it. -/
def tagText (verbatim : Bool) (lead : List Char) (cursor : Cursor) :
    Option (List Char × Cursor) := do
  let (text, cursor) ← scanTagText verbatim (cursor.rest.length + 1) [] cursor
  if lead.isEmpty ∧ text.isEmpty then none else return (lead.drop 1 ++ text, cursor)

/-- The handle of a tag: an exclamation mark, a name, and another mark where there is one. -/
def tagHandle (cursor : Cursor) : Option (List Char × Cursor) :=
  if !cursor.isAt '!' then none
  else
    let (name, cursor) := (cursor.skip 1).take isNameChar
    if cursor.isAt '!' then some ('!' :: name ++ ['!'], cursor.skip 1)
    else some ('!' :: name, cursor)

/-- A tag under the cursor: its handle and its suffix. The lone mark is a tag of no handle. -/
def scanTag (inFlow : Bool) (cursor : Cursor) : Option (List Char × List Char × Cursor) := do
  let (handle, suffix, cursor) ←
    match cursor.rest with
    | _ :: '<' :: _ => do
        let (suffix, cursor) ← tagText true [] (cursor.skip 2)
        if cursor.isAt '>' then some ([], suffix, cursor.skip 1) else none
    | _ => do
        let (handle, cursor) ← tagHandle cursor
        if 1 < handle.length ∧ handle.getLast? = some '!' then do
          let (suffix, cursor) ← tagText false [] cursor
          pure (handle, suffix, cursor)
        else do
          let (suffix, cursor) ← tagText false handle cursor
          if suffix.isEmpty then pure ([], ['!'], cursor) else pure (['!'], suffix, cursor)
  if (inFlow && cursor.isAt ',') || atGap cursor.rest then return (handle, suffix, cursor)
  else none

/-- The name of an anchor or alias after its mark. -/
def scanName (cursor : Cursor) : Option (List Char × Cursor) :=
  let (name, cursor) := cursor.take isNameChar
  let ended :=
    atGap cursor.rest || cursor.head?.any fun c => "?:,]\x7d%@\x60".toList.contains c
  if name.isEmpty || !ended then none else some (name, cursor)

/-- A number of a version, at most nine digits long. -/
def scanVersionPart (cursor : Cursor) : Option (Nat × Cursor) := do
  let (digits, cursor) := cursor.take Text.isDigit
  if 9 < digits.length then none
  else return (← Text.number? 10 digits, cursor)

/-- A directive after its percent sign. Its line may end in a comment. -/
def scanDirective (cursor : Cursor) : Option (Token × Cursor) := do
  let (name, cursor) := cursor.take isNameChar
  if name.isEmpty || !atGap cursor.rest then none
  else
    let cursor := cursor.dropWhile isBlank
    let (token, cursor) : Token × Cursor ←
      if name = "YAML".toList then do
        let (major, cursor) ← scanVersionPart cursor
        if !cursor.isAt '.' then none
        else
          let (minor, cursor) ← scanVersionPart (cursor.skip 1)
          pure (Token.version major minor, cursor)
      else if name = "TAG".toList then do
        let (handle, cursor) ← tagHandle cursor
        if handle ≠ ['!'] ∧ handle.getLast? ≠ some '!' then none
        else if !(cursor.head?.any isBlank) then none
        else
          let (lead, cursor) ← tagText true [] (cursor.dropWhile isBlank)
          if atGap cursor.rest then
            pure (Token.tagHandle (String.ofList handle) (String.ofList lead), cursor)
          else none
      else none
    let cursor := cursor.dropWhile isBlank
    let cursor := if cursor.isAt '#' then cursor.toLineEnd else cursor
    if atLineEnd cursor.rest then return (token, cursor.takeBreak.2) else none

/-- A mark that opens a flow collection. A key may begin at it. -/
def openFlow (lexer : Lexer) (token : Token) : Option Lexer := do
  let lexer ← lexer.saveKey
  let lexer := { lexer with keys := none :: lexer.keys }
  return (lexer.push token).moveTo (lexer.cursor.skip 1) true

/-- A mark that closes a flow collection. -/
def closeFlow (lexer : Lexer) (token : Token) : Option Lexer := do
  let lexer ← lexer.dropKey
  let keys :=
    match lexer.keys with
    | _ :: outer :: keys => outer :: keys
    | keys => keys
  return (({ lexer with keys } : Lexer).push token).moveTo (lexer.cursor.skip 1) false

/-- The hyphen of a block sequence. -/
def blockEntry (lexer : Lexer) : Option Lexer := do
  if !lexer.inFlow && !lexer.keyAllowed then none
  else
    let lexer := lexer.openBlock lexer.cursor.column none .blockSequenceStart
    let lexer ← lexer.dropKey
    return (lexer.push .blockEntry).moveTo (lexer.cursor.skip 1) true

/-- The question mark of a key. -/
def keyMark (lexer : Lexer) : Option Lexer := do
  if !lexer.inFlow && !lexer.keyAllowed then none
  else
    let lexer := lexer.openBlock lexer.cursor.column none .blockMappingStart
    let lexer ← lexer.dropKey
    return (lexer.push .key).moveTo (lexer.cursor.skip 1) (!lexer.inFlow)

/-- The colon of a value. A possible key becomes one. -/
def valueMark (lexer : Lexer) : Option Lexer :=
  match lexer.keys with
  | some key :: _ =>
      let lexer := lexer.insertAt key.position .key
      let lexer := lexer.openBlock key.column (some key.position) .blockMappingStart
      some (((lexer.setKey none).push .value).moveTo (lexer.cursor.skip 1) false)
  | _ =>
      if !lexer.inFlow && !lexer.keyAllowed then none
      else
        let lexer := lexer.openBlock lexer.cursor.column none .blockMappingStart
        some ((lexer.push .value).moveTo (lexer.cursor.skip 1) (!lexer.inFlow))

/-- A directive or document mark ends all blocks. -/
def outermost (lexer : Lexer) : Option Lexer :=
  (lexer.closeBlocks (-1)).dropKey

/-- A plain scalar may start with any character but a mark; hyphen, question mark and colon
are no marks before other characters. -/
def startsPlain (inFlow : Bool) : List Char → Bool
  | [] => false
  | c :: rest =>
      !(isBlank c || isBreak c || "-?:,[]\x7b\x7d#&*!|>'\"%@\x60".toList.contains c) ||
        (c = '-' && !(rest.head?.any isBlank)) ||
        (!inFlow && (c = '?' || c = ':') && !atGap rest)

/-- The token under the cursor. -/
def fetch (lexer : Lexer) : Option Lexer :=
  let cursor := lexer.cursor
  match cursor.rest with
  | [] => none
  | c :: rest =>
      let scalar (text : List Char) (style : ScalarStyle) : Token :=
        .scalar (String.ofList text) style
      if cursor.column = 0 ∧ c = '%' then do
        let lexer ← lexer.outermost
        let (token, cursor) ← scanDirective (cursor.skip 1)
        return (lexer.push token).moveTo cursor false
      else if cursor.atDocumentMark then do
        let lexer ← lexer.outermost
        let token := if c = '-' then Token.documentStart else Token.documentEnd
        return (lexer.push token).moveTo (cursor.skip 3) false
      else if c = '[' then lexer.openFlow .flowSequenceStart
      else if c = '\x7b' then lexer.openFlow .flowMappingStart
      else if c = ']' then lexer.closeFlow .flowSequenceEnd
      else if c = '\x7d' then lexer.closeFlow .flowMappingEnd
      else if c = ',' then do
        let lexer ← lexer.dropKey
        return (lexer.push .flowEntry).moveTo (cursor.skip 1) true
      else if c = '-' ∧ atGap rest then lexer.blockEntry
      else if c = '?' ∧ (lexer.inFlow ∨ atGap rest) then lexer.keyMark
      else if c = ':' ∧ (lexer.inFlow ∨ atGap rest) then lexer.valueMark
      else if c = '*' ∨ c = '&' then do
        let lexer ← lexer.saveKey
        let (name, cursor) ← scanName (cursor.skip 1)
        let name := String.ofList name
        return (lexer.push (if c = '*' then .reference name else .anchor name)).moveTo cursor false
      else if c = '!' then do
        let lexer ← lexer.saveKey
        let (handle, suffix, cursor) ← scanTag lexer.inFlow cursor
        return (lexer.push (.tag (String.ofList handle) (String.ofList suffix))).moveTo cursor false
      else if (c = '|' ∨ c = '>') ∧ !lexer.inFlow then do
        let lexer ← lexer.dropKey
        let (text, cursor) ← scanBlock (c = '|') lexer.indent (cursor.skip 1)
        return (lexer.push (scalar text .block)).moveTo cursor true
      else if c = '\'' ∨ c = '"' then do
        let lexer ← lexer.saveKey
        let (text, cursor) ← scanQuoted (c = '\'') (cursor.rest.length + 1) [] (cursor.skip 1)
        return (lexer.push (scalar text .quoted)).moveTo cursor false
      else if startsPlain lexer.inFlow cursor.rest then do
        let lexer ← lexer.saveKey
        let margin := (lexer.indent + 1).toNat
        let (text, broken, cursor) ←
          scanPlain lexer.inFlow margin (cursor.rest.length + 1) [] Gap.none cursor
        return (lexer.push (scalar text .plain)).moveTo cursor broken
      else none

/-- All tokens from the cursor on. -/
def run : Nat → Lexer → Option (Array Token)
  | 0, _ => none
  | fuel + 1, lexer => do
      let lexer := lexer.skipGaps (lexer.cursor.rest.length + 1)
      let lexer ← lexer.dropStaleKeys
      let lexer := lexer.closeBlocks lexer.cursor.column
      if lexer.cursor.rest.isEmpty then
        let lexer ← lexer.outermost
        return lexer.tokens
      else run fuel (← lexer.fetch)

end Lexer

/-- The tokens of a text. Every token takes at least one character. -/
def tokens? (text : List Char) : Option (Array Token) :=
  if text.all isPrintable then Lexer.run (text.length + 1) (Lexer.start text) else none

end Runbook.Yaml
