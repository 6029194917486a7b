import Runbook.Json.Basic

/-!
# Reading JSON

The characters are folded into tokens, and the tokens into a value; both machines keep
only what they still need, so each reads its input once from left to right. Containers may
nest to a given depth. A text that is not JSON has no value; no reason is kept.
-/

namespace Runbook.Json

/-- A lexical unit. -/
inductive Token where
  | openObject
  | closeObject
  | openArray
  | closeArray
  | colon
  | comma
  | string (text : String)
  | scalar (value : Json)

namespace Number

/-- The greatest natural number of 64 bits. -/
def maxNatural : Nat := Nat.pow 2 64 - 1

/-- The greatest exponent that is still told from infinity. -/
def maxExponent : Nat := Nat.pow 2 31 - 1

/-- Would another digit take `total` beyond `limit`? -/
def overflows (limit total digit : Nat) : Bool := limit < total * 10 + digit

/-- The digits at the start of a text, as their values, and what follows. -/
def takeDigits : List Char → List Nat × List Char
  | [] => ([], [])
  | c :: rest =>
      if Text.isDigit c then
        let (digits, after) := takeDigits rest
        ((c.toNat - 48) :: digits, after)
      else ([], c :: rest)

/-- `significand * 10 ^ exponent` in two roundings: the significand becomes a double, and one
multiplication or division by a power of ten follows; a quotient beyond the greatest power is
taken in steps of `10 ^ 308`. A product beyond all doubles is no number. -/
def scale (significand : Nat) (exponent : Int) : Option Binary64 :=
  let start := Binary64.ofRatio false significand 1
  let rec divide : Nat → Binary64 → Nat → Option Binary64
    | 0, value, _ => some value
    | fuel + 1, value, power =>
        if power ≤ 308 then some (value.overMagnitude (Binary64.ofDecimal false 1 power))
        else if value.isZero then some value
        else divide fuel (value.overMagnitude (Binary64.ofDecimal false 1 308)) (power - 308)
  if exponent < 0 then divide 8 start exponent.natAbs
  else if 308 < exponent then if start.isZero then some start else none
  else
    let value := start.timesMagnitude (Binary64.ofDecimal false 1 exponent)
    if value.isFinite then some value else none

/-- Leading digits that fit a natural number of 64 bits, and the digits that no longer fit. -/
def fitting (total : Nat) : List Nat → Nat × List Nat
  | [] => (total, [])
  | digit :: digits =>
      if overflows maxNatural total digit then (total, digit :: digits)
      else fitting (total * 10 + digit) digits

/-- The exponent part after its mark, added to `start`. -/
def readExponent (significand : Nat) (start : Int) (text : List Char) : Option Binary64 :=
  let (down, text) :=
    match text with
    | '+' :: rest => (false, rest)
    | '-' :: rest => (true, rest)
    | _ => (false, text)
  match takeDigits text with
  | (digits, []) =>
      if digits.isEmpty then none
      else
        let size := digits.foldl (fun total digit => total * 10 + digit) 0
        if maxExponent < size then
          if significand = 0 ∨ down then some (Binary64.zero false) else none
        else scale significand (if down then start - size else start + size)
  | _ => none

/-- The fraction after its point; digits that no longer fit the significand are dropped. -/
def readFraction (significand : Nat) (start : Int) (text : List Char) : Option Binary64 :=
  let (digits, rest) := takeDigits text
  if digits.isEmpty then none
  else
    let (total, dropped) := fitting significand digits
    let exponent := start - ((digits.length - dropped.length : Nat) : Int)
    match rest with
    | [] => scale total exponent
    | mark :: rest =>
        if mark = 'e' ∨ mark = 'E' then readExponent total exponent rest else none

/-- A number without its sign. -/
def readMagnitude (text : List Char) : Option (Nat ⊕ Binary64) :=
  let (digits, rest) := takeDigits text
  match digits with
  | [] => none
  | first :: more =>
      if first = 0 ∧ more ≠ [] then none
      else
        let (total, dropped) := fitting 0 digits
        match rest with
        | [] => if dropped.isEmpty then some (.inl total) else (scale total dropped.length).map .inr
        | '.' :: rest => (readFraction total dropped.length rest).map .inr
        | mark :: rest =>
            if mark = 'e' ∨ mark = 'E' then (readExponent total dropped.length rest).map .inr
            else none

/-- The number a word of the text stands for. Integers that no 64 bits hold, and the negative
zero, are doubles. -/
def ofText? : List Char → Option Number
  | '-' :: text =>
      match readMagnitude text with
      | some (.inl n) =>
          if 0 < n ∧ n ≤ Nat.pow 2 63 then some (.integer (-(n : Int)))
          else some (.real (Binary64.ofRatio false n 1).negate)
      | some (.inr x) => some (.real x.negate)
      | none => none
  | text =>
      match readMagnitude text with
      | some (.inl n) => some (.integer n)
      | some (.inr x) => some (.real x)
      | none => none

end Number

/-- The scalar that a word stands for. -/
def ofWord? (word : List Char) : Option Json :=
  if word = "null".toList then some .null
  else if word = "true".toList then some (.bool true)
  else if word = "false".toList then some (.bool false)
  else (Number.ofText? word).map .number

/-- Where the character machine stands. Texts under way are kept in reverse. -/
inductive Lexing where
  | between
  | word (chars : List Char)
  | quoted (chars : List Char)
  | escape (chars : List Char)
  | hex (chars : List Char) (count value : Nat)
  | lowMark (chars : List Char) (high : Nat)
  | lowEscape (chars : List Char) (high : Nat)
  | lowHex (chars : List Char) (high count value : Nat)

/-- The mark of a structural character. -/
def structural? : Char → Option Token
  | '\x7b' => some .openObject
  | '\x7d' => some .closeObject
  | '[' => some .openArray
  | ']' => some .closeArray
  | ':' => some .colon
  | ',' => some .comma
  | _ => none

/-- May the character stand between tokens? -/
def isSpace (c : Char) : Bool := c = ' ' || c = '\t' || c = '\n' || c = '\r'

/-- The character that a one-letter escape stands for. -/
def escaped? : Char → Option Char
  | '"' => some '"'
  | '\\' => some '\\'
  | '/' => some '/'
  | 'b' => some '\x08'
  | 'f' => some '\x0c'
  | 'n' => some '\n'
  | 'r' => some '\r'
  | 't' => some '\t'
  | _ => none

/-- The character machine in mid-run: where it stands and the tokens so far, in reverse. -/
structure Lexer where
  state : Lexing
  tokens : List Token

/-- One character between tokens. -/
def Lexer.enter (tokens : List Token) (c : Char) : Lexer :=
  match structural? c with
  | some token => ⟨.between, token :: tokens⟩
  | none =>
      if isSpace c then ⟨.between, tokens⟩
      else if c = '"' then ⟨.quoted [], tokens⟩
      else ⟨.word [c], tokens⟩

/-- One character of the text. -/
def Lexer.step (lexer : Lexer) (c : Char) : Option Lexer :=
  match lexer.state with
  | .between => some (Lexer.enter lexer.tokens c)
  | .word chars =>
      if (structural? c).isSome || isSpace c || c = '"' then do
        let value ← ofWord? chars.reverse
        return Lexer.enter (.scalar value :: lexer.tokens) c
      else some { lexer with state := .word (c :: chars) }
  | .quoted chars =>
      if c = '"' then some ⟨.between, .string (String.ofList chars.reverse) :: lexer.tokens⟩
      else if c = '\\' then some { lexer with state := .escape chars }
      else if c.toNat < 32 then none
      else some { lexer with state := .quoted (c :: chars) }
  | .escape chars =>
      if c = 'u' then some { lexer with state := .hex chars 0 0 }
      else (escaped? c).map fun e => { lexer with state := .quoted (e :: chars) }
  | .hex chars count value => do
      let digit ← Text.digitValue c
      let value := value * 16 + digit
      if count < 3 then return { lexer with state := .hex chars (count + 1) value }
      else if 0xD800 ≤ value ∧ value < 0xDC00 then
        return { lexer with state := .lowMark chars value }
      else if 0xDC00 ≤ value ∧ value < 0xE000 then none
      else return { lexer with state := .quoted (Char.ofNat value :: chars) }
  | .lowMark chars high =>
      if c = '\\' then some { lexer with state := .lowEscape chars high } else none
  | .lowEscape chars high =>
      if c = 'u' then some { lexer with state := .lowHex chars high 0 0 } else none
  | .lowHex chars high count value => do
      let digit ← Text.digitValue c
      let value := value * 16 + digit
      if count < 3 then return { lexer with state := .lowHex chars high (count + 1) value }
      else if 0xDC00 ≤ value ∧ value < 0xE000 then
        let point := 0x10000 + (high - 0xD800) * 0x400 + (value - 0xDC00)
        return { lexer with state := .quoted (Char.ofNat point :: chars) }
      else none

/-- The tokens of a text. -/
def tokens? (text : List Char) : Option (List Token) := do
  let lexer ← text.foldlM Lexer.step ⟨.between, []⟩
  match lexer.state with
  | .between => return lexer.tokens.reverse
  | .word chars => do
      let value ← ofWord? chars.reverse
      return (.scalar value :: lexer.tokens).reverse
  | _ => none

/-- A container that is still open, with what it holds so far, in reverse. -/
inductive Frame where
  | items (done : List Json)
  | members (done : List (String × Json))
  | member (done : List (String × Json)) (key : String)

/-- What may come next. -/
inductive Expected where
  | value
  | firstItem
  | firstKey
  | key
  | colon
  | separator
  | finished (value : Json)

/-- The token machine in mid-run: the open containers, innermost first, and what may follow. -/
structure Builder where
  frames : List Frame
  expected : Expected

/-- A finished value goes into the innermost open container. -/
def Builder.put (frames : List Frame) (value : Json) : Option Builder :=
  match frames with
  | [] => some ⟨[], .finished value⟩
  | .items done :: outer => some ⟨.items (value :: done) :: outer, .separator⟩
  | .member done key :: outer => some ⟨.members ((key, value) :: done) :: outer, .separator⟩
  | .members _ :: _ => none

/-- A token that begins a value. -/
def Builder.begin (maxDepth : Nat) (frames : List Frame) : Token → Option Builder
  | .openObject =>
      if frames.length < maxDepth then some ⟨.members [] :: frames, .firstKey⟩ else none
  | .openArray =>
      if frames.length < maxDepth then some ⟨.items [] :: frames, .firstItem⟩ else none
  | .string text => Builder.put frames (.string text)
  | .scalar value => Builder.put frames value
  | _ => none

/-- The end of the innermost container. -/
def Builder.close (frames : List Frame) : Token → Option Builder
  | .closeArray =>
      match frames with
      | .items done :: outer => Builder.put outer (.array done.reverse)
      | _ => none
  | .closeObject =>
      match frames with
      | .members done :: outer => Builder.put outer (Json.ofMembers done.reverse)
      | _ => none
  | _ => none

/-- A member's key. -/
def Builder.name (frames : List Frame) : Token → Option Builder
  | .string key =>
      match frames with
      | .members done :: outer => some ⟨.member done key :: outer, .colon⟩
      | _ => none
  | _ => none

/-- One token. -/
def Builder.step (maxDepth : Nat) (builder : Builder) (token : Token) : Option Builder :=
  let frames := builder.frames
  match builder.expected with
  | .value => Builder.begin maxDepth frames token
  | .firstItem => (Builder.close frames token).or (Builder.begin maxDepth frames token)
  | .firstKey => (Builder.close frames token).or (Builder.name frames token)
  | .key => Builder.name frames token
  | .colon =>
      match token with
      | .colon => some ⟨frames, .value⟩
      | _ => none
  | .separator =>
      match token, frames with
      | .comma, .items _ :: _ => some ⟨frames, .value⟩
      | .comma, .members _ :: _ => some ⟨frames, .key⟩
      | _, _ => Builder.close frames token
  | .finished _ => none

/-- The value that a text denotes, with containers nested at most `maxDepth` deep. -/
def parseWithin (maxDepth : Nat) (text : List Char) : Option Json := do
  let tokens ← tokens? text
  let builder ← tokens.foldlM (Builder.step maxDepth) ⟨[], .value⟩
  match builder.expected with
  | .finished value => some value
  | _ => none

/-- How deep the containers of a file may nest. -/
def maxDepth : Nat := 127

/-- The value of a file's text. -/
def parse? (text : String) : Option Json := parseWithin maxDepth text.toList

end Runbook.Json
