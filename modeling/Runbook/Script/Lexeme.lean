import Runbook.Text.Category

/-!
# Lexical units of helper scripts

Helper scripts are written in Python. A line break outside of brackets is a unit that knows the
indentation of the next line that holds anything. A string with embedded expressions is spelled
by units for its parts.
-/

namespace Runbook.Script

/-- May a name go on with the character? -/
def continuesName (c : Char) : Bool := Text.isWordChar c

/-- A name or a word of the language: a text of characters that names go on with. -/
structure Word where
  text : String
  continued : ∀ c ∈ text.toList, continuesName c = true
deriving DecidableEq, Repr

/-- A lexical unit. -/
inductive Token where
  | name (word : Word)
  | number
  | op (text : String)
  | newline (indent : Nat)
  | stringStart
  | stringEnd
  | embed
  | embedEnd
  | conversion
  | formatStart
deriving DecidableEq, Repr

/-- A unit with the row it stands in, counted from zero. -/
structure Lexeme where
  token : Token
  row : Nat
deriving Repr

/-- A string that is being read: its quotation mark, whether that stands three times, and what
the letters before it ask for. -/
structure Quotation where
  mark : Char
  triple : Bool
  raw : Bool
  bytes : Bool
  format : Bool

/-- What is open around a place in a script. An expression inside a string may have ended, so that
only its conversion and its format can follow, and a function without a name may stand in it whose
colon is still to come. -/
inductive Frame where
  | bracket
  | embedded
  | ended
  | anonymous
  | specifier
  | quotation (quotation : Quotation)

/-- The rest of a script, the row it begins in, and what is open there. -/
structure Place where
  rest : List Char
  row : Nat
  frames : List Frame

/-- May the character stand between units? -/
def isSpace (c : Char) : Bool :=
  c = ' ' || c = '\t' || c = '\r' || c = '\x0c' || c = '\x0b' || c.toNat == 0xFEFF ||
    c.toNat == 0x2060 || c.toNat == 0x200B

/-- May a name begin with the character? -/
def startsName (c : Char) : Bool := c = '_' || Text.isAlphabetic c

/-- The characters at the start of a text that a name goes on with. -/
def leadingWord (text : List Char) : Word where
  text := String.ofList (text.takeWhile continuesName)
  continued c member := by
    rw [String.toList_ofList] at member
    exact List.all_eq_true.1 List.all_takeWhile c member

/-- What follows digits with single underscores between or after them. -/
def takeDigits (afterDigit : Bool) : List Char → List Char
  | [] => []
  | c :: rest =>
      if Text.isDigit c then takeDigits true rest
      else if c = '_' && afterDigit then takeDigits false rest
      else c :: rest

/-- What follows an exponent, where there is one. -/
def skipExponent (text : List Char) : List Char :=
  match text with
  | mark :: rest =>
      if mark = 'e' ∨ mark = 'E' then
        let digits :=
          match rest with
          | sign :: after => if sign = '+' ∨ sign = '-' then after else rest
          | [] => rest
        if digits.head?.any Text.isDigit then takeDigits false digits else text
      else text
  | [] => text

/-- What follows digits of another base, with single underscores before them. -/
def takeBased (accepts : Char → Bool) : List Char → List Char
  | [] => []
  | c :: rest =>
      if accepts c || (c = '_' && rest.head?.any accepts) then takeBased accepts rest
      else c :: rest

/-- What follows one of the marks, where one comes next. -/
def skipMark (marks : String) (text : List Char) : List Char :=
  if text.head?.any marks.toList.contains then text.drop 1 else text

/-- What follows a decimal number. Only one without a point and an exponent may be marked as long. -/
def skipDecimal (text : List Char) : List Char :=
  let whole := takeDigits false text
  let fraction :=
    match whole with
    | '.' :: after => takeDigits false after
    | _ => whole
  let rest := skipExponent fraction
  skipMark (if rest.length = whole.length then "jJlL" else "jJ") rest

/-- The digits of a base that is named by a letter. -/
def basedDigit? (letter : Char) : Option (Char → Bool) :=
  match letter with
  | 'x' | 'X' => some fun c => (Text.digitValue c).isSome
  | 'o' | 'O' => some fun c => '0' ≤ c && c ≤ '7'
  | 'b' | 'B' => some fun c => c = '0' || c = '1'
  | _ => none

/-- What follows a number at the start of a text. A zero with the letter of a base behind it is a
number by itself where no digit of that base follows. -/
def skipNumber (text : List Char) : List Char :=
  match text with
  | '0' :: letter :: digits =>
      match basedDigit? letter with
      | some accepts =>
          let rest := takeBased accepts digits
          if rest.length = digits.length then skipDecimal text else skipMark "lL" rest
      | none => skipDecimal text
  | _ => skipDecimal text

/-- The operators and marks, longer ones before those they begin with. -/
def operators : List String :=
  ["**=", "//=", ">>=", "<<=", "...", "!=", "<>", "<=", ">=", "==", "->", ":=", "+=", "-=", "*=",
   "/=", "%=", "@=", "&=", "|=", "^=", "**", "//", ">>", "<<", "+", "-", "*", "/", "%", "@", "&",
   "|", "^", "~", "<", ">", "=", ".", ",", ":", ";"]

/-- The operator at the start of a text, and what follows. -/
def takeOperator (text : List Char) : Option (String × List Char) :=
  operators.findSome? fun op => (Text.dropLead op.toList text).map fun rest => (op, rest)

/-- The indentation of the next line that holds anything, with the rest of the script from
there and its row. The text begins after a line break. A tab counts as eight. -/
def nextLine : Nat → Nat → Nat → List Char → Nat × Nat × List Char
  | 0, indent, row, text => (indent, row, text)
  | fuel + 1, indent, row, text =>
      match text with
      | [] => (0, row, [])
      | '\n' :: rest => nextLine fuel 0 (row + 1) rest
      | ' ' :: rest => nextLine fuel (indent + 1) row rest
      | '\t' :: rest => nextLine fuel (indent + 8) row rest
      | '\r' :: rest => nextLine fuel 0 row rest
      | '\x0c' :: rest => nextLine fuel 0 row rest
      | '#' :: rest => nextLine fuel indent row (rest.dropWhile (· ≠ '\n'))
      | '\\' :: '\n' :: rest => nextLine fuel indent (row + 1) rest
      | '\\' :: '\r' :: '\n' :: rest => nextLine fuel indent (row + 1) rest
      | _ => (indent, row, text)

/-- The quotation that begins with the letters `letters` and the mark that follows them. -/
def quotationOf (letters : List Char) (mark : Char) (triple : Bool) : Quotation :=
  let has (a b : Char) := letters.any fun c => c = a || c = b
  ⟨mark, triple, has 'r' 'R', has 'b' 'B', has 'f' 'F'⟩

/-- The start of a string: letters that say how it is read, and a mark once or three times. -/
def takeStringStart (text : List Char) : Option (Quotation × List Char) :=
  let letters := text.takeWhile fun c => "fFrRbBuU".toList.contains c
  match text.drop letters.length with
  | mark :: rest =>
      if mark = '\'' ∨ mark = '"' ∨ mark = '\x60' then
        match rest with
        | b :: c :: after =>
            if mark ≠ '\x60' ∧ b = mark ∧ c = mark then some (quotationOf letters mark true, after)
            else some (quotationOf letters mark false, rest)
        | _ => some (quotationOf letters mark false, rest)
      else none
  | [] => none

/-- How many characters after a backslash belong to its escape. -/
def escapeLength (text : List Char) : Nat :=
  let hex (count : Nat) : Nat :=
    let digits := (text.drop 1).take count
    if digits.length = count ∧ digits.all fun c => (Text.digitValue c).isSome then count + 1 else 0
  match text with
  | '\n' :: _ => 1
  | '\r' :: '\n' :: _ => 2
  | 'x' :: _ => hex 2
  | 'u' :: _ => hex 4
  | 'U' :: _ => hex 8
  | 'N' :: '\x7b' :: rest =>
      match Text.cutAt ['\x7d'] rest with
      | some (name, _) => if name.isEmpty then 0 else name.length + 3
      | none => 0
  | a :: b :: c :: _ =>
      if "'\"abfrntv\\".toList.contains a then 1
      else if Text.isDigit a && Text.isDigit b && Text.isDigit c then 3
      else 0
  | a :: _ => if "'\"abfrntv\\".toList.contains a then 1 else 0
  | [] => 0

/-- One step inside a string. `fresh` says that nothing of the present stretch of text has been
read; only there may a string of one line hold a line break. -/
def stepString (quotation : Quotation) (fresh : Bool) (place : Place) :
    Option (Option Token × Bool × Place) :=
  let outer := place.frames.drop 1
  let goOn (fresh : Bool) (rest : List Char) := some (none, fresh, { place with rest := rest })
  match place.rest with
  | [] => none
  | c :: rest =>
      if quotation.format && c = '\x7b' then
        match rest with
        | '\x7b' :: rest => goOn true rest
        | _ => some (some .embed, true, { place with rest, frames := .embedded :: place.frames })
      else if quotation.format && c = '\x7d' then
        match rest with
        | '\x7d' :: rest => goOn true rest
        | _ => none
      else if c = '\\' then
        if quotation.raw then
          match rest with
          | d :: after =>
              if d = quotation.mark ∨ d = '\\' then goOn false after else goOn false rest
          | [] => goOn false rest
        else if quotation.bytes && rest.head?.any fun d => d = 'N' || d = 'u' || d = 'U' then
          goOn false (rest.drop 1)
        else
          let count := escapeLength rest
          let breaks := ((rest.take count).filter (· = '\n')).length
          some (none, true, { place with rest := rest.drop count, row := place.row + breaks })
      else if c = quotation.mark then
        if quotation.triple then
          match rest with
          | a :: b :: after =>
              if a = c ∧ b = c then some (some .stringEnd, true, ⟨after, place.row, outer⟩)
              else goOn true rest
          | _ => goOn true rest
        else some (some .stringEnd, true, ⟨rest, place.row, outer⟩)
      else if c = '\n' then
        if quotation.triple || fresh then
          some (none, false, { place with rest, row := place.row + 1 })
        else none
      else goOn false rest

/-- One step inside the format of an embedded expression. -/
def stepSpecifier (place : Place) : Option (Option Token × Place) :=
  match place.rest with
  | [] => none
  | '\n' :: _ => none
  | '\x7b' :: rest => some (some .embed, { place with rest, frames := .embedded :: place.frames })
  | '\x7d' :: rest => some (some .embedEnd, { place with rest, frames := place.frames.drop 2 })
  | _ :: rest => some (none, { place with rest })

/-- One step outside of strings. -/
def stepCode (place : Place) : Option (Option Token × Place) :=
  let frames := place.frames
  let goOn (rest : List Char) := some (none, { place with rest := rest })
  let unit (token : Token) (rest : List Char) := some (some token, { place with rest := rest })
  let outer := frames.drop 1
  let expecting : Bool := match frames with | .embedded :: _ => true | _ => false
  let ended : Bool := match frames with | .ended :: _ => true | _ => false
  let anonymous : Bool := match frames with | .anonymous :: _ => true | _ => false
  let embedded := expecting || ended
  let inBracket : Bool := match frames with | .bracket :: _ => true | _ => false
  match place.rest with
  | [] => none
  | c :: rest =>
      if c = '\n' then
        if frames.isEmpty then
          let (indent, row, rest) := nextLine (rest.length + 1) 0 (place.row + 1) rest
          some (some (.newline indent), ⟨rest, row, frames⟩)
        else some (none, { place with rest, row := place.row + 1 })
      else if isSpace c then goOn rest
      else if c = '#' then goOn (rest.dropWhile (· ≠ '\n'))
      else if c = '\\' then
        match rest with
        | '\n' :: rest => some (none, { place with rest, row := place.row + 1 })
        | '\r' :: '\n' :: rest => some (none, { place with rest, row := place.row + 1 })
        | _ => none
      else
        match takeStringStart place.rest with
        | some (quotation, rest) =>
            some (some .stringStart, { place with rest, frames := .quotation quotation :: frames })
        | none =>
            if startsName c then
              let word := leadingWord place.rest
              let inner := (embedded || anonymous) && word.text = "lambda"
              let rest := place.rest.dropWhile continuesName
              some (some (.name word),
                { place with rest, frames := if inner then .anonymous :: frames else frames })
            else if Text.isDigit c || (c = '.' && rest.head?.any Text.isDigit) then
              unit .number (skipNumber place.rest)
            else if c = '(' ∨ c = '[' ∨ c = '\x7b' then
              some (some (.op (String.singleton c)), { place with rest, frames := .bracket :: frames })
            else if c = '\x7d' && embedded then
              some (some .embedEnd, { place with rest, frames := outer })
            else if c = ')' ∨ c = ']' ∨ c = '\x7d' then
              if inBracket then
                some (some (.op (String.singleton c)), { place with rest, frames := outer })
              else none
            else if anonymous && c = ':' then
              some (some (.op ":"), { place with rest, frames := outer })
            else if embedded && c = ':' && (ended || rest.head? ≠ some '=') then
              some (some .formatStart, { place with rest, frames := .specifier :: frames })
            else if embedded && c = '!' && rest.head?.any Text.isLower then
              some (some .conversion,
                { place with rest := rest.drop 1, frames := .ended :: outer })
            else if expecting && c = '=' && rest.head? ≠ some '=' then
              some (some (.op "="), { place with rest, frames := .ended :: outer })
            else
              match takeOperator place.rest with
              | some (op, rest) => unit (.op op) rest
              | none => none

/-- The units of a script from a place on, in reverse after those that were read. -/
def lexFrom : Nat → Bool → Place → List Lexeme → Option (List Lexeme)
  | 0, _, _, _ => none
  | fuel + 1, fresh, place, lexemes =>
      let keep (token : Option Token) : List Lexeme :=
        match token with
        | some token => ⟨token, place.row⟩ :: lexemes
        | none => lexemes
      match place.frames with
      | .quotation quotation :: _ => do
          let (token, fresh, next) ← stepString quotation fresh place
          lexFrom fuel fresh next (keep token)
      | .specifier :: _ => do
          let (token, next) ← stepSpecifier place
          lexFrom fuel true next (keep token)
      | frames =>
          if place.rest.isEmpty then if frames.isEmpty then some lexemes.reverse else none
          else do
            let (token, next) ← stepCode place
            lexFrom fuel true next (keep token)

/-- The units of a script. Every step takes at least one character. -/
def lexemes? (source : List Char) : Option (List Lexeme) :=
  lexFrom (source.length + 2) true ⟨source, 0, []⟩ []

end Runbook.Script
