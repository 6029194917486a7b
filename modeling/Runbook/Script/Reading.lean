import Runbook.Script.Lexeme

/-!
# Reading units

The steps with which a script is read from its units: looking at the next one, taking a word or
mark, and passing over the line breaks that end nothing.
-/

namespace Runbook.Script

/-- Reading takes units from the front. -/
abbrev Reading := StateT (List Lexeme) Option

/-- Where an expression stands: the indentation of its block, and whether a line break may end
it. -/
structure Setting where
  indent : Nat
  ends : Bool

namespace Reading

/-- The next unit. -/
def peek : Reading (Option Token) := do
  return (← get).head?.map Lexeme.token

/-- The next unit is taken. -/
def next : Reading (Option Token) := do
  match ← get with
  | [] => return none
  | lexeme :: rest => set rest; return some lexeme.token

/-- The row of the next unit. -/
def row : Reading Nat := do
  return ((← get).head?.map Lexeme.row).getD 0

/-- A line break that ends nothing is passed over, unless the next line is left of the block. -/
def skipBreak (indent : Nat) : Reading Unit := do
  match ← get with
  | ⟨.newline n, _⟩ :: rest => if indent ≤ n then set rest else failure
  | _ => return

/-- A line break is passed over where it could not end the expression. -/
def skipInner (setting : Setting) : Reading Unit :=
  if setting.ends then return
  else do
    match ← get with
    | ⟨.newline n, _⟩ :: rest => if setting.indent ≤ n then set rest else return
    | _ => return

/-- Is the next unit this operator? -/
def atOp (op : String) : Reading Bool := do
  return (← peek) = some (.op op)

/-- Is the next unit this word? -/
def atName (word : String) : Reading Bool := do
  match ← peek with
  | some (.name found) => return found.text = word
  | _ => return false

/-- The operator is taken where it comes next. -/
def takeOp (op : String) : Reading Bool := do
  if ← atOp op then discard next; return true
  return false

/-- The word is taken where it comes next. -/
def takeName (word : String) : Reading Bool := do
  if ← atName word then discard next; return true
  return false

/-- The operator must come next. -/
def needOp (indent : Nat) (op : String) : Reading Unit := do
  skipBreak indent
  if ← takeOp op then return else failure

/-- The word must come next. -/
def needName (indent : Nat) (word : String) : Reading Unit := do
  skipBreak indent
  if ← takeName word then return else failure

/-- Any word must come next. -/
def needAnyName (indent : Nat) : Reading Word := do
  skipBreak indent
  match ← next with
  | some (.name word) => return word
  | _ => failure

/-- Does a simple statement end here? -/
def atEnd : Reading Bool := do
  match ← peek with
  | none => return true
  | some (.newline _) => return true
  | some (.op ";") => return true
  | _ => return false

/-- The first alternative that can be read. -/
def either (a b : Reading α) : Reading α := fun lexemes => (a lexemes).or (b lexemes)

/-- The words that stand between or after operands. -/
def operandEnds : List String :=
  ["and", "or", "in", "is", "not", "if", "else", "for", "as", "from", "async"]

/-- Could an operand begin at the next unit? -/
def atOperand : Reading Bool := do
  match ← peek with
  | some (.name word) =>
      return !(operandEnds.contains word.text)
  | some .number => return true
  | some .stringStart => return true
  | some (.op op) => return ["(", "[", "\x7b", "-", "+", "~", "*", "..."].contains op
  | _ => return false

end Reading

end Runbook.Script
