import Runbook.Script.Expression

/-!
# Statements of helper scripts

A reader that accepts a script or not and keeps the functions and classes that are defined at its
top level. A line break ends a statement only where the statement may end; elsewhere it is a
space, unless the next line stands left of the block.
-/

namespace Runbook.Script

open Reading

/-- Something defined at the top level: the row it starts in, and its name where it is a
function. -/
structure Definition where
  row : Nat
  function : Option Word
deriving DecidableEq, Repr

/-- A parser for scripts: what a script defines at its top level, in order, or nothing where it
breaks the grammar. -/
abbrev Parser := String → Option (List Definition)

/-- The right side of an assignment, which may be an assignment itself. -/
def assigned (setting : Setting) (fuel : Nat) : Nat → Reading Unit
  | 0 => failure
  | rounds + 1 => do
      skipBreak setting.indent
      if ← atName "yield" then yielded setting fuel
      else
        let operand ← expressions setting fuel
        if ← takeOp "=" then
          if operand.isTarget then assigned setting fuel rounds else failure
        else
          match ← peek with
          | some (.op op) =>
              if augmented.contains op && operand.isTarget then
                discard next
                assigned setting fuel rounds
          | _ => return

/-- A statement that is an expression or an assignment. -/
def expressionStatement (setting : Setting) (fuel : Nat) : Reading Unit := do
  if ← atName "yield" then yielded setting fuel
  else
    let operand ← expressions setting fuel
    if ← takeOp "=" then
      if operand.isTarget then assigned setting fuel fuel else failure
    else if operand.isTarget then
      match ← peek with
      | some (.op op) =>
          if augmented.contains op then
            discard next
            assigned setting fuel fuel
          else if op = ":" then
            discard next
            discard (expression setting fuel)
            if ← takeOp "=" then assigned setting fuel fuel
      | _ => return

/-- A dotted name. -/
def dottedName (indent : Nat) : Nat → Reading Unit
  | 0 => failure
  | fuel + 1 => do
      discard (needAnyName indent)
      if ← takeOp "." then dottedName indent fuel

/-- Imported names with their aliases, up to where no comma follows. -/
def importedNames (indent : Nat) : Nat → Reading Unit
  | 0 => failure
  | fuel + 1 => do
      dottedName indent (fuel + 1)
      if ← takeName "as" then discard (needAnyName indent)
      if ← takeOp "," then
        match ← peek with
        | some (.name _) => importedNames indent fuel
        | _ => return

/-- The dots before a relative name. -/
def takeDots : Nat → Reading Bool
  | 0 => failure
  | fuel + 1 => do
      if (← takeOp ".") || (← takeOp "...") then
        discard (takeDots fuel)
        return true
      else return false

/-- An import from a module, after its first word. -/
def importFrom (indent fuel : Nat) : Reading Unit := do
  skipBreak indent
  let relative ← takeDots fuel
  if !(relative && (← atName "import")) then dottedName indent fuel
  needName indent "import"
  skipBreak indent
  if ← takeOp "*" then return
  else if ← takeOp "(" then
    importedNames indent fuel
    needOp indent ")"
  else importedNames indent fuel

/-- Names with commas between. -/
def nameList (indent : Nat) : Nat → Reading Unit
  | 0 => failure
  | fuel + 1 => do
      discard (needAnyName indent)
      if ← takeOp "," then nameList indent fuel

/-- Expressions with commas between, at least one. -/
def expressionList (setting : Setting) (fuel : Nat) : Reading Unit :=
  discard (expressions setting fuel)

/-- The statements that begin with a word of their own. Some of the words are names as well,
which is tried where the statement cannot be read. -/
def simpleStatement (indent fuel : Nat) : Reading Unit := do
  let setting : Setting := ⟨indent, true⟩
  let plain := expressionStatement setting fuel
  let orPlain (statement : Reading Unit) : Reading Unit :=
    either
      (do
        discard next
        statement
        if ← atEnd then return else failure)
      plain
  match ← peek with
  | some (.name word) =>
      match word.text with
      | "import" => discard next; importedNames indent fuel
      | "from" => discard next; importFrom indent fuel
      | "assert" => discard next; expressionList setting fuel
      | "del" => discard next; expressionList setting fuel
      | "return" => discard next; if ← atEnd then return else expressionList setting fuel
      | "raise" =>
          discard next
          if ← atEnd then return
          else
            expressionList setting fuel
            if ← takeName "from" then discard (expression setting fuel)
      | "pass" | "break" | "continue" => discard next
      | "global" | "nonlocal" => discard next; nameList indent fuel
      | "print" =>
          orPlain do
            if ← takeOp ">>" then
              discard (expression setting fuel)
              if ← takeOp "," then
                if ← atEnd then return else expressionList setting fuel
            else expressionList setting fuel
      | "exec" =>
          orPlain do
            discard (primary setting fuel)
            if ← takeName "in" then expressionList setting fuel
      | "type" =>
          orPlain do
            discard (expression setting fuel)
            needOp indent "="
            discard (expression setting fuel)
      | _ => plain
  | _ => plain

/-- Simple statements with semicolons between, up to the end of their line. -/
def simpleStatements (indent fuel : Nat) : Nat → Reading Unit
  | 0 => failure
  | rounds + 1 => do
      simpleStatement indent fuel
      if ← takeOp ";" then
        match ← peek with
        | none => return
        | some (.newline _) => return
        | _ => simpleStatements indent fuel rounds
      else if ← atEnd then return
      else failure

/-- Is the next word `word`, on a line of the block? A line break before it is passed over. -/
def takeClause (indent : Nat) (word : String) : Reading Bool := do
  let before ← get
  match before with
  | ⟨.newline n, _⟩ :: rest => if indent ≤ n then set rest
  | _ => return false
  if ← takeName word then return true
  else
    set before
    return false

mutual

/-- A statement; what it defines, where it is a definition. -/
def statement (indent : Nat) : Nat → Reading (Option Definition)
  | 0 => failure
  | fuel + 1 => do
      let row ← row
      let header : Setting := ⟨indent, false⟩
      let defined (name : Option Word) : Reading (Option Definition) :=
        return some ⟨row, name⟩
      let plain : Reading (Option Definition) := do
        simpleStatements indent fuel fuel
        return none
      match ← peek with
      | some (.op "@") =>
          decorators indent fuel
          if ← takeName "class" then
            classRest indent fuel
            defined none
          else
            discard (takeName "async")
            needName indent "def"
            defined (← functionRest indent fuel)
      | some (.name word) =>
          match word.text with
          | "class" => discard next; classRest indent fuel; defined none
          | "def" => discard next; defined (← functionRest indent fuel)
          | "async" =>
              either
                (do
                  discard next
                  if ← takeName "def" then defined (← functionRest indent fuel)
                  else if ← takeName "for" then forRest indent fuel; return none
                  else if ← takeName "with" then withRest indent fuel; return none
                  else failure)
                plain
          | "if" =>
              discard next
              discard (expression header fuel)
              suite indent fuel
              ifRest indent fuel
              return none
          | "while" =>
              discard next
              discard (expression header fuel)
              suite indent fuel
              elseRest indent fuel
              return none
          | "for" => discard next; forRest indent fuel; return none
          | "try" =>
              discard next
              suite indent fuel
              if ← handlers indent fuel then
                elseRest indent fuel
                discard (finallyRest indent fuel)
                return none
              else if ← finallyRest indent fuel then return none
              else failure
          | "with" => discard next; withRest indent fuel; return none
          | "match" =>
              either
                (do
                  discard next
                  discard (expressions header fuel)
                  needOp indent ":"
                  cases indent fuel
                  return none)
                plain
          | _ => plain
      | _ => plain

/-- The colon of a header and the statements that belong to it: on the same line, in a block that
stands deeper, or none at all. -/
def suite (indent : Nat) : Nat → Reading Unit
  | 0 => failure
  | fuel + 1 => do
      needOp indent ":"
      match ← get with
      | [] => return
      | ⟨.newline n, _⟩ :: rest =>
          if indent < n then
            set rest
            discard (block n fuel)
          else return
      | _ => simpleStatements indent fuel fuel

/-- The statements of a block, up to a line that stands left of it. -/
def block (indent : Nat) : Nat → Reading (List Definition)
  | 0 => failure
  | fuel + 1 => do
      match ← get with
      | [] => return []
      | _ =>
          let first ← statement indent fuel
          let rest ←
            match ← get with
            | ⟨.newline n, _⟩ :: rest =>
                if indent ≤ n then
                  set rest
                  block indent fuel
                else pure []
            | [] => pure []
            | _ => failure
          return first.toList ++ rest

/-- The decorators of a definition. -/
def decorators (indent : Nat) : Nat → Reading Unit
  | 0 => failure
  | fuel + 1 => do
      if ← takeOp "@" then
        discard (expression ⟨indent, true⟩ fuel)
        match ← next with
        | some (.newline n) => if n < indent then failure else decorators indent fuel
        | _ => failure
      else return

/-- A function after its first word; its name. -/
def functionRest (indent : Nat) : Nat → Reading (Option Word)
  | 0 => failure
  | fuel + 1 => do
      let header : Setting := ⟨indent, false⟩
      let name ← needAnyName indent
      typeParameters indent fuel
      needOp indent "("
      parameters header fuel
      skipBreak indent
      if ← takeOp "->" then discard (expression header fuel)
      suite indent fuel
      return some name

/-- The type parameters of a function or class, where there are any. -/
def typeParameters (indent : Nat) : Nat → Reading Unit
  | 0 => failure
  | fuel + 1 => do
      skipBreak indent
      if ← takeOp "[" then typeParameterRest fuel
      else return
where
  /-- The type parameters up to their closing bracket. -/
  typeParameterRest (fuel : Nat) : Reading Unit := do
    let rec loop : Nat → Reading Unit
      | 0 => failure
      | rounds + 1 => do
          discard (expression ⟨indent, false⟩ fuel)
          if ← takeOp ":" then discard (expression ⟨indent, false⟩ fuel)
          if ← takeOp "]" then return
          else
            needOp indent ","
            loop rounds
    loop fuel

/-- A class after its first word. -/
def classRest (indent : Nat) : Nat → Reading Unit
  | 0 => failure
  | fuel + 1 => do
      discard (needAnyName indent)
      typeParameters indent fuel
      skipBreak indent
      if ← takeOp "(" then arguments ⟨indent, false⟩ fuel
      suite indent fuel

/-- The other branches of a condition. -/
def ifRest (indent : Nat) : Nat → Reading Unit
  | 0 => failure
  | fuel + 1 => do
      if ← takeClause indent "elif" then
        discard (expression ⟨indent, false⟩ fuel)
        suite indent fuel
        ifRest indent fuel
      else elseRest indent fuel

/-- The last branch, where there is one. -/
def elseRest (indent : Nat) : Nat → Reading Unit
  | 0 => failure
  | fuel + 1 => do
      if ← takeClause indent "else" then suite indent fuel else return

/-- What is done at the end in any case, where there is something; says whether there is. -/
def finallyRest (indent : Nat) : Nat → Reading Bool
  | 0 => failure
  | fuel + 1 => do
      if ← takeClause indent "finally" then
        suite indent fuel
        return true
      else return false

/-- The handlers of a try; says whether there are any. -/
def handlers (indent : Nat) : Nat → Reading Bool
  | 0 => failure
  | fuel + 1 => do
      if ← takeClause indent "except" then
        let header : Setting := ⟨indent, false⟩
        skipBreak indent
        discard (takeOp "*")
        if !(← atOp ":") then
          discard (expression header fuel)
          if ← takeOp "," then discard (expression header fuel)
        suite indent fuel
        discard (handlers indent fuel)
        return true
      else return false

/-- A loop over items, after its first word. -/
def forRest (indent : Nat) : Nat → Reading Unit
  | 0 => failure
  | fuel + 1 => do
      let header : Setting := ⟨indent, false⟩
      targets header fuel
      needName indent "in"
      discard (expressions header fuel)
      suite indent fuel
      elseRest indent fuel

/-- A context, after its first word. Its items may stand in brackets. -/
def withRest (indent : Nat) : Nat → Reading Unit
  | 0 => failure
  | fuel + 1 => do
      discard (expressions ⟨indent, false⟩ fuel)
      suite indent fuel

/-- The cases of a match: a block of them, or none. -/
def cases (indent : Nat) : Nat → Reading Unit
  | 0 => failure
  | fuel + 1 => do
      match ← get with
      | ⟨.newline n, _⟩ :: rest =>
          if indent < n then
            set rest
            caseClauses n fuel
          else return
      | [] => return
      | _ => failure

/-- Cases, up to a line that stands left of them. -/
def caseClauses (indent : Nat) : Nat → Reading Unit
  | 0 => failure
  | fuel + 1 => do
      let header : Setting := ⟨indent, false⟩
      needName indent "case"
      discard (expressions header fuel)
      skipBreak indent
      if ← takeName "if" then discard (expression header fuel)
      suite indent fuel
      match ← get with
      | ⟨.newline n, _⟩ :: rest =>
          if indent ≤ n then
            set rest
            if ← atName "case" then caseClauses indent fuel else failure
          else return
      | [] => return
      | _ => failure

end

/-- The definitions at the top level of a script, or nothing when it breaks the grammar. -/
def definitions? (source : String) : Option (List Definition) := do
  let lexemes ← lexemes? source.toList
  let body :=
    match lexemes with
    | ⟨.newline _, _⟩ :: rest => rest
    | _ => lexemes
  let (definitions, rest) ← (block 0 (20 * lexemes.length + 20)).run body
  if rest.isEmpty then some definitions else none

end Runbook.Script
