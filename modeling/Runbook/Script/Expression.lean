import Runbook.Script.Reading

/-!
# Expressions of helper scripts

What an expression is, and whether it can be assigned to; its value does not matter here. A word
is a keyword only where the grammar has a place for that keyword.
-/

namespace Runbook.Script

open Reading

/-- The kinds of operands: something that can be assigned to, a bare name among them, or any
other value. -/
inductive Operand where
  | name
  | place
  | target
  | value
deriving DecidableEq

/-- Can it be assigned to? -/
def Operand.isTarget (operand : Operand) : Bool := operand ≠ .value

/-- The operators between operands that bind closer than comparisons. -/
def arithmetic : List String := ["+", "-", "*", "/", "%", "@", "//", "**", "&", "|", "^", "<<", ">>"]

/-- The comparisons that are written as operators. -/
def comparisons : List String := ["<", "<=", "==", "!=", ">=", ">", "<>"]

/-- The operators that combine with an assignment. -/
def augmented : List String :=
  ["+=", "-=", "*=", "/=", "@=", "//=", "%=", "**=", ">>=", "<<=", "&=", "^=", "|="]

/-- The inside of a bracket: line breaks are not units there. -/
def inside (setting : Setting) : Setting := { setting with ends := false }

mutual

/-- A whole expression. -/
def expression (setting : Setting) : Nat → Reading Operand
  | 0 => failure
  | fuel + 1 => do
      skipBreak setting.indent
      if ← takeName "lambda" then
        lambdaParameters setting fuel
        needOp setting.indent ":"
        discard (expression setting fuel)
        return .value
      else
        let first ← negation setting fuel
        expressionRest setting first fuel

/-- What may follow the first operand of an expression: connectives, a condition, an alias, or a
value that is bound. -/
def expressionRest (setting : Setting) (first : Operand) : Nat → Reading Operand
  | 0 => failure
  | fuel + 1 => do
      let before ← get
      skipInner setting
      if (← takeName "and") || (← takeName "or") then
        skipBreak setting.indent
        if ← atName "lambda" then discard (expression setting fuel)
        else discard (negation setting fuel)
        expressionRest setting .value fuel
      else if ← takeName "if" then
        -- A condition without its other branch filters a comprehension.
        either
          (do
            discard (expression setting fuel)
            skipInner setting
            needName setting.indent "else"
            discard (expression setting fuel)
            return .value)
          (do set before; return first)
      else if ← takeName "as" then
        discard (expression setting fuel)
        return .value
      else if first = .name then
        if ← takeOp ":=" then
          discard (expression setting fuel)
          return .value
        else set before; return first
      else set before; return first

/-- A comparison, or the negation of one. -/
def negation (setting : Setting) : Nat → Reading Operand
  | 0 => failure
  | fuel + 1 => do
      skipBreak setting.indent
      if ← takeName "not" then
        skipBreak setting.indent
        if ← atName "lambda" then discard (expression setting fuel)
        else discard (negation setting fuel)
        return .value
      else
        let first ← sum setting fuel
        comparisonRest setting first fuel

/-- The comparisons after an operand. -/
def comparisonRest (setting : Setting) (first : Operand) : Nat → Reading Operand
  | 0 => failure
  | fuel + 1 => do
      let before ← get
      skipInner setting
      match ← peek with
      | some (.op op) =>
          if comparisons.contains op then
            discard next
            discard (sum setting fuel)
            comparisonRest setting .value fuel
          else set before; return first
      | some (.name word) =>
          match word.text with
          | "in" =>
              discard next
              discard (sum setting fuel)
              comparisonRest setting .value fuel
          | "is" =>
              discard next
              skipBreak setting.indent
              discard (takeName "not")
              discard (sum setting fuel)
              comparisonRest setting .value fuel
          | "not" =>
              discard next
              needName setting.indent "in"
              discard (sum setting fuel)
              comparisonRest setting .value fuel
          | _ => set before; return first
      | _ => set before; return first

/-- Operands with arithmetic between them. -/
def sum (setting : Setting) : Nat → Reading Operand
  | 0 => failure
  | fuel + 1 => do
      let first ← unary setting fuel
      sumRest setting first fuel

/-- The arithmetic after an operand. -/
def sumRest (setting : Setting) (first : Operand) : Nat → Reading Operand
  | 0 => failure
  | fuel + 1 => do
      let before ← get
      skipInner setting
      match ← peek with
      | some (.op op) =>
          if arithmetic.contains op then
            discard next
            discard (unary setting fuel)
            sumRest setting .value fuel
          else set before; return first
      | _ => set before; return first

/-- An operand with the signs before it. -/
def unary (setting : Setting) : Nat → Reading Operand
  | 0 => failure
  | fuel + 1 => do
      skipBreak setting.indent
      match ← peek with
      | some (.op op) =>
          if op = "-" ∨ op = "+" ∨ op = "~" then
            discard next
            discard (unary setting fuel)
            return .value
          else if op = "*" then
            discard next
            let operand ← primary setting fuel
            if operand = .name ∨ operand = .place then return .target else failure
          else primary setting fuel
      | some (.name word) =>
          if word.text = "await" then
            either
              (do
                discard next
                if ← atOperand then
                  discard (primary setting fuel)
                  return .value
                else failure)
              (primary setting fuel)
          else primary setting fuel
      | _ => primary setting fuel

/-- An atom with the calls, subscripts and attributes after it. -/
def primary (setting : Setting) : Nat → Reading Operand
  | 0 => failure
  | fuel + 1 => do
      skipBreak setting.indent
      let first ← atom setting fuel
      primaryRest setting first fuel

/-- The calls, subscripts and attributes after an operand. -/
def primaryRest (setting : Setting) (first : Operand) : Nat → Reading Operand
  | 0 => failure
  | fuel + 1 => do
      let before ← get
      skipInner setting
      match ← peek with
      | some (.op ".") =>
          discard next
          discard (needAnyName setting.indent)
          primaryRest setting .place fuel
      | some (.op "(") =>
          discard next
          arguments setting fuel
          primaryRest setting .value fuel
      | some (.op "[") =>
          discard next
          subscripts setting fuel
          primaryRest setting .place fuel
      | _ => set before; return first

/-- A name, a literal, or something in brackets. -/
def atom (setting : Setting) : Nat → Reading Operand
  | 0 => failure
  | fuel + 1 => do
      match ← peek with
      | some (.name word) =>
          if ["lambda", "not", "yield"].contains word.text then failure
          else
            discard next
            return if ["True", "False", "None"].contains word.text then .value else .name
      | some .number => discard next; return .value
      | some .stringStart => strings setting fuel; return .value
      | some (.op "...") => discard next; return .value
      | some (.op "(") => discard next; elements setting ")" fuel
      | some (.op "[") => discard next; elements setting "]" fuel
      | some (.op "\x7b") => discard next; entries setting fuel; return .value
      | _ => failure

/-- One string or more. -/
def strings (setting : Setting) : Nat → Reading Unit
  | 0 => failure
  | fuel + 1 => do
      stringParts setting fuel
      let before ← get
      skipInner setting
      if (← peek) = some .stringStart then strings setting fuel else set before

/-- The parts of a string from its start to its end. -/
def stringParts (setting : Setting) : Nat → Reading Unit
  | 0 => failure
  | fuel + 1 => do
      match ← next with
      | some .stringStart => stringParts setting fuel
      | some .stringEnd => return
      | some .embed => embedded setting fuel; stringParts setting fuel
      | _ => failure

/-- An embedded expression up to its end, with its conversion and format. -/
def embedded (setting : Setting) : Nat → Reading Unit
  | 0 => failure
  | fuel + 1 => do
      if ← atName "yield" then yielded (inside setting) fuel
      else discard (expressions (inside setting) fuel)
      discard (takeOp "=")
      if (← peek) = some .conversion then discard next
      if (← peek) = some .formatStart then
        discard next
        formatParts setting fuel
      else
        match ← next with
        | some .embedEnd => return
        | _ => failure

/-- The expressions in a format, up to the end of what it belongs to. -/
def formatParts (setting : Setting) : Nat → Reading Unit
  | 0 => failure
  | fuel + 1 => do
      match ← next with
      | some .embed => embedded setting fuel; formatParts setting fuel
      | some .embedEnd => return
      | _ => failure

/-- One expression or several with commas, and whether they can be assigned to. -/
def expressions (setting : Setting) : Nat → Reading Operand
  | 0 => failure
  | fuel + 1 => do
      let first ← expression setting fuel
      expressionsRest setting first fuel

/-- What follows the first of several expressions. -/
def expressionsRest (setting : Setting) (first : Operand) : Nat → Reading Operand
  | 0 => failure
  | fuel + 1 => do
      let before ← get
      skipInner setting
      if ← takeOp "," then
        let more ← atOperand
        let starts := more || (← atName "lambda") || (← atName "not")
        if starts then
          let operand ← expression setting fuel
          let both := if first.isTarget && operand.isTarget then Operand.target else .value
          expressionsRest setting both fuel
        else return if first.isTarget then .target else .value
      else set before; return first

/-- The clauses of a comprehension, where there are any. -/
def comprehension (setting : Setting) : Nat → Reading Bool
  | 0 => failure
  | fuel + 1 => do
      if (← atName "for") || (← atName "async") then
        clauses setting fuel
        return true
      else return false

/-- The clauses of a comprehension. -/
def clauses (setting : Setting) : Nat → Reading Unit
  | 0 => failure
  | fuel + 1 => do
      if (← atName "for") || (← atName "async") then
        discard (takeName "async")
        needName setting.indent "for"
        targets (inside setting) fuel
        needName setting.indent "in"
        discard (expressions (inside setting) fuel)
        clauses setting fuel
      else if ← takeName "if" then
        discard (expression (inside setting) fuel)
        clauses setting fuel
      else return

/-- What a loop assigns to. -/
def targets (setting : Setting) : Nat → Reading Unit
  | 0 => failure
  | fuel + 1 => do
      discard (takeOp "*")
      let operand ← primary setting fuel
      if !operand.isTarget then failure
      else
        skipInner setting
        if ← takeOp "," then
          skipInner setting
          if ← atName "in" then return else targets setting fuel
        else return

/-- What stands in round or square brackets, up to the one that closes them. -/
def elements (setting : Setting) (close : String) : Nat → Reading Operand
  | 0 => failure
  | fuel + 1 => do
      if ← takeOp close then return .target
      else
        let operand ← element setting fuel
        if ← comprehension setting fuel then
          needOp setting.indent close
          return .value
        else moreElements setting close operand fuel

/-- The elements after the first. -/
def moreElements (setting : Setting) (close : String) (sofar : Operand) : Nat → Reading Operand
  | 0 => failure
  | fuel + 1 => do
      let kind : Operand := if sofar.isTarget then .target else .value
      if ← takeOp close then return kind
      else
        needOp setting.indent ","
        if ← takeOp close then return kind
        else
          let operand ← element setting fuel
          let both := if sofar.isTarget && operand.isTarget then Operand.target else .value
          moreElements setting close both fuel

/-- An element in brackets: an expression, one that is spread out, or a value to yield. -/
def element (setting : Setting) : Nat → Reading Operand
  | 0 => failure
  | fuel + 1 => do
      let setting := inside setting
      if ← atName "yield" then
        yielded setting fuel
        return .value
      else if ← atOp "*" then
        either (expression setting fuel) (do
          discard next
          discard (expression setting fuel)
          return .value)
      else expression setting fuel

/-- What stands in curly brackets, up to the one that closes them: pairs or elements. -/
def entries (setting : Setting) : Nat → Reading Unit
  | 0 => failure
  | fuel + 1 => do
      if ← takeOp "\x7d" then return
      else if ← takeOp "," then needOp setting.indent "\x7d"
      else if ← atOp "**" then pairs setting fuel
      else
        let before ← get
        discard (element setting fuel)
        if ← atOp ":" then
          set before
          pairs setting fuel
        else if ← comprehension setting fuel then needOp setting.indent "\x7d"
        else discard (moreElements setting "\x7d" .value fuel)

/-- The pairs of a dictionary up to its end. -/
def pairs (setting : Setting) : Nat → Reading Unit
  | 0 => failure
  | fuel + 1 => do
      let inner := inside setting
      if ← takeOp "**" then discard (sum inner fuel)
      else
        discard (expression inner fuel)
        needOp setting.indent ":"
        discard (expression inner fuel)
        discard (comprehension setting fuel)
      if ← takeOp "\x7d" then return
      else
        needOp setting.indent ","
        if ← takeOp "\x7d" then return else pairs setting fuel

/-- The arguments of a call up to its closing bracket. -/
def arguments (setting : Setting) : Nat → Reading Unit
  | 0 => failure
  | fuel + 1 => do
      if ← takeOp ")" then return
      else if ← takeOp "," then needOp setting.indent ")"
      else
        argument setting fuel
        if ← comprehension setting fuel then needOp setting.indent ")"
        else moreArguments setting fuel

/-- The arguments after the first. -/
def moreArguments (setting : Setting) : Nat → Reading Unit
  | 0 => failure
  | fuel + 1 => do
      if ← takeOp ")" then return
      else
        needOp setting.indent ","
        if ← takeOp ")" then return
        else
          argument setting fuel
          moreArguments setting fuel

/-- One argument: an expression, a named one, or one that is spread out. -/
def argument (setting : Setting) : Nat → Reading Unit
  | 0 => failure
  | fuel + 1 => do
      let setting := inside setting
      if (← takeOp "**") || (← takeOp "*") then discard (expression setting fuel)
      else
        let operand ← expression setting fuel
        if operand = .name then
          if ← takeOp "=" then discard (expression setting fuel)

/-- The subscripts of an operand up to their closing bracket. -/
def subscripts (setting : Setting) : Nat → Reading Unit
  | 0 => failure
  | fuel + 1 => do
      subscript setting fuel
      if ← takeOp "]" then return
      else
        needOp setting.indent ","
        if ← takeOp "]" then return else subscripts setting fuel

/-- One subscript: an expression or a slice. -/
def subscript (setting : Setting) : Nat → Reading Unit
  | 0 => failure
  | fuel + 1 => do
      let setting := inside setting
      let bound : Reading Unit := do
        if (← atOp ":") || (← atOp "]") || (← atOp ",") then return
        else discard (expression setting fuel)
      if ← atOp ":" then return (← sliceRest bound)
      else
        discard (expression setting fuel)
        sliceRest bound
where
  /-- What follows the first bound of a slice. -/
  sliceRest (bound : Reading Unit) : Reading Unit := do
    if ← takeOp ":" then
      bound
      if ← takeOp ":" then bound

/-- A value that is yielded. -/
def yielded (setting : Setting) : Nat → Reading Unit
  | 0 => failure
  | fuel + 1 => do
      discard (takeName "yield")
      if ← takeName "from" then discard (expression setting fuel)
      else if (← atOperand) || (← atName "lambda") || (← atName "not") then
        discard (expressions setting fuel)

/-- The parameters of a lambda up to its colon. -/
def lambdaParameters (setting : Setting) : Nat → Reading Unit
  | 0 => failure
  | fuel + 1 => do
      skipBreak setting.indent
      if ← atOp ":" then return
      else
        parameter setting false fuel
        skipBreak setting.indent
        if ← takeOp "," then lambdaParameters setting fuel

/-- The parameters of a function up to their closing bracket. -/
def parameters (setting : Setting) : Nat → Reading Unit
  | 0 => failure
  | fuel + 1 => do
      if ← takeOp ")" then return
      else
        parameter setting true fuel
        if ← takeOp ")" then return
        else
          needOp setting.indent ","
          parameters setting fuel

/-- One parameter with its type, where types may be given, and its default. -/
def parameter (setting : Setting) (typed : Bool) : Nat → Reading Unit
  | 0 => failure
  | fuel + 1 => do
      let starred := (← takeOp "**") || (← takeOp "*")
      if starred then
        if (← atOp ",") || (← atOp ")") || (← atOp ":") then return
      else if ← takeOp "/" then return
      if ← takeOp "(" then discard (elements setting ")" fuel)
      else discard (needAnyName setting.indent)
      if typed then
        if ← takeOp ":" then discard (expression (inside setting) fuel)
      if ← takeOp "=" then
        if starred then failure else discard (expression (inside setting) fuel)

end

end Runbook.Script
