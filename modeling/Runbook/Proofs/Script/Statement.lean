import Runbook.Proofs.Script.Expression
import Runbook.Script.Statement

/-!
# Statements are read from the front

Every reading of a statement, or of a part of one, keeps to the last units of a script, as that of
an expression does (`keepsStatements`). Statements that hold blocks call each other with less fuel,
those that do not are read one after the other.
-/

namespace Runbook.Script

open Reading

variable {α β : Type} {units : List Lexeme} {fuel : Nat}

/-! ### Simple statements -/

namespace Keeps

variable (setting : Setting) (indent fuel rounds : Nat)

@[grind ←] theorem assigned : Keeps units (assigned setting fuel rounds) := by
  induction rounds with
  | zero => exact .failure
  | succ rounds ih =>
      rw [Script.assigned]
      refine .bind (.skipBreak _) fun _ => .bind (.atName _) fun yields => ?_
      split
      · grind
      · refine .bind ((keepsExpressions units fuel).expressions _) fun operand => ?_
        grind

@[grind ←] theorem expressionStatement : Keeps units (expressionStatement setting fuel) := by
  unfold Script.expressionStatement
  refine .bind (.atName _) fun yields => ?_
  split
  · grind
  · refine .bind ((keepsExpressions units fuel).expressions _) fun operand => ?_
    refine .bind (.takeOp _) fun assigns => ?_
    grind

@[grind ←] theorem dottedName : Keeps units (dottedName indent fuel) := by
  induction fuel with
  | zero => exact .failure
  | succ fuel ih =>
      rw [Script.dottedName]
      grind

@[grind ←] theorem importedNames : Keeps units (importedNames indent fuel) := by
  induction fuel with
  | zero => exact .failure
  | succ fuel ih =>
      rw [Script.importedNames]
      grind

@[grind ←] theorem takeDots : Keeps units (takeDots fuel) := by
  induction fuel with
  | zero => exact .failure
  | succ fuel ih =>
      rw [Script.takeDots]
      grind

@[grind ←] theorem importFrom : Keeps units (importFrom indent fuel) := by
  unfold Script.importFrom
  refine .bind (.skipBreak _) fun _ => .bind (.takeDots _) fun relative => ?_
  refine .bind (.atName _) fun bare => ?_
  grind

@[grind ←] theorem nameList : Keeps units (nameList indent fuel) := by
  induction fuel with
  | zero => exact .failure
  | succ fuel ih =>
      rw [Script.nameList]
      grind

@[grind ←] theorem expressionList : Keeps units (expressionList setting fuel) := by
  unfold Script.expressionList
  grind

@[grind ←] theorem simpleStatement : Keeps units (simpleStatement indent fuel) := by
  unfold Script.simpleStatement
  extract_lets setting plain orPlain
  have simple : Keeps units plain := .expressionStatement setting fuel
  have tried (statement : Reading Unit) (kept : Keeps units statement) :
      Keeps units (orPlain statement) :=
    .either (.bind (.discard .next) fun _ => .bind kept fun _ => by grind) simple
  clear_value plain orPlain
  refine .bind .peek fun token => ?_
  split
  · split <;> grind
  · exact simple

@[grind ←] theorem simpleStatements : Keeps units (simpleStatements indent fuel rounds) := by
  induction rounds with
  | zero => exact .failure
  | succ rounds ih =>
      rw [Script.simpleStatements]
      grind

@[grind ←] theorem takeClause (word : String) : Keeps units (takeClause indent word) := by
  unfold Script.takeClause
  grind

end Keeps

/-! ### Statements with blocks -/

/-- With some fuel, every reading of a statement or a part of one keeps to the last units. -/
structure KeepsStatements (units : List Lexeme) (fuel : Nat) : Prop where
  statement : ∀ indent, Keeps units (statement indent fuel)
  suite : ∀ indent, Keeps units (suite indent fuel)
  block : ∀ indent, Keeps units (block indent fuel)
  decorators : ∀ indent, Keeps units (decorators indent fuel)
  functionRest : ∀ indent, Keeps units (functionRest indent fuel)
  typeParameters : ∀ indent, Keeps units (typeParameters indent fuel)
  classRest : ∀ indent, Keeps units (classRest indent fuel)
  ifRest : ∀ indent, Keeps units (ifRest indent fuel)
  elseRest : ∀ indent, Keeps units (elseRest indent fuel)
  finallyRest : ∀ indent, Keeps units (finallyRest indent fuel)
  handlers : ∀ indent, Keeps units (handlers indent fuel)
  forRest : ∀ indent, Keeps units (forRest indent fuel)
  withRest : ∀ indent, Keeps units (withRest indent fuel)
  cases : ∀ indent, Keeps units (cases indent fuel)
  caseClauses : ∀ indent, Keeps units (caseClauses indent fuel)

namespace KeepsStatements

attribute [grind ←]
  statement suite block decorators functionRest typeParameters classRest ifRest elseRest
  finallyRest handlers forRest withRest cases caseClauses

variable (indent : Nat)

/-- With one more unit of fuel a statement leaves an end of the units, and so for each of the
readers that follow. -/
theorem statement_succ (kept : KeepsStatements units fuel) :
    Keeps units (Script.statement indent (fuel + 1)) := by
  rw [Script.statement]
  refine .bind .row fun row => ?_
  extract_lets header defined plain
  have described (name : Option Word) : Keeps units (defined name) := .pure _
  have simple : Keeps units plain :=
    .bind (.simpleStatements indent fuel fuel) fun _ => .pure none
  refine .bind .peek fun token => ?_
  split
  · grind
  · split
    -- The words that are names as well are tried first.
    case h_3 =>
      refine .either (.bind (.discard .next) fun _ => .bind (.takeName _) fun function => ?_) simple
      grind
    case h_9 =>
      refine .either (.bind (.discard .next) fun _ => ?_) simple
      grind
    all_goals grind
  · exact simple

theorem block_succ (kept : KeepsStatements units fuel) :
    Keeps units (Script.block indent (fuel + 1)) := by
  rw [Script.block]
  refine .get fun before inside => ?_
  split <;> grind

theorem functionRest_succ (kept : KeepsStatements units fuel) :
    Keeps units (Script.functionRest indent (fuel + 1)) := by
  rw [Script.functionRest]
  refine .bind (.needAnyName _) fun name => .bind (kept.typeParameters _) fun _ => ?_
  refine .bind (.needOp _ _) fun _ => .bind ((keepsExpressions units fuel).parameters _) fun _ => ?_
  grind

@[grind ←] theorem typeParameterRest :
    Keeps units (typeParameters.typeParameterRest indent fuel) := by
  have loop (rounds : Nat) :
      Keeps units (typeParameters.typeParameterRest.loop indent fuel rounds) := by
    induction rounds with
    | zero => exact .failure
    | succ rounds ih =>
        rw [typeParameters.typeParameterRest.loop]
        grind
  exact loop fuel

theorem handlers_succ (kept : KeepsStatements units fuel) :
    Keeps units (Script.handlers indent (fuel + 1)) := by
  rw [Script.handlers]
  refine .bind (.takeClause _ _) fun found => ?_
  split
  · refine .bind (.skipBreak _) fun _ => .bind (.discard (.takeOp _)) fun _ => ?_
    refine .bind (.atOp _) fun bare => ?_
    grind
  · grind

theorem caseClauses_succ (kept : KeepsStatements units fuel) :
    Keeps units (Script.caseClauses indent (fuel + 1)) := by
  rw [Script.caseClauses]
  refine .bind (.needName _ _) fun _ => ?_
  refine .bind (.discard ((keepsExpressions units fuel).expressions _)) fun _ => ?_
  refine .bind (.skipBreak _) fun _ => .bind (.takeName _) fun guarded => ?_
  grind

end KeepsStatements

/-- With any fuel every reader of statements leaves an end of the units. -/
theorem keepsStatements (units : List Lexeme) (fuel : Nat) : KeepsStatements units fuel := by
  induction fuel with
  | zero =>
      constructor <;> intro indent <;>
        simp only [Script.statement, Script.suite, Script.block, Script.decorators,
          Script.functionRest, Script.typeParameters, Script.classRest, Script.ifRest,
          Script.elseRest, Script.finallyRest, Script.handlers, Script.forRest, Script.withRest,
          Script.cases, Script.caseClauses, Keeps.failure]
  | succ fuel kept =>
      constructor
      case statement => exact fun indent => kept.statement_succ indent
      case suite =>
        intro indent
        rw [Script.suite]
        grind
      case block => exact fun indent => kept.block_succ indent
      case decorators =>
        intro indent
        rw [Script.decorators]
        grind
      case functionRest => exact fun indent => kept.functionRest_succ indent
      case typeParameters =>
        intro indent
        rw [Script.typeParameters]
        grind
      case classRest =>
        intro indent
        rw [Script.classRest]
        grind
      case ifRest =>
        intro indent
        rw [Script.ifRest]
        grind
      case elseRest =>
        intro indent
        rw [Script.elseRest]
        grind
      case finallyRest =>
        intro indent
        rw [Script.finallyRest]
        grind
      case handlers => exact fun indent => kept.handlers_succ indent
      case forRest =>
        intro indent
        rw [Script.forRest]
        grind
      case withRest =>
        intro indent
        rw [Script.withRest]
        exact .bind (.discard ((keepsExpressions units fuel).expressions _)) fun _ => kept.suite _
      case cases =>
        intro indent
        rw [Script.cases]
        grind
      case caseClauses => exact fun indent => kept.caseClauses_succ indent

end Runbook.Script
