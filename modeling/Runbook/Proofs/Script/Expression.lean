import Runbook.Proofs.Script.Reading
import Runbook.Script.Expression

/-!
# Expressions are read from the front

Every reading of an expression, or of a part of one, keeps to the last units of a script
(`keepsExpressions`). The readings call each other with less fuel, so the induction is on the fuel,
for all of them at once.
-/

namespace Runbook.Script

variable {units : List Lexeme} {fuel : Nat}

/-- With some fuel, every reading of an expression or a part of one keeps to the last units. -/
structure KeepsExpressions (units : List Lexeme) (fuel : Nat) : Prop where
  expression : ∀ setting, Keeps units (expression setting fuel)
  expressionRest : ∀ setting first, Keeps units (expressionRest setting first fuel)
  negation : ∀ setting, Keeps units (negation setting fuel)
  comparisonRest : ∀ setting first, Keeps units (comparisonRest setting first fuel)
  sum : ∀ setting, Keeps units (sum setting fuel)
  sumRest : ∀ setting first, Keeps units (sumRest setting first fuel)
  unary : ∀ setting, Keeps units (unary setting fuel)
  primary : ∀ setting, Keeps units (primary setting fuel)
  primaryRest : ∀ setting first, Keeps units (primaryRest setting first fuel)
  atom : ∀ setting, Keeps units (atom setting fuel)
  strings : ∀ setting, Keeps units (strings setting fuel)
  stringParts : ∀ setting, Keeps units (stringParts setting fuel)
  embedded : ∀ setting, Keeps units (embedded setting fuel)
  formatParts : ∀ setting, Keeps units (formatParts setting fuel)
  expressions : ∀ setting, Keeps units (expressions setting fuel)
  expressionsRest : ∀ setting first, Keeps units (expressionsRest setting first fuel)
  comprehension : ∀ setting, Keeps units (comprehension setting fuel)
  clauses : ∀ setting, Keeps units (clauses setting fuel)
  targets : ∀ setting, Keeps units (targets setting fuel)
  elements : ∀ setting close, Keeps units (elements setting close fuel)
  moreElements : ∀ setting close sofar, Keeps units (moreElements setting close sofar fuel)
  element : ∀ setting, Keeps units (element setting fuel)
  entries : ∀ setting, Keeps units (entries setting fuel)
  pairs : ∀ setting, Keeps units (pairs setting fuel)
  arguments : ∀ setting, Keeps units (arguments setting fuel)
  moreArguments : ∀ setting, Keeps units (moreArguments setting fuel)
  argument : ∀ setting, Keeps units (argument setting fuel)
  subscripts : ∀ setting, Keeps units (subscripts setting fuel)
  subscript : ∀ setting, Keeps units (subscript setting fuel)
  yielded : ∀ setting, Keeps units (yielded setting fuel)
  lambdaParameters : ∀ setting, Keeps units (lambdaParameters setting fuel)
  parameters : ∀ setting, Keeps units (parameters setting fuel)
  parameter : ∀ setting typed, Keeps units (parameter setting typed fuel)

namespace KeepsExpressions

attribute [grind ←]
  expression expressionRest negation comparisonRest sum sumRest unary primary primaryRest atom
  strings stringParts embedded formatParts expressions expressionsRest comprehension clauses
  targets elements moreElements element entries pairs arguments moreArguments argument subscripts
  subscript yielded lambdaParameters parameters parameter

/-! ### Long readings

These are opened by hand up to a branch, and each branch is followed from there.
-/

variable (setting : Setting) (first : Operand)

@[grind ←] theorem sliceRest {bound : Reading Unit} (kept : Keeps units bound) :
    Keeps units (subscript.sliceRest bound) := by
  unfold subscript.sliceRest
  grind

/-- With one more unit of fuel the rest of an expression leaves an end of the units, and so for each
of the readers that follow. -/
theorem expressionRest_succ (kept : KeepsExpressions units fuel) :
    Keeps units (Script.expressionRest setting first (fuel + 1)) := by
  rw [Script.expressionRest]
  refine .get fun before inside => .bind (.skipInner _) fun _ => ?_
  refine .bind (.takeName _) fun both => .bind (.takeName _) fun either => ?_
  split
  · grind
  · refine .bind (.takeName _) fun condition => ?_
    split
    · refine .either ?_ ?_ <;> grind
    · grind

theorem comparisonRest_succ (kept : KeepsExpressions units fuel) :
    Keeps units (Script.comparisonRest setting first (fuel + 1)) := by
  rw [Script.comparisonRest]
  refine .get fun before inside => .bind (.skipInner _) fun _ => .bind .peek fun token => ?_
  split <;> grind

theorem sumRest_succ (kept : KeepsExpressions units fuel) :
    Keeps units (Script.sumRest setting first (fuel + 1)) := by
  rw [Script.sumRest]
  refine .get fun before inside => .bind (.skipInner _) fun _ => .bind .peek fun token => ?_
  split <;> grind

theorem unary_succ (kept : KeepsExpressions units fuel) :
    Keeps units (Script.unary setting (fuel + 1)) := by
  rw [Script.unary]
  refine .bind (.skipBreak _) fun _ => .bind .peek fun token => ?_
  split <;> grind

/-- An expression in a text is read within its own units. -/
theorem embedded_succ (kept : KeepsExpressions units fuel) :
    Keeps units (Script.embedded setting (fuel + 1)) := by
  rw [Script.embedded]
  refine .bind (.atName _) fun yields => ?_
  split <;> grind

theorem clauses_succ (kept : KeepsExpressions units fuel) :
    Keeps units (Script.clauses setting (fuel + 1)) := by
  rw [Script.clauses]
  refine .bind (.atName _) fun loops => .bind (.atName _) fun awaits => ?_
  split <;> grind

theorem entries_succ (kept : KeepsExpressions units fuel) :
    Keeps units (Script.entries setting (fuel + 1)) := by
  rw [Script.entries]
  refine .bind (.takeOp _) fun closed => ?_
  grind

theorem pairs_succ (kept : KeepsExpressions units fuel) :
    Keeps units (Script.pairs setting (fuel + 1)) := by
  rw [Script.pairs]
  refine .bind (.takeOp _) fun spread => ?_
  split <;> grind

theorem parameter_succ (kept : KeepsExpressions units fuel) (typed : Bool) :
    Keeps units (Script.parameter setting typed (fuel + 1)) := by
  rw [Script.parameter]
  refine .bind (.takeOp _) fun pairs => .bind (.takeOp _) fun items => ?_
  -- The steps that every branch goes on with, from the last one.
  extract_lets starred default type name
  have defaulted (u) : Keeps units (default u) := by
    simp only [default]
    grind
  have typed (u) : Keeps units (type u) := by
    simp only [type]
    grind
  have named (u) : Keeps units (name u) := by
    simp only [name]
    grind
  split <;> grind

end KeepsExpressions

/-- With any fuel every reader of expressions leaves an end of the units. -/
@[grind ←] theorem keepsExpressions (units : List Lexeme) (fuel : Nat) :
    KeepsExpressions units fuel := by
  induction fuel with
  | zero => constructor <;> intros <;> exact .failure
  | succ fuel kept =>
      constructor
      case expression =>
        intro setting
        rw [Script.expression]
        grind
      case expressionRest => exact fun setting first => kept.expressionRest_succ setting first
      case negation =>
        intro setting
        rw [Script.negation]
        grind
      case comparisonRest => exact fun setting first => kept.comparisonRest_succ setting first
      case sum =>
        intro setting
        rw [Script.sum]
        exact .bind (kept.unary _) fun first => kept.sumRest _ first
      case sumRest => exact fun setting first => kept.sumRest_succ setting first
      case unary => exact fun setting => kept.unary_succ setting
      case primary =>
        intro setting
        rw [Script.primary]
        exact .bind (.skipBreak _) fun _ => .bind (kept.atom _) fun first =>
          kept.primaryRest _ first
      case primaryRest =>
        intro setting first
        rw [Script.primaryRest]
        grind
      case atom =>
        intro setting
        rw [Script.atom]
        grind
      case strings =>
        intro setting
        rw [Script.strings]
        grind
      case stringParts =>
        intro setting
        rw [Script.stringParts]
        grind
      case embedded => exact fun setting => kept.embedded_succ setting
      case formatParts =>
        intro setting
        rw [Script.formatParts]
        grind
      case expressions =>
        intro setting
        rw [Script.expressions]
        exact .bind (kept.expression _) fun first => kept.expressionsRest _ first
      case expressionsRest =>
        intro setting first
        rw [Script.expressionsRest]
        grind
      case comprehension =>
        intro setting
        rw [Script.comprehension]
        grind
      case clauses => exact fun setting => kept.clauses_succ setting
      case targets =>
        intro setting
        rw [Script.targets]
        grind
      case elements =>
        intro setting close
        rw [Script.elements]
        grind
      case moreElements =>
        intro setting close sofar
        rw [Script.moreElements]
        grind
      case element =>
        intro setting
        rw [Script.element]
        grind
      case entries => exact fun setting => kept.entries_succ setting
      case pairs => exact fun setting => kept.pairs_succ setting
      case arguments =>
        intro setting
        rw [Script.arguments]
        grind
      case moreArguments =>
        intro setting
        rw [Script.moreArguments]
        grind
      case argument =>
        intro setting
        rw [Script.argument]
        grind
      case subscripts =>
        intro setting
        rw [Script.subscripts]
        grind
      case subscript =>
        intro setting
        rw [Script.subscript]
        grind
      case yielded =>
        intro setting
        rw [Script.yielded]
        grind
      case lambdaParameters =>
        intro setting
        rw [Script.lambdaParameters]
        grind
      case parameters =>
        intro setting
        rw [Script.parameters]
        grind
      case parameter => exact fun setting typed => kept.parameter_succ setting typed

end Runbook.Script
