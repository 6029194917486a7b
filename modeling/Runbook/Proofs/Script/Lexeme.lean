import Mathlib.Data.List.Basic
import Runbook.Script.Lexeme

/-!
# Units stand in ascending rows

No step of the lexer goes back to an earlier row, and one that reads a line break goes on in a later
one. So the rows of a script's units ascend, strictly behind a line break (`pairwise_of_lexemes?`).
-/

namespace Runbook.Script

variable {fuel row : Nat} {fresh again : Bool} {place next : Place} {token : Option Token}
  {quotation : Quotation} {lexeme : Lexeme} {lexemes found : List Lexeme}

/-! ### Steps -/

/-- What is read in one row lets the lexer go on in another, which is a later one behind a line
break. -/
def Advances (token : Option Token) (row next : Nat) : Prop :=
  row ≤ next ∧ ∀ indent, token = some (.newline indent) → row < next

/-- Where a step succeeds, it advances. -/
def Sound (row : Nat) (step : Option (Option Token × Place)) : Prop :=
  ∀ token next, step = some (token, next) → Advances token row next.row

/-- A choice is sound where each side is sound in its case. -/
theorem Sound.ite {p : Prop} [Decidable p] {yes no : Option (Option Token × Place)}
    (holds : p → Sound row yes) (fails : ¬ p → Sound row no) :
    Sound row (if p then yes else no) := by
  split
  · exact holds ‹_›
  · exact fails ‹_›

/-- The next line is not above. -/
theorem row_le_nextLine (fuel indent row : Nat) (text : List Char) :
    row ≤ (nextLine fuel indent row text).2.1 := by
  fun_induction nextLine fuel indent row text <;> grind

/-- A step within a text does not go back to a row before. -/
theorem advances_of_stepString
    (step : stepString quotation fresh place = some (token, again, next)) :
    Advances token place.row next.row := by
  unfold stepString at step
  grind [Advances]

/-- A step within a format is sound. -/
theorem sound_stepSpecifier (place : Place) : Sound place.row (stepSpecifier place) := by
  unfold stepSpecifier
  grind [Sound, Advances]

/-- A step within code is sound. -/
theorem sound_stepCode (place : Place) : Sound place.row (stepCode place) := by
  unfold stepCode
  extract_lets frames goOn unit embedded inBracket
  split
  · simp [Sound]
  · rename_i c rest whole
    refine .ite (fun _ => ?lineBreak) fun _ => .ite (fun _ => ?space) fun _ =>
      .ite (fun _ => ?comment) fun _ => .ite (fun _ => ?joined) fun _ => ?unit
    case lineBreak =>
      have later := row_le_nextLine (rest.length + 1) 0 (place.row + 1) rest
      grind [Sound, Advances]
    case space => grind [Sound, Advances]
    case comment => grind [Sound, Advances]
    case joined => grind [Sound, Advances]
    case unit =>
      cases takeStringStart place.rest with
      | some found => grind [Sound, Advances]
      | none =>
          refine .ite (fun _ => ?name) fun _ => .ite (fun _ => ?number) fun _ =>
            .ite (fun _ => ?opening) fun _ => ?mark
          all_goals grind [Sound, Advances]

/-! ### Units -/

/-- A unit stands in a row or before it, and before it where the unit is a line break. -/
def Lexeme.EndsBy (lexeme : Lexeme) (row : Nat) : Prop :=
  Advances (some lexeme.token) lexeme.row row

/-- What ends by a row ends by every later one. -/
theorem Lexeme.EndsBy.mono {later : Nat} (ends : lexeme.EndsBy row) (below : row ≤ later) :
    lexeme.EndsBy later :=
  ⟨Nat.le_trans ends.1 below, fun indent feed => Nat.lt_of_lt_of_le (ends.2 indent feed) below⟩

/-- The units that are read, the last one first, end by the row in which the lexer goes on, and each
by the rows of those behind it. -/
structure Ordered (lexemes : List Lexeme) (row : Nat) : Prop where
  ends : ∀ lexeme ∈ lexemes, lexeme.EndsBy row
  pairwise : lexemes.Pairwise fun behind lexeme => lexeme.EndsBy behind.row

/-- A unit is kept where a step reads one. -/
theorem Ordered.keep {later : Nat} (ordered : Ordered lexemes row) (token : Option Token) :
    Advances token row later →
      Ordered
        (match token with
          | some token => ⟨token, row⟩ :: lexemes
          | none => lexemes) later := by
  intro advances
  have before : ∀ lexeme ∈ lexemes, lexeme.EndsBy later :=
    fun lexeme member => (ordered.ends lexeme member).mono advances.1
  cases token with
  | none => exact ⟨before, ordered.pairwise⟩
  | some token =>
      exact ⟨List.forall_mem_cons.2 ⟨advances, before⟩,
        List.pairwise_cons.2 ⟨ordered.ends, ordered.pairwise⟩⟩

/-- Each lexeme ends by the row where the next one begins. -/
theorem pairwise_of_lexFrom (read : lexFrom fuel fresh place lexemes = some found)
    (ordered : Ordered lexemes place.row) :
    found.Pairwise fun lexeme behind => lexeme.EndsBy behind.row := by
  induction fuel generalizing fresh place lexemes with
  | zero => cases read
  | succ fuel ih =>
      unfold lexFrom at read
      extract_lets keep at read
      split at read
      · obtain ⟨⟨token, again, next⟩, step, read⟩ := Option.bind_eq_some_iff.1 read
        exact ih read (ordered.keep token (advances_of_stepString step))
      · obtain ⟨⟨token, next⟩, step, read⟩ := Option.bind_eq_some_iff.1 read
        exact ih read (ordered.keep token (sound_stepSpecifier place token next step))
      · split at read
        · split at read
          · cases read
            exact List.pairwise_reverse.2 ordered.pairwise
          · cases read
        · obtain ⟨⟨token, next⟩, step, read⟩ := Option.bind_eq_some_iff.1 read
          exact ih read (ordered.keep token (sound_stepCode place token next step))

/-- The rows of a script's units ascend, strictly behind a line break. -/
theorem pairwise_of_lexemes? {source : List Char} (read : lexemes? source = some lexemes) :
    lexemes.Pairwise fun lexeme behind => lexeme.EndsBy behind.row :=
  pairwise_of_lexFrom read ⟨List.forall_mem_nil _, List.Pairwise.nil⟩

end Runbook.Script
