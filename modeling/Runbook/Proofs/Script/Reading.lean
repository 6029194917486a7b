import Mathlib.Data.List.Infix
import Runbook.Script.Reading

/-!
# Reading takes units from the front

Whatever a reading goes back to, it has read before: from some of the last units of a script it
leaves some of the last units (`Keeps`). The steps of a reading do so, and so does what is put
together from readings that do. These facts are tagged, and a reading is then followed through its
text by `grind`.
-/

namespace Runbook.Script

open Reading

variable {α β : Type} {units : List Lexeme}

/-- From some of the last units, a reading leaves some of the last units. -/
def Keeps (units : List Lexeme) (reading : Reading α) : Prop :=
  ∀ start value rest, start <:+ units → reading start = some (value, rest) → rest <:+ units

attribute [grind →] List.IsSuffix.trans

/-- Behind a unit the rest is the end of the units still. -/
@[grind →] theorem tail_suffix {unit : Lexeme} {rest : List Lexeme}
    (behind : unit :: rest <:+ units) : rest <:+ units :=
  (List.suffix_cons unit rest).trans behind

namespace Keeps

variable {first other : Reading α} {later : α → Reading β}

@[grind ←] theorem pure (value : α) : Keeps units (pure value) := by
  rintro start _ rest behind ⟨⟩
  exact behind

@[grind ←] theorem failure : Keeps units (failure : Reading α) := by
  rintro start _ rest behind ⟨⟩

/-- Readers in a row leave an end of the units where each does. -/
theorem bind (here : Keeps units first) (there : ∀ value, Keeps units (later value)) :
    Keeps units (first >>= later) := by
  intro start value rest behind read
  obtain ⟨⟨between, left⟩, done, read⟩ := Option.bind_eq_some_iff.1 read
  exact there between left value rest (here start between left behind done) read

/-- The image of a reader leaves what the reader does. -/
theorem map {image : α → β} (here : Keeps units first) : Keeps units (image <$> first) := by
  intro start value rest behind read
  obtain ⟨⟨between, left⟩, done, same⟩ := Option.bind_eq_some_iff.1 read
  obtain rfl : left = rest := congrArg Prod.snd (Option.some.inj same)
  exact here start between left behind done

/-- Without its value a reader leaves the same. -/
theorem discard (here : Keeps units first) : Keeps units (discard first) := map here

/-- What is looked at is some of the last units. -/
theorem get {later : List Lexeme → Reading β}
    (there : ∀ before, before <:+ units → Keeps units (later before)) :
    Keeps units (get >>= later) := by
  intro start value rest behind read
  exact there start behind start value rest behind read

/-- Going back to an end of the units leaves one. -/
theorem set {before : List Lexeme} (inside : before <:+ units) :
    Keeps units (set before : Reading PUnit) := by
  intro start value rest behind read
  cases read
  exact inside

/-- A choice leaves an end of the units where both sides do. -/
theorem either (here : Keeps units first) (there : Keeps units other) :
    Keeps units (either first other) := by
  intro start value rest behind read
  rcases Option.or_eq_some_iff.1 read with done | ⟨_, done⟩
  · exact here start value rest behind done
  · exact there start value rest behind done

attribute [grind ←] bind map discard get set either

/-! ### Steps -/

variable (indent : Nat) (setting : Setting) (op word : String)

@[grind ←] theorem peek : Keeps units peek := by
  unfold Reading.peek
  grind

@[grind ←] theorem next : Keeps units next := by
  unfold Reading.next
  grind

@[grind ←] theorem row : Keeps units row := by
  unfold Reading.row
  grind

@[grind ←] theorem skipBreak : Keeps units (skipBreak indent) := by
  unfold Reading.skipBreak
  grind

@[grind ←] theorem skipInner : Keeps units (skipInner setting) := by
  unfold Reading.skipInner
  grind

@[grind ←] theorem atOp : Keeps units (atOp op) := by
  unfold Reading.atOp
  grind

@[grind ←] theorem atName : Keeps units (atName word) := by
  unfold Reading.atName
  grind

@[grind ←] theorem takeOp : Keeps units (takeOp op) := by
  unfold Reading.takeOp
  grind

@[grind ←] theorem takeName : Keeps units (takeName word) := by
  unfold Reading.takeName
  grind

@[grind ←] theorem needOp : Keeps units (needOp indent op) := by
  unfold Reading.needOp
  grind

@[grind ←] theorem needName : Keeps units (needName indent word) := by
  unfold Reading.needName
  grind

@[grind ←] theorem needAnyName : Keeps units (needAnyName indent) := by
  unfold Reading.needAnyName
  grind

@[grind ←] theorem atEnd : Keeps units atEnd := by
  unfold Reading.atEnd
  grind

@[grind ←] theorem atOperand : Keeps units atOperand := by
  unfold Reading.atOperand
  grind

end Keeps

end Runbook.Script
