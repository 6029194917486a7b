import Runbook.Proofs.Pattern.Locality

/-!
# The length of a text is enough fuel

Each step of reading an expression or a class takes a character, except the one that finds the end
of the expression. So what is read with some fuel is read with any that is more than the length of
the text.
-/

namespace Runbook.Pattern

open Reading

variable {α β : Type} {mode : Mode} {text rest : List Char} {fuel other : Nat}

/-- A reading takes one character at least. -/
def Shortens (reading : Reading α) : Prop :=
  ∀ {text value rest}, reading text = some (value, rest) → rest.length < text.length

namespace Shortens

/-- Taking a character shortens the text. -/
theorem next : Shortens next := by
  rintro (_ | ⟨c, text⟩) value rest read
  · cases read
  · cases read
    exact Nat.lt_succ_self _

/-- Two readers in a row shorten the text where the first does. -/
theorem bind {first : Reading α} {later : α → Reading β} (here : Shortens first)
    (there : ∀ value, Local (later value)) : Shortens (first >>= later) := by
  intro text value rest read
  obtain ⟨between, mid, done, read⟩ := bind_eq_some_iff.1 read
  exact ((there between).length_le read).trans_lt (here done)

/-- Two readers in a row shorten the text where the second does. -/
theorem after {first : Reading α} {later : α → Reading β} (here : Local first)
    (there : ∀ value, Shortens (later value)) : Shortens (first >>= later) := by
  intro text value rest read
  obtain ⟨between, mid, done, read⟩ := bind_eq_some_iff.1 read
  exact (there between read).trans_le (here.length_le done)

/-- A reader that takes what it expects, or shortens the text, shortens it. -/
theorem takeOr {c : Char} {lead : List Char} {yes no : Reading α} (here : Local yes)
    (there : Shortens no) : Shortens (do if ← take (c :: lead) then yes else no) := by
  intro text value rest read
  obtain ⟨taken, mid, done, read⟩ := bind_eq_some_iff.1 read
  cases begins : Text.dropLead (c :: lead) text with
  | none =>
      rw [take_of_other begins] at done
      cases done
      exact there read
  | some left =>
      rw [take_of_begins begins] at done
      cases done
      rw [Text.dropLead_eq_some_iff.1 begins]
      have := here.length_le read
      simp only [List.length_append, List.length_cons]
      omega

/-! ### Steps -/

/-- An item of a set is not empty. -/
theorem readSetItem : Shortens (readSetItem mode) := by
  unfold Pattern.readSetItem
  exact takeOr (Local.readEscape mode) (bind next fun c => .pure _)

/-- A range of a set is not empty. -/
theorem readSetRange : Shortens (readSetRange mode) := by
  unfold Pattern.readSetRange
  refine bind readSetItem fun first => ?_
  grind

/-- Each step within brackets takes something. -/
theorem readSetStep (parts : SetParts) : Shortens (readSetStep mode parts) := by
  unfold Pattern.readSetStep
  refine after (.skip mode) fun _ => takeOr (.pure _) ?_
  refine takeOr (.pure _) (takeOr (.pure _) (takeOr (.pure _) (takeOr ?_ ?_)))
  · refine .bind (.readNamedSet mode (by decide)) fun found => ?_
    cases found <;> exact .pure _
  · exact bind readSetRange fun set => .pure _

end Shortens

/-- A step of reading an expression takes a character, unless it is the last one. -/
theorem readStep_shorter {parts : Parts} {step : Step}
    (read : readStep mode parts text = some (step, rest)) (goes : step ≠ .finished) :
    rest.length < text.length := by
  unfold readStep at read
  obtain ⟨_, ink, skipped, read⟩ := bind_eq_some_iff.1 read
  have shorter := (Local.skip mode).length_le skipped
  obtain ⟨c, _, ⟨⟩, read⟩ := bind_eq_some_iff.1 read
  split at read
  case isTrue =>
    cases read
    exact absurd rfl goes
  case isFalse =>
    refine (Shortens.bind Shortens.next (fun c => ?_) read).trans_le shorter
    grind

/-! ### The steps of a reading -/

section Steps

variable {names : List String} {parts : Parts}
  {found : (Nested Pattern × List String) × List Char}

/-- What is read begins with a step. -/
theorem exists_step (read : readBody (fuel + 1) mode names parts text = some found) :
    ∃ step rest, readStep mode parts text = some (step, rest) := by
  unfold readBody at read
  obtain ⟨step, rest, done, -⟩ := bind_eq_some_iff.1 read
  exact ⟨step, rest, done⟩

/-- Behind the last step the parts are the expression. -/
theorem readBody_of_finished (step : readStep mode parts text = some (.finished, rest)) :
    readBody (fuel + 1) mode names parts text = some ((parts.whole, names), rest) := by
  unfold readBody
  rw [bind_of_eq_some step]
  rfl

/-- Behind a step that adds to the parts, the rest is read with less fuel. -/
theorem readBody_of_more {next : Parts} {after : Mode}
    (step : readStep mode parts text = some (.more next after, rest)) :
    readBody (fuel + 1) mode names parts text = readBody fuel after names next rest := by
  conv_lhs => unfold readBody
  rw [bind_of_eq_some step]

/-- Behind a step that opens a set, the set is read and becomes a part. -/
theorem readBody_of_set (step : readStep mode parts text = some (.set, rest)) :
    readBody (fuel + 1) mode names parts text = some found ↔
      ∃ set behind, readSet mode fuel rest = some (set, behind) ∧
        readBody fuel mode names (parts.push ⟨some (.set set.value), set.depth⟩) behind =
          some found := by
  conv_lhs => unfold readBody
  rw [bind_of_eq_some step]
  exact bind_eq_some_iff

/-- Behind a step that opens a group, what is inside is read up to a bracket and becomes a part. -/
theorem readBody_of_group {inner : Mode} {name : Option String}
    (step : readStep mode parts text = some (.group inner name, rest)) :
    readBody (fuel + 1) mode names parts text = some found ↔
      ∃ named body later behind, addName names name = some named ∧
        readBody fuel inner named .none rest = some ((body, later), ')' :: behind) ∧
        readBody fuel mode later (parts.push ⟨some body.value, body.depth + 1⟩) behind =
          some found := by
  conv_lhs => unfold readBody
  rw [bind_of_eq_some step]
  constructor
  · intro read
    obtain ⟨named, _, isAdded, read⟩ := bind_eq_some_iff.1 read
    obtain ⟨⟨body, later⟩, _, made, read⟩ := bind_eq_some_iff.1 read
    obtain ⟨_, behind, closed, read⟩ := bind_eq_some_iff.1 read
    obtain ⟨added, rfl⟩ := ofOption_eq_some_iff.1 isAdded
    obtain rfl := need_eq_some_iff.1 closed
    exact ⟨named, body, later, behind, added, made, read⟩
  · rintro ⟨named, body, later, behind, added, made, read⟩
    refine bind_eq_some_iff.2 ⟨named, rest, ofOption_eq_some_iff.2 ⟨added, rfl⟩, ?_⟩
    refine bind_eq_some_iff.2 ⟨(body, later), _, made, ?_⟩
    exact bind_eq_some_iff.2 ⟨(), behind, need_eq_some_iff.2 rfl, read⟩

end Steps

/-! ### Fuel -/

/-- Within brackets more fuel than text is enough. -/
theorem readInside_fuel {parts : SetParts} {found : Nested CharSet × List Char}
    (read : readInside mode fuel parts text = some found) (enough : text.length < other) :
    readInside mode other parts text = some found := by
  induction fuel generalizing parts text found other with
  | zero => cases read
  | succ fuel ih =>
      obtain ⟨other, rfl⟩ : ∃ n, other = n + 1 := ⟨other - 1, by omega⟩
      unfold readInside at read ⊢
      obtain ⟨step, rest, done, read⟩ := bind_eq_some_iff.1 read
      have shorter := Shortens.readSetStep parts done
      refine bind_eq_some_iff.2 ⟨step, rest, done, ?_⟩
      cases step with
      | finished => exact read
      | more parts => exact ih read (by omega)
      | inner =>
          obtain ⟨start, opened, began, read⟩ := bind_eq_some_iff.1 read
          obtain ⟨inside, behind, closed, read⟩ := bind_eq_some_iff.1 read
          obtain ⟨inner, behind', made, read⟩ := bind_eq_some_iff.1 read
          have first := (Local.readSetStart mode).length_le began
          have second := (Local.readInside mode fuel _).length_le closed
          have third := (Local.ofOption _).length_le made
          refine bind_eq_some_iff.2 ⟨start, opened, began, ?_⟩
          refine bind_eq_some_iff.2 ⟨inside, behind, ih closed (by omega), ?_⟩
          exact bind_eq_some_iff.2 ⟨inner, behind', made, ih read (by omega)⟩

/-- For a set more fuel than text is enough. -/
theorem readSet_fuel {found : Nested CharSet × List Char}
    (read : readSet mode fuel text = some found) (enough : text.length < other) :
    readSet mode other text = some found := by
  unfold readSet at read ⊢
  obtain ⟨start, opened, began, read⟩ := bind_eq_some_iff.1 read
  obtain ⟨inside, behind, closed, read⟩ := bind_eq_some_iff.1 read
  have first := (Local.readSetStart mode).length_le began
  refine bind_eq_some_iff.2 ⟨start, opened, began, ?_⟩
  exact bind_eq_some_iff.2 ⟨inside, behind, readInside_fuel closed (by omega), read⟩

/-- What is read with some fuel is read with any that is more than the length of the text. -/
theorem readBody_fuel {names : List String} {parts : Parts}
    {found : (Nested Pattern × List String) × List Char}
    (read : readBody fuel mode names parts text = some found) (enough : text.length < other) :
    readBody other mode names parts text = some found := by
  induction fuel generalizing other mode names parts text found with
  | zero => cases read
  | succ fuel ih =>
      obtain ⟨other, rfl⟩ : ∃ n, other = n + 1 := ⟨other - 1, by omega⟩
      obtain ⟨step, rest, done⟩ := exists_step read
      have shorter := readStep_shorter done
      cases step with
      | finished =>
          rw [readBody_of_finished done] at read ⊢
          exact read
      | more next after =>
          rw [readBody_of_more done] at read ⊢
          exact ih read (by have := shorter Step.noConfusion; omega)
      | set =>
          obtain ⟨set, behind, made, read⟩ := (readBody_of_set done).1 read
          have := shorter Step.noConfusion
          have later := (Local.readSet mode fuel).length_le made
          exact (readBody_of_set done).2
            ⟨set, behind, readSet_fuel made (by omega), ih read (by omega)⟩
      | group inner name =>
          obtain ⟨named, body, later, behind, added, made, read⟩ := (readBody_of_group done).1 read
          have := shorter Step.noConfusion
          have closed := (Local.readBody inner fuel named Parts.none).length_le made
          simp only [List.length_cons] at closed
          exact (readBody_of_group done).2
            ⟨named, body, later, behind, added, ih made (by omega), ih read (by omega)⟩

end Runbook.Pattern
