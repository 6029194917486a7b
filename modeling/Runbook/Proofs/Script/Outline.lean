import Runbook.Proofs.Script.Lexeme
import Runbook.Proofs.Script.Statement

/-!
# What is defined at the top level of a script

What a statement defines hangs on the unit that it begins with (`describes_of_statement`), and
stands in its row. A script is statements in a row, each behind the line break that ends the one
before (`outlines_of_definitions?`), so the rows of its definitions ascend (`Outline.ascending`).
-/

namespace Runbook.Script

open Reading

variable {α β : Type} {units more rest : List Lexeme} {first unit : Lexeme} {indent fuel : Nat}
  {defined : Option Definition} {definitions : List Definition}

/-! ### Values that are read -/

/-- Whatever a reading returns is good. -/
def Returns (good : α → Prop) (reading : Reading α) : Prop :=
  ∀ start value rest, reading start = some (value, rest) → good value

namespace Returns

variable {good : β → Prop} {reading other : Reading β} {begin : Reading α} {later : α → Reading β}
  {value : β}

/-- A good value is returned. -/
theorem pure (holds : good value) : Returns good (pure value) := by
  rintro start _ rest ⟨⟩
  exact holds

/-- A reader that fails returns no other value. -/
theorem failure : Returns good (failure : Reading β) := by
  rintro start _ rest ⟨⟩

/-- What is known of the first value may be used for the second. -/
theorem bind_of {known : α → Prop} (here : Returns known begin)
    (there : ∀ value, known value → Returns good (later value)) :
    Returns good (begin >>= later) := by
  intro start value rest read
  obtain ⟨⟨between, left⟩, done, read⟩ := Option.bind_eq_some_iff.1 read
  exact there between (here start between left done) left value rest read

/-- Two readers return good values where the second does, whatever the first one read. -/
theorem bind (there : ∀ value, Returns good (later value)) : Returns good (begin >>= later) :=
  bind_of (fun _ _ _ _ => trivial) fun value _ => there value

/-- A choice returns good values where both sides do. -/
theorem either (here : Returns good reading) (there : Returns good other) :
    Returns good (either reading other) := by
  intro start value rest read
  rcases Option.or_eq_some_iff.1 read with done | ⟨_, done⟩
  · exact here start value rest done
  · exact there start value rest done

attribute [grind ←] pure failure bind either

end Returns

/-! ### Statements -/

/-- What a statement that begins with a unit defines: a definition stands in the unit's row. One
that is decorated is a definition as a whole, and a class is one without a function. -/
structure Describes (first : Lexeme) (defined : Option Definition) : Prop where
  row : ∀ definition ∈ defined, definition.row = first.row
  decorated : first.token = .op "@" → defined.isSome = true
  ofClass : ∀ word, first.token = .name word → word.text = "class" →
    defined = some ⟨first.row, none⟩
  ofFunction : ∀ word, first.token = .name word → word.text = "def" →
    ∃ name, defined = some ⟨first.row, some name⟩
  other : defined.isSome = true → first.token = .op "@" ∨
    ∃ word, first.token = .name word ∧ word.text ∈ ["class", "def", "async"]

/-- A statement that begins neither with a decorator nor with one of the two words defines
nothing. -/
theorem describes_none (sign : first.token ≠ .op "@")
    (word : ∀ word, first.token = .name word → word.text ≠ "class" ∧ word.text ≠ "def") :
    Describes first none where
  row := nofun
  decorated same := absurd same sign
  ofClass name same kind := absurd kind (word name same).1
  ofFunction name same kind := absurd kind (word name same).2
  other := nofun

/-- The row is that of the first unit. -/
theorem row_bind {later : Nat → Reading α} :
    (row >>= later) (first :: more) = later first.row (first :: more) := rfl

/-- The next token is that of the first unit. -/
theorem peek_bind {later : Option Token → Reading α} :
    (peek >>= later) (first :: more) = later (some first.token) (first :: more) := rfl

/-- A function has a name. -/
theorem returns_functionRest :
    Returns (fun name => name.isSome = true) (functionRest indent fuel) := by
  cases fuel with
  | zero =>
      rw [functionRest]
      exact .failure
  | succ fuel =>
      rw [functionRest]
      exact .bind fun name => .bind fun _ => .bind fun _ => .bind fun _ => by grind

/-- What a statement defines is described by its beginning. -/
theorem describes_of_statement
    (read : statement indent fuel (first :: more) = some (defined, rest)) :
    Describes first defined := by
  cases fuel with
  | zero =>
      rw [statement] at read
      cases read
  | succ fuel =>
      rw [statement, row_bind, peek_bind] at read
      refine (?_ : Returns (Describes first) _) _ _ _ read
      clear read
      split
      case h_1 sign =>
        have decorated (name : Option Word) : Describes first (some ⟨first.row, name⟩) := by
          constructor <;> grind
        grind
      case h_2 word named =>
        split
        case h_1 isClass =>
          have described : Describes first (some ⟨first.row, none⟩) := by
            constructor <;> grind
          grind
        case h_2 isFunction =>
          have described (name : Word) : Describes first (some ⟨first.row, some name⟩) := by
            constructor <;> grind
          refine .bind fun _ => returns_functionRest.bind_of fun name known => ?_
          obtain ⟨word, rfl⟩ := Option.isSome_iff_exists.1 known
          exact .pure (described word)
        case h_3 isAsync =>
          have described (name : Option Word) : Describes first (some ⟨first.row, name⟩) := by
            constructor <;> grind
          have undescribed : Describes first none := describes_none (by grind) (by grind)
          have simple := Returns.pure undescribed
          refine .either (.bind fun _ => .bind fun function => ?_) (.bind fun _ => simple)
          grind
        case h_9 isMatch =>
          have undescribed : Describes first none := describes_none (by grind) (by grind)
          refine .either ?_ ?_ <;> grind
        -- The other words begin statements that define nothing.
        all_goals
          have undescribed : Describes first none := describes_none (by grind) (by grind)
          grind
      case h_3 unsigned unnamed =>
        refine .bind fun _ => .pure (describes_none ?_ fun word named => ?_)
        · exact fun sign => unsigned (congrArg some sign)
        · exact absurd (congrArg some named) (unnamed word)

/-! ### Blocks -/

/-- Statements in a row, each behind a line break among the units of the one before, and what they
define. -/
inductive Outline : List Lexeme → List Definition → Prop where
  | nil : Outline [] []
  | last {first : Lexeme} {more : List Lexeme} {defined : Option Definition}
      (describes : Describes first defined) : Outline (first :: more) defined.toList
  | cons {first : Lexeme} {more rest : List Lexeme} {defined : Option Definition}
      {definitions : List Definition} {indent row : Nat} (describes : Describes first defined)
      (behind : ⟨.newline indent, row⟩ :: rest <:+ first :: more)
      (others : Outline rest definitions) : Outline (first :: more) (defined.toList ++ definitions)

/-- The definitions of a block at the top are its outline. -/
theorem outline_of_block (read : block 0 fuel units = some (definitions, [])) :
    Outline units definitions := by
  induction fuel generalizing units definitions with
  | zero =>
      rw [block] at read
      cases read
  | succ fuel ih =>
      rw [block] at read
      cases units with
      | nil =>
          cases read
          exact .nil
      | cons first more =>
          obtain ⟨⟨defined, left⟩, done, read⟩ := Option.bind_eq_some_iff.1 read
          have describes := describes_of_statement done
          have behind := (keepsStatements (first :: more) fuel).statement 0 _ _ _
            List.suffix_rfl done
          cases left with
          | nil =>
              obtain rfl : defined.toList ++ [] = definitions :=
                congrArg Prod.fst (Option.some.inj read)
              rw [List.append_nil]
              exact .last describes
          | cons unit rest =>
              obtain ⟨token, row⟩ := unit
              cases token with
              | newline indent =>
                  obtain ⟨⟨others, left⟩, later, same⟩ := Option.bind_eq_some_iff.1
                    (show (block 0 fuel >>= fun others => pure (defined.toList ++ others)) rest =
                      some (definitions, []) from read)
                  cases same
                  exact .cons describes behind (ih later)
              | _ => cases read

/-- The rows of the definitions are those of units, and ascend as these do. -/
theorem Outline.ascending (outline : Outline units definitions)
    (ordered : units.Pairwise fun unit behind => unit.EndsBy behind.row) :
    (∀ definition ∈ definitions, ∃ unit ∈ units, definition.row = unit.row) ∧
      definitions.Pairwise fun a b => a.row < b.row := by
  induction outline with
  | nil => simp
  | @last first more defined describes =>
      refine ⟨fun definition member => ?_, ?_⟩
      · exact ⟨first, List.mem_cons_self, describes.row definition (Option.mem_toList.1 member)⟩
      · cases defined <;> simp
  | @cons first more rest defined definitions indent row describes behind others ih =>
      obtain ⟨ends, later⟩ := List.pairwise_cons.1 (ordered.sublist behind.sublist)
      obtain ⟨rows, ascends⟩ := ih later
      have here : ∀ definition ∈ defined.toList, definition.row = first.row :=
        fun definition member => describes.row definition (Option.mem_toList.1 member)
      have lineBreak : first.row ≤ row := by
        rcases List.mem_cons.1 (behind.subset List.mem_cons_self) with same | inside
        · rw [← same]
        · exact ((List.pairwise_cons.1 ordered).1 _ inside).1
      refine ⟨fun definition member => ?_, List.pairwise_append.2 ⟨?_, ascends, ?_⟩⟩
      · rcases List.mem_append.1 member with member | member
        · exact ⟨first, List.mem_cons_self, here definition member⟩
        · obtain ⟨unit, inside, same⟩ := rows definition member
          exact ⟨unit, behind.subset (List.mem_cons_of_mem _ inside), same⟩
      · cases defined <;> simp
      · intro definition member other found
        obtain ⟨unit, inside, same⟩ := rows other found
        rw [here definition member, same]
        exact Nat.lt_of_le_of_lt lineBreak ((ends unit inside).2 indent rfl)

/-- The statements of a script, which may begin with a line break, define what it defines. -/
def Outlines (source : String) (definitions : List Definition) : Prop :=
  ∃ units statements, lexemes? source.toList = some units ∧
    (units = statements ∨ ∃ indent row, units = ⟨.newline indent, row⟩ :: statements) ∧
      Outline statements definitions

/-- The definitions of a script are its outline. -/
theorem outlines_of_definitions? {source : String} (read : definitions? source = some definitions) :
    Outlines source definitions := by
  obtain ⟨units, lexed, read⟩ := Option.bind_eq_some_iff.1 read
  extract_lets body at read
  obtain ⟨⟨found, rest⟩, done, read⟩ := Option.bind_eq_some_iff.1 read
  obtain ⟨empty, same⟩ := Option.ite_none_right_eq_some.1 read
  obtain rfl := List.isEmpty_iff.1 empty
  cases same
  refine ⟨units, body, lexed, ?_, outline_of_block done⟩
  simp only [body]
  split
  · exact .inr ⟨_, _, rfl⟩
  · exact .inl rfl

/-- The rows of a script's definitions ascend. -/
theorem Outlines.ascending {source : String} (outlines : Outlines source definitions) :
    definitions.Pairwise fun a b => a.row < b.row := by
  obtain ⟨units, statements, lexed, begins, outline⟩ := outlines
  have ordered := pairwise_of_lexemes? lexed
  rcases begins with rfl | ⟨indent, row, rfl⟩
  · exact (outline.ascending ordered).2
  · exact (outline.ascending (List.pairwise_cons.1 ordered).2).2

/-- The parser reports definitions in ascending rows. -/
def Ascending (parse? : Parser) : Prop :=
  ∀ source definitions, parse? source = some definitions →
    definitions.Pairwise fun a b => a.row < b.row

/-- The parser of scripts does so. -/
theorem ascending_definitions? : Ascending definitions? :=
  fun _ _ read => (outlines_of_definitions? read).ascending

end Runbook.Script
