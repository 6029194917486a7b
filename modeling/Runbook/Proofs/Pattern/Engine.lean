import Runbook.Pattern.Engine

/-!
# What an engine for expressions promises

The laws are those of the documented syntax that writing anchors around a text rests on: what a
group and the two anchors match, and that a bracket which opens a group has one that closes it
(`Engine.Lawful`). From them, where a text is an expression and stays one between anchors, the
anchors make it match whole texts (`Engine.Lawful.isMatch_anchored_iff`). Where it becomes an
expression only there, it closes the group of the anchors before its end, or is beyond the limits by
itself (`Engine.Lawful.grammar_or_closesEarly`).
-/

namespace Runbook.Pattern

/-- Where the expressions of an engine match: the part of a text from one place to another. -/
abbrev Engine.Spans (engine : Engine) : Type :=
  engine.Expression → List Char → Nat → Nat → Prop

/-- What is documented of expressions. A text that becomes an expression keeps the `grammar`, and
may yet break a limit where it does; `spans` says what expressions match. -/
structure Engine.Lawful (engine : Engine) (grammar : List Char → Prop) (spans : engine.Spans) :
    Prop where
  /-- A search finds whether some part of the text is matched. -/
  isMatch_iff : ∀ {expression text}, engine.isMatch expression text = true ↔
    ∃ i j, spans expression text i j
  /-- Expressions keep the grammar. -/
  grammar_of_compile? : ∀ {source expression}, engine.compile? source = some expression →
    grammar source
  /-- A group matches what is inside it. -/
  group : ∀ {source inner whole}, engine.compile? source = some inner →
    engine.compile? (group source) = some whole →
      ∀ {text i j}, spans whole text i j ↔ spans inner text i j
  /-- Behind a circumflex a group matches what begins where the text does. -/
  textStart : ∀ {source inner grouped whole}, engine.compile? source = some inner →
    engine.compile? (Pattern.group source) = some grouped →
      engine.compile? ('^' :: Pattern.group source) = some whole →
        ∀ {text i j}, spans whole text i j ↔ i = 0 ∧ spans grouped text i j
  /-- Before a dollar sign it matches what ends where the text does. -/
  textEnd : ∀ {source inner begun whole}, engine.compile? source = some inner →
    engine.compile? ('^' :: Pattern.group source) = some begun →
      engine.compile? (anchored source) = some whole →
        ∀ {text i j}, spans whole text i j ↔ spans begun text i j ∧ j = text.length
  /-- An expression between anchors is one without them. -/
  parts : ∀ {source inner whole}, engine.compile? source = some inner →
    engine.compile? (anchored source) = some whole →
      (∃ grouped, engine.compile? (Pattern.group source) = some grouped) ∧
        ∃ begun, engine.compile? ('^' :: Pattern.group source) = some begun
  /-- A group that is opened is closed, and what is inside keeps the grammar. -/
  closed : ∀ {rest}, grammar ("^(?:".toList ++ rest) →
    ∃ front back, rest = front ++ ')' :: back ∧ grammar front

/-- The text closes a group that it did not open, behind a part that keeps the grammar. -/
def ClosesEarly (grammar : List Char → Prop) (source : List Char) : Prop :=
  ∃ front back, source = front ++ ')' :: back ∧ grammar front

namespace Engine.Lawful

variable {engine : Engine} {grammar : List Char → Prop} {spans : engine.Spans}
  {source text : List Char} {inner whole : engine.Expression} {i j : Nat}

/-- Between anchors an expression matches what it matches of the whole text. -/
theorem spans_anchored_iff (lawful : engine.Lawful grammar spans)
    (alone : engine.compile? source = some inner)
    (around : engine.compile? (anchored source) = some whole) :
    spans whole text i j ↔ i = 0 ∧ j = text.length ∧ spans inner text i j := by
  obtain ⟨⟨grouped, isGroup⟩, begun, isBegun⟩ := lawful.parts alone around
  rw [lawful.textEnd alone isBegun around, lawful.textStart alone isGroup isBegun,
    lawful.group alone isGroup]
  exact ⟨fun ⟨⟨start, found⟩, stop⟩ => ⟨start, stop, found⟩,
    fun ⟨start, stop, found⟩ => ⟨⟨start, found⟩, stop⟩⟩

/-- Between anchors an expression is found exactly where it matches the whole text. -/
theorem isMatch_anchored_iff (lawful : engine.Lawful grammar spans)
    (alone : engine.compile? source = some inner)
    (around : engine.compile? (anchored source) = some whole) :
    engine.isMatch whole text = true ↔ spans inner text 0 text.length := by
  rw [lawful.isMatch_iff]
  constructor
  · rintro ⟨i, j, found⟩
    obtain ⟨rfl, rfl, found⟩ := (lawful.spans_anchored_iff alone around).1 found
    exact found
  · intro found
    exact ⟨0, text.length, (lawful.spans_anchored_iff alone around).2 ⟨rfl, rfl, found⟩⟩

/-- A text that the anchors make an expression keeps the grammar up to the bracket behind it, or up
to one of its own. -/
theorem grammar_or_closesEarly (lawful : engine.Lawful grammar spans)
    (around : engine.compile? (anchored source) = some whole) :
    grammar source ∨ ClosesEarly grammar source := by
  have opened : anchored source = "^(?:".toList ++ (source ++ [')', '$']) := by
    simp [anchored, Pattern.group]
  obtain ⟨front, back, split, keeps⟩ :=
    lawful.closed (opened ▸ lawful.grammar_of_compile? around)
  rcases List.append_eq_append_iff.1 split with ⟨more, rfl, tail⟩ | ⟨left, rfl, tail⟩
  · -- the bracket behind the text is the only one there
    cases more with
    | nil => exact .inl (by simpa using keeps)
    | cons c more => cases more <;> simp_all
  · cases left with
    | nil => exact .inl (by simpa using keeps)
    | cons c left =>
        obtain ⟨rfl, -⟩ := List.cons.inj tail
        exact .inr ⟨front, left, rfl, keeps⟩

end Engine.Lawful

end Runbook.Pattern
