import Runbook.Proofs.Pattern.Engine
import Runbook.Proofs.Pattern.Progress
import Runbook.Proofs.Pattern.Search

/-!
# Expressions between anchors

What the reader makes of a text with anchors around it. A text that it reads by itself becomes a
group between the anchors, unless a comment at its end takes the closing bracket in
(`read?_framed_iff`). Any group that the reader opens ends at a bracket behind a text that it reads
by itself (`exists_of_reads_opened`). With what expressions match, these are the laws of an engine
(`lawful_engine`). Such a comment and the limits are all that keeps an expression from being one
between anchors (`compile?_anchored_isSome_iff`).
-/

namespace Runbook.Pattern

open Reading

variable {text source rest front back tail : List Char} {inner whole : Nested Pattern}
  {names later : List String} {parts : Parts} {found other : (Nested Pattern × List String) × List Char}

/-! ### Reading with enough fuel -/

/-- What is read of a text with some fuel, and so with any that is enough. -/
def Reads (names : List String) (parts : Parts) (text : List Char)
    (found : (Nested Pattern × List String) × List Char) : Prop :=
  ∃ fuel, readBody fuel .initial names parts text = some found

/-- With enough fuel the reader reads what is read. -/
theorem Reads.readBody {fuel : Nat} (reads : Reads names parts text found)
    (enough : text.length < fuel) : readBody fuel .initial names parts text = some found := by
  obtain ⟨_, read⟩ := reads
  exact readBody_fuel read enough

/-- A text is read in one way. -/
theorem Reads.unique (reads : Reads names parts text found) (again : Reads names parts text other) :
    found = other := by
  have enough := Nat.lt_succ_self text.length
  exact Option.some.inj ((reads.readBody enough).symm.trans (again.readBody enough))

/-- Behind a step that adds to the parts, the rest is read with these. -/
theorem reads_of_more {next : Parts}
    (step : readStep .initial parts text = some (.more next .initial, rest)) :
    Reads names parts text found ↔ Reads names next rest found := by
  constructor
  · rintro ⟨_ | fuel, read⟩
    · cases read
    · exact ⟨fuel, readBody_of_more step ▸ read⟩
  · rintro ⟨fuel, read⟩
    exact ⟨fuel + 1, readBody_of_more step ▸ read⟩

/-- Behind a step that opens a group, what is inside is read up to a bracket, and the rest with the
group as a part. -/
theorem reads_of_group (step : readStep .initial parts text = some (.group .initial none, rest)) :
    Reads names parts text found ↔ ∃ body later behind,
      Reads names .none rest ((body, later), ')' :: behind) ∧
        Reads later (parts.push ⟨some body.value, body.depth + 1⟩) behind found := by
  constructor
  · rintro ⟨_ | fuel, read⟩
    · cases read
    · obtain ⟨_, body, later, behind, ⟨⟩, inside, read⟩ := (readBody_of_group step).1 read
      exact ⟨body, later, behind, ⟨fuel, inside⟩, fuel, read⟩
  · rintro ⟨body, later, behind, inside, read⟩
    have enough : rest.length + behind.length < rest.length + behind.length + 1 := Nat.lt_succ_self _
    refine ⟨rest.length + behind.length + 2, (readBody_of_group step).2
      ⟨names, body, later, behind, rfl, inside.readBody ?_, read.readBody ?_⟩⟩ <;> omega

/-- An expression is read up to the end of its text. -/
theorem read?_eq_some_iff :
    read? text = some whole ↔ ∃ names, Reads [] .none text ((whole, names), []) := by
  constructor
  · intro read
    unfold read? at read
    split at read
    · rename_i names done
      cases read
      exact ⟨names, _, done⟩
    · cases read
  · rintro ⟨names, reads⟩
    unfold read?
    rw [reads.readBody (Nat.lt_succ_self _)]

/-- A text before whose end the reading stops is no expression. -/
theorem read?_of_reads_cons {c : Char}
    (reads : Reads [] .none text ((whole, names), c :: rest)) : read? text = none := by
  unfold read?
  rw [reads.readBody (Nat.lt_succ_self _)]

/-! ### Texts and what stands behind them -/

/-- The text is an expression and stays one where a bracket behind it closes a group: the bracket
alone makes it none, so no comment at its end takes the bracket in. -/
def Closable (text : List Char) : Prop := (read? text).isSome ∧ read? (text ++ [')']) = none

/-- A closable expression is read up to the bracket behind it. -/
theorem Closable.reads (closable : Closable front)
    (alone : Reads [] .none front ((whole, names), [])) (back : List Char) :
    Reads [] .none (front ++ ')' :: back) ((whole, names), ')' :: back) := by
  obtain ⟨fuel, read⟩ := alone
  have isLocal := Local.readBody .initial fuel [] Parts.none
  obtain ⟨more, pasted, read⟩ := isLocal.paste read (.inl rfl)
  rcases pasted with rfl | ⟨-, rfl⟩
  case inr => exact absurd (read?_eq_some_iff.2 ⟨names, fuel, read⟩) (by simp [closable.2])
  obtain ⟨left, same, -, again⟩ := isLocal.cut read Nat.one_pos
  obtain rfl : left = [] := by simpa using same
  exact ⟨fuel, again back⟩

/-- What is read up to a bracket is a closable expression. -/
theorem closable_of_reads
    (reads : Reads [] .none (front ++ ')' :: back) ((whole, names), ')' :: back)) :
    Reads [] .none front ((whole, names), []) ∧ Closable front := by
  obtain ⟨fuel, read⟩ := reads
  obtain ⟨left, same, alone, again⟩ :=
    (Local.readBody .initial fuel [] Parts.none).cut read (by simp)
  obtain rfl : left = [] := by simpa using same
  have isRead := read?_eq_some_iff.2 ⟨names, fuel, alone⟩
  exact ⟨⟨fuel, alone⟩, by simp [isRead], read?_of_reads_cons ⟨fuel, again []⟩⟩

/-- The first closable part of a text before a bracket is the text itself, where it is an expression
and no bracket is behind the one that follows it. -/
theorem eq_of_closable (alone : Reads [] .none source ((inner, names), []))
    (free : ')' ∉ tail) (split : source ++ ')' :: tail = front ++ ')' :: back)
    (isRead : Reads [] .none front ((whole, later), [])) (closable : Closable front) :
    front = source ∧ back = tail := by
  rcases List.append_eq_append_iff.1 split with ⟨more, rfl, behind⟩ | ⟨left, rfl, behind⟩
  · cases more with
    | nil => exact ⟨by simp, by simpa using behind.symm⟩
    | cons c more =>
        obtain ⟨-, rfl⟩ := List.cons.inj behind
        exact absurd (by simp) free
  · cases left with
    | nil => exact ⟨by simp, by simpa using behind⟩
    | cons c left =>
        -- the bracket within the text ends what is read of it
        obtain ⟨rfl, -⟩ := List.cons.inj behind
        cases (closable.reads isRead left).unique alone

/-! ### Groups -/

/-- The bracket of a group opens it. -/
theorem readStep_group (parts : Parts) (rest : List Char) :
    readStep .initial parts ("(?:".toList ++ rest) = some (.group .initial none, rest) := rfl

/-- What is opened ends at a bracket behind a closable expression. -/
theorem exists_of_reads_opened (reads : Reads [] parts ("(?:".toList ++ rest) found) :
    ∃ body later front back, rest = front ++ ')' :: back ∧
      Reads [] .none front ((body, later), []) ∧ Closable front ∧
      Reads later (parts.push ⟨some body.value, body.depth + 1⟩) back found := by
  obtain ⟨body, later, back, ⟨fuel, read⟩, behind⟩ :=
    (reads_of_group (readStep_group parts rest)).1 reads
  obtain ⟨front, rfl⟩ := (Local.readBody .initial fuel [] Parts.none).suffix read
  obtain ⟨isRead, closable⟩ := closable_of_reads ⟨fuel, read⟩
  exact ⟨body, later, front, back, rfl, isRead, closable, behind⟩

/-- An expression is read as a group where it is closable. -/
theorem reads_group_iff (alone : Reads [] .none source ((inner, names), [])) (free : ')' ∉ tail) :
    Reads [] parts (group source ++ tail) found ↔ Closable source ∧
      Reads names (parts.push ⟨some inner.value, inner.depth + 1⟩) tail found := by
  have opened : group source ++ tail = "(?:".toList ++ (source ++ ')' :: tail) := by
    simp [group]
  rw [opened]
  constructor
  · intro reads
    obtain ⟨body, later, front, back, split, isRead, closable, reads⟩ :=
      exists_of_reads_opened reads
    obtain ⟨rfl, rfl⟩ := eq_of_closable alone free split isRead closable
    cases alone.unique isRead
    exact ⟨closable, reads⟩
  · rintro ⟨closable, reads⟩
    exact (reads_of_group (readStep_group parts _)).2
      ⟨inner, names, tail, closable.reads alone tail, reads⟩

/-! ### Anchors around a group -/

/-- A text as a group, with an anchor before or behind it. -/
def framed (start stop : Bool) (source : List Char) : List Char :=
  (if start then ['^'] else []) ++ (group source ++ if stop then ['$'] else [])

/-- The parts of an expression where an anchor may have been read. -/
def begun (start : Bool) : Parts :=
  if start then Parts.none.pushLeaf (.look .textStart) else Parts.none

/-- The expression of a group, with an anchor before or behind it. With anchors there are several
parts in a row. -/
def Nested.framed (start stop : Bool) (inner : Nested Pattern) : Nested Pattern where
  value := seqs ((if start then [.look .textStart] else []) ++
    inner.value :: if stop then [.look .textEnd] else [])
  depth := inner.depth + 1 + if start || stop then 1 else 0

/-- An anchor in front is a part. -/
theorem reads_begun {start : Bool} :
    Reads [] .none ((if start then ['^'] else []) ++ text) found ↔
      Reads [] (begun start) text found := by
  cases start with
  | false => rfl
  | true => exact reads_of_more rfl

/-- Behind a group an anchor is the last part, and the end of the text ends the expression. -/
theorem reads_ended_iff {start stop : Bool} :
    Reads names ((begun start).push ⟨some inner.value, inner.depth + 1⟩)
        (if stop then ['$'] else []) found ↔
      found = ((inner.framed start stop, names), []) := by
  have ended : Reads names ((begun start).push ⟨some inner.value, inner.depth + 1⟩)
      (if stop then ['$'] else []) ((inner.framed start stop, names), []) := by
    cases start <;> cases stop <;> exact ⟨2, rfl⟩
  constructor
  · exact fun reads => reads.unique ended
  · rintro rfl
    exact ended

/-- An expression stays one as a group, with or without anchors, exactly where it is closable. -/
theorem read?_framed_iff {start stop : Bool} (alone : read? source = some inner) :
    read? (framed start stop source) = some whole ↔
      Closable source ∧ whole = inner.framed start stop := by
  obtain ⟨names, alone⟩ := read?_eq_some_iff.1 alone
  have free : ')' ∉ (if stop then ['$'] else [] : List Char) := by cases stop <;> decide
  simp only [read?_eq_some_iff, framed, reads_begun, reads_group_iff alone free, reads_ended_iff,
    Prod.mk.injEq, and_true, exists_and_left, exists_eq]

/-! ### What an anchored expression matches -/

/-- The first anchor holds where the text begins. -/
theorem textStart_iff {i : Nat} (inside : i ≤ text.length) :
    Matches text (.look .textStart) i i ↔ i = 0 := by
  have before : text[i - 1]? = none ↔ i = 0 ∧ text = [] := by
    rw [List.getElem?_eq_none_iff, ← List.length_eq_zero_iff]
    omega
  by_cases first : i = 0 <;> simp [Look.holds, first, before]

/-- The last anchor holds where the text ends. -/
theorem textEnd_iff {i : Nat} (inside : i ≤ text.length) :
    Matches text (.look .textEnd) i i ↔ i = text.length := by
  simp only [matches_look_iff, Look.holds, true_and, Option.isNone_iff_eq_none,
    List.getElem?_eq_none_iff]
  omega

/-- Behind the start of a text an expression matches where it begins at the start. -/
theorem matches_begun_iff {p : Pattern} {i j : Nat} (inside : i ≤ text.length) :
    Matches text (.seq (.look .textStart) p) i j ↔ i = 0 ∧ Matches text p i j := by
  rw [matches_seq_iff]
  constructor
  · rintro ⟨k, start, found⟩
    obtain rfl := (matches_look_iff.1 start).1
    exact ⟨(textStart_iff inside).1 start, found⟩
  · rintro ⟨start, found⟩
    exact ⟨i, (textStart_iff inside).2 start, found⟩

/-- Before the end of a text an expression matches where it ends at the end. -/
theorem matches_ended_iff {p : Pattern} {i j : Nat} (inside : i ≤ text.length) :
    Matches text (.seq p (.seq (.look .textEnd) .empty)) i j ↔
      Matches text p i j ∧ j = text.length := by
  simp only [matches_seq_iff, matches_empty_iff]
  constructor
  · rintro ⟨k, found, l, stop, rfl⟩
    obtain rfl := (matches_look_iff.1 stop).1
    exact ⟨found, (textEnd_iff (found.le_length inside)).1 stop⟩
  · rintro ⟨found, stop⟩
    exact ⟨j, found, j, (textEnd_iff (found.le_length inside)).2 stop, rfl⟩

/-- A group matches what is inside it; an anchor holds it at the start or the end of the text. -/
theorem matches_framed_iff {start stop : Bool} {i j : Nat} (inside : i ≤ text.length) :
    Matches text (inner.framed start stop).value i j ↔
      (start = true → i = 0) ∧ Matches text inner.value i j ∧ (stop = true → j = text.length) := by
  have alone : ∀ p, Matches text (.seq p .empty) i j ↔ Matches text p i j := by simp
  cases start <;> cases stop <;>
    simp [Nested.framed, seqs, matches_begun_iff inside, matches_ended_iff inside, alone,
      -matches_seq_iff]

/-! ### Within the limits -/

/-- An expression is parsed where it is read and is within the limits. -/
theorem parse?_eq_some_iff {p : Pattern} :
    parse? text = some p ↔
      ∃ whole, read? text = some whole ∧ whole.fits = true ∧ whole.value = p := by
  simp [parse?, and_assoc]

/-- With fewer anchors an expression comes to no more. -/
theorem fits_framed {start : Bool} (fits : (inner.framed true true).fits = true) :
    (inner.framed start false).fits = true := by
  have both : (inner.framed true true).value.size =
      CharSet.stepSize + (inner.value.size + (CharSet.stepSize + CharSet.stepSize)) := rfl
  have depth : (inner.framed true true).depth = inner.depth + 2 := rfl
  have fewer : (inner.framed start false).value.size ≤
      CharSet.stepSize + (inner.value.size + CharSet.stepSize) := by
    cases start
    · exact Nat.le_add_left _ _
    · exact le_rfl
  have shallower : (inner.framed start false).depth ≤ inner.depth + 2 := by
    cases start <;> simp [Nested.framed]
  simp only [Nested.fits, Bool.and_eq_true, decide_eq_true_eq] at fits ⊢
  omega

/-- Where a text is an expression, what it becomes as a group is that of its own tree. -/
theorem exists_of_parse?_framed {start stop : Bool} {p q : Pattern} (alone : parse? source = some p)
    (around : parse? (framed start stop source) = some q) :
    ∃ inner, read? source = some inner ∧ inner.value = p ∧ (inner.framed start stop).value = q ∧
      Closable source ∧ (inner.framed start stop).fits = true := by
  obtain ⟨inner, read, -, rfl⟩ := parse?_eq_some_iff.1 alone
  obtain ⟨whole, framed, fits, rfl⟩ := parse?_eq_some_iff.1 around
  obtain ⟨closable, rfl⟩ := (read?_framed_iff read).1 framed
  exact ⟨inner, read, rfl, rfl, closable, fits⟩

/-- Whatever anchors it has, an expression in a group is of one tree. -/
theorem exists_of_parse?_framed_twice {start stop first last : Bool} {p q r : Pattern}
    (alone : parse? source = some p) (isPart : parse? (framed start stop source) = some q)
    (around : parse? (framed first last source) = some r) :
    ∃ inner : Nested Pattern,
      (inner.framed start stop).value = q ∧ (inner.framed first last).value = r := by
  obtain ⟨inner, read, -, part, -⟩ := exists_of_parse?_framed alone isPart
  obtain ⟨same, again, -, rfl, -⟩ := exists_of_parse?_framed alone around
  obtain rfl := Option.some.inj (again.symm.trans read)
  exact ⟨same, part, rfl⟩

theorem group_eq_framed : group source = framed false false source := by simp [framed]

theorem begun_eq_framed : '^' :: group source = framed true false source := by simp [framed]

theorem anchored_eq_framed : anchored source = framed true true source := by
  simp [framed, anchored]

/-! ### The laws -/

/-- What the expressions of the engine match. -/
def spans : engine.Spans := fun expression text i j =>
  i ≤ text.length ∧ Matches text expression i j

/-- A text that keeps the grammar is one that is read. -/
def IsRead (source : List Char) : Prop := (read? source).isSome = true

/-- Anchors keep what is matched at the start or the end of the text. -/
theorem spans_framed_iff {start stop : Bool} {i j : Nat} :
    spans (inner.framed start stop).value text i j ↔
      (start = true → i = 0) ∧ spans inner.value text i j ∧ (stop = true → j = text.length) := by
  unfold spans
  constructor
  · rintro ⟨inside, found⟩
    obtain ⟨first, found, last⟩ := (matches_framed_iff inside).1 found
    exact ⟨first, ⟨inside, found⟩, last⟩
  · rintro ⟨first, ⟨inside, found⟩, last⟩
    exact ⟨inside, (matches_framed_iff inside).2 ⟨first, found, last⟩⟩

/-- The engine keeps the laws. -/
theorem lawful_engine : engine.Lawful IsRead spans where
  isMatch_iff := occursIn_iff.trans (by simp [spans])
  grammar_of_compile? := by
    intro source p compiled
    obtain ⟨whole, read, -⟩ := parse?_eq_some_iff.1 compiled
    simp [IsRead, read]
  group := by
    intro source p q alone around text i j
    obtain ⟨inner, -, rfl, rfl, -⟩ := exists_of_parse?_framed alone (group_eq_framed ▸ around)
    simp [spans_framed_iff]
  textStart := by
    intro source p grouped q alone isGroup around text i j
    obtain ⟨inner, rfl, rfl⟩ := exists_of_parse?_framed_twice alone
      (group_eq_framed ▸ isGroup) (begun_eq_framed ▸ around)
    simp [spans_framed_iff]
  textEnd := by
    intro source p begun q alone isBegun around text i j
    obtain ⟨inner, rfl, rfl⟩ := exists_of_parse?_framed_twice alone
      (begun_eq_framed ▸ isBegun) (anchored_eq_framed ▸ around)
    simp [spans_framed_iff, and_assoc]
  parts := by
    intro source p q alone around
    obtain ⟨inner, read, rfl, rfl, closable, fits⟩ :=
      exists_of_parse?_framed alone (anchored_eq_framed ▸ around)
    have framed (start : Bool) :
        parse? (framed start false source) = some (inner.framed start false).value :=
      parse?_eq_some_iff.2 ⟨_, (read?_framed_iff read).2 ⟨closable, rfl⟩, fits_framed fits, rfl⟩
    exact ⟨⟨_, group_eq_framed ▸ framed false⟩, _, begun_eq_framed ▸ framed true⟩
  closed := by
    intro rest opened
    obtain ⟨whole, read⟩ := Option.isSome_iff_exists.1 opened
    obtain ⟨names, reads⟩ := read?_eq_some_iff.1 read
    have begun : Reads [] (begun true) ("(?:".toList ++ rest) ((whole, names), []) :=
      reads_begun.1 reads
    obtain ⟨body, later, front, back, rfl, isRead, -⟩ := exists_of_reads_opened begun
    have keeps := read?_eq_some_iff.2 ⟨later, isRead⟩
    exact ⟨front, back, rfl, by simp [IsRead, keeps]⟩

/-- An expression of the engine stays one between anchors exactly where no comment at its end takes
the bracket behind it in, and where it is within the limits with the anchors too. -/
theorem compile?_anchored_isSome_iff (alone : read? source = some inner) :
    (engine.compile? (anchored source)).isSome = true ↔
      read? (source ++ [')']) = none ∧ (inner.framed true true).fits = true := by
  rw [Option.isSome_iff_exists]
  constructor
  · rintro ⟨p, around⟩
    obtain ⟨whole, framed, fits, -⟩ := parse?_eq_some_iff.1 (anchored_eq_framed ▸ around)
    obtain ⟨closable, rfl⟩ := (read?_framed_iff alone).1 framed
    exact ⟨closable.2, fits⟩
  · rintro ⟨free, fits⟩
    have closable : Closable source := ⟨by simp [alone], free⟩
    exact ⟨_, parse?_eq_some_iff.2
      ⟨_, anchored_eq_framed ▸ (read?_framed_iff alone).2 ⟨closable, rfl⟩, fits, rfl⟩⟩

end Runbook.Pattern
