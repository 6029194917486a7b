import Runbook.Proofs.Pattern.Anchor
import Runbook.Rules.Basic

/-!
# Names that match a pattern

A pattern for names is written between anchors as a text, whatever engine reads it. Where the source
is an expression, and is one between the anchors too, this means the whole name; where the anchors
make no expression of it, the pattern matches only its own text (`holds_exact`). That is meant for
every source that is no expression. But a source that closes the group of the anchors early can be
one between them, of another shape (`misread_when_closed_early`), and an expression can be none
between them, as when it ends in a comment.
-/

namespace Runbook.NamePattern

open Pattern (Engine anchored ClosesEarly IsRead)

variable {engine : Engine} {grammar : List Char → Prop} {spans : engine.Spans}
  {pattern : NamePattern} {name : String}

/-- With an expression between the anchors a pattern matches where that occurs. -/
theorem holdsWith_of_expression {whole : engine.Expression}
    (around : engine.compile? (anchored pattern.source.toList) = some whole) :
    pattern.holdsWith engine name = engine.isMatch whole name.toList := by
  rw [holdsWith, around]

/-- Without an expression between the anchors a pattern matches only its source. -/
theorem holdsWith_of_no_expression
    (around : engine.compile? (anchored pattern.source.toList) = none) :
    pattern.holdsWith engine name = true ↔ name = pattern.source := by
  rw [holdsWith, around]
  exact decide_eq_true_iff.trans eq_comm

/-- What a pattern matches, with any engine that keeps the laws of expressions. A source that is an
expression, and one between the anchors, matches the names all of which that expression matches. A
source of which the anchors make no expression matches its own text. Such are all that break the
grammar and do not close the group of the anchors early. Where the anchors make an expression of a
source that is none, the source closes that group early or is beyond the limits by itself, and the
pattern matches every name in which the other expression occurs. -/
theorem holds_exact (lawful : engine.Lawful grammar spans) (pattern : NamePattern) (name : String) :
    (∀ inner whole, engine.compile? pattern.source.toList = some inner →
      engine.compile? (anchored pattern.source.toList) = some whole →
        (pattern.holdsWith engine name = true ↔
          spans inner name.toList 0 name.toList.length)) ∧
    (engine.compile? (anchored pattern.source.toList) = none →
      (pattern.holdsWith engine name = true ↔ name = pattern.source)) ∧
    (¬grammar pattern.source.toList → ¬ClosesEarly grammar pattern.source.toList →
      (pattern.holdsWith engine name = true ↔ name = pattern.source)) ∧
    ∀ whole, engine.compile? pattern.source.toList = none →
      engine.compile? (anchored pattern.source.toList) = some whole →
        (grammar pattern.source.toList ∨ ClosesEarly grammar pattern.source.toList) ∧
          (pattern.holdsWith engine name = true ↔ ∃ i j, spans whole name.toList i j) := by
  refine ⟨fun inner whole alone around => ?_, holdsWith_of_no_expression, fun broken late => ?_,
    fun whole alone around => ⟨lawful.grammar_or_closesEarly around, ?_⟩⟩
  · rw [holdsWith_of_expression around, lawful.isMatch_anchored_iff alone around]
  · cases around : engine.compile? (anchored pattern.source.toList) with
    | none => exact holdsWith_of_no_expression around
    | some whole => exact absurd (lawful.grammar_or_closesEarly around) (not_or.2 ⟨broken, late⟩)
  · rw [holdsWith_of_expression around, lawful.isMatch_iff]

/-- With the engine of this library: a name of the rules, a source that ends in a comment, one that
is no expression, and one that closes the group early. -/
theorem holds_exact_recordTime :
    Pattern.engine.Lawful IsRead Pattern.spans ∧
    (∃ inner whole, Pattern.engine.compile? "Record(Start)?Time".toList = some inner ∧
      Pattern.engine.compile? (anchored "Record(Start)?Time".toList) = some whole ∧
      (NamePattern.holds ⟨"Record(Start)?Time"⟩ "RecordTime" = true ↔
        Pattern.spans inner "RecordTime".toList 0 "RecordTime".toList.length)) ∧
    (Pattern.engine.compile? (anchored "(?x)a #".toList) = none ∧
      (NamePattern.holds ⟨"(?x)a #"⟩ "a" = true ↔ "a" = "(?x)a #")) ∧
    (¬IsRead "Record(".toList ∧ ¬ClosesEarly IsRead "Record(".toList ∧
      (NamePattern.holds ⟨"Record("⟩ "RecordTime" = true ↔ "RecordTime" = "Record(")) ∧
    ∃ whole, Pattern.engine.compile? "a)(b".toList = none ∧
      Pattern.engine.compile? (anchored "a)(b".toList) = some whole ∧
      (NamePattern.holds ⟨"a)(b"⟩ "ab" = true ↔
        ∃ i j, Pattern.spans whole "ab".toList i j) := by
  have exact (source name : String) := holds_exact Pattern.lawful_engine ⟨source⟩ name
  have recordTime : (Pattern.engine.compile? "Record(Start)?Time".toList).isSome = true := by
    decide +kernel
  have between : (Pattern.engine.compile? (anchored "Record(Start)?Time".toList)).isSome =
      true := by
    decide +kernel
  have closed : (Pattern.engine.compile? (anchored "a)(b".toList)).isSome = true := by
    decide
  obtain ⟨inner, isInner⟩ := Option.isSome_iff_exists.1 recordTime
  obtain ⟨whole, isWhole⟩ := Option.isSome_iff_exists.1 between
  obtain ⟨other, isOther⟩ := Option.isSome_iff_exists.1 closed
  have swallowed : Pattern.engine.compile? (anchored "(?x)a #".toList) = none := by decide +kernel
  have broken : ¬IsRead "Record(".toList := by
    unfold IsRead
    decide +kernel
  have late : ¬ClosesEarly IsRead "Record(".toList := by
    rintro ⟨front, back, split, -⟩
    have bracket : ')' ∈ "Record(".toList := split ▸ by simp
    exact absurd bracket (by decide)
  have alone : Pattern.engine.compile? "a)(b".toList = none := by decide
  exact ⟨Pattern.lawful_engine,
    ⟨inner, whole, isInner, isWhole,
      (exact "Record(Start)?Time" "RecordTime").1 inner whole isInner isWhole⟩,
    ⟨swallowed, (exact "(?x)a #" "a").2.1 swallowed⟩,
    ⟨broken, late, (exact "Record(" "RecordTime").2.2.1 broken late⟩,
    other, alone, isOther, ((exact "a)(b" "ab").2.2.2 other alone isOther).2⟩

/-- A text that closes the group early matches what is not its text, and not its text. -/
theorem misread_when_closed_early :
    Pattern.engine.compile? "a)(b".toList = none ∧ NamePattern.holds ⟨"a)(b"⟩ "ab" = true ∧
      NamePattern.holds ⟨"a)(b"⟩ "a)(b" = false := by
  decide

end Runbook.NamePattern
