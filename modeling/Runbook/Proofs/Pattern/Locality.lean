import Runbook.Pattern.Reader
import Runbook.Proofs.Pattern.Reading

/-!
# Expressions are read up to their closing bracket

Every reader of the parts of an expression is local, up to the one for the inside of a group
(`Local.readBody`). So the inside of a group is the same expression as its text by itself, unless a
comment at its end takes in the closing bracket. What is gathered as one piece never holds a
closing bracket, and the fixed texts that are looked for hold none.
-/

namespace Runbook.Pattern

open Reading

/-! ### A closing bracket is of no kind that is gathered -/

/-- The closing bracket is no letter or digit. -/
theorem isAlphanumeric_bracket : Text.isAlphanumeric ')' = false := by decide

/-- It is no digit. -/
theorem isDigit_bracket : Text.isDigit ')' = false := by decide

/-- It is no blank. -/
theorem isBlank_bracket : Text.isBlank ')' = false := by decide

/-- It stands in no word for a look. -/
theorem isLookChar_bracket : isLookChar ')' = false := by decide

/-- It stands in no name of a property. -/
theorem isPropertyChar_bracket : isPropertyChar ')' = false := by decide

/-- It stands in no name of a group. -/
theorem isNameChar_bracket : isNameChar ')' = false := by decide

namespace Local

variable (mode : Mode)

/-! ### Escapes -/

@[grind ←] theorem readChars (count : Nat) : Local (readChars mode count) := by
  induction count with
  | zero => exact pure []
  | succ count ih =>
      unfold Pattern.readChars
      grind

@[grind ←] theorem readCode (length : Nat) : Local (readCode mode length) := by
  unfold Pattern.readCode
  grind [isAlphanumeric_bracket]

@[grind ←] theorem readWordLook : Local (readWordLook mode) := by
  unfold Pattern.readWordLook
  grind [isLookChar_bracket]

@[grind ←] theorem readProperty : Local (readProperty mode) := by
  unfold Pattern.readProperty
  grind [isPropertyChar_bracket]

/-- Whatever an escape stands for, what is behind it does not count. -/
@[grind ←] theorem readEscape : Local (readEscape mode) := by
  unfold Pattern.readEscape
  grind

/-! ### Classes -/

@[grind ←] theorem readNamedSet {sets : List (String × CharSet)}
    (free : ∀ entry ∈ sets, ')' ∉ entry.1.toList) : Local (readNamedSet mode sets) := by
  induction sets with
  | nil => exact pure none
  | cons entry others ih =>
      unfold Pattern.readNamedSet
      grind

@[grind ←] theorem readSetItem : Local (readSetItem mode) := by
  unfold Pattern.readSetItem
  grind

@[grind ←] theorem readSetRange : Local (readSetRange mode) := by
  unfold Pattern.readSetRange
  refine bind (readSetItem mode) fun first => bind (skip mode) fun _ => ?_
  grind

@[grind ←] theorem readSetStart : Local (readSetStart mode) := by
  unfold Pattern.readSetStart
  grind

/-- Each step within brackets is local, and so are the steps one after the other. -/
@[grind ←] theorem readSetStep (parts : SetParts) : Local (readSetStep mode parts) := by
  have free : ∀ entry ∈ namedSets, ')' ∉ entry.1.toList := by decide
  unfold Pattern.readSetStep
  refine bind (skip mode) fun _ => takeOr (by decide) (pure _) ?_
  refine takeOr (by decide) (pure _) (takeOr (by decide) (pure _) ?_)
  grind

@[grind ←] theorem readInside (fuel : Nat) (parts : SetParts) :
    Local (readInside mode fuel parts) := by
  induction fuel generalizing parts with
  | zero => exact failure
  | succ fuel ih =>
      unfold Pattern.readInside
      grind

@[grind ←] theorem readSet (fuel : Nat) : Local (readSet mode fuel) := by
  unfold Pattern.readSet
  grind

/-! ### Expressions -/

@[grind ←] theorem readCount : Local (readCount mode) := by
  unfold Pattern.readCount
  grind [isBlank_bracket, isDigit_bracket]

@[grind ←] theorem readCounts : Local (readCounts mode) := by
  unfold Pattern.readCounts
  grind

@[grind ←] theorem readFlags (left : Nat) (seen : List Char) (negating dangling : Bool) :
    Local (readFlags left mode seen negating dangling) := by
  induction left generalizing mode seen negating dangling with
  | zero => exact failure
  | succ left ih =>
      unfold Pattern.readFlags
      grind

@[grind ←] theorem readGroupName : Local readGroupName := by
  unfold Pattern.readGroupName
  grind [isNameChar_bracket]

@[grind ←] theorem readOpening : Local (readOpening mode) := by
  unfold Pattern.readOpening
  grind

@[grind ←] theorem readRepeated (parts : Parts) (repetition : Pattern → Pattern) :
    Local (readRepeated mode parts repetition) := by
  unfold Pattern.readRepeated
  grind

/-- Each step of the reader is local. -/
@[grind ←] theorem readStep (parts : Parts) : Local (readStep mode parts) := by
  unfold Pattern.readStep
  grind

/-- What is read of an expression does not depend on what follows a bracket that it does not
open. -/
@[grind ←] theorem readBody (fuel : Nat) (names : List String) (parts : Parts) :
    Local (readBody fuel mode names parts) := by
  induction fuel generalizing mode names parts with
  | zero => exact failure
  | succ fuel ih =>
      unfold Pattern.readBody
      refine bind (readStep mode parts) fun step => ?_
      cases step with
      | finished => exact pure _
      | more parts mode => exact ih mode names parts
      | set => exact bind (readSet mode fuel) fun set => ih mode names _
      | group inner name => grind

end Local

end Runbook.Pattern
