import Runbook.Text.Category
import Runbook.Text.Letter

/-!
# Regular expressions

The trees that expressions denote, over sets of characters, and the relation that says which
parts of a text an expression matches.
-/

namespace Runbook

/-- A set of characters. -/
inductive CharSet where
  | range (low high : Nat)
  | table (runs : List Text.Run)
  | wordChars
  | blankChars
  | union (a b : CharSet)
  | inter (a b : CharSet)
  | diff (a b : CharSet)
  | complement (a : CharSet)
  | anyCase (a : CharSet)
  | asciiCase (a : CharSet)
deriving Repr, Inhabited

namespace CharSet

/-- No character. -/
def empty : CharSet := .range 1 0

/-- One character. -/
def single (c : Char) : CharSet := .range c.toNat c.toNat

/-- Every character. -/
def all : CharSet := .complement empty

/-- One of the sets. -/
def unions (sets : List CharSet) : CharSet := sets.foldl .union empty

/-- The characters that differ from `c` only in case, `c` among them. -/
def caseVariants (c : Char) : List Char :=
  let least := Text.caseFold c
  least :: Text.foldShifts.filterMap fun shift =>
    let n := shift.1 + (least.toNat - shift.2.2.2)
    if shift.2.2.2 ≤ least.toNat ∧ shift.holds n then some (Char.ofNat n) else none

/-- Is the character in the set? -/
def holds : CharSet → Char → Bool
  | .range low high, c => low ≤ c.toNat && c.toNat ≤ high
  | .table runs, c => Text.inRuns runs c
  | .wordChars, c => Text.isWordChar c
  | .blankChars, c => Text.isBlank c
  | .union a b, c => a.holds c || b.holds c
  | .inter a b, c => a.holds c && b.holds c
  | .diff a b, c => a.holds c && !b.holds c
  | .complement a, c => !a.holds c
  | .anyCase a, c => (caseVariants c).any a.holds
  | .asciiCase a, c => a.holds c || a.holds c.toLower || a.holds c.toUpper

/-- How many bytes one step of a matcher takes. -/
def stepSize : Nat := 24

/-- How many bytes a stretch of characters beyond ASCII takes: the steps over their encodings, of
which several have some in common. -/
def stretchSize : Nat := 60

/-- About how many bytes a matcher takes for a set: one step for ASCII, and more for each stretch
beyond it. The word characters are some eight hundred stretches, the blanks ten. -/
def size : CharSet → Nat
  | .range _ high => if high < 128 then stepSize else stretchSize
  | .table runs =>
      runs.foldl (fun size run => size + (if run.2.2 = 1 then 1 else run.2.1) * stretchSize)
        stepSize
  | .wordChars => 800 * stretchSize
  | .blankChars => 10 * stretchSize
  | .union a b | .inter a b | .diff a b => a.size + b.size
  | .complement a => a.size + stretchSize
  | .anyCase a | .asciiCase a => 2 * a.size

end CharSet

/-- A condition on a place in a text that takes no character. -/
inductive Look where
  | textStart
  | textEnd
  | lineStart (carriage : Bool)
  | lineEnd (carriage : Bool)
  | wordEdge (word : CharSet)
  | noWordEdge (word : CharSet)
  | wordStart (word : CharSet)
  | wordEnd (word : CharSet)
  | noWordBefore (word : CharSet)
  | noWordAfter (word : CharSet)
deriving Repr

/-- Does the condition hold between two characters? At the ends of the text there is none. With
`carriage`, a carriage return ends a line too, unless a line feed follows it. -/
def Look.holds (before after : Option Char) : Look → Bool
  | .textStart => before.isNone
  | .textEnd => after.isNone
  | .lineStart carriage =>
      before.isNone || before = some '\n' ||
        (carriage && before = some '\r' && after ≠ some '\n')
  | .lineEnd carriage =>
      after.isNone || (after = some '\n' && !(carriage && before = some '\r')) ||
        (carriage && after = some '\r')
  | .wordEdge word => before.any word.holds != after.any word.holds
  | .noWordEdge word => before.any word.holds == after.any word.holds
  | .wordStart word => !before.any word.holds && after.any word.holds
  | .wordEnd word => before.any word.holds && !after.any word.holds
  | .noWordBefore word => !before.any word.holds
  | .noWordAfter word => !after.any word.holds

/-- A regular expression. -/
inductive Pattern where
  | empty
  | set (set : CharSet)
  | look (look : Look)
  | seq (a b : Pattern)
  | alt (a b : Pattern)
  | star (a : Pattern)
  | exactly (count : Nat) (a : Pattern)
  | atMost (count : Nat) (a : Pattern)
deriving Repr, Inhabited

namespace Pattern

/-- One expression after the other. -/
def seqs (parts : List Pattern) : Pattern := parts.foldr .seq .empty

/-- `least` to `most` times in a row, without limit where there is no `most`. -/
def between (least : Nat) (most : Option Nat) (a : Pattern) : Pattern :=
  match most with
  | none => .seq (.exactly least a) (.star a)
  | some most => .seq (.exactly least a) (.atMost (most - least) a)

/-- About how many bytes a matcher takes for an expression. Counted repetitions are written out. -/
def size : Pattern → Nat
  | .empty | .look _ => CharSet.stepSize
  | .set chars => chars.size
  | .seq a b => a.size + b.size
  | .alt a b => a.size + b.size + CharSet.stepSize
  | .star a => a.size + CharSet.stepSize
  | .exactly count a => count * a.size + CharSet.stepSize
  | .atMost count a => count * (a.size + CharSet.stepSize) + CharSet.stepSize

end Pattern

/-- An expression matches the part of a text from one place to another. -/
inductive Pattern.Matches (text : List Char) : Pattern → Nat → Nat → Prop where
  | empty {i} : Matches text .empty i i
  | set {set i c} (there : text[i]? = some c) (member : set.holds c = true) :
      Matches text (.set set) i (i + 1)
  | look {look i}
      (holds : look.holds (if i = 0 then none else text[i - 1]?) text[i]? = true) :
      Matches text (.look look) i i
  | seq {a b i j k} (first : Matches text a i j) (second : Matches text b j k) :
      Matches text (.seq a b) i k
  | left {a b i j} (part : Matches text a i j) : Matches text (.alt a b) i j
  | right {a b i j} (part : Matches text b i j) : Matches text (.alt a b) i j
  | done {a i} : Matches text (.star a) i i
  | more {a i j k} (first : Matches text a i j) (rest : Matches text (.star a) j k) :
      Matches text (.star a) i k
  | none {a i} : Matches text (.exactly 0 a) i i
  | next {count a i j k} (first : Matches text a i j)
      (rest : Matches text (.exactly count a) j k) : Matches text (.exactly (count + 1) a) i k
  | enough {count a i} : Matches text (.atMost count a) i i
  | another {count a i j k} (first : Matches text a i j)
      (rest : Matches text (.atMost count a) j k) : Matches text (.atMost (count + 1) a) i k

end Runbook
