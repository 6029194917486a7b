import Runbook.Pattern.Basic

/-!
# Matching

From a set of places in a text an expression leads to the set of places where its matches end.
Sets are ascending lists, so no place is looked at twice and the time is polynomial whatever
the expression.
-/

namespace Runbook.Pattern

/-- The places of either set; both are ascending, and so is their union. -/
def merge : List Nat → List Nat → List Nat
  | [], others => others
  | places, [] => places
  | i :: places, j :: others =>
      if i < j then i :: merge places (j :: others)
      else if j < i then j :: merge (i :: places) others
      else i :: merge places others
termination_by places others => places.length + others.length

/-- The places of the first set that are not in the second. -/
def remove (places others : List Nat) : List Nat := places.filter fun i => !others.contains i

/-- All places reached by taking a step any number of times, found in at most `fuel` rounds:
`fresh` are the places reached last. -/
def closure (step : List Nat → List Nat) : Nat → List Nat → List Nat → List Nat
  | 0, reached, _ => reached
  | fuel + 1, reached, fresh =>
      let next := remove (step fresh) reached
      if next.isEmpty then reached else closure step fuel (merge reached next) next

/-- The places reached by taking a step exactly `count` times. -/
def iterate (step : List Nat → List Nat) : Nat → List Nat → List Nat
  | 0, places => places
  | count + 1, places => if places.isEmpty then [] else iterate step count (step places)

/-- The places where matches end that begin at one of `places`. -/
def ends (text : Array Char) : Pattern → List Nat → List Nat
  | .empty, places => places
  | .set chars, places =>
      (places.filter fun i => text[i]?.any chars.holds).map (· + 1)
  | .look condition, places =>
      places.filter fun i => condition.holds (if i = 0 then none else text[i - 1]?) text[i]?
  | .seq a b, places => b.ends text (a.ends text places)
  | .alt a b, places => merge (a.ends text places) (b.ends text places)
  | .star a, places => closure (a.ends text) (text.size + 1) places places
  | .exactly count a, places => iterate (a.ends text) count places
  | .atMost count a, places => closure (a.ends text) (min count (text.size + 1)) places places

/-- Does the expression match some part of the text? -/
def occursIn (pattern : Pattern) (text : List Char) : Bool :=
  !(pattern.ends text.toArray (List.range (text.length + 1))).isEmpty

end Runbook.Pattern
