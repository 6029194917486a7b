import Mathlib.Data.Finset.Card
import Mathlib.Data.Finset.Range
import Runbook.Pattern.Search

/-!
# The search finds the matches

The places that an expression leads to are those where a match ends (`mem_ends_iff`), so an
expression occurs in a text exactly where it matches a part of it (`occursIn_iff`). Places are
visited once: what was reached without being expanded are the fresh places, and as a text has
finitely many places, as many rounds as there are of them reach everything.
-/

namespace Runbook.Pattern

variable {text : List Char} {a b p : Pattern} {i j k count : Nat}

/-! ### Matches of each form -/

/-- The empty expression matches nothing, anywhere. -/
@[simp] theorem matches_empty_iff : Matches text .empty i j ↔ j = i := by
  constructor
  · rintro ⟨⟩
    rfl
  · rintro rfl
    exact .empty

/-- A set matches one character that it holds. -/
@[simp] theorem matches_set_iff {set : CharSet} :
    Matches text (.set set) i j ↔ j = i + 1 ∧ text[i]?.any set.holds = true := by
  constructor
  · rintro ⟨⟩
    simp_all
  · rintro ⟨rfl, member⟩
    obtain ⟨c, there, member⟩ := (Option.any_eq_true _ _).1 member
    exact .set there member

/-- A look matches nothing, where it holds between its neighbours. -/
@[simp] theorem matches_look_iff {look : Look} :
    Matches text (.look look) i j ↔
      j = i ∧ look.holds (if i = 0 then none else text[i - 1]?) text[i]? = true := by
  constructor
  · rintro ⟨⟩
    exact ⟨rfl, ‹_›⟩
  · rintro ⟨rfl, holds⟩
    exact .look holds

/-- A row matches its parts one behind the other. -/
@[simp] theorem matches_seq_iff :
    Matches text (.seq a b) i k ↔ ∃ j, Matches text a i j ∧ Matches text b j k := by
  constructor
  · rintro ⟨⟩
    exact ⟨_, ‹_›, ‹_›⟩
  · rintro ⟨j, first, second⟩
    exact .seq first second

/-- An alternative matches what one of its sides does. -/
@[simp] theorem matches_alt_iff :
    Matches text (.alt a b) i j ↔ Matches text a i j ∨ Matches text b i j := by
  constructor
  · rintro ⟨⟩
    · exact .inl ‹_›
    · exact .inr ‹_›
  · rintro (part | part)
    · exact .left part
    · exact .right part

/-- No repetition matches nothing. -/
@[simp] theorem matches_exactly_zero_iff : Matches text (.exactly 0 a) i j ↔ j = i := by
  constructor
  · rintro ⟨⟩
    rfl
  · rintro rfl
    exact .none

/-- Repetitions match the first and then the others. -/
@[simp] theorem matches_exactly_succ_iff :
    Matches text (.exactly (count + 1) a) i k ↔
      ∃ j, Matches text a i j ∧ Matches text (.exactly count a) j k := by
  constructor
  · rintro ⟨⟩
    exact ⟨_, ‹_›, ‹_›⟩
  · rintro ⟨j, first, rest⟩
    exact .next first rest

/-- At most none match nothing. -/
@[simp] theorem matches_atMost_zero_iff : Matches text (.atMost 0 a) i j ↔ j = i := by
  constructor
  · rintro ⟨⟩
    rfl
  · rintro rfl
    exact .enough

/-- Repetitions up to a bound match nothing, or the first and then the others up to one less. -/
theorem matches_atMost_succ_iff :
    Matches text (.atMost (count + 1) a) i k ↔
      k = i ∨ ∃ j, Matches text a i j ∧ Matches text (.atMost count a) j k := by
  constructor
  · rintro ⟨⟩
    · exact .inl rfl
    · exact .inr ⟨_, ‹_›, ‹_›⟩
  · rintro (rfl | ⟨j, first, rest⟩)
    · exact .enough
    · exact .another first rest

namespace Matches

/-- A match ends inside the text that it begins in. -/
theorem le_length (found : Matches text p i j) (inside : i ≤ text.length) : j ≤ text.length := by
  induction found with
  | empty | look | done | none | enough => exact inside
  | set there => exact (List.getElem?_eq_some_iff.1 there).1
  | seq _ _ first second | more _ _ first second | next _ _ first second
  | another _ _ first second => exact second (first inside)
  | left _ part | right _ part => exact part inside

/-- More repetitions allow for all that fewer do. -/
theorem atMost_mono {more : Nat} (found : Matches text (.atMost count a) i j)
    (le : count ≤ more) : Matches text (.atMost more a) i j := by
  induction count generalizing i more with
  | zero =>
      obtain rfl := matches_atMost_zero_iff.1 found
      exact .enough
  | succ count ih =>
      obtain ⟨more, rfl⟩ : ∃ n, more = n + 1 := ⟨more - 1, by omega⟩
      rcases matches_atMost_succ_iff.1 found with rfl | ⟨k, first, rest⟩
      · exact .enough
      · exact .another first (ih rest (by omega))

/-- What a bounded number of repetitions matches, some number does. -/
theorem star_of_atMost (found : Matches text (.atMost count a) i j) :
    Matches text (.star a) i j := by
  induction count generalizing i with
  | zero =>
      obtain rfl := matches_atMost_zero_iff.1 found
      exact .done
  | succ count ih =>
      rcases matches_atMost_succ_iff.1 found with rfl | ⟨k, first, rest⟩
      · exact .done
      · exact .more first (ih rest)

/-- A set of places that the expression does not lead out of is not left by repetitions. -/
theorem mem_of_star {places : List Nat}
    (closed : ∀ i ∈ places, ∀ j, Matches text a i j → j ∈ places)
    (found : Matches text (.star a) i j) (start : i ∈ places) : j ∈ places := by
  generalize same : Pattern.star a = p at found
  induction found with
  | done => exact start
  | more first _ _ rest =>
      cases same
      exact rest (closed _ start _ first) rfl
  | _ => cases same

end Matches

/-! ### Sets of places -/

/-- Merged places are those of both lists. -/
@[simp] theorem mem_merge {places others : List Nat} :
    i ∈ merge places others ↔ i ∈ places ∨ i ∈ others := by
  fun_induction merge places others with
  | case1 others => simp
  | case2 places nonempty => simp
  | case3 i places j others before ih => simp [ih, or_assoc]
  | case4 i places j others notBefore behind ih => simp [ih]; tauto
  | case5 i places j others notBefore notBehind ih =>
      obtain rfl : i = j := by omega
      simp [ih]; tauto

/-- The places that are left are those of one list and not of the other. -/
@[simp] theorem mem_remove {places others : List Nat} :
    i ∈ remove places others ↔ i ∈ places ∧ i ∉ others := by
  simp [remove]

/-- All places are inside the text. -/
def Inside (text : List Char) (places : List Nat) : Prop := ∀ i ∈ places, i ≤ text.length

/-- A step takes places to those where a match that begins there ends. -/
def Leads (text : List Char) (a : Pattern) (step : List Nat → List Nat) : Prop :=
  ∀ places, Inside text places → ∀ j, j ∈ step places ↔ ∃ i ∈ places, Matches text a i j

namespace Leads

variable {step : List Nat → List Nat} {places reached fresh : List Nat} {fuel : Nat}

/-- A step stays inside the text. -/
theorem inside (leads : Leads text a step) (start : Inside text places) :
    Inside text (step places) := by
  intro j member
  obtain ⟨i, there, found⟩ := (leads places start j).1 member
  exact found.le_length (start i there)

/-- Repeated steps lead to where so many repetitions do. -/
theorem mem_iterate_iff (leads : Leads text a step) (start : Inside text places) :
    j ∈ iterate step count places ↔ ∃ i ∈ places, Matches text (.exactly count a) i j := by
  induction count generalizing places with
  | zero => simp [iterate]
  | succ count ih =>
      simp only [iterate]
      split
      case isTrue empty => simp_all
      case isFalse =>
        rw [ih (leads.inside start)]
        simp only [leads places start, matches_exactly_succ_iff]
        constructor
        · rintro ⟨k, ⟨i, there, first⟩, rest⟩
          exact ⟨i, there, k, first, rest⟩
        · rintro ⟨i, there, k, first, rest⟩
          exact ⟨k, ⟨i, there, first⟩, rest⟩

/-- The places of a search under way: the fresh ones are reached, and what the others lead to is
reached too. -/
structure Frontier (text : List Char) (a : Pattern) (reached fresh : List Nat) : Prop where
  inside : Inside text reached
  subset : ∀ i ∈ fresh, i ∈ reached
  expanded : ∀ i ∈ reached, i ∉ fresh → ∀ j, Matches text a i j → j ∈ reached

namespace Frontier

/-- At the beginning all that is reached is fresh. -/
theorem initial (start : Inside text places) : Frontier text a places places :=
  ⟨start, fun _ there => there, fun _ there missing => absurd there missing⟩

/-- What the reached places lead to is reached or found in the next round. -/
theorem mem_or_mem (frontier : Frontier text a reached fresh) (leads : Leads text a step)
    (there : i ∈ reached) (found : Matches text a i j) :
    j ∈ reached ∨ j ∈ remove (step fresh) reached := by
  have inside : Inside text fresh := fun i there => frontier.inside i (frontier.subset i there)
  by_cases new : i ∈ fresh
  · have : j ∈ step fresh := (leads fresh inside j).2 ⟨i, new, found⟩
    simp only [mem_remove]
    tauto
  · exact .inl (frontier.expanded i there new j found)

/-- Each place found in the next round is one that a fresh place leads to. -/
theorem exists_fresh (frontier : Frontier text a reached fresh) (leads : Leads text a step)
    (next : j ∈ remove (step fresh) reached) : ∃ i ∈ reached, Matches text a i j := by
  have inside : Inside text fresh := fun i there => frontier.inside i (frontier.subset i there)
  obtain ⟨i, new, found⟩ := (leads fresh inside j).1 (mem_remove.1 next).1
  exact ⟨i, frontier.subset i new, found⟩

/-- A step from the fresh places makes those reached that are new, and no others. -/
theorem advance (frontier : Frontier text a reached fresh) (leads : Leads text a step) :
    Frontier text a (merge reached (remove (step fresh) reached))
      (remove (step fresh) reached) where
  inside := by
    intro j member
    rcases mem_merge.1 member with there | next
    · exact frontier.inside j there
    · obtain ⟨i, there, found⟩ := frontier.exists_fresh leads next
      exact found.le_length (frontier.inside i there)
  subset := fun i there => mem_merge.2 (.inr there)
  expanded := by
    intro i member old j found
    have there : i ∈ reached := (mem_merge.1 member).resolve_right old
    exact mem_merge.2 (frontier.mem_or_mem leads there found)

/-- A round that finds nothing new shows that everything was found. -/
theorem closed (frontier : Frontier text a reached fresh) (leads : Leads text a step)
    (empty : (remove (step fresh) reached).isEmpty = true) :
    ∀ i ∈ reached, ∀ j, Matches text a i j → j ∈ reached := by
  intro i there j found
  rcases frontier.mem_or_mem leads there found with there | next
  · exact there
  · simp_all

end Frontier

/-- The rounds of a search find what as many repetitions lead to. -/
theorem mem_closure_iff (leads : Leads text a step) (frontier : Frontier text a reached fresh) :
    j ∈ closure step fuel reached fresh ↔ ∃ i ∈ reached, Matches text (.atMost fuel a) i j := by
  induction fuel generalizing reached fresh with
  | zero => simp [closure]
  | succ fuel ih =>
      simp only [closure]
      split
      case isTrue empty =>
        constructor
        · intro there
          exact ⟨j, there, .enough⟩
        · rintro ⟨i, there, found⟩
          exact found.star_of_atMost.mem_of_star (frontier.closed leads empty) there
      case isFalse =>
        rw [ih (frontier.advance leads)]
        constructor
        · rintro ⟨i, there, found⟩
          rcases mem_merge.1 there with there | next
          · exact ⟨i, there, found.atMost_mono (by omega)⟩
          · obtain ⟨k, there, first⟩ := frontier.exists_fresh leads next
            exact ⟨k, there, .another first found⟩
        · rintro ⟨i, there, found⟩
          rcases matches_atMost_succ_iff.1 found with rfl | ⟨k, first, rest⟩
          · exact ⟨_, mem_merge.2 (.inl there), .enough⟩
          · exact ⟨k, mem_merge.2 (frontier.mem_or_mem leads there first), rest⟩

/-- With as many rounds as there are places left, the search ends with nothing more to find. -/
theorem closure_closed (leads : Leads text a step) (frontier : Frontier text a reached fresh)
    (enough : (Finset.range (text.length + 1) \ reached.toFinset).card ≤ fuel) :
    ∀ i ∈ closure step fuel reached fresh, ∀ j, Matches text a i j →
      j ∈ closure step fuel reached fresh := by
  induction fuel generalizing reached fresh with
  | zero =>
      intro i there j found
      have all : Finset.range (text.length + 1) ⊆ reached.toFinset := by
        simpa using enough
      have : j ≤ text.length := found.le_length (frontier.inside i there)
      simpa [closure] using all (Finset.mem_range.2 (Nat.lt_succ_of_le this))
  | succ fuel ih =>
      simp only [closure]
      split
      case isTrue empty => exact frontier.closed leads empty
      case isFalse nonempty =>
        refine ih (frontier.advance leads) (Nat.le_of_lt_succ (lt_of_lt_of_le ?_ enough))
        obtain ⟨j, next⟩ := List.exists_mem_of_ne_nil _ (by simpa using nonempty)
        have inside := (frontier.advance leads).inside j (mem_merge.2 (.inr next))
        apply Finset.card_lt_card
        refine Finset.ssubset_iff_of_subset ?_ |>.2 ⟨j, ?_, ?_⟩
        · intro k
          simp only [Finset.mem_sdiff, List.mem_toFinset, mem_merge]
          tauto
        · simp only [Finset.mem_sdiff, Finset.mem_range, List.mem_toFinset]
          exact ⟨Nat.lt_succ_of_le inside, (mem_remove.1 next).2⟩
        · simp [next, mem_merge]

/-- A search with a round for each place finds the same as one without end. -/
theorem mem_closure_of_star (leads : Leads text a step) (start : Inside text places)
    (there : i ∈ places) (found : Matches text (.star a) i j) :
    j ∈ closure step (text.length + 1) places places := by
  have enough : (Finset.range (text.length + 1) \ places.toFinset).card ≤ text.length + 1 := by
    simpa using Finset.card_le_card (Finset.sdiff_subset (s := Finset.range (text.length + 1)))
  refine found.mem_of_star (leads.closure_closed (.initial start) enough) ?_
  exact (leads.mem_closure_iff (.initial start)).2 ⟨i, there, .enough⟩

/-- With as many rounds as there are places, the closure is all that repetitions reach. -/
theorem mem_closure_star_iff (leads : Leads text a step) (start : Inside text places) :
    j ∈ closure step (text.length + 1) places places ↔
      ∃ i ∈ places, Matches text (.star a) i j := by
  constructor
  · intro member
    obtain ⟨i, there, found⟩ := (leads.mem_closure_iff (.initial start)).1 member
    exact ⟨i, there, found.star_of_atMost⟩
  · rintro ⟨i, there, found⟩
    exact leads.mem_closure_of_star start there found

/-- Bounded repetitions need no more rounds than there are places. -/
theorem mem_closure_atMost_iff (leads : Leads text a step) (start : Inside text places) :
    j ∈ closure step (min count (text.length + 1)) places places ↔
      ∃ i ∈ places, Matches text (.atMost count a) i j := by
  constructor
  · intro member
    obtain ⟨i, there, found⟩ := (leads.mem_closure_iff (.initial start)).1 member
    exact ⟨i, there, found.atMost_mono (Nat.min_le_left _ _)⟩
  · rintro ⟨i, there, found⟩
    rcases Nat.le_total count (text.length + 1) with le | ge
    · rw [Nat.min_eq_left le]
      exact (leads.mem_closure_iff (.initial start)).2 ⟨i, there, found⟩
    · rw [Nat.min_eq_right ge]
      exact leads.mem_closure_of_star start there found.star_of_atMost

end Leads

/-! ### Whole searches -/

/-- An expression leads from places in a text to the places where its matches end. -/
theorem leads_ends (text : List Char) (p : Pattern) : Leads text p (p.ends text.toArray) := by
  intro places start j
  induction p generalizing places j with
  | empty => simp [ends]
  | set set => simp [ends]; tauto
  | look look => simp [ends]
  | seq a b first second =>
      have between : Inside text (a.ends text.toArray places) := Leads.inside first start
      simp only [ends, second _ between, first _ start, matches_seq_iff]
      constructor
      · rintro ⟨k, ⟨i, there, first⟩, second⟩
        exact ⟨i, there, k, first, second⟩
      · rintro ⟨i, there, k, first, second⟩
        exact ⟨k, ⟨i, there, first⟩, second⟩
  | alt a b left right =>
      simp only [ends, mem_merge, left _ start, right _ start, matches_alt_iff]
      constructor
      · rintro (⟨i, there, part⟩ | ⟨i, there, part⟩)
        · exact ⟨i, there, .inl part⟩
        · exact ⟨i, there, .inr part⟩
      · rintro ⟨i, there, part | part⟩
        · exact .inl ⟨i, there, part⟩
        · exact .inr ⟨i, there, part⟩
  | star a ih => exact Leads.mem_closure_star_iff ih start
  | exactly count a ih => exact Leads.mem_iterate_iff ih start
  | atMost count a ih => exact Leads.mem_closure_atMost_iff ih start

/-- An expression occurs in a text exactly where it matches a part of it. -/
theorem occursIn_iff :
    p.occursIn text = true ↔ ∃ i j, i ≤ text.length ∧ Matches text p i j := by
  have start : Inside text (List.range (text.length + 1)) := fun i member =>
    Nat.le_of_lt_succ (List.mem_range.1 member)
  have member (j) := leads_ends text p _ start j
  simp only [List.mem_range, Nat.lt_succ_iff] at member
  simp only [occursIn, Bool.not_eq_true', List.isEmpty_eq_false_iff_exists_mem, member]
  exact exists_comm.trans (by simp)

end Runbook.Pattern
