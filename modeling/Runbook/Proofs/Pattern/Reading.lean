import Mathlib.Data.List.Infix
import Runbook.Pattern.Reading

/-!
# Reading does not look past a closing bracket

A reading that ends before a closing bracket reads the same whatever stands behind the bracket,
and where the text ends there (`Local.cut`); and one of a text that ends reads the same with a
closing bracket put behind it, unless a comment takes the bracket in (`Local.paste`). The steps of
a reading are local in this sense, and so is what is put together from local readings. These facts
are tagged, and a reading is then followed through its text by `grind`.
-/

namespace Runbook.Pattern

open Reading

variable {α β : Type}

/-- The second text is the first one with a closing bracket behind it, or both are at their end:
there a comment has taken the bracket in. -/
def Pasted (text longer : List Char) : Prop := longer = text ++ [')'] ∨ text = [] ∧ longer = []

/-- A reading takes characters from the front, and its result depends on what it took, where it ends
before a closing bracket. -/
structure Local (reading : Reading α) : Prop where
  suffix : ∀ {text value rest}, reading text = some (value, rest) → rest <:+ text
  cut : ∀ {front back value rest}, reading (front ++ ')' :: back) = some (value, rest) →
    back.length < rest.length → ∃ left, rest = left ++ ')' :: back ∧
      reading front = some (value, left) ∧
      ∀ other, reading (front ++ ')' :: other) = some (value, left ++ ')' :: other)
  paste : ∀ {text longer value rest}, reading text = some (value, rest) → Pasted text longer →
    ∃ more, Pasted rest more ∧ reading longer = some (value, more)

/-- Two readings after each other: the second one has what the first one left. -/
theorem bind_eq_some_iff {first : Reading α} {later : α → Reading β} {text : List Char}
    {found : β × List Char} : (first >>= later) text = some found ↔
      ∃ value mid, first text = some (value, mid) ∧ later value mid = some found :=
  Option.bind_eq_some_iff.trans Prod.exists

/-- Behind a reading that is done, the second one goes on. -/
theorem bind_of_eq_some {first : Reading α} {later : α → Reading β} {text mid : List Char}
    {value : α} (done : first text = some (value, mid)) :
    (first >>= later) text = later value mid := by
  change (first text).bind _ = _
  rw [done]
  rfl

namespace Local

variable {first : Reading α} {later : α → Reading β}

/-- A local reader does not lengthen the text. -/
theorem length_le {text rest : List Char} {value : α} (here : Local first)
    (read : first text = some (value, rest)) : rest.length ≤ text.length :=
  (here.suffix read).length_le

@[grind ←] theorem pure (value : α) : Local (pure value) where
  suffix := by
    rintro text _ rest ⟨⟩
    exact List.suffix_rfl
  cut := by
    rintro front back _ rest ⟨⟩ -
    exact ⟨front, rfl, rfl, fun _ => rfl⟩
  paste := by
    rintro text longer _ rest ⟨⟩ pasted
    exact ⟨longer, pasted, rfl⟩

@[grind ←] theorem failure : Local (failure : Reading α) where
  suffix := by
    rintro text _ rest ⟨⟩
  cut := by
    rintro front back _ rest ⟨⟩
  paste := by
    rintro text longer _ rest ⟨⟩

/-- Local readers in a row are local. -/
theorem bind (here : Local first) (there : ∀ value, Local (later value)) :
    Local (first >>= later) where
  suffix := by
    intro text value rest read
    obtain ⟨between, mid, done, read⟩ := bind_eq_some_iff.1 read
    exact ((there between).suffix read).trans (here.suffix done)
  cut := by
    intro front back value rest read longer
    obtain ⟨between, mid, done, read⟩ := bind_eq_some_iff.1 read
    have shorter := (there between).length_le read
    obtain ⟨mid, rfl, done, again⟩ := here.cut done (longer.trans_le shorter)
    obtain ⟨left, same, read, further⟩ := (there between).cut read longer
    exact ⟨left, same, bind_eq_some_iff.2 ⟨_, _, done, read⟩,
      fun other => bind_eq_some_iff.2 ⟨_, _, again other, further other⟩⟩
  paste := by
    intro text longer value rest read pasted
    obtain ⟨between, mid, done, read⟩ := bind_eq_some_iff.1 read
    obtain ⟨mid, pasted, done⟩ := here.paste done pasted
    obtain ⟨more, pasted, read⟩ := (there between).paste read pasted
    exact ⟨more, pasted, bind_eq_some_iff.2 ⟨_, _, done, read⟩⟩

/-- The image of a local reader is local. -/
theorem map {image : α → β} (here : Local first) : Local (image <$> first) := by
  rw [← bind_pure_comp]
  exact here.bind fun value => pure (image value)

/-- A local reader is so without its value. -/
theorem discard (here : Local first) : Local (discard first) := map here

attribute [grind ←] bind map discard

/-- A reading that gives what a text gives, whether or not a bracket stands behind it. -/
theorem of_append {reading : Reading α}
    (suffix : ∀ {text value rest}, reading text = some (value, rest) → rest <:+ text)
    (append : ∀ front back, reading (front ++ ')' :: back) =
      (reading front).map fun found => (found.1, found.2 ++ ')' :: back)) : Local reading where
  suffix := suffix
  cut := by
    intro front back value rest read _
    rw [append, Option.map_eq_some_iff] at read
    obtain ⟨⟨_, left⟩, read, ⟨⟩⟩ := read
    exact ⟨left, rfl, read, fun other => by simp [append, read]⟩
  paste := by
    rintro text longer value rest read (rfl | ⟨rfl, rfl⟩)
    · exact ⟨rest ++ [')'], .inl rfl, by simp [append, read]⟩
    · obtain rfl := List.suffix_nil.1 (suffix read)
      exact ⟨[], .inr ⟨rfl, rfl⟩, read⟩

/-! ### Steps -/

@[grind ←] theorem ofOption (found : Option α) : Local (ofOption found) := by
  unfold Reading.ofOption
  grind

@[grind ←] theorem peek : Local peek :=
  of_append
    (by
      rintro text _ rest ⟨⟩
      exact List.suffix_rfl)
    (by
      intro front back
      cases front <;> rfl)

@[grind ←] theorem next : Local next where
  suffix := by
    rintro (_ | ⟨c, text⟩) value rest read
    · cases read
    · cases read
      exact List.suffix_cons _ _
  cut := by
    rintro (_ | ⟨c, front⟩) back value rest read longer
    · cases read
      exact absurd longer (Nat.lt_irrefl _)
    · cases read
      exact ⟨front, rfl, rfl, fun _ => rfl⟩
  paste := by
    rintro (_ | ⟨c, text⟩) longer value rest read pasted
    · cases read
    · obtain rfl := pasted.resolve_right (by simp)
      cases read
      exact ⟨text ++ [')'], .inl rfl, rfl⟩

end Local

/-! ### Steps with a text given -/

/-- What is expected is taken where the text begins with it. -/
theorem take_of_begins {lead text rest : List Char} (begins : Text.dropLead lead text = some rest) :
    take lead text = some (true, rest) := by
  have looked : (get : Reading (List Char)) text = some (text, text) := rfl
  unfold Reading.take
  rw [bind_of_eq_some looked, begins]
  rfl

/-- Else the text is kept. -/
theorem take_of_other {lead text : List Char} (other : Text.dropLead lead text = none) :
    take lead text = some (false, text) := by
  have looked : (get : Reading (List Char)) text = some (text, text) := rfl
  unfold Reading.take
  rw [bind_of_eq_some looked, other]
  rfl

/-- A character is read only where the text begins with it. -/
theorem need_eq_some_iff {c : Char} {text rest : List Char} :
    need c text = some ((), rest) ↔ text = c :: rest := by
  have lead : Text.dropLead [c] text = some rest ↔ text = c :: rest := Text.dropLead_eq_some_iff
  rw [← lead]
  unfold Reading.need
  cases begins : Text.dropLead [c] text with
  | none =>
      rw [bind_of_eq_some (take_of_other begins)]
      constructor <;> rintro ⟨⟩
  | some left =>
      rw [bind_of_eq_some (take_of_begins begins)]
      constructor <;> rintro ⟨⟩ <;> rfl

/-- A value that is there is read of nothing. -/
theorem ofOption_eq_some_iff {found : Option α} {value : α} {text rest : List Char} :
    ofOption found text = some (value, rest) ↔ found = some value ∧ rest = text := by
  constructor
  · intro read
    cases found with
    | none => cases read
    | some other =>
        cases read
        exact ⟨rfl, rfl⟩
  · rintro ⟨rfl, rfl⟩
    rfl

/-- Gathering never fails. -/
theorem gather_eq (spaced : Bool) (kind : Char → Bool) (text : List Char) :
    gather spaced kind text = some (gathered spaced kind false text) := rfl

/-- At the end nothing is ahead. -/
theorem ahead_nil (mode : Mode) (c : Char) : ahead mode c [] = some (none, []) := rfl

/-- Where the character stands, what follows it is ahead, and nothing is taken. -/
theorem ahead_cons (mode : Mode) (c d : Char) (rest : List Char) :
    ahead mode c (d :: rest) =
      some (if d = c then some (inkAhead mode.spaced rest) else none, d :: rest) := rfl

/-! ### What the steps see of a text -/

/-- A lead without closing bracket does not reach over one. -/
theorem dropLead_append {lead : List Char} (free : ')' ∉ lead) (front back : List Char) :
    Text.dropLead lead (front ++ ')' :: back) =
      (Text.dropLead lead front).map (· ++ ')' :: back) := by
  induction lead generalizing front with
  | nil => simp [Text.dropLead]
  | cons c lead ih =>
      simp only [List.mem_cons, not_or] at free
      cases front with
      | nil => simp [Text.dropLead, Ne.symm free.1]
      | cons d front =>
          simp only [List.cons_append, Text.dropLead, ih free.2]
          split <;> rfl

/-- What is left behind gathering is the end of the text. -/
theorem gathered_suffix (spaced : Bool) (kind : Char → Bool) (comment : Bool)
    (text : List Char) : (gathered spaced kind comment text).2 <:+ text := by
  fun_induction gathered spaced kind comment text with
  | case1 => exact List.suffix_rfl
  | case2 c rest ih => exact ih.trans (List.suffix_cons c rest)
  | case3 c rest blank ih => exact ih.trans (List.suffix_cons c rest)
  | case4 c rest ink comment ih => exact ih.trans (List.suffix_cons c rest)
  | case5 c rest ink noComment isKind found left here ih =>
      exact (here ▸ ih).trans (List.suffix_cons c rest)
  | case6 => exact List.suffix_rfl

/-- What is gathered up to a closing bracket: it ends there, or a comment takes the bracket in. -/
theorem gathered_append {kind : Char → Bool} (free : kind ')' = false) (spaced comment : Bool)
    (front : List Char) :
    (∀ back, gathered spaced kind comment (front ++ ')' :: back) =
      ((gathered spaced kind comment front).1,
        (gathered spaced kind comment front).2 ++ ')' :: back)) ∨
    (gathered spaced kind comment front).2 = [] ∧
      ∀ back, gathered spaced kind comment (front ++ ')' :: back) =
        ((gathered spaced kind comment front).1 ++ (gathered spaced kind true back).1,
          (gathered spaced kind true back).2) := by
  fun_induction gathered spaced kind comment front with
  | case1 comment =>
      cases comment with
      | false => exact .inl fun back => by simp [gathered, free, Text.isBlank]
      | true => exact .inr ⟨rfl, fun back => by simp [gathered]⟩
  | case2 c rest ih => simpa [gathered] using ih
  | case3 c rest blank ih => simpa [gathered, blank] using ih
  | case4 c rest ink comment ih => simpa [gathered, ink, comment] using ih
  | case5 c rest ink noComment isKind found left here ih =>
      rw [here] at ih
      simp only [List.cons_append, gathered, ink, noComment, isKind]
      rcases ih with kept | ⟨rfl, taken⟩
      · exact .inl fun back => by simp [kept]
      · exact .inr ⟨rfl, fun back => by simp [taken]⟩
  | case6 c rest ink noComment notKind =>
      exact .inl fun back => by simp [gathered, ink, noComment, notKind]

/-- What follows a closing bracket is not the first character that is no blank. -/
theorem headD_ink_append (front back : List Char) :
    ((front ++ ')' :: back).dropWhile Text.isBlank).headD ')' =
      (front.dropWhile Text.isBlank).headD ')' := by
  rw [List.dropWhile_append]
  cases front.dropWhile Text.isBlank <;> simp [Text.isBlank]

/-- What is ahead of a closing bracket does not depend on what follows it. -/
theorem inkAhead_append (spaced : Bool) (front back : List Char) :
    inkAhead spaced (front ++ ')' :: back) = inkAhead spaced front := by
  unfold inkAhead
  split
  case isFalse => cases front <;> rfl
  case isTrue =>
    have bare : ')' :: back = (')' :: back).dropWhile Text.isBlank := by simp [Text.isBlank]
    rw [List.dropWhile_append, ← bare]
    cases ink : front.dropWhile Text.isBlank with
    | nil => simp
    | cons c rest =>
        by_cases mark : c = '#'
        · simpa [mark] using headD_ink_append rest back
        · simp [mark]

namespace Local

@[grind ←] theorem take {lead : List Char} (free : ')' ∉ lead) : Local (take lead) := by
  apply of_append
  · intro text value rest read
    cases begins : Text.dropLead lead text with
    | none =>
        rw [take_of_other begins] at read
        cases read
        exact List.suffix_rfl
    | some left =>
        rw [take_of_begins begins] at read
        cases read
        exact ⟨lead, (Text.dropLead_eq_some_iff.1 begins).symm⟩
  · intro front back
    have further := dropLead_append free front back
    cases begins : Text.dropLead lead front with
    | none => rw [take_of_other begins, take_of_other (by rw [further, begins]; rfl)]; rfl
    | some left => rw [take_of_begins begins, take_of_begins (by rw [further, begins]; rfl)]; rfl

/-- A choice between local readers by what the text begins with is local. -/
theorem takeOr {lead : List Char} {yes no : Reading α} (free : ')' ∉ lead) (here : Local yes)
    (there : Local no) : Local (do if ← Reading.take lead then yes else no) := by
  refine bind (take free) fun taken => ?_
  cases taken
  · exact there
  · exact here

@[grind ←] theorem need (c : Char) : Local (need c) where
  suffix := by
    intro text _ rest read
    obtain rfl := need_eq_some_iff.1 read
    exact List.suffix_cons c rest
  cut := by
    rintro (_ | ⟨d, front⟩) back _ rest read longer
    · cases need_eq_some_iff.1 read
      exact absurd longer (Nat.lt_irrefl _)
    · cases need_eq_some_iff.1 read
      exact ⟨front, rfl, need_eq_some_iff.2 rfl, fun other => need_eq_some_iff.2 rfl⟩
  paste := by
    intro text longer _ rest read pasted
    obtain rfl := need_eq_some_iff.1 read
    obtain rfl := pasted.resolve_right (by simp)
    exact ⟨rest ++ [')'], .inl rfl, need_eq_some_iff.2 rfl⟩

@[grind ←] theorem gather {kind : Char → Bool} (spaced : Bool) (free : kind ')' = false) :
    Local (gather spaced kind) where
  suffix := by
    rintro text _ _ ⟨⟩
    exact gathered_suffix spaced kind false text
  cut := by
    intro front back value rest read longer
    rcases gathered_append free spaced false front with kept | ⟨_, taken⟩
    · rw [gather_eq, kept] at read
      cases read
      exact ⟨_, rfl, rfl, fun other => congrArg some (kept other)⟩
    · rw [gather_eq, taken] at read
      cases read
      exact absurd longer (gathered_suffix spaced kind true back).length_le.not_gt
  paste := by
    rintro text longer value rest ⟨⟩ (rfl | ⟨rfl, rfl⟩)
    · rcases gathered_append free spaced false text with kept | ⟨atEnd, taken⟩
      · exact ⟨_, .inl rfl, congrArg some (kept [])⟩
      · exact ⟨[], .inr ⟨atEnd, rfl⟩, by simp [gather_eq, taken, gathered]⟩
    · exact ⟨[], .inr ⟨rfl, rfl⟩, rfl⟩

@[grind ←] theorem skip (mode : Mode) : Local (skip mode) := by
  unfold Reading.skip
  grind

@[grind ←] theorem ahead {c : Char} (mode : Mode) (other : c ≠ ')') : Local (ahead mode c) := by
  apply of_append
  · intro text value rest read
    cases text with
    | nil =>
        rw [ahead_nil] at read
        cases read
        exact List.suffix_rfl
    | cons d text =>
        rw [ahead_cons] at read
        cases read
        exact List.suffix_rfl
  · intro front back
    cases front with
    | nil => simp [ahead_nil, ahead_cons, other.symm]
    | cons d front => simp [ahead_cons, inkAhead_append]

end Local

end Runbook.Pattern
