import Runbook.Text.Basic

/-!
# Numbers that are read back

The decimal digits of a natural number are read as that number, up to the limit of the reader.
The digits are those of the core library, whose own law `Nat.ofDigitChars_ten_toDigits` says
which number they stand for; `number?_ten` ties the reader to it. Which texts are read at all, and
as which numbers, is `natural?_eq_some_iff`.
-/

namespace Runbook.Text

/-- A digit has its value. -/
theorem digitValue_of_isDigit {c : Char} (digit : c.isDigit = true) :
    digitValue c = some (c.toNat - 48) := by
  have here : isDigit c = true := digit
  simp [digitValue, here]

/-- A digit's value is below the base. -/
theorem value_lt_ten {c : Char} (digit : c.isDigit = true) : c.toNat - 48 < 10 := by
  have below : c ≤ '9' := by
    simp only [Char.isDigit, Bool.and_eq_true, decide_eq_true_eq] at digit
    exact digit.2
  have bound : c.toNat ≤ 57 := below
  omega

/-- Adding up digits from left to right gives the number that they stand for. -/
theorem foldlM_digits {step : Nat → Char → Option Nat}
    (adds : ∀ total c, c.isDigit = true → step total c = some (10 * total + (c.toNat - '0'.toNat)))
    {text : List Char} (total : Nat) (digits : ∀ c ∈ text, c.isDigit = true) :
    text.foldlM step total = some (Nat.ofDigitChars 10 text total) := by
  induction text generalizing total with
  | nil => rfl
  | cons c rest ih =>
      have first := adds total c (digits c List.mem_cons_self)
      have later := ih (10 * total + (c.toNat - '0'.toNat)) fun d member =>
        digits d (List.mem_cons_of_mem c member)
      rw [List.foldlM_cons, first, Nat.ofDigitChars_cons]
      exact later

/-- Decimal digits are read to the number that they stand for. -/
theorem number?_ten {text : List Char} (some_digit : text ≠ [])
    (digits : ∀ c ∈ text, c.isDigit = true) :
    number? 10 text = some (Nat.ofDigitChars 10 text 0) := by
  rw [number?, if_neg (by simpa using some_digit)]
  refine foldlM_digits (fun total c digit => ?_) 0 digits
  simp only [digitValue_of_isDigit digit, value_lt_ten digit, ↓reduceIte]
  rw [Nat.mul_comm]
  rfl

/-- A text of digits has no sign in front, so it is read as a whole. -/
theorem natural?_of_digits (limit : Nat) {text : List Char} (digits : text.all isDigit = true) :
    natural? limit text =
      (number? 10 text).bind fun n => if n ≤ limit then some n else none := by
  cases text with
  | nil => rfl
  | cons c rest =>
      have unsigned : ∀ more, c :: rest = '+' :: more → False := by
        rintro more same
        simp [same, isDigit] at digits
      simp [natural?, digits]

/-- A number's own digits are read as the number, unless it is above the limit. -/
theorem natural?_toDigits (limit number : Nat) :
    natural? limit (Nat.toDigits 10 number) = if number ≤ limit then some number else none := by
  have digits : ∀ c ∈ Nat.toDigits 10 number, c.isDigit = true :=
    fun c member => Nat.isDigit_of_mem_toDigits (by decide) (by decide) member
  rw [natural?_of_digits limit (List.all_eq_true.2 digits),
    number?_ten Nat.toDigits_ne_nil digits, Nat.ofDigitChars_ten_toDigits]
  rfl

/-- The text writes the number: decimal digits of it, with zeros before them or none, and with a
plus sign before all or none. -/
def Writes (text : List Char) (n : Nat) : Prop :=
  ∃ digits, digits ≠ [] ∧ (∀ c ∈ digits, c.isDigit = true) ∧
    (text = digits ∨ text = '+' :: digits) ∧ Nat.ofDigitChars 10 digits 0 = n

/-- What is read is read from the text behind a plus sign, or from the text where it has none. -/
theorem exists_natural?_eq (limit : Nat) (text : List Char) :
    ∃ digits, (text = digits ∧ (∀ rest, text ≠ '+' :: rest) ∨ text = '+' :: digits) ∧
      natural? limit text = if digits.all isDigit then
        (number? 10 digits).bind fun n => if n ≤ limit then some n else none else none := by
  by_cases signed : ∃ rest, text = '+' :: rest
  · obtain ⟨rest, rfl⟩ := signed
    refine ⟨rest, .inr rfl, ?_⟩
    simp [natural?]
  · have unsigned : ∀ rest, text ≠ '+' :: rest := fun rest same => signed ⟨rest, same⟩
    refine ⟨text, .inl ⟨rfl, unsigned⟩, ?_⟩
    unfold natural?
    split
    · exact absurd rfl (unsigned _)
    · simp

/-- A number is read where the text writes it and it is not above the limit. -/
theorem natural?_eq_some_iff {limit n : Nat} {text : List Char} :
    natural? limit text = some n ↔ Writes text n ∧ n ≤ limit := by
  obtain ⟨digits, shape, whole⟩ := exists_natural?_eq limit text
  rw [whole]
  constructor
  · intro read
    split at read
    · rename_i all
      have digit : ∀ c ∈ digits, c.isDigit = true := List.all_eq_true.1 all
      have filled : digits ≠ [] := by
        rintro rfl
        cases read
      rw [number?_ten filled digit, Option.bind_some] at read
      split at read <;> cases read
      rename_i below
      exact ⟨⟨digits, filled, digit, shape.imp And.left id, rfl⟩, below⟩
    · cases read
  · rintro ⟨⟨others, filled, digit, same, rfl⟩, below⟩
    have agree : others = digits := by
      rcases shape with ⟨rfl, unsigned⟩ | rfl <;> rcases same with same | same
      · exact same.symm
      · exact absurd same (unsigned _)
      · subst same
        exact absurd (digit '+' List.mem_cons_self) (by decide)
      · exact (List.cons.inj same).2.symm
    subst agree
    have all : others.all isDigit = true := List.all_eq_true.2 digit
    rw [if_pos all, number?_ten filled digit, Option.bind_some, if_pos below]

/-- Different numbers have different digits. -/
theorem toString_injective : Function.Injective (toString : Nat → String) := by
  intro first second same
  rw [Nat.toString_eq_ofList_toDigits, Nat.toString_eq_ofList_toDigits, String.ofList_inj] at same
  calc first = Nat.ofDigitChars 10 (Nat.toDigits 10 first) 0 := Nat.ofDigitChars_ten_toDigits.symm
    _ = Nat.ofDigitChars 10 (Nat.toDigits 10 second) 0 := by rw [same]
    _ = second := Nat.ofDigitChars_ten_toDigits

end Runbook.Text
