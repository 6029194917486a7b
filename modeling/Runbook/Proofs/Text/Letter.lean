import Mathlib.Data.List.Infix
import Mathlib.Data.String.Basic
import Runbook.Text.Letter

/-!
# Letters of ASCII

The classes of letters and digits, and what the lower-case form of a text does to them: a text of
letters and digits stays one, and every other character of ASCII stays as it is.
-/

namespace Runbook.Text

variable {c d : Char} {text : List Char}

/-- An upper case letter is what the library says it is. -/
theorem isUpper_eq (c : Char) : isUpper c = c.isUpper := (Bool.decide_and _ _).symm

/-- A letter or digit is what the library says it is. -/
theorem isAlphanumeric_eq (c : Char) : isAlphanumeric c = c.isAlphanum := by
  have lower : isLower c = c.isLower := rfl
  have digit : isDigit c = c.isDigit := rfl
  rw [isAlphanumeric, isLetter, isUpper_eq, lower, digit, Bool.or_comm c.isLower]
  rfl

/-- Letters and digits are of ASCII. -/
theorem lt_of_isAlphanum (plain : c.isAlphanum = true) : c.toNat < 128 := by
  rw [← isAlphanumeric_eq] at plain
  simp only [isAlphanumeric, isLetter, isUpper, isLower, isDigit, Bool.or_eq_true,
    Bool.and_eq_true, decide_eq_true_eq, Char.le_def, UInt32.le_iff_toNat_le] at plain
  have value : c.toNat = c.val.toNat := rfl
  simp at plain
  omega

/-- A text of ASCII has as many bytes as characters. -/
theorem utf8ByteSize_of_ascii {text : String} (ascii : ∀ c ∈ text.toList, c.toNat < 128) :
    text.utf8ByteSize = text.length := by
  have single (chars : List Char) (ascii : ∀ c ∈ chars, c.toNat < 128) :
      String.utf8Len chars = chars.length := by
    induction chars with
    | nil => rfl
    | cons c rest ih =>
        obtain ⟨here, later⟩ := List.forall_mem_cons.1 ascii
        have one : c.utf8Size = 1 := by
          rw [Char.utf8Size_eq_one_iff, UInt32.le_iff_toNat_le]
          exact Nat.le_of_lt_succ here
        rw [String.utf8Len_cons, one, ih later, List.length_cons]
  rw [← String.ofList_toList (s := text), String.utf8ByteSize_ofList, single _ ascii,
    String.length_ofList]

/-- A text of one character of ASCII has as many bytes as characters. -/
theorem utf8ByteSize_replicate (ascii : c.toNat < 128) (count : Nat) :
    (String.ofList (List.replicate count c)).utf8ByteSize = count := by
  rw [utf8ByteSize_of_ascii, String.length_ofList, List.length_replicate]
  intro other member
  rw [String.toList_ofList] at member
  rwa [List.eq_of_mem_replicate member]

/-- What holds of the first 128 code points holds of every character of ASCII. -/
theorem of_lt {p : Char → Prop} (each : ∀ n < 128, p (Char.ofNat n)) (ascii : c.toNat < 128) :
    p c := by
  have here := each c.toNat ascii
  rwa [Char.ofNat_toNat] at here

/-- The lower case of a letter or digit is one. -/
theorem isAlphanum_of_mem_lowerCase (plain : c.isAlphanum = true) (member : d ∈ lowerCase c) :
    d.isAlphanum = true := by
  have closed : c.isAlphanum = true → (lowerCase c).all Char.isAlphanum = true :=
    of_lt (p := fun c => c.isAlphanum = true → (lowerCase c).all Char.isAlphanum = true)
      (by decide) (lt_of_isAlphanum plain)
  exact List.all_eq_true.1 (closed plain) d member

/-- The lower-case form of letters and digits is letters and digits. -/
theorem isAlphanum_of_mem_lowered (plain : ∀ c ∈ text, c.isAlphanum = true)
    (member : d ∈ lowered text) : d.isAlphanum = true := by
  obtain ⟨c, inside, found⟩ := List.mem_flatMap.1 member
  exact isAlphanum_of_mem_lowerCase (plain c inside) found

end Runbook.Text
