import Mathlib.Data.List.Chain
import Mathlib.Data.List.DropRight
import Mathlib.Data.Nat.Digits.Lemmas
import Runbook.Proofs.Alarm.Naming
import Runbook.Proofs.Text.Letter

/-!
# How stack names are spelled

Whatever a reference holds, the name made for it consists of words with one hyphen between
neighbours, begins with a letter, ends in the run and the number, and is not too long
(`StackName.make_valid`). On the way there names are cut: from the text of a reference to its
letters and digits, at both ends, and at the greatest length. What all of this keeps is that no two
hyphens stand in a row (`Spaced`).
-/

namespace Runbook.StackName

/-- Is this a character of words: a lower-case letter or a digit of ASCII? -/
def isWordChar (c : Char) : Bool := Text.isLower c || Text.isDigit c

/-- Words with one hyphen between neighbours. -/
inductive Hyphenated : List Char → Prop
  | last {c} (plain : isWordChar c = true) : Hyphenated [c]
  | next {c rest} (plain : isWordChar c = true) (later : Hyphenated rest) : Hyphenated (c :: rest)
  | hyphen {c rest} (plain : isWordChar c = true) (later : Hyphenated rest) :
      Hyphenated (c :: '-' :: rest)

/-- The rules for the name of a stack. -/
structure Valid (name : String) : Prop where
  words : Hyphenated name.toList
  letter : ∃ c ∈ name.toList.head?, Text.isLower c = true
  short : name.length ≤ maxLength

/-- The name of a run is eight digits of base sixteen, in lower case. -/
structure IsRun (run : String) : Prop where
  eight : run.length = 8
  digits : ∀ c ∈ run.toList, Text.isDigit c = true ∨ 'a' ≤ c ∧ c ≤ 'f'

/-- No two hyphens stand in a row, and all else is characters of words. -/
structure Spaced (text : List Char) : Prop where
  plain : ∀ c ∈ text, c ≠ '-' → isWordChar c = true
  apart : text.IsChain fun a b => a = '-' → b ≠ '-'

variable {text front back : List Char}

/-! ### Texts without hyphens in a row -/

/-- A part of a spaced text is spaced. -/
theorem Spaced.of_isInfix (spaced : Spaced text) (inside : front <:+: text) : Spaced front where
  plain c member := spaced.plain c (inside.subset member)
  apart := spaced.apart.infix inside

/-- A text without hyphens in a row is words with hyphens between when it has a hyphen at neither
end. -/
theorem Spaced.hyphenated (spaced : Spaced text) (filled : text ≠ [])
    (first : text.head? ≠ some '-') (last : text.getLast? ≠ some '-') : Hyphenated text := by
  induction text using List.twoStepInduction with
  | nil => exact absurd rfl filled
  | singleton c =>
      exact .last (spaced.plain c List.mem_cons_self (by simpa using first))
  | cons_cons c d rest skip step =>
      have plain : isWordChar c = true := spaced.plain c List.mem_cons_self (by simpa using first)
      have tail : Spaced (d :: rest) := spaced.of_isInfix (List.suffix_cons c _).isInfix
      rw [List.getLast?_cons_cons] at last
      by_cases hyphen : d = '-'
      · subst hyphen
        have more : rest ≠ [] := by
          rintro rfl
          exact last rfl
        have apart : rest.head? ≠ some '-' := by
          obtain ⟨e, others, rfl⟩ := List.exists_cons_of_ne_nil more
          simpa using (List.isChain_cons_cons.1 tail.apart).1 rfl
        obtain ⟨e, others, rfl⟩ := List.exists_cons_of_ne_nil more
        rw [List.getLast?_cons_cons] at last
        exact .hyphen plain (skip (tail.of_isInfix (List.suffix_cons _ _).isInfix) more apart last)
      · exact .next plain (step d tail (by simp) (by simpa using hyphen) last)

/-- A word is hyphenated. -/
theorem hyphenated_of_word (filled : text ≠ []) (plain : ∀ c ∈ text, isWordChar c = true) :
    Hyphenated text := by
  induction text with
  | nil => exact absurd rfl filled
  | cons c rest ih =>
      obtain ⟨here, later⟩ := List.forall_mem_cons.1 plain
      cases rest with
      | nil => exact .last here
      | cons d rest => exact .next here (ih (by simp) later)

/-- Hyphenated texts have one hyphen put between them. -/
theorem Hyphenated.append (left : Hyphenated front) (right : Hyphenated back) :
    Hyphenated (front ++ '-' :: back) := by
  induction left with
  | last plain => exact .hyphen plain right
  | next plain _ ih => exact .next plain ih
  | hyphen plain _ ih => exact .hyphen plain ih

/-! ### The first part of a name -/

/-- A character of a word is one of ASCII. -/
theorem lt_of_isWordChar {c : Char} (plain : isWordChar c = true) : c.toNat < 128 := by
  apply Text.lt_of_isAlphanum
  rw [← Text.isAlphanumeric_eq, Text.isAlphanumeric, Text.isLetter]
  rcases Bool.or_eq_true_iff.1 plain with lower | digit
  · simp [lower]
  · simp [digit]

/-- A letter or digit is a character of a word in lower case. -/
theorem isWordChar_toLowerAscii {c : Char} (kept : Text.isAlphanumeric c = true) :
    isWordChar (Text.toLowerAscii c) = true := by
  have ascii : c.toNat < 128 := Text.lt_of_isAlphanum (Text.isAlphanumeric_eq c ▸ kept)
  exact Text.of_lt (p := fun c => Text.isAlphanumeric c = true →
    isWordChar (Text.toLowerAscii c) = true) (by decide) ascii kept

/-- A character before a spaced text keeps it spaced, but for a second hyphen. -/
theorem Spaced.cons {c : Char} (plain : c ≠ '-' → isWordChar c = true)
    (apart : c = '-' → text.head? ≠ some '-') (spaced : Spaced text) : Spaced (c :: text) where
  plain d member := by
    rcases List.mem_cons.1 member with rfl | later
    · exact plain
    · exact spaced.plain d later
  apart := by
    cases text with
    | nil => exact List.isChain_singleton c
    | cons d rest =>
        refine List.isChain_cons_cons.2 ⟨fun hyphen => ?_, spaced.apart⟩
        simpa using apart hyphen

/-- What is written of a reference has no two hyphens in a row, and none in front where the last
character was written as one. -/
theorem spaced_slugOf (hyphen : Bool) (text : List Char) :
    Spaced (slugOf hyphen text) ∧ (hyphen = true → (slugOf hyphen text).head? ≠ some '-') := by
  induction text generalizing hyphen with
  | nil => exact ⟨⟨by simp [slugOf], by simp [slugOf]⟩, fun _ => by simp [slugOf]⟩
  | cons c rest ih =>
      rw [slugOf]
      split
      · rename_i kept
        have plain := isWordChar_toLowerAscii kept
        have solid : Text.toLowerAscii c ≠ '-' := by
          intro same
          rw [same] at plain
          exact absurd plain (by decide)
        exact ⟨.cons (fun _ => plain) (fun same => absurd same solid) (ih false).1,
          fun _ => by simpa using solid⟩
      · split
        · exact ⟨(ih true).1, fun _ => (ih true).2 rfl⟩
        · rename_i first
          exact ⟨.cons (fun other => absurd rfl other) (fun _ => (ih true).2 rfl) (ih true).1,
            fun again => absurd again first⟩

/-- The hyphens at the end are dropped. -/
theorem dropHyphens_eq (text : List Char) :
    dropHyphens text = text.rdropWhile fun c => decide (c = '-') := rfl

/-- What is left is the front of the text. -/
theorem isPrefix_dropHyphens (text : List Char) : dropHyphens text <+: text :=
  List.rdropWhile_prefix _ text

/-- What is left does not end in a hyphen. -/
theorem getLast?_dropHyphens (text : List Char) : (dropHyphens text).getLast? ≠ some '-' := by
  rw [dropHyphens_eq]
  intro last
  have filled : text.rdropWhile (fun c => decide (c = '-')) ≠ [] := by
    intro empty
    simp [empty] at last
  rw [List.getLast?_eq_some_getLast filled, Option.some.injEq] at last
  exact List.rdropWhile_last_not _ text filled (by simpa using last)

/-- A front that is not empty begins as the text does. -/
theorem head?_of_isPrefix (lead : front <+: text) (filled : front ≠ []) :
    front.head? = text.head? := by
  obtain ⟨c, rest, rfl⟩ := List.exists_cons_of_ne_nil filled
  obtain ⟨more, rfl⟩ := lead
  rfl

/-- A text is not used up where it begins with something else than a hyphen. -/
theorem dropHyphens_ne_nil {c : Char} (first : text.head? = some c) (solid : c ≠ '-') :
    dropHyphens text ≠ [] := by
  intro empty
  have all := List.rdropWhile_eq_nil_iff.1 empty c (List.mem_of_head? first)
  exact solid (by simpa using all)

/-- The letters and digits of a reference, before they are given a letter in front. -/
def slug (reference : String) : List Char :=
  dropHyphens ((slugOf false reference.toList).dropWhile (· = '-'))

/-- A name begins with the slug itself where that begins with a letter, and else with the lead. -/
theorem head_eq (reference : String) : head reference =
    if (slug reference).head?.any Text.isLetter then slug reference else lead ++ slug reference :=
  rfl

/-- A slug is spaced. -/
theorem spaced_slug (reference : String) : Spaced (slug reference) := by
  refine (spaced_slugOf false reference.toList).1.of_isInfix ?_
  exact (isPrefix_dropHyphens _).isInfix.trans (List.dropWhile_suffix _).isInfix

/-- A slug does not begin with a hyphen. -/
theorem head?_slug (reference : String) : (slug reference).head? ≠ some '-' := by
  intro first
  have filled : slug reference ≠ [] := by
    intro empty
    simp [empty] at first
  rw [slug, head?_of_isPrefix (isPrefix_dropHyphens _) filled] at first
  have solid := List.head?_dropWhile_not (fun c => decide (c = '-')) (slugOf false reference.toList)
  rw [first] at solid
  exact absurd solid (by decide)

/-- A letter in a word is a lower case one. -/
theorem isLower_of_isLetter {c : Char} (plain : isWordChar c = true)
    (letter : Text.isLetter c = true) : Text.isLower c = true :=
  Text.of_lt (p := fun c => isWordChar c = true → Text.isLetter c = true → Text.isLower c = true)
    (by decide) (lt_of_isWordChar plain) plain letter

/-- The lead is spaced. -/
theorem spaced_lead : Spaced lead := by
  have plain : (lead.all fun c => c = '-' || isWordChar c) = true := by decide
  refine ⟨fun c member other => ?_, by decide⟩
  simpa [other] using List.all_eq_true.1 plain c member

/-- The first part of a name has no two hyphens in a row and begins with a letter. -/
theorem spaced_head (reference : String) : Spaced (head reference) ∧
    ∃ c, (head reference).head? = some c ∧ Text.isLower c = true := by
  have spaced := spaced_slug reference
  rw [head_eq]
  split
  · rename_i letter
    obtain ⟨c, first, isLetter⟩ := Option.any_eq_true _ _ |>.1 letter
    have solid : c ≠ '-' := fun same => head?_slug reference (same ▸ first)
    have plain := spaced.plain c (List.mem_of_head? first) solid
    exact ⟨spaced, c, first, isLower_of_isLetter plain isLetter⟩
  · refine ⟨⟨fun c member solid => ?_, ?_⟩, 'a', rfl, by decide⟩
    · rcases List.mem_append.1 member with inLead | inSlug
      · exact spaced_lead.plain c inLead solid
      · exact spaced.plain c inSlug solid
    · refine List.isChain_append.2 ⟨spaced_lead.apart, spaced.apart, fun _ _ d first _ => ?_⟩
      rintro rfl
      exact head?_slug reference first

/-! ### The last part of a name -/

variable {run : String}

/-- A digit is a character of a word. -/
theorem isWordChar_of_isDigit {c : Char} (digit : Text.isDigit c = true) : isWordChar c = true := by
  rw [isWordChar, digit, Bool.or_true]

/-- The id of a run consists of characters of a word. -/
theorem IsRun.plain (isRun : IsRun run) : ∀ c ∈ run.toList, isWordChar c = true := by
  intro c member
  rcases isRun.digits c member with digit | ⟨low, high⟩
  · exact isWordChar_of_isDigit digit
  · have lower : Text.isLower c = true := by
      rw [Text.isLower, decide_eq_true low, decide_eq_true (Char.le_trans high (by decide))]
      rfl
    rw [isWordChar, lower, Bool.true_or]

/-- The digits of base sixteen are digits and letters up to `f`. -/
theorem digit_of_mem_toDigits {number : Nat} {c : Char} (member : c ∈ Nat.toDigits 16 number) :
    Text.isDigit c = true ∨ 'a' ≤ c ∧ c ≤ 'f' := by
  have single : ∀ digit < 16, Text.isDigit digit.digitChar = true ∨
      'a' ≤ digit.digitChar ∧ digit.digitChar ≤ 'f' := by decide
  induction number using Nat.strongRecOn with
  | ind number ih =>
      rw [Nat.toDigits_eq_if (by decide)] at member
      split at member
      · rename_i small
        exact List.mem_singleton.1 member ▸ single number small
      · rename_i large
        rcases List.mem_append.1 member with front | last
        · exact ih _ (Nat.div_lt_self (by omega) (by decide)) front
        · exact List.mem_singleton.1 last ▸ single _ (Nat.mod_lt _ (by decide))

/-- Every run is named by eight digits, whatever it is named for. -/
theorem isRun_runOf (seed : Nat) : IsRun (runOf seed) where
  eight := by
    have small := Nat.mod_lt seed (by decide : 0 < Nat.pow 16 8)
    have most := (Nat.length_toDigits_le_iff (b := 16) (n := Nat.pow 16 8 + seed % Nat.pow 16 8)
      (k := 9) (by decide) (by decide)).2 (by simp only [Nat.pow_eq] at small ⊢; omega)
    have more := mt (Nat.length_toDigits_le_iff (b := 16) (n := Nat.pow 16 8 + seed % Nat.pow 16 8)
      (k := 8) (by decide) (by decide)).1 (by simp only [Nat.pow_eq]; omega)
    rw [runOf, String.length_ofList, List.length_tail]
    omega
  digits c member := by
    rw [runOf, String.toList_ofList] at member
    exact digit_of_mem_toDigits (List.mem_of_mem_tail member)

/-- The id of a run is a single word. -/
theorem IsRun.hyphenated (isRun : IsRun run) : Hyphenated run.toList := by
  refine hyphenated_of_word (fun empty => ?_) isRun.plain
  have eight := isRun.eight
  rw [← String.length_toList, empty] at eight
  cases eight

/-- A number is written in characters of a word. -/
theorem plain_toString {number : Nat} : ∀ c ∈ (toString number).toList, isWordChar c = true := by
  rw [Nat.toString_eq_ofList_toDigits, String.toList_ofList]
  intro c member
  exact isWordChar_of_isDigit (Nat.isDigit_of_mem_toDigits (by decide) (by decide) member)

/-- A number is written as a single word. -/
theorem hyphenated_toString (number : Nat) : Hyphenated (toString number).toList := by
  refine hyphenated_of_word ?_ plain_toString
  rw [Nat.toString_eq_ofList_toDigits, String.toList_ofList]
  exact Nat.toDigits_ne_nil

/-- The tail of a name is a hyphen, the run, a hyphen and the number. -/
theorem toList_tail (run : String) (number : Nat) :
    (tail run number).toList = '-' :: (run.toList ++ '-' :: (toString number).toList) := by
  simp [tail]

/-- The tail of a name has as many bytes as characters. -/
theorem utf8ByteSize_tail (isRun : IsRun run) (number : Nat) :
    (tail run number).utf8ByteSize = (tail run number).length := by
  refine Text.utf8ByteSize_of_ascii fun c member => ?_
  rw [toList_tail, List.mem_cons, List.mem_append, List.mem_cons] at member
  rcases member with rfl | inRun | rfl | inNumber
  · decide
  · exact lt_of_isWordChar (isRun.plain c inRun)
  · decide
  · exact lt_of_isWordChar (plain_toString c inNumber)

/-- A number of 64 bits has at most twenty digits. -/
theorem length_tail_le (isRun : IsRun run) {number : Nat} (word : number ≤ Text.maxWord) :
    (tail run number).length ≤ 30 := by
  have digits : (Nat.toDigits 10 number).length ≤ 20 :=
    (Nat.length_toDigits_le_iff (by decide) (by decide)).2
      (Nat.lt_of_le_of_lt word (by decide))
  have eight := isRun.eight
  rw [← String.length_toList, toList_tail, List.length_cons, List.length_append, List.length_cons,
    String.length_toList, eight, Nat.toString_eq_ofList_toDigits, String.toList_ofList]
  omega

/-! ### The whole name -/

/-- The first part of a name as far as there is room for it. -/
def kept (reference run : String) (number : Nat) : List Char :=
  (head reference).take (maxLength - (tail run number).utf8ByteSize)

/-- A name is what is kept of the reference, without hyphens at its end, and the tail. -/
theorem toList_make_eq (reference run : String) (number : Nat) :
    (make reference run number).toList =
      dropHyphens (kept reference run number) ++ (tail run number).toList := by
  simp [make, kept]

/-- What is kept of the first part is words with hyphens between, and begins with a letter. -/
theorem kept_hyphenated (reference : String) {number : Nat}
    (room : 0 < maxLength - (tail run number).utf8ByteSize) :
    Hyphenated (dropHyphens (kept reference run number)) ∧
      ∃ c, (dropHyphens (kept reference run number)).head? = some c ∧ Text.isLower c = true := by
  obtain ⟨spaced, c, first, letter⟩ := spaced_head reference
  have solid : c ≠ '-' := by
    rintro rfl
    exact absurd letter (by decide)
  have begins : (kept reference run number).head? = some c := by
    rw [kept, List.head?_take, if_neg (Nat.pos_iff_ne_zero.1 room), first]
  have filled := dropHyphens_ne_nil begins solid
  have cut := isPrefix_dropHyphens (kept reference run number)
  have starts : (dropHyphens (kept reference run number)).head? = some c := by
    rw [head?_of_isPrefix cut filled, begins]
  have part : Spaced (dropHyphens (kept reference run number)) :=
    spaced.of_isInfix (cut.trans (List.take_prefix _ _)).isInfix
  refine ⟨part.hyphenated filled ?_ (getLast?_dropHyphens _), c, starts, letter⟩
  rw [starts]
  simpa using solid

/-- Names follow the rules, for every reference, run and number of 64 bits. They end in the run and
the number, and for one run they are the same for no two numbers, whatever the references. -/
theorem make_valid (isRun : IsRun run) :
    (∀ reference number, number ≤ Text.maxWord →
      Valid (make reference run number) ∧
        (tail run number).toList <:+ (make reference run number).toList) ∧
      ∀ first second number another, number ≠ another →
        make first run number ≠ make second run another := by
  refine ⟨fun reference number word => ⟨?_, ?_⟩, fun first second number another differs same =>
    differs (number_eq_of_make_eq same)⟩
  · have size := utf8ByteSize_tail isRun number
    have enough := length_tail_le isRun word
    have most : maxLength = 128 := rfl
    obtain ⟨words, c, begins, letter⟩ := @kept_hyphenated run reference number (by omega)
    refine ⟨?_, ⟨c, ?_, letter⟩, ?_⟩
    · rw [toList_make_eq, toList_tail]
      exact words.append (isRun.hyphenated.append (hyphenated_toString number))
    · rw [toList_make_eq, List.head?_append, begins]
      rfl
    · have cut : (dropHyphens (kept reference run number)).length ≤
          maxLength - (tail run number).utf8ByteSize :=
        (isPrefix_dropHyphens _).length_le.trans (List.length_take_le _ _)
      rw [← String.length_toList, toList_make_eq, List.length_append, String.length_toList]
      omega
  · rw [toList_make_eq]
    exact List.suffix_append _ _

/-- A reference of digits, signs and letters beyond ASCII, at the first and at the last number. -/
theorem make_valid_of_numbers :
    IsRun "0b9e44f1" ∧ 1 ≤ Text.maxWord ∧ Text.maxWord ≤ Text.maxWord ∧ 1 ≠ Text.maxWord ∧
      Valid (make "9/Größe: é" "0b9e44f1" 1) ∧
      Valid (make "9/Größe: é" "0b9e44f1" Text.maxWord) ∧
      make "9/Größe: é" "0b9e44f1" 1 ≠ make "9/Größe: é" "0b9e44f1" Text.maxWord := by
  have isRun : IsRun "0b9e44f1" := by
    have run : runOf 194921713 = "0b9e44f1" := by decide
    exact run ▸ isRun_runOf _
  have small : 1 ≤ Text.maxWord := by decide
  have apart : 1 ≠ Text.maxWord := by decide
  obtain ⟨valid, distinct⟩ := make_valid isRun
  exact ⟨isRun, small, Nat.le_refl _, apart, (valid _ 1 small).1,
    (valid _ Text.maxWord (Nat.le_refl _)).1, distinct _ _ _ _ apart⟩

end Runbook.StackName
