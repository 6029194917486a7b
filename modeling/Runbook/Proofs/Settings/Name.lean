import Mathlib.Computability.Language
import Runbook.Proofs.Text.Occurrence
import Runbook.Settings.Name

/-!
# The grammars of region and bucket names

A region's name is `[a-z]+(-[a-z]+)+-[0-9]+`. A bucket's name has 3 to 63 bytes, is a sequence of
labels over `[a-z0-9-]` with a dot between neighbours, and begins and ends with a letter or digit.
Both checks accept exactly their grammars (`names_exact`): a text is split at its hyphens or dots in
one way only (`splitOn_eq_cons_iff`), which makes the parts of the grammar the pieces that the
checks look at.
-/

open scoped Computability

namespace Runbook

namespace Text

variable {sep : Char} {text piece : List Char} {pieces : List (List Char)}

/-- Pieces with the separator in front of all but the first are split into themselves. -/
theorem splitOn_append_flatten (apart : ∀ part ∈ piece :: pieces, sep ∉ part) :
    splitOn sep (piece ++ (pieces.map (sep :: ·)).flatten) = piece :: pieces := by
  induction pieces generalizing piece with
  | nil => simpa using splitOn_eq_singleton (apart piece List.mem_cons_self)
  | cons next later ih =>
      obtain ⟨here, others⟩ := List.forall_mem_cons.1 apart
      rw [List.map_cons, List.flatten_cons, List.cons_append, splitOn_append_cons here, ih others]

/-- What a text is split into, put together again. -/
theorem splitOn_eq_cons_iff : splitOn sep text = piece :: pieces ↔
    text = piece ++ (pieces.map (sep :: ·)).flatten ∧ ∀ part ∈ piece :: pieces, sep ∉ part := by
  constructor
  · intro split
    have joined (pieces : List (List Char)) (piece : List Char) :
        joinWith [sep] (piece :: pieces) = piece ++ (pieces.map (sep :: ·)).flatten := by
      induction pieces generalizing piece with
      | nil => simp [joinWith]
      | cons next later ih => simp [joinWith, ih]
    constructor
    · rw [← joinWith_splitOn sep text, split, joined]
    · rw [← split]
      exact fun part => not_mem_of_mem_splitOn
  · rintro ⟨rfl, apart⟩
    exact splitOn_append_flatten apart

/-- A character of a text is the separator or stands in a piece. -/
theorem eq_or_exists_mem_of_mem {c : Char} (inside : c ∈ text) :
    c = sep ∨ ∃ part ∈ splitOn sep text, c ∈ part := by
  obtain ⟨piece, pieces, split⟩ := List.exists_cons_of_ne_nil (splitOn_ne_nil sep text)
  obtain ⟨rfl, -⟩ := splitOn_eq_cons_iff.1 split
  rw [split]
  rcases List.mem_append.1 inside with first | later
  · exact .inr ⟨piece, List.mem_cons_self, first⟩
  · obtain ⟨_, image, member⟩ := List.mem_flatten.1 later
    obtain ⟨part, listed, rfl⟩ := List.mem_map.1 image
    rcases List.mem_cons.1 member with rfl | member
    · exact .inl rfl
    · exact .inr ⟨part, List.mem_cons_of_mem _ listed, member⟩

/-- A piece of a text holds no other characters. -/
theorem mem_of_mem_splitOn {c : Char} (listed : piece ∈ splitOn sep text) (inside : c ∈ piece) :
    c ∈ text := by
  obtain ⟨first, pieces, split⟩ := List.exists_cons_of_ne_nil (splitOn_ne_nil sep text)
  obtain ⟨rfl, -⟩ := splitOn_eq_cons_iff.1 split
  rw [split] at listed
  rcases List.mem_cons.1 listed with rfl | listed
  · exact List.mem_append_left _ inside
  · exact List.mem_append_right _ (List.mem_flatten.2
      ⟨sep :: piece, List.mem_map_of_mem listed, List.mem_cons_of_mem _ inside⟩)

/-- An empty piece shows where the text begins or ends with the separator or has two in a row. -/
theorem nil_not_mem_splitOn_iff : [] ∉ splitOn sep text ↔
    text ≠ [] ∧ text.head? ≠ some sep ∧ text.getLast? ≠ some sep ∧ ¬ [sep, sep] <:+: text := by
  constructor
  · intro filled
    have cut (left right : List Char) (same : text = left ++ sep :: right) :
        [] ∉ splitOn sep left ∧ [] ∉ splitOn sep right := by
      rw [same, splitOn_append_sep, List.mem_append, not_or] at filled
      exact filled
    have empty : [] ∈ splitOn sep [] := List.mem_singleton_self _
    refine ⟨?_, fun begins => ?_, fun ends => ?_, ?_⟩
    · rintro rfl
      exact filled empty
    · obtain ⟨rest, rfl⟩ := List.head?_eq_some_iff.1 begins
      exact (cut [] rest rfl).1 empty
    · obtain ⟨front, rfl⟩ := List.getLast?_eq_some_iff.1 ends
      exact (cut front [] rfl).2 empty
    · rintro ⟨front, back, rfl⟩
      refine (cut front (sep :: back) (by simp)).2 ?_
      simp [splitOn]
  · rintro ⟨nonempty, head, last, apart⟩ member
    obtain ⟨piece, pieces, split⟩ := List.exists_cons_of_ne_nil (splitOn_ne_nil sep text)
    obtain ⟨rfl, -⟩ := splitOn_eq_cons_iff.1 split
    rw [split] at member
    rcases List.mem_cons.1 member with rfl | later
    · cases pieces with
      | nil => exact nonempty rfl
      | cons next others => exact head rfl
    · obtain ⟨front, back, rfl⟩ := List.append_of_mem later
      cases back with
      | nil => exact last (by simp)
      | cons next others => exact apart ⟨piece ++ (front.map (sep :: ·)).flatten,
          next ++ (others.map (sep :: ·)).flatten, by simp⟩

end Text

/-! ### Grammars -/

/-- One character of a kind. -/
def oneOf (kind : Char → Bool) : Language Char := {text | ∃ c, kind c = true ∧ text = [c]}

/-- Texts of a language one after the other, at least one. -/
def plus (language : Language Char) : Language Char := language * language∗

/-- `[a-z]+(-[a-z]+)+-[0-9]+` -/
def regionNames : Language Char :=
  plus (oneOf Text.isLower) * plus (oneOf (· = '-') * plus (oneOf Text.isLower)) *
    oneOf (· = '-') * plus (oneOf Text.isDigit)

/-- May the character stand in a label of a bucket's name? -/
def isLabelChar (c : Char) : Bool := Text.isLower c || Text.isDigit c || c = '-'

/-- `[a-z0-9-]+(\.[a-z0-9-]+)*` -/
def dottedLabels : Language Char :=
  plus (oneOf isLabelChar) * (oneOf (· = '.') * plus (oneOf isLabelChar))∗

variable {kind : Char → Bool} {language : Language Char} {sep : Char} {text : List Char}

/-- One character of a kind is a text of that character. -/
theorem mem_oneOf_iff : text ∈ oneOf kind ↔ ∃ c, kind c = true ∧ text = [c] := Iff.rfl

/-- A text of one or more parts is a row of parts, each of the language. -/
theorem mem_plus_iff : text ∈ plus language ↔
    ∃ parts, parts ≠ [] ∧ text = parts.flatten ∧ ∀ part ∈ parts, part ∈ language := by
  simp only [plus, Language.mem_mul, Language.mem_kstar]
  constructor
  · rintro ⟨first, here, _, ⟨parts, rfl, others⟩, rfl⟩
    exact ⟨first :: parts, by simp, by simp, List.forall_mem_cons.2 ⟨here, others⟩⟩
  · rintro ⟨parts, nonempty, rfl, members⟩
    obtain ⟨first, parts, rfl⟩ := List.exists_cons_of_ne_nil nonempty
    obtain ⟨here, others⟩ := List.forall_mem_cons.1 members
    exact ⟨first, here, parts.flatten, ⟨parts, rfl, others⟩, by simp⟩

/-- One or more characters of a kind are a text of these that is not empty. -/
theorem mem_plus_oneOf_iff :
    text ∈ plus (oneOf kind) ↔ text ≠ [] ∧ ∀ c ∈ text, kind c = true := by
  rw [mem_plus_iff]
  constructor
  · rintro ⟨parts, nonempty, rfl, members⟩
    constructor
    · obtain ⟨first, parts, rfl⟩ := List.exists_cons_of_ne_nil nonempty
      obtain ⟨c, -, rfl⟩ := members first List.mem_cons_self
      simp
    · intro c inside
      obtain ⟨part, listed, inside⟩ := List.mem_flatten.1 inside
      obtain ⟨d, holds, rfl⟩ := members part listed
      rwa [List.mem_singleton.1 inside]
  · rintro ⟨nonempty, all⟩
    refine ⟨text.map ([·]), by simpa using nonempty, by simp [← List.flatMap_def], ?_⟩
    intro part listed
    obtain ⟨c, inside, rfl⟩ := List.mem_map.1 listed
    exact ⟨c, all c inside, rfl⟩

/-- A separator and a text behind it. -/
theorem mem_sep_mul_iff :
    text ∈ oneOf (· = sep) * language ↔ ∃ rest ∈ language, text = sep :: rest := by
  simp only [Language.mem_mul, mem_oneOf_iff, decide_eq_true_eq]
  constructor
  · rintro ⟨_, ⟨_, rfl, rfl⟩, rest, member, rfl⟩
    exact ⟨rest, member, rfl⟩
  · rintro ⟨rest, member, rfl⟩
    exact ⟨[sep], ⟨sep, rfl, rfl⟩, rest, member, rfl⟩

/-- Parts with a separator in front of each are images of what stands behind the separators. -/
theorem exists_map_eq_of_forall_mem {parts : List (List Char)}
    (members : ∀ part ∈ parts, part ∈ oneOf (· = sep) * language) :
    ∃ rests : List (List Char), parts = rests.map (sep :: ·) ∧ ∀ rest ∈ rests, rest ∈ language := by
  induction parts with
  | nil => exact ⟨[], rfl, by simp⟩
  | cons part others ih =>
      obtain ⟨here, later⟩ := List.forall_mem_cons.1 members
      obtain ⟨rest, member, rfl⟩ := mem_sep_mul_iff.1 here
      obtain ⟨rests, rfl, all⟩ := ih later
      exact ⟨rest :: rests, rfl, List.forall_mem_cons.2 ⟨member, all⟩⟩

/-- Any number of parts, each behind a separator. -/
theorem mem_kstar_sep_iff : text ∈ (oneOf (· = sep) * language)∗ ↔
    ∃ rests : List (List Char), text = (rests.map (sep :: ·)).flatten ∧
      ∀ rest ∈ rests, rest ∈ language := by
  rw [Language.mem_kstar]
  constructor
  · rintro ⟨parts, rfl, members⟩
    obtain ⟨rests, rfl, all⟩ := exists_map_eq_of_forall_mem members
    exact ⟨rests, rfl, all⟩
  · rintro ⟨rests, rfl, all⟩
    refine ⟨_, rfl, ?_⟩
    rw [List.forall_mem_map]
    exact fun rest listed => mem_sep_mul_iff.2 ⟨rest, all rest listed, rfl⟩

/-- One or more parts, each behind a separator. -/
theorem mem_plus_sep_iff : text ∈ plus (oneOf (· = sep) * language) ↔
    ∃ rests : List (List Char), rests ≠ [] ∧ text = (rests.map (sep :: ·)).flatten ∧
      ∀ rest ∈ rests, rest ∈ language := by
  rw [mem_plus_iff]
  constructor
  · rintro ⟨parts, nonempty, rfl, members⟩
    obtain ⟨rests, rfl, all⟩ := exists_map_eq_of_forall_mem members
    exact ⟨rests, by simpa using nonempty, rfl, all⟩
  · rintro ⟨rests, nonempty, rfl, all⟩
    refine ⟨_, by simpa using nonempty, rfl, ?_⟩
    rw [List.forall_mem_map]
    exact fun rest listed => mem_sep_mul_iff.2 ⟨rest, all rest listed, rfl⟩

/-! ### Regions -/

/-- A word of a region is one or more lower case letters. -/
theorem isRegionWord_iff : isRegionWord text = true ↔ text ∈ plus (oneOf Text.isLower) := by
  simp [isRegionWord, mem_plus_oneOf_iff]

/-- The number of a region is one or more digits. -/
theorem isRegionNumber_iff : isRegionNumber text = true ↔ text ∈ plus (oneOf Text.isDigit) := by
  simp [isRegionNumber, mem_plus_oneOf_iff]

/-- A region is a word, one or more further words and a number, with hyphens between them. -/
theorem mem_regionNames_iff : text ∈ regionNames ↔ ∃ word words number,
    text = word ++ ((words ++ [number]).map ('-' :: ·)).flatten ∧ words ≠ [] ∧
      number ∈ plus (oneOf Text.isDigit) ∧
        ∀ part ∈ word :: words, part ∈ plus (oneOf Text.isLower) := by
  rw [regionNames, mul_assoc, mul_assoc]
  constructor
  · rintro ⟨word, first, _, ⟨_, middle, _, last, rfl⟩, rfl⟩
    obtain ⟨words, nonempty, rfl, all⟩ := mem_plus_sep_iff.1 middle
    obtain ⟨number, digits, rfl⟩ := mem_sep_mul_iff.1 last
    exact ⟨word, words, number, by simp, nonempty, digits, List.forall_mem_cons.2 ⟨first, all⟩⟩
  · rintro ⟨word, words, number, rfl, nonempty, digits, letters⟩
    obtain ⟨first, all⟩ := List.forall_mem_cons.1 letters
    refine ⟨word, first, _, ⟨_, mem_plus_sep_iff.2 ⟨words, nonempty, rfl, all⟩, _,
      mem_sep_mul_iff.2 ⟨number, digits, rfl⟩, rfl⟩, ?_⟩
    simp

/-- The check looks at the parts between the hyphens. -/
theorem isRegionShaped_iff {region : String} : isRegionShaped region = true ↔
    ∃ word words number, Text.splitOn '-' region.toList = word :: (words ++ [number]) ∧
      words ≠ [] ∧ number ∈ plus (oneOf Text.isDigit) ∧
        ∀ part ∈ word :: words, part ∈ plus (oneOf Text.isLower) := by
  simp only [← isRegionWord_iff, ← isRegionNumber_iff]
  constructor
  · intro shaped
    unfold isRegionShaped at shaped
    split at shaped
    · rename_i number reversed pieces
      simp only [Bool.and_eq_true, decide_eq_true_eq, List.all_eq_true] at shaped
      obtain ⟨⟨several, digits⟩, letters⟩ := shaped
      rw [List.reverse_eq_cons_iff] at pieces
      rw [← List.length_reverse] at several
      obtain ⟨word, next, words, same⟩ : ∃ word next words, reversed.reverse = word :: next :: words := by
        match reversed.reverse, several with
        | word :: next :: words, _ => exact ⟨word, next, words, rfl⟩
      refine ⟨word, next :: words, number, by rw [pieces, same]; rfl, by simp, digits, ?_⟩
      rw [← same]
      exact fun part listed => letters part (List.mem_reverse.1 listed)
    · cases shaped
  · rintro ⟨word, words, number, split, nonempty, digits, letters⟩
    have several := List.length_pos_iff.2 nonempty
    simp only [isRegionShaped, split, List.reverse_cons, List.reverse_append, List.reverse_nil,
      List.nil_append, List.cons_append, Bool.and_eq_true,
      decide_eq_true_eq, List.all_eq_true, List.length_append, List.length_reverse,
      List.length_singleton, List.mem_append, List.mem_reverse, List.mem_singleton, digits, and_true]
    refine ⟨by omega, fun part listed => letters part ?_⟩
    rcases listed with listed | rfl
    · exact List.mem_cons_of_mem _ listed
    · exact List.mem_cons_self

/-- A text of one kind holds no separator of another. -/
theorem not_mem_of_mem_plus (member : text ∈ plus (oneOf kind)) (other : kind sep = false) :
    sep ∉ text := fun inside => by
  have holds := (mem_plus_oneOf_iff.1 member).2 sep inside
  rw [other] at holds
  cases holds

/-- The check of a region's name is its grammar: split at the hyphens, a name has the words and the
number of the grammar as pieces. -/
theorem isRegionShaped_iff_mem {region : String} :
    isRegionShaped region = true ↔ region.toList ∈ regionNames := by
  simp only [isRegionShaped_iff, mem_regionNames_iff, Text.splitOn_eq_cons_iff]
  constructor
  · rintro ⟨word, words, number, ⟨same, -⟩, grammar⟩
    exact ⟨word, words, number, same, grammar⟩
  · rintro ⟨word, words, number, same, nonempty, digits, letters⟩
    refine ⟨word, words, number, ⟨same, fun part listed => ?_⟩, nonempty, digits, letters⟩
    rw [← List.cons_append, List.mem_append, List.mem_singleton] at listed
    rcases listed with listed | rfl
    · exact not_mem_of_mem_plus (letters part listed) (by decide)
    · exact not_mem_of_mem_plus digits (by decide)

/-! ### Buckets -/

/-- Labels with dots between them are such that every part between dots is one. -/
theorem mem_dottedLabels_iff : text ∈ dottedLabels ↔
    ∀ part ∈ Text.splitOn '.' text, part ∈ plus (oneOf isLabelChar) := by
  constructor
  · rintro ⟨label, here, _, more, rfl⟩
    obtain ⟨labels, rfl, all⟩ := mem_kstar_sep_iff.1 more
    have members := List.forall_mem_cons.2 ⟨here, all⟩
    rwa [Text.splitOn_append_flatten fun part listed =>
      not_mem_of_mem_plus (members part listed) (by decide)]
  · intro members
    obtain ⟨label, labels, split⟩ := List.exists_cons_of_ne_nil (Text.splitOn_ne_nil '.' text)
    rw [split, List.forall_mem_cons] at members
    obtain ⟨rfl, -⟩ := Text.splitOn_eq_cons_iff.1 split
    exact ⟨label, members.1, _, mem_kstar_sep_iff.2 ⟨labels, rfl, members.2⟩, rfl⟩

/-- Labels with dots between them: the characters are those of labels or dots, and no dot stands at
an end or beside another one. -/
theorem mem_dottedLabels_iff_chars : text ∈ dottedLabels ↔
    (∀ c ∈ text, BucketFault.isAllowed c = true) ∧ text ≠ [] ∧ text.head? ≠ some '.' ∧
      text.getLast? ≠ some '.' ∧ ¬ ['.', '.'] <:+: text := by
  rw [mem_dottedLabels_iff, ← Text.nil_not_mem_splitOn_iff]
  have allowed (c : Char) : BucketFault.isAllowed c = true ↔ isLabelChar c = true ∨ c = '.' := by
    simp [BucketFault.isAllowed, BucketFault.isPlain, isLabelChar]
  constructor
  · intro members
    refine ⟨fun c inside => ?_, fun empty => (mem_plus_oneOf_iff.1 (members [] empty)).1 rfl⟩
    rcases @Text.eq_or_exists_mem_of_mem '.' text c inside with rfl | ⟨part, listed, inside⟩
    · rfl
    · exact (allowed c).2 (.inl ((mem_plus_oneOf_iff.1 (members part listed)).2 c inside))
  · rintro ⟨chars, filled⟩ part listed
    refine mem_plus_oneOf_iff.2 ⟨fun empty => filled (empty ▸ listed), fun c inside => ?_⟩
    rcases (allowed c).1 (chars c (Text.mem_of_mem_splitOn listed inside)) with label | rfl
    · exact label
    · exact absurd inside (Text.not_mem_of_mem_splitOn listed)

/-- A text begins and ends with a letter or digit. -/
structure Edged (text : List Char) : Prop where
  first : ∃ c, text.head? = some c ∧ BucketFault.isPlain c = true
  last : ∃ c, text.getLast? = some c ∧ BucketFault.isPlain c = true

/-- Between plain ends, labels are allowed characters without two dots in a row. -/
theorem Edged.mem_dottedLabels_iff (edged : Edged text) : text ∈ dottedLabels ↔
    (∀ c ∈ text, BucketFault.isAllowed c = true) ∧ Text.contains ['.', '.'] text = false := by
  obtain ⟨⟨c, head, first⟩, d, ending, last⟩ := edged
  have dot : BucketFault.isPlain '.' = false := by decide
  rw [mem_dottedLabels_iff_chars, ← Bool.not_eq_true, Text.contains_iff_infix]
  refine and_congr_right fun _ => ⟨fun apart => apart.2.2.2, fun apart => ⟨?_, ?_, ?_, apart⟩⟩
  · rintro rfl
    cases head
  · rw [head]
    rintro ⟨⟩
    exact absurd (first.symm.trans dot) Bool.noConfusion
  · rw [ending]
    rintro ⟨⟩
    exact absurd (last.symm.trans dot) Bool.noConfusion

/-- The ends are plain where the first and the last character are. -/
theorem edged_iff : Edged text ↔
    (text.head?.any BucketFault.isPlain && text.getLast?.any BucketFault.isPlain) = true := by
  simp only [Bool.and_eq_true, Option.any_eq_true]
  exact ⟨fun edged => ⟨edged.first, edged.last⟩, fun ends => ⟨ends.1, ends.2⟩⟩

/-- The conditions on a bucket's name in the order of their checks. -/
theorem BucketFault.find?_eq_none_iff {bucket : String} : BucketFault.find? bucket = none ↔
    (3 ≤ bucket.utf8ByteSize ∧ bucket.utf8ByteSize ≤ 63) ∧
      (∀ c ∈ bucket.toList, BucketFault.isAllowed c = true) ∧ Edged bucket.toList ∧
        Text.contains ['.', '.'] bucket.toList = false := by
  have sized : ¬ (bucket.utf8ByteSize < BucketFault.minBytes ||
      BucketFault.maxBytes < bucket.utf8ByteSize) = true ↔
        3 ≤ bucket.utf8ByteSize ∧ bucket.utf8ByteSize ≤ 63 := by
    simp only [Bool.or_eq_true, decide_eq_true_eq, not_or, not_lt]
    rfl
  rw [← sized, ← List.all_eq_true, edged_iff]
  simp only [BucketFault.find?]
  split
  case isTrue unsized => simp [unsized]
  split
  case isTrue foreign => simp_all
  split
  case isTrue edge =>
    rw [Bool.not_eq_true'] at edge
    simp [edge, -Bool.and_eq_true]
  split <;> simp_all

/-- The checks of names accept exactly their grammars. A region's name is
`[a-z]+(-[a-z]+)+-[0-9]+`. A bucket's name has 3 to 63 bytes, is a sequence of labels over
`[a-z0-9-]` with dots between them, and begins and ends with a letter or digit. -/
theorem names_exact (text : String) :
    (isRegionShaped text = true ↔ text.toList ∈ regionNames) ∧
      (BucketFault.find? text = none ↔ (3 ≤ text.utf8ByteSize ∧ text.utf8ByteSize ≤ 63) ∧
        text.toList ∈ dottedLabels ∧ Edged text.toList) := by
  refine ⟨isRegionShaped_iff_mem, BucketFault.find?_eq_none_iff.trans ?_⟩
  constructor
  · rintro ⟨sized, allowed, edged, apart⟩
    exact ⟨sized, edged.mem_dottedLabels_iff.2 ⟨allowed, apart⟩, edged⟩
  · rintro ⟨sized, labels, edged⟩
    obtain ⟨allowed, apart⟩ := edged.mem_dottedLabels_iff.1 labels
    exact ⟨sized, allowed, edged, apart⟩

end Runbook
