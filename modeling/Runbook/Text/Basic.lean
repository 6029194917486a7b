/-!
# Text as lists of characters

Splitting, searching and replacing on `List Char`, the view on which every
scanner of this library works. The laws say that nothing is lost: pieces joined
by their separator, and lines joined by line feeds, give the text back.
-/

namespace Runbook.Text

/-- The pieces between the occurrences of `sep`; there is always at least one. -/
def splitOn (sep : Char) : List Char → List (List Char)
  | [] => [[]]
  | c :: rest =>
      if c = sep then [] :: splitOn sep rest
      else
        match splitOn sep rest with
        | [] => [[c]]
        | piece :: pieces => (c :: piece) :: pieces

/-- A text has a piece, if only an empty one. -/
theorem splitOn_ne_nil (sep : Char) (text : List Char) : splitOn sep text ≠ [] := by
  cases text with
  | nil => simp [splitOn]
  | cons c rest =>
      simp only [splitOn]
      split
      · simp
      · split <;> simp

/-- Pieces written one after the other with `sep` between neighbours. -/
def joinWith (sep : List Char) : List (List Char) → List Char
  | [] => []
  | [piece] => piece
  | piece :: pieces => piece ++ sep ++ joinWith sep pieces

/-- Joining the pieces restores the text. -/
theorem joinWith_splitOn (sep : Char) (text : List Char) :
    joinWith [sep] (splitOn sep text) = text := by
  induction text with
  | nil => rfl
  | cons c rest ih =>
      simp only [splitOn]
      split
      · rename_i isSep
        subst isSep
        cases pieces : splitOn c rest with
        | nil => exact absurd pieces (splitOn_ne_nil c rest)
        | cons piece more => simpa [joinWith, pieces] using ih
      · cases pieces : splitOn sep rest with
        | nil => exact absurd pieces (splitOn_ne_nil sep rest)
        | cons piece more =>
            rw [pieces] at ih
            cases more with
            | nil => simpa [joinWith] using ih
            | cons next others => simpa [joinWith] using ih

/-- A list without `sep` is one piece. -/
theorem splitOn_eq_singleton {sep : Char} {text : List Char} (absent : sep ∉ text) :
    splitOn sep text = [text] := by
  induction text with
  | nil => rfl
  | cons c rest ih =>
      simp only [List.mem_cons, not_or] at absent
      have differs : c ≠ sep := fun same => absent.1 same.symm
      simp [splitOn, differs, ih absent.2]

/-- The pieces on both sides of a separator are those of the two texts. -/
theorem splitOn_append_sep (sep : Char) (left right : List Char) :
    splitOn sep (left ++ sep :: right) = splitOn sep left ++ splitOn sep right := by
  induction left with
  | nil => simp [splitOn]
  | cons c rest ih =>
      simp only [List.cons_append, splitOn, ih]
      split
      · rfl
      · cases pieces : splitOn sep rest with
        | nil => exact absurd pieces (splitOn_ne_nil sep rest)
        | cons piece more => rfl

/-- The first piece ends where the separator stands. -/
theorem splitOn_append_cons {sep : Char} {piece : List Char} (absent : sep ∉ piece)
    (rest : List Char) : splitOn sep (piece ++ sep :: rest) = piece :: splitOn sep rest := by
  rw [splitOn_append_sep, splitOn_eq_singleton absent, List.singleton_append]

/-- No piece holds the separator. -/
theorem not_mem_of_mem_splitOn {sep : Char} {text piece : List Char}
    (member : piece ∈ splitOn sep text) : sep ∉ piece := by
  induction text generalizing piece with
  | nil => simp_all [splitOn]
  | cons c rest ih =>
      simp only [splitOn] at member
      split at member
      · rcases List.mem_cons.1 member with same | later
        · simp [same]
        · exact ih later
      · rename_i differs
        split at member
        · simp only [List.mem_singleton] at member
          subst member
          simpa using fun same => differs same.symm
        · rename_i head tail pieces
          rcases List.mem_cons.1 member with same | later
          · subst same
            have := @ih head (by simp [pieces])
            simp only [List.mem_cons, not_or]
            exact ⟨fun same => differs same.symm, this⟩
          · exact ih (by simp [pieces, later])

/-- What follows `lead` in `text`, when `text` begins with it. -/
def dropLead : List Char → List Char → Option (List Char)
  | [], text => some text
  | _ :: _, [] => none
  | p :: lead, c :: text => if p = c then dropLead lead text else none

/-- What is left without the lead is what stands behind it. -/
theorem dropLead_eq_some_iff {lead text rest : List Char} :
    dropLead lead text = some rest ↔ text = lead ++ rest := by
  induction lead generalizing text with
  | nil => simp [dropLead]
  | cons p lead ih =>
      cases text with
      | nil => simp [dropLead]
      | cons c text =>
          by_cases same : p = c
          · subst same; simp [dropLead, ih]
          · simpa [dropLead, same] using fun equal : c = p => absurd equal.symm same

/-- The text on either side of the first occurrence of `needle`. -/
def cutAt (needle : List Char) : List Char → Option (List Char × List Char)
  | [] =>
      match dropLead needle [] with
      | some rest => some ([], rest)
      | none => none
  | c :: text =>
      match dropLead needle (c :: text) with
      | some rest => some ([], rest)
      | none => (cutAt needle text).map fun sides => (c :: sides.1, sides.2)

/-- A cut is an occurrence. -/
theorem eq_append_of_cutAt {needle text before after : List Char}
    (cut : cutAt needle text = some (before, after)) : text = before ++ needle ++ after := by
  induction text generalizing before with
  | nil =>
      simp only [cutAt] at cut
      split at cut
      · rename_i rest lead
        simp only [Option.some.injEq, Prod.mk.injEq] at cut
        rw [← cut.1, ← cut.2]
        simpa using dropLead_eq_some_iff.1 lead
      · simp at cut
  | cons c text ih =>
      simp only [cutAt] at cut
      split at cut
      · rename_i rest lead
        simp only [Option.some.injEq, Prod.mk.injEq] at cut
        rw [← cut.1, ← cut.2]
        simpa using dropLead_eq_some_iff.1 lead
      · simp only [Option.map_eq_some_iff, Prod.mk.injEq] at cut
        obtain ⟨⟨inner, outer⟩, found, rfl, rfl⟩ := cut
        simp [ih found]

/-- Does `needle` occur in `text`? -/
def contains (needle text : List Char) : Bool :=
  (cutAt needle text).isSome

/-- Occurring means standing between two sides. -/
theorem contains_iff {needle text : List Char} :
    contains needle text = true ↔ ∃ before after, text = before ++ needle ++ after := by
  constructor
  · intro found
    obtain ⟨⟨before, after⟩, cut⟩ := Option.isSome_iff_exists.1 found
    exact ⟨before, after, eq_append_of_cutAt cut⟩
  · rintro ⟨before, after, rfl⟩
    induction before with
    | nil =>
        have lead : dropLead needle (needle ++ after) = some after :=
          dropLead_eq_some_iff.2 rfl
        simp only [contains, List.nil_append]
        cases whole : needle ++ after with
        | nil => rw [whole] at lead; simp [cutAt, lead]
        | cons c rest => rw [whole] at lead; simp [cutAt, lead]
    | cons c before ih =>
        simp only [contains, List.cons_append, cutAt]
        split
        · rfl
        · simpa [contains] using ih

/-- The sides of a cut leave less to search. -/
theorem length_of_cutAt {needle text before after : List Char}
    (cut : cutAt needle text = some (before, after)) :
    before.length + needle.length + after.length = text.length := by
  rw [eq_append_of_cutAt cut]
  simp [Nat.add_assoc]

/-- Every occurrence of `needle`, found from left to right without overlap, gives way to
`value`. An empty needle changes nothing. -/
def replaceAll (needle value text : List Char) : List Char :=
  if _some : needle ≠ [] then
    match _cut : cutAt needle text with
    | none => text
    | some (before, after) => before ++ value ++ replaceAll needle value after
  else text
termination_by text.length
decreasing_by
  have := length_of_cutAt _cut
  have := List.length_pos_iff.2 _some
  omega

/-- The lines of a text: each ends at a line feed, a carriage return before it belongs to
the line end, and a last line needs no line feed. -/
def lines (text : List Char) : List (List Char) :=
  let pieces := splitOn '\n' text
  let ended := pieces.dropLast.map fun line =>
    if line.getLast? = some '\r' then line.dropLast else line
  match pieces.getLast? with
  | some (c :: last) => ended ++ [c :: last]
  | _ => ended

/-- A text with `lead` before each of its lines, and no line feed at the end. -/
def indent (lead text : List Char) : List Char :=
  joinWith ['\n'] ((lines text).map fun line => lead ++ line)

/-- Is this a decimal digit of ASCII? -/
def isDigit (c : Char) : Bool := '0' ≤ c && c ≤ '9'

/-- Is this a lower-case letter of ASCII? -/
def isLower (c : Char) : Bool := 'a' ≤ c && c ≤ 'z'

/-- Is this an upper-case letter of ASCII? -/
def isUpper (c : Char) : Bool := 'A' ≤ c && c ≤ 'Z'

/-- Is this a letter of ASCII? -/
def isLetter (c : Char) : Bool := isLower c || isUpper c

/-- Is this a letter or digit of ASCII? -/
def isAlphanumeric (c : Char) : Bool := isLetter c || isDigit c

/-- Upper-case letters of ASCII become lower-case; all else stays. -/
def toLowerAscii (c : Char) : Char := if isUpper c then Char.ofNat (c.toNat + 32) else c

/-- The value of a digit in a base up to sixteen. -/
def digitValue (c : Char) : Option Nat :=
  if isDigit c then some (c.toNat - 48)
  else if 'a' ≤ c && c ≤ 'f' then some (c.toNat - 87)
  else if 'A' ≤ c && c ≤ 'F' then some (c.toNat - 55)
  else none

/-- The number written by the digits of `text` in `base`; nothing when one of them is not a
digit of the base or there is none. -/
def number? (base : Nat) (text : List Char) : Option Nat :=
  if text.isEmpty then none
  else
    text.foldlM (fun total c =>
      match digitValue c with
      | some d => if d < base then some (total * base + d) else none
      | none => none) 0

/-- The natural number that a text of decimal digits writes, a plus sign before them allowed,
where it is not above `limit`. -/
def natural? (limit : Nat) (text : List Char) : Option Nat := do
  let digits := match text with
    | '+' :: digits => digits
    | _ => text
  let n ← if digits.all isDigit then number? 10 digits else none
  if n ≤ limit then some n else none

/-- The greatest number of 64 bits. -/
def maxWord : Nat := Nat.pow 2 64 - 1

/-- The greatest number of 32 bits. -/
def maxHalfWord : Nat := Nat.pow 2 32 - 1

/-- Strings written one after the other with `sep` between neighbours. -/
def commaJoin (sep : String) : List String → String
  | [] => ""
  | [item] => item
  | item :: items => item ++ sep ++ commaJoin sep items

end Runbook.Text
