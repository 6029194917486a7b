import Mathlib.Data.List.Basic
import Runbook.Text.Basic

/-!
# Where a text occurs

A text that does not hold a certain character occurs in a longer one on one side of that
character. So it occurs in a list of joined pieces exactly when it occurs in one of them, where the
separator is such a character; and every line of a text occurs in the text.
-/

namespace Runbook.Text

/-- To contain a text is to have it as a part. -/
theorem contains_iff_infix {needle text : List Char} :
    contains needle text = true ↔ needle <:+: text := by
  rw [contains_iff]
  constructor
  · rintro ⟨before, after, rfl⟩
    exact ⟨before, after, rfl⟩
  · rintro ⟨before, after, same⟩
    exact ⟨before, after, same.symm⟩

/-- An occurrence does not reach over the start of a text that begins with a foreign character. -/
theorem infix_append_iff_of_head {needle left right : List Char}
    (foreign : ∀ c, right.head? = some c → c ∉ needle) :
    needle <:+: left ++ right ↔ needle <:+: left ∨ needle <:+: right := by
  rw [List.infix_append_iff]
  constructor
  · rintro (here | there | ⟨first, second, rfl, ends, begins⟩)
    · exact Or.inl here
    · exact Or.inr there
    · cases second with
      | nil => exact Or.inl (by simpa using ends.isInfix)
      | cons c second =>
          obtain ⟨rest, rfl⟩ := begins
          have absent := foreign c rfl
          simp at absent
  · rintro (here | there)
    · exact Or.inl here
    · exact Or.inr (Or.inl there)

/-- An occurrence does not reach over the end of a text whose last character can only end it. -/
theorem infix_append_iff_of_getLast {needle left right : List Char}
    (foreign : ∀ c, left.getLast? = some c → c ∉ needle.dropLast) :
    needle <:+: left ++ right ↔ needle <:+: left ∨ needle <:+: right := by
  rw [List.infix_append_iff]
  constructor
  · rintro (here | there | ⟨first, second, rfl, ends, begins⟩)
    · exact Or.inl here
    · exact Or.inr there
    · cases second with
      | nil => exact Or.inl (by simpa using ends.isInfix)
      | cons c second =>
          cases last : first.getLast? with
          | none =>
              rw [List.getLast?_eq_none_iff.1 last]
              exact Or.inr (by simpa using begins.isInfix)
          | some d =>
              obtain ⟨front, rfl⟩ := ends
              have absent := foreign d (by simp [last])
              rw [List.dropLast_append_cons] at absent
              exact absurd (List.mem_append_left _ (List.mem_of_getLast? last)) absent
  · rintro (here | there)
    · exact Or.inl here
    · exact Or.inr (Or.inl there)

/-- In front of the first occurrence there is none. -/
theorem not_infix_of_cutAt {needle text before after : List Char} (nonempty : needle ≠ [])
    (cut : cutAt needle text = some (before, after)) : ¬ needle <:+: before := by
  induction text generalizing before with
  | nil =>
      obtain ⟨d, needle, rfl⟩ := List.exists_cons_of_ne_nil nonempty
      simp [cutAt, dropLead] at cut
  | cons c text ih =>
      simp only [cutAt] at cut
      split at cut
      · cases cut
        simpa using nonempty
      · rename_i lead
        simp only [Option.map_eq_some_iff, Prod.mk.injEq] at cut
        obtain ⟨⟨inner, outer⟩, found, rfl, rfl⟩ := cut
        rw [List.infix_cons_iff]
        rintro (begins | later)
        · have front : c :: inner <+: c :: text :=
            ⟨needle ++ outer, by simp [eq_append_of_cutAt found]⟩
          obtain ⟨rest, whole⟩ := begins.trans front
          rw [dropLead_eq_some_iff.2 whole.symm] at lead
          cases lead
        · exact ih found later

/-- What follows the last separator of a text is determined by the text. -/
theorem eq_of_append_cons_eq {sep : Char} {left right first second : List Char}
    (firstPlain : sep ∉ first) (secondPlain : sep ∉ second)
    (same : left ++ sep :: first = right ++ sep :: second) : first = second := by
  have reversed :
      first.reverse ++ sep :: left.reverse = second.reverse ++ sep :: right.reverse := by
    simpa using congrArg List.reverse same
  have pieces := congrArg (splitOn sep) reversed
  rw [splitOn_append_cons (by simpa using firstPlain),
    splitOn_append_cons (by simpa using secondPlain)] at pieces
  exact List.reverse_injective (List.cons.inj pieces).1

/-- A text is cut at a character where that stands first. -/
theorem cutAt_singleton_eq_some_iff {sep : Char} {text before after : List Char} :
    cutAt [sep] text = some (before, after) ↔ text = before ++ sep :: after ∧ sep ∉ before := by
  constructor
  · intro cut
    have split := eq_append_of_cutAt cut
    rw [List.append_assoc, List.singleton_append] at split
    refine ⟨split, fun inside => not_infix_of_cutAt (by simp) cut ?_⟩
    obtain ⟨front, back, rfl⟩ := List.append_of_mem inside
    exact ⟨front, back, by simp⟩
  · rintro ⟨rfl, first⟩
    induction before with
    | nil => simp [cutAt, dropLead]
    | cons c before ih =>
        simp only [List.mem_cons, not_or] at first
        simp [cutAt, dropLead, first.1, ih first.2]

/-- Where there is nothing to replace the text is kept. -/
theorem replaceAll_of_cutAt_none {needle value text : List Char}
    (absent : cutAt needle text = none) : replaceAll needle value text = text := by
  rw [replaceAll]
  split
  · split
    · rfl
    · rename_i cut
      rw [absent] at cut
      cases cut
  · rfl

/-- A text is kept where what is to be replaced is no part of it. -/
theorem replaceAll_of_not_infix {needle value text : List Char} (absent : ¬ needle <:+: text) :
    replaceAll needle value text = text := by
  rw [← contains_iff_infix, contains, Option.not_isSome_iff_eq_none] at absent
  exact replaceAll_of_cutAt_none absent

/-- The first occurrence gives way, and then those behind it. -/
theorem replaceAll_of_cutAt {needle value text before after : List Char} (nonempty : needle ≠ [])
    (cut : cutAt needle text = some (before, after)) :
    replaceAll needle value text = before ++ (value ++ replaceAll needle value after) := by
  rw [replaceAll, dif_pos nonempty]
  split
  · rename_i absent
    rw [absent] at cut
    cases cut
  · rename_i same
    rw [cut] at same
    cases same
    rw [List.append_assoc]

/-- A text that begins with the needle goes on behind its value. -/
theorem replaceAll_of_begins {needle value rest : List Char} (nonempty : needle ≠ []) :
    replaceAll needle value (needle ++ rest) = value ++ replaceAll needle value rest := by
  obtain ⟨d, tail, rfl⟩ := List.exists_cons_of_ne_nil nonempty
  have lead : dropLead (d :: tail) (d :: tail ++ rest) = some rest := dropLead_eq_some_iff.2 rfl
  have cut : cutAt (d :: tail) (d :: tail ++ rest) = some ([], rest) := by
    rw [List.cons_append] at lead ⊢
    rw [cutAt, lead]
  exact replaceAll_of_cutAt nonempty cut

/-- A character where no occurrence begins stays. -/
theorem replaceAll_cons {needle value text : List Char} {c : Char}
    (apart : ¬ needle <+: c :: text) :
    replaceAll needle value (c :: text) = c :: replaceAll needle value text := by
  have nonempty : needle ≠ [] := by
    rintro rfl
    exact apart List.nil_prefix
  have lead : dropLead needle (c :: text) = none := by
    rw [Option.eq_none_iff_forall_ne_some]
    intro rest begins
    exact apart ⟨rest, (dropLead_eq_some_iff.1 begins).symm⟩
  cases cut : cutAt needle text with
  | none =>
      have longer : cutAt needle (c :: text) = none := by rw [cutAt, lead, cut]; rfl
      rw [replaceAll_of_cutAt_none longer, replaceAll_of_cutAt_none cut]
  | some sides =>
      have longer : cutAt needle (c :: text) = some (c :: sides.1, sides.2) := by
        rw [cutAt, lead, cut]; rfl
      rw [replaceAll_of_cutAt nonempty longer, replaceAll_of_cutAt nonempty cut, List.cons_append]

/-- Foreign characters in front make no difference. -/
theorem infix_append_iff_of_foreign {needle left right : List Char}
    (foreign : ∀ c ∈ left, c ∉ needle) : needle <:+: left ++ right ↔ needle <:+: right := by
  induction left with
  | nil => rfl
  | cons c left ih =>
      have rest := ih fun d member => foreign d (List.mem_cons_of_mem c member)
      rw [List.cons_append, List.infix_cons_iff, rest]
      constructor
      · rintro (begins | later)
        · cases needle with
          | nil => exact List.nil_infix
          | cons d needle =>
              have same := (List.cons_prefix_cons.1 begins).1
              have absent := foreign c List.mem_cons_self
              simp [same] at absent
        · exact later
      · exact Or.inr

/-- A text without the separator occurs in joined pieces exactly when it occurs in a piece. -/
theorem infix_joinWith_iff {needle : List Char} {sep : Char} (absent : sep ∉ needle)
    (nonempty : needle ≠ []) {pieces : List (List Char)} :
    needle <:+: joinWith [sep] pieces ↔ ∃ piece ∈ pieces, needle <:+: piece := by
  induction pieces with
  | nil => simp [joinWith, nonempty]
  | cons piece rest ih =>
      cases rest with
      | nil => simp [joinWith]
      | cons next rest =>
          have head : ∀ c, (sep :: joinWith [sep] (next :: rest)).head? = some c →
              c ∉ needle := by
            rintro c same
            cases same
            exact absent
          have lone : ∀ c ∈ [sep], c ∉ needle := by
            rintro c member
            rw [List.mem_singleton.1 member]
            exact absent
          calc needle <:+: joinWith [sep] (piece :: next :: rest)
              ↔ needle <:+: piece ++ sep :: joinWith [sep] (next :: rest) := by simp [joinWith]
            _ ↔ needle <:+: piece ∨ needle <:+: [sep] ++ joinWith [sep] (next :: rest) :=
                infix_append_iff_of_head head
            _ ↔ needle <:+: piece ∨ needle <:+: joinWith [sep] (next :: rest) := by
                rw [infix_append_iff_of_foreign lone]
            _ ↔ ∃ member ∈ piece :: next :: rest, needle <:+: member := by
                simp [ih]

/-- A text in front of joined pieces stands in front of the first. -/
theorem append_joinWith_cons (lead piece sep : List Char) (rest : List (List Char)) :
    lead ++ joinWith sep (piece :: rest) = joinWith sep ((lead ++ piece) :: rest) := by
  cases rest with
  | nil => rfl
  | cons next rest => simp [joinWith]

/-- Every piece occurs in the joined text. -/
theorem infix_joinWith_of_mem {sep piece : List Char} {pieces : List (List Char)}
    (member : piece ∈ pieces) : piece <:+: joinWith sep pieces := by
  induction pieces with
  | nil => simp at member
  | cons first rest ih =>
      cases rest with
      | nil => simpa [joinWith] using List.mem_singleton.1 member ▸ List.infix_rfl
      | cons next rest =>
          rw [show joinWith sep (first :: next :: rest) =
            first ++ (sep ++ joinWith sep (next :: rest)) by simp [joinWith]]
          rcases List.mem_cons.1 member with same | later
          · rw [same]
            exact List.infix_append_left
          · exact List.infix_append_of_infix_right (List.infix_append_of_infix_right (ih later))

/-- Every line of a text occurs in the text. -/
theorem infix_of_mem_lines {line text : List Char} (member : line ∈ lines text) :
    line <:+: text := by
  have pieceOf : ∀ piece ∈ splitOn '\n' text, piece <:+: text := by
    intro piece found
    have whole : piece <:+: joinWith ['\n'] (splitOn '\n' text) := infix_joinWith_of_mem found
    rwa [joinWith_splitOn] at whole
  have ended : ∀ line ∈ (splitOn '\n' text).dropLast.map fun line =>
      if line.getLast? = some '\r' then line.dropLast else line, line <:+: text := by
    intro line found
    obtain ⟨piece, inside, rfl⟩ := List.mem_map.1 found
    have occurs := pieceOf piece (List.dropLast_subset _ inside)
    split
    · exact (List.dropLast_prefix piece).isInfix.trans occurs
    · exact occurs
  simp only [lines] at member
  split at member
  · rename_i c last final
    rcases List.mem_append.1 member with early | late
    · exact ended line early
    · rw [List.mem_singleton.1 late]
      exact pieceOf _ (List.mem_of_getLast? final)
  · exact ended line member

end Runbook.Text
