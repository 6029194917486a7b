import Mathlib.Data.List.Basic
import Runbook.Proofs.Text.Occurrence

/-!
# Lines of a text

A text is read line by line from the front, so what stands before a line end has no influence on
what follows (`lines_append`). Lines are laid out with line feeds between them, and one at the end
where the text that they come from has one: then texts that end with a line end are laid out one
after the other (`layOut_append`), and a text is its own lines but for the carriage returns at
their ends (`layOut_lines`).
-/

namespace Runbook.Text

variable {line rest front back text : List Char} {written more : List (List Char)}

/-- No line of the text is left open. -/
def Ended (text : List Char) : Prop := text = [] ∨ text.getLast? = some '\n'

/-- A line without the carriage return that belongs to its end. -/
def withoutReturn (line : List Char) : List Char :=
  if line.getLast? = some '\r' then line.dropLast else line

/-- A text is a line that is left open, or a line with its end before a shorter text. -/
theorem induction_on_lines {p : List Char → Prop} (text : List Char)
    (last : ∀ line, '\n' ∉ line → p line)
    (cons : ∀ line rest, '\n' ∉ line → p rest → p (line ++ '\n' :: rest)) : p text := by
  by_cases feed : '\n' ∈ text
  · obtain ⟨line, rest, rfl, plain⟩ := List.eq_append_cons_of_mem feed
    exact cons line rest plain (induction_on_lines rest last cons)
  · exact last text feed
termination_by text.length
decreasing_by
  subst_vars
  simp only [List.length_append, List.length_cons]
  omega

/-- A text without line feeds is one line. -/
theorem lines_of_plain (plain : '\n' ∉ line) (nonempty : line ≠ []) : lines line = [line] := by
  obtain ⟨c, tail, rfl⟩ := List.exists_cons_of_ne_nil nonempty
  simp [lines, splitOn_eq_singleton plain]

/-- The first line is what stands before the first line feed, without a carriage return at its
end. -/
theorem lines_append_cons (plain : '\n' ∉ line) (rest : List Char) :
    lines (line ++ '\n' :: rest) = withoutReturn line :: lines rest := by
  obtain ⟨piece, pieces, split⟩ := List.exists_cons_of_ne_nil (splitOn_ne_nil '\n' rest)
  simp only [lines, splitOn_append_cons plain, split, List.dropLast_cons_cons, List.map_cons,
    List.getLast?_cons_cons]
  split <;> rfl

/-- Only the empty text has no lines. -/
theorem lines_eq_nil_iff : lines text = [] ↔ text = [] := by
  induction text using induction_on_lines with
  | last line plain =>
      by_cases empty : line = []
      · simp [empty, lines, splitOn]
      · simp [lines_of_plain plain empty, empty]
  | cons line rest plain _ => simp [lines_append_cons plain]

/-- Whether a text is ended depends on what stands behind its first line. -/
theorem ended_append_cons_iff : Ended (line ++ '\n' :: rest) ↔ Ended rest := by
  cases rest with
  | nil => simp [Ended]
  | cons c rest => simp [Ended, List.getLast?_append, List.getLast?_cons_cons]

/-- What follows a line end is read by itself. -/
theorem lines_append (ended : Ended front) (back : List Char) :
    lines (front ++ back) = lines front ++ lines back := by
  induction front using induction_on_lines with
  | last line plain =>
      rcases ended with rfl | feed
      · rfl
      · exact absurd (List.mem_of_getLast? feed) plain
  | cons line rest plain ih =>
      rw [List.append_assoc, List.cons_append, lines_append_cons plain, lines_append_cons plain,
        ih (ended_append_cons_iff.1 ended), List.cons_append]

/-! ### Laying out -/

/-- Lines with line feeds between them, and one at the end where `text` ends with one. -/
def layOut (text : List Char) (written : List (List Char)) : List Char :=
  if text.getLast? = some '\n' then joinWith ['\n'] written ++ ['\n']
  else joinWith ['\n'] written

/-- Joined and with a last line feed, every line is ended. -/
theorem joinWith_append_singleton (nonempty : written ≠ []) :
    joinWith ['\n'] written ++ ['\n'] = written.flatMap (· ++ ['\n']) := by
  induction written with
  | nil => exact absurd rfl nonempty
  | cons line others ih =>
      cases others with
      | nil => simp [joinWith]
      | cons next others => simp [joinWith, ← ih (List.cons_ne_nil next others)]

/-- Joined to further lines, every line is ended. -/
theorem joinWith_append (written : List (List Char)) (nonempty : more ≠ []) :
    joinWith ['\n'] (written ++ more) = written.flatMap (· ++ ['\n']) ++ joinWith ['\n'] more := by
  induction written with
  | nil => rfl
  | cons line others ih =>
      obtain ⟨next, later, same⟩ := List.exists_cons_of_ne_nil
        (List.append_ne_nil_of_right_ne_nil others nonempty)
      rw [List.cons_append, same, joinWith, ← same, ih, List.flatMap_cons, List.append_assoc]
      · simp
      · simp

/-- Lines of an ended text stand before those of the text behind it. -/
theorem layOut_append (ended : Ended front) (none : front = [] ↔ written = [])
    (noMore : back = [] ↔ more = []) :
    layOut (front ++ back) (written ++ more) = layOut front written ++ layOut back more := by
  rcases ended with rfl | feed
  · obtain rfl := none.1 rfl
    rfl
  · have some : written ≠ [] := fun empty => by simp [none.2 empty] at feed
    by_cases empty : back = []
    · obtain rfl := noMore.1 empty
      obtain rfl := empty
      simp [layOut, joinWith]
    · have last : (front ++ back).getLast? = back.getLast? := by
        rw [List.getLast?_append_of_ne_nil _ empty]
      rw [layOut, layOut, layOut, last, if_pos feed, joinWith_append_singleton some,
        joinWith_append written (mt noMore.2 empty)]
      split
      · rw [List.append_assoc]
      · rfl

/-- A first character is kept, unless it is a carriage return alone. -/
theorem withoutReturn_cons {c : Char} (more : c = '\r' → line ≠ []) :
    withoutReturn (c :: line) = c :: withoutReturn line := by
  cases line with
  | nil =>
      have other : c ≠ '\r' := fun same => more same rfl
      simp [withoutReturn, other]
  | cons d line =>
      simp only [withoutReturn, List.getLast?_cons_cons, List.dropLast_cons_cons]
      split <;> rfl

/-- The first line end of a text loses its carriage return. -/
theorem replaceAll_append_cons (plain : '\n' ∉ line) (rest : List Char) :
    replaceAll ['\r', '\n'] ['\n'] (line ++ '\n' :: rest) =
      withoutReturn line ++ '\n' :: replaceAll ['\r', '\n'] ['\n'] rest := by
  induction line with
  | nil => exact replaceAll_cons (by simp)
  | cons c line ih =>
      have fewer : '\n' ∉ line := fun inside => plain (List.mem_cons_of_mem c inside)
      by_cases lone : c = '\r' ∧ line = []
      · obtain ⟨rfl, rfl⟩ := lone
        exact replaceAll_of_begins (by simp)
      · have apart : ¬ ['\r', '\n'] <+: c :: (line ++ '\n' :: rest) := by
          intro begins
          obtain ⟨rfl, next⟩ := List.cons_prefix_cons.1 begins
          cases line with
          | nil => exact lone ⟨rfl, rfl⟩
          | cons d line => exact fewer ((List.cons_prefix_cons.1 next).1 ▸ List.mem_cons_self)
        rw [List.cons_append, replaceAll_cons apart, ih fewer,
          withoutReturn_cons fun same empty => lone ⟨same, empty⟩]
        rfl

/-- A line without line feeds has none to replace. -/
theorem replaceAll_of_plain (plain : '\n' ∉ line) :
    replaceAll ['\r', '\n'] ['\n'] line = line :=
  replaceAll_of_not_infix fun occurs => plain (occurs.subset (by simp))

/-- Without the carriage returns a text ends with a line end as before. -/
theorem getLast?_replaceAll_iff : (replaceAll ['\r', '\n'] ['\n'] text).getLast? = some '\n' ↔
    text.getLast? = some '\n' := by
  have empty : replaceAll ['\r', '\n'] ['\n'] text = [] ↔ text = [] := by
    induction text using induction_on_lines with
    | last line plain => rw [replaceAll_of_plain plain]
    | cons line rest plain _ => simp [replaceAll_append_cons plain]
  have ended : Ended (replaceAll ['\r', '\n'] ['\n'] text) ↔ Ended text := by
    clear empty
    induction text using induction_on_lines with
    | last line plain => rw [replaceAll_of_plain plain]
    | cons line rest plain ih =>
        rw [replaceAll_append_cons plain, ended_append_cons_iff, ended_append_cons_iff, ih]
  by_cases none : text = []
  · rw [empty.2 none, none]
  · simpa [Ended, empty, none] using ended

/-- A text is its lines, but for the carriage returns at the line ends. -/
theorem layOut_lines (text : List Char) :
    layOut text (lines text) = replaceAll ['\r', '\n'] ['\n'] text := by
  induction text using induction_on_lines with
  | last line plain =>
      have unended : line.getLast? ≠ some '\n' := fun feed => plain (List.mem_of_getLast? feed)
      rw [replaceAll_of_plain plain, layOut, if_neg unended]
      by_cases empty : line = []
      · rw [empty, lines_eq_nil_iff.2 rfl]
        rfl
      · rw [lines_of_plain plain empty]
        rfl
  | cons line rest plain ih =>
      have first : layOut (line ++ ['\n']) [withoutReturn line] = withoutReturn line ++ ['\n'] := by
        simp [layOut, joinWith]
      have ended : Ended (line ++ ['\n']) := .inr (by simp)
      have apart : layOut (line ++ ['\n'] ++ rest) ([withoutReturn line] ++ lines rest) =
          layOut (line ++ ['\n']) [withoutReturn line] ++ layOut rest (lines rest) :=
        layOut_append ended (by simp) lines_eq_nil_iff.symm
      rw [lines_append_cons plain, replaceAll_append_cons plain, ← ih]
      simpa [first] using apart

end Runbook.Text
