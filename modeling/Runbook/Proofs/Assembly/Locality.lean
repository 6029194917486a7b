import Runbook.Proofs.Assembly.Placeholder
import Runbook.Proofs.Except
import Runbook.Proofs.Text.Line

/-!
# Placeholders are replaced line by line

What becomes of a line hangs on that line alone, and its number shows in the error only. So of two
contents, the first of which ends with a line end, each is written by itself, and a content is
refused for the first of its lines that offends. A content without marker is written as it is
(`inlineAll_local`).
-/

namespace Runbook.Placeholder

variable {snippets : Snippets} {path : Path} {number : Nat} {line : List Char}
  {lines written : List (List Char)} {error : AssemblyError} {content : String}

/-! ### Lines that offend -/

/-- A line is refused: its first placeholder names a snippet that is not there, or its first marker
begins no placeholder. -/
inductive Offends (snippets : Snippets) (path : Path) (number : Nat) (line : List Char) :
    AssemblyError → Prop where
  | missing {before id suffix : List Char} (first : First line before id suffix)
      (unknown : snippets.get? (String.ofList id) = none) :
      Offends snippets path number line (.snippetMissing (String.ofList id) path number)
  | malformed (marked : marker <:+: line)
      (none : ∀ before id suffix, ¬ First line before id suffix) :
      Offends snippets path number line (.malformedPlaceholder path number)

/-- A line offends under every number. -/
theorem Offends.anywhere (offends : Offends snippets path number line error) (other : Nat) :
    ∃ cause, Offends snippets path other line cause := by
  cases offends with
  | missing first unknown => exact ⟨_, .missing first unknown⟩
  | malformed marked none => exact ⟨_, .malformed marked none⟩

/-- A line without a marker is kept. -/
theorem inlineLine_of_unmarked (unmarked : ¬ marker <:+: line) :
    inlineLine snippets path number line = .ok line := by
  rw [← Text.contains_iff_infix, Text.contains, Option.not_isSome_iff_eq_none] at unmarked
  rw [inlineLine, unmarked]

/-- A line fails exactly where it offends. -/
theorem inlineLine_eq_error_iff : inlineLine snippets path number line = .error error ↔
    Offends snippets path number line error := by
  constructor
  · intro refused
    rcases inlineLine_cases snippets path number line with
      ⟨_, same⟩ | ⟨_, _, _, _, _, _, same⟩ | ⟨before, id, suffix, first, unknown, same⟩ |
        ⟨none, same⟩
    · cases same.symm.trans refused
    · cases same.symm.trans refused
    · cases same.symm.trans refused
      exact .missing first unknown
    · cases same.symm.trans refused
      refine .malformed ?_ none
      by_contra unmarked
      cases (inlineLine_of_unmarked unmarked).symm.trans same
  · rintro (⟨first, unknown⟩ | ⟨marked, none⟩)
    · rcases inlineLine_cases snippets path number line with
        ⟨unmarked, _⟩ | ⟨_, _, _, _, other, known, _⟩ | ⟨_, _, _, other, _, same⟩ | ⟨none, _⟩
      · rw [Text.eq_append_of_cutAt first.cut] at unmarked
        exact absurd ⟨_, _, rfl⟩ unmarked
      · obtain ⟨-, rfl, -⟩ := first.unique other
        rw [known] at unknown
        cases unknown
      · obtain ⟨-, rfl, -⟩ := first.unique other
        exact same
      · exact absurd first (none _ _ _)
    · rcases inlineLine_cases snippets path number line with
        ⟨unmarked, _⟩ | ⟨_, _, _, _, first, _⟩ | ⟨_, _, _, first, _⟩ | ⟨_, same⟩
      · exact absurd marked unmarked
      · exact absurd first (none _ _ _)
      · exact absurd first (none _ _ _)
      · exact same

/-- The number of a line shows in its error only. -/
theorem inlineLine_add (count : Nat) : inlineLine snippets path (number + count) line =
    (inlineLine snippets path number line).mapError (AssemblyError.later count) := by
  unfold inlineLine
  split
  · rfl
  · split
    · rfl
    · simp only
      split
      · rfl
      · split <;> rfl

/-! ### Lines after lines -/

/-- Lines are written one list after the other, the second counted on from the first. -/
theorem inlineLines_append (number : Nat) (lines more : List (List Char)) :
    inlineLines snippets path number (lines ++ more) =
      inlineLines snippets path number lines >>= fun first =>
        (inlineLines snippets path (number + lines.length) more).map (first ++ ·) := by
  induction lines generalizing number with
  | nil =>
      simp only [List.nil_append, inlineLines, bind, Except.bind, List.length_nil, Nat.add_zero]
      cases inlineLines snippets path number more <;> rfl
  | cons line lines ih =>
      rw [List.cons_append, inlineLines, inlineLines, ih, List.length_cons, Nat.add_right_comm,
        Nat.add_assoc]
      cases inlineLine snippets path number line with
      | error error => rfl
      | ok here =>
          cases inlineLines snippets path (number + 1) lines with
          | error error => rfl
          | ok first =>
              simp only [bind, Except.bind, pure, Except.pure]
              cases inlineLines snippets path (number + (lines.length + 1)) more <;> rfl

/-- Where the first line has a later number, so have the errors, and nothing else changes. -/
theorem inlineLines_add (count number : Nat) (lines : List (List Char)) :
    inlineLines snippets path (number + count) lines =
      (inlineLines snippets path number lines).mapError (AssemblyError.later count) := by
  induction lines generalizing number with
  | nil => rfl
  | cons line lines ih =>
      rw [inlineLines, inlineLines, inlineLine_add, Nat.add_right_comm, ih]
      cases inlineLine snippets path number line with
      | error error => rfl
      | ok here => cases inlineLines snippets path (number + 1) lines <;> rfl

/-- Lines without markers are kept. -/
theorem inlineLines_of_unmarked (unmarked : ∀ line ∈ lines, ¬ marker <:+: line) :
    inlineLines snippets path number lines = .ok lines := by
  induction lines generalizing number with
  | nil => rfl
  | cons line lines ih =>
      obtain ⟨here, later⟩ := List.forall_mem_cons.1 unmarked
      rw [inlineLines, inlineLine_of_unmarked here, ih later]
      rfl

/-- One line is written for each. -/
theorem length_of_inlineLines (succeeded : inlineLines snippets path number lines = .ok written) :
    written.length = lines.length := by
  induction lines generalizing number written with
  | nil =>
      cases succeeded
      rfl
  | cons line lines ih =>
      rw [inlineLines] at succeeded
      obtain ⟨here, _, found⟩ := bind_eq_ok_iff.1 succeeded
      obtain ⟨others, later, same⟩ := bind_eq_ok_iff.1 found
      cases same
      rw [List.length_cons, List.length_cons, ih later]

/-- Lines are refused for the first of them that offends. -/
theorem inlineLines_eq_error_iff : inlineLines snippets path number lines = .error error ↔
    ∃ front line back, lines = front ++ line :: back ∧
      (∀ earlier ∈ front, ∀ number error, ¬ Offends snippets path number earlier error) ∧
        Offends snippets path (number + front.length) line error := by
  induction lines generalizing number with
  | nil => simp [inlineLines]
  | cons line lines ih =>
      rw [inlineLines, bind_eq_error_iff, inlineLine_eq_error_iff]
      constructor
      · rintro (offends | ⟨here, good, found⟩)
        · exact ⟨[], line, lines, rfl, by simp, offends⟩
        · rcases bind_eq_error_iff.1 found with later | ⟨_, _, same⟩
          · obtain ⟨front, other, back, rfl, earlier, offends⟩ := ih.1 later
            refine ⟨line :: front, other, back, rfl, List.forall_mem_cons.2 ⟨?_, earlier⟩, ?_⟩
            · intro elsewhere cause refused
              obtain ⟨again, bad⟩ := refused.anywhere number
              cases good.symm.trans (inlineLine_eq_error_iff.2 bad)
            · rwa [List.length_cons, Nat.add_comm front.length, ← Nat.add_assoc]
          · cases same
      · rintro ⟨front, other, back, same, earlier, offends⟩
        cases front with
        | nil =>
            cases same
            exact .inl offends
        | cons head front =>
            cases same
            obtain ⟨sound, later⟩ := List.forall_mem_cons.1 earlier
            cases here : inlineLine snippets path number line with
            | error cause => exact absurd (inlineLine_eq_error_iff.1 here) (sound number cause)
            | ok written =>
                refine .inr ⟨written, rfl, bind_eq_error_iff.2 (.inl (ih.2 ?_))⟩
                refine ⟨front, other, back, rfl, later, ?_⟩
                rwa [List.length_cons, Nat.add_comm front.length, ← Nat.add_assoc] at offends

/-! ### Contents -/

/-- A text ends with a line feed where that is its last character. -/
theorem endsWith_lineFeed_iff {text : String} :
    text.endsWith "\n" = true ↔ text.toList.getLast? = some '\n' := by
  rw [String.endsWith, String.Slice.endsWith_string_iff, String.copy_toSlice]
  exact List.singleton_suffix_iff_getLast?_eq_some

/-- A content is written line by line from line 1 and laid out as it was. -/
theorem inlineAll_eq (content : String) : inlineAll snippets path content =
    (inlineLines snippets path 1 (Text.lines content.toList)).map fun written =>
      String.ofList (Text.layOut content.toList written) := by
  simp only [inlineAll, Text.layOut, endsWith_lineFeed_iff]
  cases inlineLines snippets path 1 (Text.lines content.toList) <;> rfl

/-- The lines in front are as many as a content that ends with a line end has. -/
theorem inlineAll_append (first second : String) (ended : Text.Ended first.toList) :
    inlineAll snippets path (first ++ second) =
      match inlineAll snippets path first, inlineAll snippets path second with
      | .ok written, .ok more => .ok (written ++ more)
      | .ok _, .error error => .error (error.later (Text.lines first.toList).length)
      | .error error, _ => .error error := by
  rw [inlineAll_eq, inlineAll_eq, inlineAll_eq, String.toList_append, Text.lines_append ended,
    inlineLines_append, inlineLines_add]
  cases here : inlineLines snippets path 1 (Text.lines first.toList) with
  | error error => rfl
  | ok written =>
      cases there : inlineLines snippets path 1 (Text.lines second.toList) with
      | error error => rfl
      | ok more =>
          have emptyFirst : first.toList = [] ↔ written = [] := by
            rw [← List.length_eq_zero_iff (l := written), length_of_inlineLines here,
              List.length_eq_zero_iff, Text.lines_eq_nil_iff]
          have emptySecond : second.toList = [] ↔ more = [] := by
            rw [← List.length_eq_zero_iff (l := more), length_of_inlineLines there,
              List.length_eq_zero_iff, Text.lines_eq_nil_iff]
          simp only [bind, Except.bind, Except.map, Except.mapError,
            Text.layOut_append ended emptyFirst emptySecond, String.ofList_append]

/-- A content is refused for the first of its lines that offends, counted from one. -/
theorem inlineAll_eq_error_iff : inlineAll snippets path content = .error error ↔
    ∃ front line back, Text.lines content.toList = front ++ line :: back ∧
      (∀ earlier ∈ front, ∀ number error, ¬ Offends snippets path number earlier error) ∧
        Offends snippets path (front.length + 1) line error := by
  have refused : inlineAll snippets path content = .error error ↔
      inlineLines snippets path 1 (Text.lines content.toList) = .error error := by
    rw [inlineAll_eq]
    cases inlineLines snippets path 1 (Text.lines content.toList) <;> simp [Except.map]
  simp only [refused, inlineLines_eq_error_iff, Nat.add_comm 1]

/-- A content without marker loses the carriage returns at its line ends, and nothing else. -/
theorem inlineAll_of_unmarked (unmarked : ¬ marker <:+: content.toList) :
    inlineAll snippets path content =
      .ok (String.ofList (Text.replaceAll ['\r', '\n'] ['\n'] content.toList)) := by
  have lines : ∀ line ∈ Text.lines content.toList, ¬ marker <:+: line :=
    fun line member occurs => unmarked (occurs.trans (Text.infix_of_mem_lines member))
  rw [inlineAll_eq, inlineLines_of_unmarked lines, ← Text.layOut_lines]
  rfl

/-- Contents are written one by one, each line of them by itself. -/
theorem inlineAll_local (snippets : Snippets) (path : Path) :
    (∀ first second : String, Text.Ended first.toList →
      inlineAll snippets path (first ++ second) =
        match inlineAll snippets path first, inlineAll snippets path second with
        | .ok written, .ok more => .ok (written ++ more)
        | .ok _, .error error => .error (error.later (Text.lines first.toList).length)
        | .error error, _ => .error error) ∧
    (∀ content error, inlineAll snippets path content = .error error ↔
      ∃ front line back, Text.lines content.toList = front ++ line :: back ∧
        (∀ earlier ∈ front, ∀ number error, ¬ Offends snippets path number earlier error) ∧
          Offends snippets path (front.length + 1) line error) ∧
    ∀ content : String, ¬ marker <:+: content.toList → ∃ written,
      inlineAll snippets path content = .ok written ∧
        written.toList = Text.replaceAll ['\r', '\n'] ['\n'] content.toList ∧
        (written.endsWith "\n" = true ↔ content.endsWith "\n" = true) := by
  refine ⟨fun first second ended => inlineAll_append first second ended,
    fun content error => inlineAll_eq_error_iff, fun content unmarked => ?_⟩
  refine ⟨_, inlineAll_of_unmarked unmarked, String.toList_ofList, ?_⟩
  rw [endsWith_lineFeed_iff, endsWith_lineFeed_iff, String.toList_ofList,
    Text.getLast?_replaceAll_iff]

/-- A placeholder whose snippet is missing is reported behind one that is replaced, and a line
without marker loses its carriage return. -/
theorem inlineAll_local_sample :
    Text.Ended "run: SCRIPT_PLACEHOLDER::a.b\n".toList ∧
    inlineAll sampleSnippets ⟨"doc.yml"⟩
        ("run: SCRIPT_PLACEHOLDER::a.b\n" ++ "SCRIPT_PLACEHOLDER::a.c") =
      .error (.snippetMissing "a.c" ⟨"doc.yml"⟩ 2) ∧
    ¬ marker <:+: "run: x\r\n".toList ∧
    ∃ written, inlineAll sampleSnippets ⟨"doc.yml"⟩ "run: x\r\n" = .ok written ∧
      written.toList = "run: x\n".toList := by
  obtain ⟨append, refused, unmarked⟩ := inlineAll_local sampleSnippets ⟨"doc.yml"⟩
  have ended : Text.Ended "run: SCRIPT_PLACEHOLDER::a.b\n".toList := .inr (by decide)
  have free : ¬ marker <:+: "run: x\r\n".toList := by decide +kernel
  refine ⟨ended, ?_, free, ?_⟩
  · rw [append _ _ ended]
    rfl
  · obtain ⟨written, succeeded, same, -⟩ := unmarked _ free
    have bare : Text.replaceAll ['\r', '\n'] ['\n'] ("run: x\r".toList ++ '\n' :: []) = _ :=
      Text.replaceAll_append_cons (by decide) []
    rw [Text.replaceAll_of_plain List.not_mem_nil] at bare
    exact ⟨written, succeeded, same.trans bare⟩

end Runbook.Placeholder
