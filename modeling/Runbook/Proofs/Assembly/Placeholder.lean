import Runbook.Assembly.Placeholder
import Runbook.Proofs.Text.Occurrence

/-!
# Which placeholders are replaced

On every line the first placeholder gives way to its snippet. `marker_remains_iff` says where a
marker is left after that, when no snippet holds one: behind the first placeholder of a line, and
where the text before a placeholder runs on into the snippet so that the two spell a marker.
-/

namespace Runbook.Placeholder

/-- The marker holds no blank. -/
theorem not_mem_marker_of_isBlank {c : Char} (blank : Text.isBlank c = true) : c ∉ marker := by
  intro member
  have solid : marker.any Text.isBlank = false := by decide
  exact List.any_eq_false.1 solid c member blank

/-- The marker holds no line feed. -/
theorem lineFeed_not_mem_marker : '\n' ∉ marker := by decide

/-- The first marker of a line begins a placeholder, with an identifier that reaches to the next
blank. -/
structure First (line before id suffix : List Char) : Prop where
  cut : Text.cutAt marker line = some (before, separator ++ id ++ suffix)
  named : id ≠ []
  unbroken : ∀ c ∈ id, Text.isBlank c = false
  ended : ∀ c, suffix.head? = some c → Text.isBlank c = true

/-- The identifier and what follows are read off the line. -/
theorem First.split {line before id suffix : List Char} (first : First line before id suffix) :
    (id ++ suffix).takeWhile (fun c => !Text.isBlank c) = id ∧
      (id ++ suffix).dropWhile (fun c => !Text.isBlank c) = suffix := by
  have solid : ∀ c ∈ id, (!Text.isBlank c) = true := by
    intro c member
    simp [first.unbroken c member]
  rw [List.takeWhile_append_of_pos solid, List.dropWhile_append_of_pos solid]
  cases rest : suffix with
  | nil => simp
  | cons c more =>
      have blank := first.ended c (by simp [rest])
      simp [blank]

/-- A line has one first placeholder at most. -/
theorem First.unique {line before id suffix before' id' suffix' : List Char}
    (one : First line before id suffix) (other : First line before' id' suffix') :
    before = before' ∧ id = id' ∧ suffix = suffix' := by
  have same := one.cut.symm.trans other.cut
  simp only [Option.some.injEq, Prod.mk.injEq, List.append_assoc, List.append_cancel_left_eq]
    at same
  obtain ⟨fronts, rests⟩ := same
  obtain ⟨ids, suffixes⟩ := one.split
  rw [rests] at ids suffixes
  exact ⟨fronts, ids.symm.trans other.split.1, suffixes.symm.trans other.split.2⟩

/-- What becomes of a line is decided by its first marker. -/
theorem inlineLine_cases (snippets : Snippets) (path : Path) (number : Nat) (line : List Char) :
    (¬ marker <:+: line ∧ inlineLine snippets path number line = .ok line) ∨
    (∃ before id suffix snippet, First line before id suffix ∧
      snippets.get? (String.ofList id) = some snippet ∧
      inlineLine snippets path number line = .ok (before ++ indented snippet ++ suffix)) ∨
    (∃ before id suffix, First line before id suffix ∧
      snippets.get? (String.ofList id) = none ∧
      inlineLine snippets path number line =
        .error (.snippetMissing (String.ofList id) path number)) ∨
    ((∀ before id suffix, ¬ First line before id suffix) ∧
      inlineLine snippets path number line = .error (.malformedPlaceholder path number)) := by
  cases cut : Text.cutAt marker line with
  | none =>
      refine Or.inl ⟨?_, by simp [inlineLine, cut]⟩
      rw [← Text.contains_iff_infix]
      simp [Text.contains, cut]
  | some sides =>
      obtain ⟨before, after⟩ := sides
      cases lead : Text.dropLead separator after with
      | none =>
          refine Or.inr (Or.inr (Or.inr ⟨?_, by simp [inlineLine, cut, lead]⟩))
          intro other id suffix first
          have same := cut.symm.trans first.cut
          simp only [Option.some.injEq, Prod.mk.injEq] at same
          have begins := Text.dropLead_eq_some_iff.2 (same.2.trans (List.append_assoc _ _ _))
          simp [begins] at lead
      | some rest =>
          have whole := Text.dropLead_eq_some_iff.1 lead
          have joined := List.takeWhile_append_dropWhile (p := fun c => !Text.isBlank c) (l := rest)
          by_cases empty : rest.takeWhile (fun c => !Text.isBlank c) = []
          · refine Or.inr (Or.inr (Or.inr ⟨?_, by simp [inlineLine, cut, lead, empty]⟩))
            intro other id suffix first
            have same := cut.symm.trans first.cut
            simp only [Option.some.injEq, Prod.mk.injEq, whole, List.append_assoc,
              List.append_cancel_left_eq] at same
            rw [same.2] at empty
            exact first.named (first.split.1.symm.trans empty)
          · have first : First line before (rest.takeWhile fun c => !Text.isBlank c)
                (rest.dropWhile fun c => !Text.isBlank c) := by
              refine ⟨?_, empty, ?_, ?_⟩
              · rw [cut, List.append_assoc, joined, whole]
              · intro c member
                simpa using List.all_eq_true.1 List.all_takeWhile c member
              · intro c here
                have stopped := List.head?_dropWhile_not (fun c => !Text.isBlank c) rest
                simpa [here] using stopped
            cases known : snippets.get?
                (String.ofList (rest.takeWhile fun c => !Text.isBlank c)) with
            | none =>
                exact Or.inr (Or.inr (Or.inl ⟨_, _, _, first, known,
                  by simp [inlineLine, cut, lead, empty, known]⟩))
            | some snippet =>
                exact Or.inr (Or.inl ⟨_, _, _, snippet, first, known,
                  by simp [inlineLine, cut, lead, empty, known]⟩)

/-- The line of a snippet that takes a placeholder's place. -/
def firstLine (snippet : String) : List Char := (Text.lines snippet.toList).headD []

/-- A marker is left on a line: behind its first placeholder, or where the text before that runs
on into the snippet. -/
def Remains (snippets : Snippets) (line : List Char) : Prop :=
  ∃ before id suffix snippet, First line before id suffix ∧
    snippets.get? (String.ofList id) = some snippet ∧
    (marker <:+: suffix ∨ marker <:+: before ++ firstLine snippet)

/-- No snippet holds a marker. -/
def Clean (snippets : Snippets) : Prop :=
  ∀ id snippet, snippets.get? id = some snippet → ¬ marker <:+: snippet.toList

/-- A snippet without marker can give one to a line by its first line only. -/
theorem infix_append_indented_iff {before : List Char} {snippet : String}
    (clean : ¬ marker <:+: snippet.toList) :
    marker <:+: before ++ indented snippet ↔ marker <:+: before ++ firstLine snippet := by
  cases parts : Text.lines snippet.toList with
  | nil => simp [indented, firstLine, parts]
  | cons first rest =>
      have later : ∀ line ∈ rest.map (indent ++ ·), ¬ marker <:+: line := by
        intro line member occurs
        obtain ⟨bare, inside, rfl⟩ := List.mem_map.1 member
        have pad : ∀ c ∈ indent, c ∉ marker := by
          intro c padding
          rw [List.eq_of_mem_replicate padding]
          decide
        have shorter := (Text.infix_append_iff_of_foreign pad).1 occurs
        have found : bare ∈ Text.lines snippet.toList := by simp [parts, inside]
        exact clean (shorter.trans (Text.infix_of_mem_lines found))
      simp only [indented, firstLine, parts, List.headD_cons]
      rw [Text.append_joinWith_cons, Text.infix_joinWith_iff lineFeed_not_mem_marker (by decide)]
      constructor
      · rintro ⟨line, member, occurs⟩
        rcases List.mem_cons.1 member with same | inside
        · exact same ▸ occurs
        · exact absurd occurs (later line inside)
      · intro occurs
        exact ⟨_, List.mem_cons_self, occurs⟩

/-- A replaced placeholder leaves a marker exactly where `Remains` says so. -/
theorem First.infix_iff {snippets : Snippets} (clean : Clean snippets)
    {line before id suffix : List Char} {snippet : String} (first : First line before id suffix)
    (known : snippets.get? (String.ofList id) = some snippet) :
    marker <:+: before ++ indented snippet ++ suffix ↔ Remains snippets line := by
  have blank : ∀ c, suffix.head? = some c → c ∉ marker :=
    fun c here => not_mem_marker_of_isBlank (first.ended c here)
  rw [Text.infix_append_iff_of_head blank, infix_append_indented_iff (clean _ _ known), or_comm]
  constructor
  · intro occurs
    exact ⟨before, id, suffix, snippet, first, known, occurs⟩
  · rintro ⟨before', id', suffix', snippet', first', known', occurs⟩
    obtain ⟨rfl, rfl, rfl⟩ := first.unique first'
    cases known.symm.trans known'
    exact occurs

/-- Lines without marker have nothing to leave. -/
theorem not_remains_of_unmarked {snippets : Snippets} {line : List Char}
    (unmarked : ¬ marker <:+: line) : ¬ Remains snippets line := by
  rintro ⟨before, id, suffix, snippet, first, -⟩
  rw [Text.eq_append_of_cutAt first.cut] at unmarked
  exact unmarked ⟨before, separator ++ id ++ suffix, rfl⟩

/-- A line of the file at a path names a snippet that is not there, or none. -/
def Refused (path : Path) (error : AssemblyError) : Prop :=
  (∃ id number, error = .snippetMissing id path number) ∨
    ∃ number, error = .malformedPlaceholder path number

/-- A line is refused, or written with a marker exactly where `Remains` says so. -/
theorem inlineLine_spec {snippets : Snippets} (clean : Clean snippets) (path : Path) (number : Nat)
    (line : List Char) :
    match inlineLine snippets path number line with
    | .ok written => marker <:+: written ↔ Remains snippets line
    | .error error => Refused path error := by
  rcases inlineLine_cases snippets path number line with
    ⟨unmarked, same⟩ | ⟨before, id, suffix, snippet, first, known, same⟩ |
      ⟨before, id, suffix, _, _, same⟩ | ⟨_, same⟩
  · rw [same]
    exact iff_of_false unmarked (not_remains_of_unmarked unmarked)
  · rw [same]
    exact first.infix_iff clean known
  · rw [same]
    exact Or.inl ⟨_, _, rfl⟩
  · rw [same]
    exact Or.inr ⟨_, rfl⟩

/-- Lines are refused for one of them, or written with a marker exactly where one of them leaves
it. -/
theorem inlineLines_spec {snippets : Snippets} (clean : Clean snippets) (path : Path)
    (lines : List (List Char)) (number : Nat) :
    match inlineLines snippets path number lines with
    | .ok written =>
        (∃ line ∈ written, marker <:+: line) ↔ ∃ line ∈ lines, Remains snippets line
    | .error error => Refused path error := by
  induction lines generalizing number with
  | nil => simp [inlineLines]
  | cons line rest ih =>
      have here := inlineLine_spec clean path number line
      have later := ih (number + 1)
      cases this : inlineLine snippets path number line with
      | error error =>
          rw [this] at here
          simpa [inlineLines, this, bind, Except.bind] using here
      | ok written =>
          rw [this] at here
          cases others : inlineLines snippets path (number + 1) rest with
          | error error =>
              rw [others] at later
              simpa [inlineLines, this, others, bind, Except.bind] using later
          | ok more =>
              rw [others] at later
              simp only [inlineLines, this, others, bind, Except.bind, pure, Except.pure,
                List.mem_cons, exists_eq_or_imp]
              exact or_congr here later

/-- Where no snippet holds a marker, a content is refused, or written with a marker exactly where
one of its lines leaves it. -/
theorem marker_remains_iff {snippets : Snippets} (clean : Clean snippets) (path : Path)
    (content : String) :
    match inlineAll snippets path content with
    | .ok out =>
        marker <:+: out.toList ↔ ∃ line ∈ Text.lines content.toList, Remains snippets line
    | .error error => Refused path error := by
  have spec := inlineLines_spec clean path (Text.lines content.toList) 1
  cases written : inlineLines snippets path 1 (Text.lines content.toList) with
  | error error =>
      rw [written] at spec
      simpa [inlineAll, written, bind, Except.bind] using spec
  | ok lines =>
      rw [written] at spec
      have occurs : marker <:+: Text.joinWith ['\n'] lines ↔ ∃ line ∈ lines, marker <:+: line :=
        Text.infix_joinWith_iff lineFeed_not_mem_marker (by decide)
      have ended : marker <:+: Text.joinWith ['\n'] lines ++ ['\n'] ↔
          marker <:+: Text.joinWith ['\n'] lines := by
        rw [Text.infix_append_iff_of_head (by rintro c ⟨⟩; exact lineFeed_not_mem_marker)]
        exact or_iff_left (by decide)
      simp only [inlineAll, written, bind, Except.bind, pure, Except.pure, String.toList_ofList]
      split
      · rw [ended, occurs]
        exact spec
      · rw [occurs]
        exact spec

/-- A content that does not end with a line feed is its written lines. -/
theorem inlineAll_of_unended {snippets : Snippets} {path : Path} {content : String}
    {written : List (List Char)}
    (lines : inlineLines snippets path 1 (Text.lines content.toList) = .ok written)
    (unended : content.endsWith "\n" = false) :
    inlineAll snippets path content = .ok (String.ofList (Text.joinWith ['\n'] written)) := by
  unfold inlineAll
  rw [lines, unended]
  rfl

/-- One snippet, a single line without marker. -/
def sampleSnippets : Snippets := Snippets.empty.insert "a.b" "x"

/-- The snippets of the sample hold no marker. -/
theorem clean_sampleSnippets : Clean sampleSnippets := by
  intro id snippet known
  simp only [sampleSnippets, Snippets.get?, Snippets.insert, Snippets.empty, Table.get?_insert,
    Table.get?_empty] at known
  split at known
  · cases known
    decide
  · simp at known

/-- One marker on a line is replaced. -/
theorem inlineAll_single :
    inlineAll sampleSnippets ⟨"doc.yml"⟩ "run: SCRIPT_PLACEHOLDER::a.b" = .ok "run: x" := by
  have lines : inlineLines sampleSnippets ⟨"doc.yml"⟩ 1
      (Text.lines "run: SCRIPT_PLACEHOLDER::a.b".toList) = .ok ["run: x".toList] := rfl
  exact inlineAll_of_unended lines (by decide +kernel)

/-- A line with one placeholder leaves no marker. -/
theorem marker_remains_nowhere_on_single :
    Clean sampleSnippets ∧
      ∀ line ∈ Text.lines "run: SCRIPT_PLACEHOLDER::a.b".toList, ¬ Remains sampleSnippets line := by
  refine ⟨clean_sampleSnippets, ?_⟩
  have spec := marker_remains_iff clean_sampleSnippets ⟨"doc.yml"⟩ "run: SCRIPT_PLACEHOLDER::a.b"
  rw [inlineAll_single] at spec
  have unmarked : ¬ marker <:+: "run: x".toList := by decide
  intro line member remains
  exact unmarked (spec.2 ⟨line, member, remains⟩)

/-- A second placeholder of a line is left as it is, though no snippet holds a marker. -/
theorem marker_remains_behind_first :
    Clean sampleSnippets ∧
      ∃ out, inlineAll sampleSnippets ⟨"doc.yml"⟩
          "SCRIPT_PLACEHOLDER::a.b SCRIPT_PLACEHOLDER::a.b" = .ok out ∧
        marker <:+: out.toList := by
  have lines : inlineLines sampleSnippets ⟨"doc.yml"⟩ 1
      (Text.lines "SCRIPT_PLACEHOLDER::a.b SCRIPT_PLACEHOLDER::a.b".toList) =
        .ok ["x SCRIPT_PLACEHOLDER::a.b".toList] := rfl
  exact ⟨clean_sampleSnippets, _, inlineAll_of_unended lines (by decide +kernel),
    by decide +kernel⟩

end Runbook.Placeholder
