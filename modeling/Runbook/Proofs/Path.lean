import Mathlib.Data.List.Basic
import Mathlib.Data.List.TakeWhile
import Runbook.Path

/-!
# Components of paths

A path without its last component has the other components of the path (`components_of_parent?`),
however many slashes and dots it is written with. Components are read piece by piece, so that what
stands behind a slash adds its components to those in front (`named_append`).
-/

namespace Runbook.Path

variable {leading : Bool} {front rest text : List Char} {piece : List Char}
  {pieces more : List (List Char)}

/-! ### Components of pieces -/

/-- The components of the first piece stand before those of the others. -/
theorem componentsOf_cons (piece : List Char) (pieces : List (List Char)) :
    componentsOf leading (piece :: pieces) =
      componentsOf leading [piece] ++ componentsOf false pieces := by
  simp only [componentsOf]
  split
  · rfl
  · split
    · split <;> rfl
    · split <;> rfl

/-- Components are read piece by piece. -/
theorem componentsOf_append : componentsOf false (pieces ++ more) =
    componentsOf false pieces ++ componentsOf false more := by
  induction pieces with
  | nil => rfl
  | cons piece pieces ih =>
      rw [List.cons_append, componentsOf_cons, ih, componentsOf_cons piece pieces,
        List.append_assoc]

/-- One piece has one component, or none where it is empty or a dot that does not count. -/
theorem length_componentsOf_singleton : (componentsOf leading [piece]).length ≤ 1 := by
  simp only [componentsOf]
  split
  · simp
  · split
    · split <;> simp
    · split <;> simp

/-- A piece that is neither empty nor a single dot is one component. -/
theorem componentsOf_solid (filled : piece ≠ []) (solid : piece ≠ ['.']) :
    ∃ component, componentsOf false [piece] = [component] := by
  simp only [componentsOf, List.isEmpty_iff, filled, solid, ↓reduceIte]
  split
  · exact ⟨_, rfl⟩
  · exact ⟨_, rfl⟩

/-- No component is empty. -/
theorem filled_of_mem_componentsOf {component : Component}
    (member : component ∈ componentsOf leading pieces) : component.text ≠ "" := by
  induction pieces generalizing leading with
  | nil => cases member
  | cons piece pieces ih =>
      rw [componentsOf_cons] at member
      rcases List.mem_append.1 member with here | later
      · have filled : piece ≠ [] → String.ofList piece ≠ "" := by simp
        simp only [componentsOf, List.isEmpty_iff] at here
        grind [Component.text]
      · exact ih later

/-- No component of a path is empty. -/
theorem filled_of_mem_components {path : Path} {component : Component}
    (member : component ∈ path.components) : component.text ≠ "" := by
  unfold components at member
  split at member
  · rcases List.mem_cons.1 member with rfl | later
    · decide
    · exact filled_of_mem_componentsOf later
  · exact filled_of_mem_componentsOf member

/-! ### Paths below others -/

/-- What is left without the lead is what stands behind it. -/
theorem dropComponents_eq_some_iff {lead components rest : List Component} :
    dropComponents lead components = some rest ↔ components = lead ++ rest := by
  fun_induction dropComponents lead components with
  | case1 components => simp
  | case2 head lead => simp
  | case3 lead head components ih => simp [ih]
  | case4 head lead other components differs => simp [Ne.symm differs]

/-- A path is below a root exactly where its components continue those of the root. -/
theorem relativeTo?_eq_some_iff {path root : Path} {below : List Component} :
    path.relativeTo? root = some below ↔ path.components = root.components ++ below :=
  dropComponents_eq_some_iff

/-! ### Components of texts -/

/-- The components that a text names. -/
def named (text : List Char) : List Component := components ⟨String.ofList text⟩

/-- The components of a path are those named by its text. -/
theorem components_eq (path : Path) : path.components = named path.text.toList := by
  rw [named, String.ofList_toList]

/-- A path that begins with a slash has the root and what follows. -/
theorem named_absolute (rest : List Char) :
    named ('/' :: rest) = .root :: componentsOf false (Text.splitOn '/' rest) := by
  simp only [named, components, String.toList_ofList]

/-- Any other path has the components of its pieces, in front of which a dot counts. -/
theorem named_relative (relative : text.head? ≠ some '/') :
    named text = componentsOf true (Text.splitOn '/' text) := by
  simp only [named, components, String.toList_ofList]
  split
  · simp at relative
  · rfl

/-- What stands behind a slash adds its components to those in front. -/
theorem named_append (filled : front ≠ []) (rest : List Char) :
    named (front ++ '/' :: rest) =
      named front ++ componentsOf false (Text.splitOn '/' rest) := by
  obtain ⟨c, front, rfl⟩ := List.exists_cons_of_ne_nil filled
  by_cases absolute : c = '/'
  · rw [absolute, List.cons_append, named_absolute, named_absolute, Text.splitOn_append_sep,
      componentsOf_append, List.cons_append]
  · have relative (back : List Char) : (c :: front ++ back).head? ≠ some '/' := by
      simpa using absolute
    have whole : (c :: front).head? ≠ some '/' := by simpa using absolute
    rw [named_relative (relative _), named_relative whole, Text.splitOn_append_sep]
    obtain ⟨piece, pieces, split⟩ :=
      List.exists_cons_of_ne_nil (Text.splitOn_ne_nil '/' (c :: front))
    rw [split, List.cons_append, componentsOf_cons, componentsOf_append,
      componentsOf_cons piece pieces, List.append_assoc]

/-- Nothing names nothing. -/
theorem componentsOf_splitOn_nil : componentsOf false (Text.splitOn '/' []) = [] := by
  simp [Text.splitOn, componentsOf]

/-- A dot that is not in front names nothing. -/
theorem componentsOf_splitOn_dot : componentsOf false (Text.splitOn '/' ['.']) = [] := by
  simp [Text.splitOn, componentsOf]

/-- A slash at the end does not count. -/
theorem named_slash (filled : front ≠ []) : named (front ++ ['/']) = named front := by
  rw [named_append filled, componentsOf_splitOn_nil, List.append_nil]

/-- The last piece of a text adds its component to those that the text in front of it names. -/
theorem named_append_piece (front rest : List Char) :
    named (front ++ '/' :: rest) =
      named (front ++ ['/']) ++ componentsOf false (Text.splitOn '/' rest) := by
  cases front with
  | nil =>
      rw [List.nil_append, List.nil_append, named_absolute, named_absolute,
        componentsOf_splitOn_nil]
      rfl
  | cons c front => rw [named_append (by simp), named_slash (by simp)]

/-- The empty path has no components. -/
theorem named_nil : named [] = [] := by
  rw [named_relative (by simp)]
  rfl

/-- Only the empty path has no components. -/
theorem components_eq_nil_iff {path : Path} : path.components = [] ↔ path.text = "" := by
  rw [components_eq, ← String.toList_eq_nil_iff]
  refine ⟨fun none => ?_, fun empty => by rw [empty, named_nil]⟩
  by_contra filled
  obtain ⟨c, rest, text⟩ := List.exists_cons_of_ne_nil filled
  rw [text] at none
  by_cases absolute : c = '/'
  · rw [absolute, named_absolute] at none
    cases none
  · -- The first piece is not empty, so it has a component.
    rw [named_relative (by simpa using absolute), Text.splitOn, if_neg absolute] at none
    split at none <;> simp only [componentsOf, List.isEmpty_cons] at none <;> grind

/-! ### Steps -/

/-- A text that is one step of a path wherever it stands. -/
structure IsStep (text : String) : Prop where
  filled : text ≠ ""
  solid : text ≠ "."
  whole : '/' ∉ text.toList

/-- The component of a step. -/
def step (text : String) : Component := if text = ".." then .up else .name text

/-- A step has its text. -/
theorem text_step (text : String) : (step text).text = text := by
  rw [step]
  split
  · exact Eq.symm ‹_›
  · rfl

/-- A text that is a step is one component. -/
theorem componentsOf_step {text : String} (isStep : IsStep text) :
    componentsOf leading [text.toList] = [step text] := by
  have filled : text.toList ≠ [] := mt String.toList_eq_nil_iff.1 isStep.filled
  have solid : text.toList ≠ ['.'] := fun dot => isStep.solid (String.toList_inj.1 dot)
  have dots : text.toList = ['.', '.'] ↔ text = ".." := by
    rw [← String.toList_inj]
    rfl
  simp only [componentsOf, List.isEmpty_iff, filled, solid, dots, ↓reduceIte, step,
    String.ofList_toList]
  split <;> rfl

/-- A step does not begin with a slash. -/
theorem IsStep.relative {text : String} (isStep : IsStep text) : text.toList.head? ≠ some '/' :=
  fun begins => isStep.whole (List.mem_of_head? begins)

/-- A path begins with a slash where that is its first character. -/
theorem startsWith_slash_iff {text : String} :
    text.startsWith "/" = true ↔ text.toList.head? = some '/' := by
  rw [String.startsWith_string_iff]
  exact List.singleton_prefix_iff_head?_eq_some

/-- A path ends with a slash where that is its last character. -/
theorem endsWith_slash_iff {text : String} :
    text.endsWith "/" = true ↔ text.toList.getLast? = some '/' := by
  rw [String.endsWith, String.Slice.endsWith_string_iff, String.copy_toSlice]
  exact List.singleton_suffix_iff_getLast?_eq_some

/-- A step is written behind a path, with a slash between them unless the path is empty or ends in
one. -/
theorem toList_join {child : String} (isStep : IsStep child) (base : Path) :
    (base.join child).text.toList =
      (if base.text = "" ∨ base.text.toList.getLast? = some '/' then base.text.toList
        else base.text.toList ++ ['/']) ++ child.toList := by
  have relative : ¬ child.startsWith "/" = true := mt startsWith_slash_iff.1 isStep.relative
  rw [join, if_neg relative]
  simp only [Bool.or_eq_true, endsWith_slash_iff, String.isEmpty_iff]
  split
  · rw [String.toList_append]
  · rw [String.toList_append, String.toList_append]
    rfl

/-- A path with a step behind it is at least as long as both. -/
theorem utf8ByteSize_add_le_join {child : String} (isStep : IsStep child) (base : Path) :
    base.text.utf8ByteSize + child.utf8ByteSize ≤ (base.join child).text.utf8ByteSize := by
  rw [join, if_neg (mt startsWith_slash_iff.1 isStep.relative)]
  split
  · rw [String.utf8ByteSize_append]
  · rw [String.utf8ByteSize_append, String.utf8ByteSize_append]
    exact Nat.add_le_add_right (Nat.le_add_right _ _) _

/-- A step behind a path is its last component. -/
theorem components_join {child : String} (isStep : IsStep child) (base : Path) :
    (base.join child).components = base.components ++ [step child] := by
  have single := Text.splitOn_eq_singleton isStep.whole
  rw [components_eq, toList_join isStep, components_eq base]
  by_cases empty : base.text = ""
  · rw [if_pos (.inl empty), empty, String.toList_empty, List.nil_append, named_nil,
      named_relative isStep.relative, single, componentsOf_step isStep, List.nil_append]
  · have filled : base.text.toList ≠ [] := mt String.toList_eq_nil_iff.1 empty
    split
    · rename_i slash
      obtain ⟨front, whole⟩ := List.getLast?_eq_some_iff.1 (slash.resolve_left empty)
      rw [whole, List.append_assoc, List.singleton_append, named_append_piece, single,
        componentsOf_step isStep]
    · rw [List.append_assoc, List.singleton_append, named_append filled, single,
        componentsOf_step isStep]

/-- Steps behind a path are its last components. -/
theorem components_foldl_join {names : List String} (steps : ∀ name ∈ names, IsStep name)
    (base : Path) : (names.foldl join base).components = base.components ++ names.map step := by
  induction names generalizing base with
  | nil => simp
  | cons name names ih =>
      obtain ⟨here, later⟩ := List.forall_mem_cons.1 steps
      rw [List.foldl_cons, ih later, components_join here, List.append_assoc, List.map_cons,
        List.singleton_append]

/-- What pieces without a slash name are steps, apart from a dot in front. -/
theorem isStep_of_mem_componentsOf {component : Component}
    (whole : ∀ piece ∈ pieces, '/' ∉ piece) (member : component ∈ componentsOf leading pieces) :
    IsStep component.text ∨ leading = true ∧ component = .here := by
  induction pieces generalizing leading with
  | nil => cases member
  | cons piece pieces ih =>
      obtain ⟨here, later⟩ := List.forall_mem_cons.1 whole
      rw [componentsOf_cons] at member
      rcases List.mem_append.1 member with first | rest
      · simp only [componentsOf] at first
        split at first
        · cases first
        · rename_i filled
          split at first
          · split at first
            · rename_i front
              exact .inr ⟨front, List.mem_singleton.1 first⟩
            · cases first
          · rename_i solid
            split at first
            · obtain rfl := List.mem_singleton.1 first
              exact .inl ⟨by decide, by decide, by decide⟩
            · obtain rfl := List.mem_singleton.1 first
              refine .inl ⟨?_, ?_, ?_⟩
              · simpa [Component.text] using filled
              · intro dot
                exact solid (by simpa [Component.text] using congrArg String.toList dot)
              · simpa [Component.text] using here
      · exact .inl ((ih later rest).resolve_right (by simp))

/-- What stands behind another component is a step. -/
theorem isStep_of_componentsOf_eq {first component : Component} {front back : List Component}
    (whole : ∀ piece ∈ pieces, '/' ∉ piece)
    (placed : componentsOf leading pieces = first :: front ++ component :: back) :
    IsStep component.text := by
  have later {pieces : List (List Char)} (whole : ∀ piece ∈ pieces, '/' ∉ piece)
      (member : component ∈ componentsOf false pieces) : IsStep component.text :=
    (isStep_of_mem_componentsOf whole member).resolve_right (by simp)
  cases pieces with
  | nil => cases placed
  | cons piece pieces =>
      refine later (List.forall_mem_cons.1 whole).2 ?_
      have short := @length_componentsOf_singleton leading piece
      rw [componentsOf_cons] at placed
      generalize componentsOf leading [piece] = lead at short placed
      match lead, short with
      | [], _ =>
          rw [List.nil_append] at placed
          simp [placed]
      | [_], _ =>
          have rest : componentsOf false pieces = front ++ component :: back :=
            (List.cons.inj placed).2
          simp [rest]

/-- A component is a step, or the root or a dot in front of all others. -/
theorem isStep_of_components_eq {path : Path} {component : Component} {front back : List Component}
    (placed : path.components = front ++ component :: back) :
    IsStep component.text ∨ front = [] ∧ (component = .root ∨ component = .here) := by
  have whole (text : List Char) : ∀ piece ∈ Text.splitOn '/' text, '/' ∉ piece :=
    fun piece => Text.not_mem_of_mem_splitOn
  rw [components_eq] at placed
  generalize path.text.toList = text at placed
  by_cases absolute : text.head? = some '/'
  · obtain ⟨rest, rfl⟩ := List.head?_eq_some_iff.1 absolute
    rw [named_absolute] at placed
    cases front with
    | nil => exact .inr ⟨rfl, .inl (List.cons.inj placed).1.symm⟩
    | cons first front =>
        have member : component ∈ componentsOf false (Text.splitOn '/' rest) := by
          rw [(List.cons.inj placed).2]
          exact List.mem_append_right _ List.mem_cons_self
        exact .inl ((isStep_of_mem_componentsOf (whole rest) member).resolve_right (by simp))
  · rw [named_relative absolute] at placed
    cases front with
    | nil =>
        have member : component ∈ componentsOf true (Text.splitOn '/' text) := by simp [placed]
        exact (isStep_of_mem_componentsOf (whole text) member).imp_right fun dot =>
          ⟨rfl, .inr dot.2⟩
    | cons first front => exact .inl (isStep_of_componentsOf_eq (whole text) placed)

/-! ### Texts without their end -/

/-- What is cut off at the end of a text names no component. The text is in reverse, and it is
absolute when it ends in a slash. -/
theorem named_trimEnd {absolute : Bool} (fuel : Nat)
    (sound : absolute = true ↔ text.getLast? = some '/') :
    named (trimEnd absolute fuel text).reverse = named text.reverse := by
  fun_induction trimEnd absolute fuel text with
  | case1 | case2 | case5 => rfl
  | case3 fuel rest more ih =>
      have filled : rest ≠ [] := by
        rintro rfl
        simp [sound] at more
      have soundRest : absolute = true ↔ rest.getLast? = some '/' := by
        rw [sound, List.getLast?_cons, List.getLast?_eq_some_getLast filled, Option.getD_some]
      rw [ih soundRest, List.reverse_cons, named_slash (by simpa using filled)]
  | case4 fuel rest ih =>
      have soundRest : absolute = true ↔ ('/' :: rest).getLast? = some '/' := by
        rw [sound, List.getLast?_cons_cons]
      have dotted : ('.' :: '/' :: rest).reverse = rest.reverse ++ '/' :: ['.'] := by simp
      rw [ih soundRest, dotted, named_append_piece, componentsOf_splitOn_dot, List.append_nil,
        List.reverse_cons]

/-- Trimming takes away from one end only. -/
theorem trimEnd_suffix (absolute : Bool) (fuel : Nat) (text : List Char) :
    trimEnd absolute fuel text <:+ text := by
  fun_induction trimEnd absolute fuel text with
  | case1 | case2 | case5 => exact List.suffix_rfl
  | case3 fuel rest more ih => exact ih.trans (List.suffix_cons _ _)
  | case4 fuel rest ih => exact ih.trans (List.suffix_cons _ _)

/-- A text in reverse with a component at its end: it begins neither with a slash nor with a dot
behind a slash. -/
structure Trimmed (text : List Char) : Prop where
  slash : text.head? ≠ some '/'
  dot : ¬ ['.', '/'] <+: text

/-- Enough cutting leaves the root or a component at the end. -/
theorem trimmed_trimEnd {absolute : Bool} {fuel : Nat} (enough : text.length < fuel) :
    trimEnd absolute fuel text = ['/'] ∨ Trimmed (trimEnd absolute fuel text) := by
  fun_induction trimEnd absolute fuel text with
  | case1 => simp at enough
  | case2 fuel rest alone =>
      simp only [Bool.and_eq_true, List.isEmpty_iff] at alone
      exact .inl (by rw [alone.1])
  | case3 fuel rest more ih => exact ih (by simpa using enough)
  | case4 fuel rest ih => exact ih (by simpa using enough)
  | case5 fuel text noSlash noDot =>
      refine .inr ⟨fun begins => ?_, fun begins => ?_⟩
      · obtain ⟨rest, rfl⟩ := List.head?_eq_some_iff.1 begins
        exact noSlash rest rfl
      · obtain ⟨rest, rfl⟩ := begins
        exact noDot rest rfl

/-! ### The directory above -/

/-- A text with a slash is cut at its first slash. -/
theorem exists_dropWhile_slash (inside : '/' ∈ text) : ∃ piece above,
    text = piece ++ '/' :: above ∧ '/' ∉ piece ∧
      text.dropWhile (· ≠ '/') = '/' :: above := by
  obtain ⟨piece, above, rfl, first⟩ := List.eq_append_cons_of_mem inside
  have passed : ∀ c ∈ piece, decide (c ≠ '/') = true := by
    intro c member
    rw [decide_eq_true_eq]
    rintro rfl
    exact first member
  refine ⟨piece, above, rfl, first, ?_⟩
  rw [List.dropWhile_append_of_pos passed, List.dropWhile_cons_of_neg (by simp)]

/-- The piece at the end of a trimmed text is one component. -/
theorem Trimmed.named_eq {above : List Char} (trimmed : Trimmed (piece ++ '/' :: above))
    (noSlash : '/' ∉ piece) : ∃ component, named (piece ++ '/' :: above).reverse =
      named ('/' :: above).reverse ++ [component] := by
  have filled : piece.reverse ≠ [] := by
    intro empty
    rw [List.reverse_eq_nil_iff.1 empty] at trimmed
    exact trimmed.slash rfl
  have solid : piece.reverse ≠ ['.'] := by
    intro dot
    have single : piece = ['.'] := by simpa using congrArg List.reverse dot
    exact trimmed.dot ⟨above, by simp [single]⟩
  obtain ⟨component, one⟩ := componentsOf_solid filled solid
  have whole : (piece ++ '/' :: above).reverse = above.reverse ++ '/' :: piece.reverse := by simp
  refine ⟨component, ?_⟩
  rw [whole, named_append_piece, Text.splitOn_eq_singleton (by simpa using noSlash), one,
    List.reverse_cons]

/-- What is left of a text in reverse when its last component is taken away names the components
before it. -/
theorem named_above {absolute : Bool} (fuel : Nat)
    (sound : absolute = true ↔ text.getLast? = some '/') (trimmed : Trimmed text) :
    named (trimEnd absolute fuel (text.dropWhile (· ≠ '/'))).reverse =
      (named text.reverse).dropLast := by
  by_cases inside : '/' ∈ text
  · obtain ⟨piece, above, rfl, noSlash, cut⟩ := exists_dropWhile_slash inside
    obtain ⟨component, split⟩ := trimmed.named_eq noSlash
    have soundAbove : absolute = true ↔ ('/' :: above).getLast? = some '/' := by
      rw [sound, List.getLast?_append_of_ne_nil _ (by simp)]
    rw [cut, named_trimEnd fuel soundAbove, split, List.dropLast_concat]
  · have cut : text.dropWhile (· ≠ '/') = [] := by
      rw [List.dropWhile_eq_nil_iff]
      rintro c member
      rw [decide_eq_true_eq]
      rintro rfl
      exact inside member
    have nothing : trimEnd absolute fuel [] = [] := by
      cases fuel <;> rfl
    have noSlash : '/' ∉ text.reverse := by simpa using inside
    have relative : text.reverse.head? ≠ some '/' :=
      fun begins => noSlash (List.mem_of_head? begins)
    have none : (componentsOf true [text.reverse]).dropLast = [] := by
      rw [← List.length_eq_zero_iff, List.length_dropLast]
      exact Nat.sub_eq_zero_of_le length_componentsOf_singleton
    rw [cut, nothing, named_relative relative, Text.splitOn_eq_singleton noSlash, none]
    rfl

/-- The directory above a path has the components of the path but the last. -/
theorem components_of_parent? {path above : Path} (found : path.parent? = some above) :
    above.components = path.components.dropLast := by
  unfold parent? at found
  split at found
  · cases found
  · cases found
  · rename_i component notRoot last
    cases found
    rw [components_eq path] at last ⊢
    generalize path.text.toList = text at last ⊢
    generalize absolute : decide (text.head? = some '/') = flag
    have sound : flag = true ↔ text.reverse.getLast? = some '/' := by
      rw [← absolute, decide_eq_true_eq, List.getLast?_reverse]
    have kept := named_trimEnd (text.length + 1) sound
    have suffix := trimEnd_suffix flag (text.length + 1) text.reverse
    have enough : text.reverse.length < text.length + 1 := by simp
    have trimming := @trimmed_trimEnd text.reverse flag _ enough
    rw [List.reverse_reverse] at kept
    generalize trimEnd flag (text.length + 1) text.reverse = trimmed at *
    rw [← kept] at last ⊢
    rcases trimming with rfl | cut
    · -- Nothing but the root has no last component that is not the root.
      rw [List.reverse_singleton, named_absolute, componentsOf_splitOn_nil] at last
      exact absurd (Option.some.inj last).symm notRoot
    · have filled : trimmed ≠ [] := by
        rintro rfl
        cases last
      obtain ⟨front, whole⟩ := suffix
      refine named_above (text.length + 1) ?_ cut
      rw [sound, ← whole, List.getLast?_append_of_ne_nil _ filled]

/-- There is a directory above every path whose last component is not the root. -/
theorem exists_parent? {path : Path} {component : Component}
    (last : path.components.getLast? = some component) (notRoot : component ≠ .root) :
    ∃ above, path.parent? = some above := by
  unfold parent?
  split
  · rename_i none
    simp [last] at none
  · rename_i root
    rw [last] at root
    exact absurd (Option.some.inj root) notRoot
  · exact ⟨_, rfl⟩

end Runbook.Path
