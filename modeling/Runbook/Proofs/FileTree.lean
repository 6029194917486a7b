import Runbook.FileTree
import Runbook.Proofs.Order
import Runbook.Proofs.Path
import Runbook.Proofs.Text.Letter

/-!
# Where paths lead

A path leads from directory to directory. What an entry's names lead to in a tree, no link being
followed (`FileTree.descend?`), is what a walk finds there (`FileTree.mem_walk_iff`), in the order
of the names (`FileTree.ascending_walk`), and it is what the path of the entry leads to, as long as
the path is not too long (`Files.resolve_place`).
-/

namespace Runbook

namespace FileTree

variable {top here below tree : FileTree} {links : Nat} {above stack : List FileTree}
  {name : String} {names rest : List String}

/-- No steps lead to where they begin. -/
theorem follow_nil : follow top links (here :: above) [] = .ok here := by
  rw [follow]

/-- What names lead to from a tree. No link is followed. -/
def descend? (tree : FileTree) : List String → Option FileTree
  | [] => some tree
  | name :: names => (find? name tree.children).bind fun below => below.descend? names

/-- Can an entry of a directory be called like this? -/
def isName (name : String) : Bool :=
  name ≠ "" && name ≠ "." && name ≠ ".." && !name.toList.contains '/' &&
    !name.toList.contains '\x00' && name.utf8ByteSize ≤ maxNameBytes

/-- A name is one step, other than to the parent, without a null character and short enough. -/
theorem isName_iff : isName name = true ↔ Path.IsStep name ∧ name ≠ ".." ∧
    '\x00' ∉ name.toList ∧ name.utf8ByteSize ≤ maxNameBytes := by
  have step : Path.IsStep name ↔ name ≠ "" ∧ name ≠ "." ∧ '/' ∉ name.toList :=
    ⟨fun ⟨filled, solid, whole⟩ => ⟨filled, solid, whole⟩,
      fun ⟨filled, solid, whole⟩ => ⟨filled, solid, whole⟩⟩
  simp only [isName, step, List.contains_eq_mem, Bool.and_eq_true, decide_eq_true_eq,
    Bool.not_eq_true', decide_eq_false_iff_not]
  tauto

/-- An entry's name can repeat a character. -/
theorem isName_replicate {c : Char} {count : Nat} (ascii : c.toNat < 128)
    (plain : c ≠ '/' ∧ c ≠ '.' ∧ c ≠ '\x00') (filled : 0 < count) (short : count ≤ maxNameBytes) :
    isName (String.ofList (List.replicate count c)) = true := by
  have only {d : Char} (member : d ∈ (String.ofList (List.replicate count c)).toList) : d = c := by
    rw [String.toList_ofList] at member
    exact List.eq_of_mem_replicate member
  have member : c ∈ (String.ofList (List.replicate count c)).toList := by
    rw [String.toList_ofList, List.mem_replicate]
    exact ⟨filled.ne', rfl⟩
  have step : Path.IsStep (String.ofList (List.replicate count c)) := by
    refine ⟨fun empty => ?_, fun dot => ?_, fun slash => plain.1 (only slash).symm⟩
    · simp [empty] at member
    · exact plain.2.1 (by simpa [dot] using member)
  refine isName_iff.2 ⟨step, fun dots => ?_, fun nul => plain.2.2 (only nul).symm, ?_⟩
  · exact plain.2.1 (by simpa [dots] using member)
  · rwa [Text.utf8ByteSize_replicate ascii]

mutual

/-- Can all entries of a tree be called as they are? -/
def isNamed : FileTree → Bool
  | directory children => areNamed children
  | _ => true

/-- Can the entries of a directory and all entries below them be called as they are? -/
def areNamed : List (String × FileTree) → Bool
  | [] => true
  | (name, tree) :: rest => isName name && isNamed tree && areNamed rest

end

/-- A child of a directory with proper names has one, and so has all below it. -/
theorem named_of_find? {children : List (String × FileTree)} (named : areNamed children = true)
    (found : find? name children = some below) : isName name = true ∧ isNamed below = true := by
  induction children with
  | nil => cases found
  | cons entry rest ih =>
      obtain ⟨first, tree⟩ := entry
      simp only [areNamed, Bool.and_eq_true] at named
      simp only [find?] at found
      split at found
      · rename_i same
        cases found
        exact ⟨same ▸ named.1.1, named.1.2⟩
      · exact ih named.2 found

/-- All names on a way down such a tree are proper. -/
theorem named_of_descend? (named : tree.isNamed = true) (found : tree.descend? names = some below) :
    ∀ name ∈ names, isName name = true := by
  induction names generalizing tree with
  | nil => simp
  | cons name names ih =>
      obtain ⟨between, here, later⟩ := Option.bind_eq_some_iff.1 found
      cases tree with
      | directory children =>
          obtain ⟨first, rest⟩ := named_of_find? named here
          exact List.forall_mem_cons.2 ⟨first, ih rest later⟩
      | _ => cases here

/-! ### Walks -/

/-- The walks over the entries of a directory are in the order of their names, each name once. -/
theorem ascending_walkEntries (children : List (String × FileTree)) :
    Ascending (walkEntries children) := by
  induction children with
  | nil => exact List.Pairwise.nil
  | cons entry rest ih => exact ih.insertEntry entry.1 entry.2.walk

/-- What a walk finds below a name is the walk of the child with that name. -/
theorem find?_walkEntries (name : String) (children : List (String × FileTree)) :
    Table.find? name (walkEntries children) = (find? name children).map walk := by
  induction children with
  | nil => rfl
  | cons entry rest ih =>
      obtain ⟨other, tree⟩ := entry
      rw [walkEntries, find?]
      split
      · rename_i same
        rw [← same, Table.find?_insertEntry_self, Option.map_some]
      · rename_i differs
        rw [Table.find?_insertEntry_of_ne (Ne.symm differs), ih]

/-- A walk goes to exactly the children, and below each as a walk of it does. -/
theorem mem_walkEntries_iff {children : List (String × FileTree)}
    {found : List (List String × Option String)} :
    (name, found) ∈ walkEntries children ↔ ∃ below, find? name children = some below ∧
      below.walk = found := by
  rw [← Table.find?_eq_some_iff (ascending_walkEntries children), find?_walkEntries,
    Option.map_eq_some_iff]

/-- A walk finds the regular files, each under the names that lead to it. -/
theorem mem_walk_iff {content : Option String} :
    (names, content) ∈ tree.walk ↔ tree.descend? names = some (.file content) := by
  induction names generalizing tree with
  | nil => cases tree <;> simp [walk, descend?, eq_comm]
  | cons name names ih =>
      rw [descend?, Option.bind_eq_some_iff]
      cases tree with
      | file text => simp [walk, children, find?]
      | link target => simp [walk, children, find?]
      | directory entries =>
          simp only [walk, children, List.mem_flatMap, List.mem_map, Prod.exists, Prod.mk.injEq,
            List.cons.injEq]
          constructor
          · rintro ⟨_, found, listed, _, _, inside, ⟨rfl, rfl⟩, rfl⟩
            obtain ⟨below, here, rfl⟩ := mem_walkEntries_iff.1 listed
            exact ⟨below, here, ih.1 inside⟩
          · rintro ⟨below, here, later⟩
            exact ⟨name, below.walk, mem_walkEntries_iff.2 ⟨below, here, rfl⟩, names, content,
              ih.2 later, ⟨rfl, rfl⟩, rfl⟩

mutual

/-- A walk finds files in the order of the names that lead to them. -/
theorem ascending_walk : (tree : FileTree) → Ascending tree.walk
  | .file text => List.pairwise_singleton _ _
  | .link target => List.Pairwise.nil
  | .directory entries => by
      rw [walk, Ascending, List.pairwise_flatMap]
      refine ⟨fun entry member => ?_, (ascending_walkEntries entries).imp ?_⟩
      · refine List.pairwise_map.2 ((ascending_of_mem_walkEntries entries entry member).imp ?_)
        intro first second before
        simpa [Ordered.before, listBefore] using before
      · intro entry other before first inside second among
        obtain ⟨_, _, rfl⟩ := List.mem_map.1 inside
        obtain ⟨_, _, rfl⟩ := List.mem_map.1 among
        simpa only [Ordered.before, listBefore, if_neg (ne_of_before before)] using before

/-- Below each child a walk ascends. -/
theorem ascending_of_mem_walkEntries : (entries : List (String × FileTree)) →
    ∀ entry ∈ walkEntries entries, Ascending entry.2
  | [] => fun _ member => by cases member
  | (_, tree) :: rest => fun entry member => by
      rcases mem_insertEntry member with rfl | later
      · exact ascending_walk tree
      · exact ascending_of_mem_walkEntries rest entry later

end

/-! ### Following -/

/-- A plain name leads from a directory to its entry of that name, when that is no link. -/
theorem follow_cons_of_find? (inside : here.isDirectory = true)
    (plain : name ≠ "" ∧ name ≠ "." ∧ name ≠ "..") (short : name.utf8ByteSize ≤ maxNameBytes)
    (found : find? name here.children = some below) (solid : ∀ target, below ≠ .link target) :
    follow top links (here :: above) (name :: rest) =
      follow top links (below :: here :: above) rest := by
  rw [follow]
  simp only [inside, Bool.not_true, Bool.false_eq_true, ↓reduceIte, plain.1, plain.2.1,
    plain.2.2, or_self, Nat.not_lt.2 short, found]

/-- Without such an entry it leads nowhere. -/
theorem follow_cons_of_absent (inside : here.isDirectory = true)
    (plain : name ≠ "" ∧ name ≠ "." ∧ name ≠ "..") (short : name.utf8ByteSize ≤ maxNameBytes)
    (absent : find? name here.children = none) :
    follow top links (here :: above) (name :: rest) = .error .notFound := by
  rw [follow]
  simp only [inside, Bool.not_true, Bool.false_eq_true, ↓reduceIte, plain.1, plain.2.1,
    plain.2.2, or_self, Nat.not_lt.2 short, absent]

/-- An empty piece leads from a directory to itself. -/
theorem follow_cons_empty (inside : here.isDirectory = true) :
    follow top links (here :: above) ("" :: rest) = follow top links (here :: above) rest := by
  rw [follow]
  simp only [inside, Bool.not_true, Bool.false_eq_true, ↓reduceIte, true_or]

/-- A list of pieces ends in an error, whatever stands behind it, or leads to a tree from where the
pieces behind it are followed. -/
theorem follow_append (path : List String) (standing : stack ≠ []) :
    (∃ error, ∀ rest, follow top links stack (path ++ rest) = .error error) ∨
      ∃ tree others above, follow top links stack path = .ok tree ∧
        ∀ rest, follow top links stack (path ++ rest) =
          follow top others (tree :: above) rest := by
  fun_induction follow top links stack path with
  | case1 links here above => exact .inr ⟨here, links, above, rfl, fun _ => rfl⟩
  | case2 | case3 => exact absurd rfl standing
  | case4 links piece path here above outside =>
      refine .inl ⟨.notDirectory, fun rest => ?_⟩
      rw [List.cons_append, follow, if_pos outside]
  | case5 links piece path here above inside blank ih =>
      have step (rest : List String) : follow top links (here :: above) (piece :: path ++ rest) =
          follow top links (here :: above) (path ++ rest) := by
        rw [List.cons_append, follow, if_neg inside, if_pos blank]
      simpa only [step] using ih standing
  | case6 links path here above inside solid ih =>
      have step (rest : List String) : follow top links (here :: above) (".." :: path ++ rest) =
          follow top links (if above.isEmpty then [here] else above) (path ++ rest) := by
        rw [List.cons_append, follow, if_neg inside, if_neg solid, if_pos rfl]
      simp only [step]
      refine ih ?_
      cases above <;> simp
  | case7 links piece path here above inside solid plain long =>
      refine .inl ⟨.nameTooLong, fun rest => ?_⟩
      rw [List.cons_append, follow, if_neg inside, if_neg solid, if_neg plain, if_pos long]
  | case8 links piece path here above inside solid plain short absent =>
      refine .inl ⟨.notFound, fun rest => ?_⟩
      rw [List.cons_append, follow, if_neg inside, if_neg solid, if_neg plain, if_neg short, absent]
  | case9 piece path here above inside solid plain short target found =>
      refine .inl ⟨.tooManyLinks, fun rest => ?_⟩
      rw [List.cons_append, follow, if_neg inside, if_neg solid, if_neg plain, if_neg short, found]
  | case10 piece path here above inside solid plain short target found links empty =>
      refine .inl ⟨.notFound, fun rest => ?_⟩
      rw [List.cons_append, follow, if_neg inside, if_neg solid, if_neg plain, if_neg short, found]
      dsimp only
      rw [if_pos empty]
  | case11 piece path here above inside solid plain short target found links filled start ih =>
      have step (rest : List String) :
          follow top (links + 1) (here :: above) (piece :: path ++ rest) =
            follow top links start (pieces target ++ path ++ rest) := by
        rw [List.cons_append, follow, if_neg inside, if_neg solid, if_neg plain, if_neg short,
          found, List.append_assoc]
        dsimp only
        rw [if_neg filled]
        rfl
      simp only [step]
      refine ih ?_
      simp only [start]
      split <;> simp
  | case12 links piece path here above inside solid plain short tree notLink found ih =>
      obtain ⟨filled, notDot⟩ := not_or.1 solid
      have step (rest : List String) : follow top links (here :: above) (piece :: path ++ rest) =
          follow top links (tree :: here :: above) (path ++ rest) :=
        follow_cons_of_find? (by simpa using inside) ⟨filled, notDot, plain⟩ (Nat.not_lt.1 short)
          found notLink
      simpa only [step] using ih (by simp)

/-- What is entered behind a directory that pieces lead to is found there. An empty piece at the
end of the pieces does not count. -/
theorem follow_concat {path front : List String} (standing : stack ≠ [])
    (inside : tree.isDirectory = true) (named : isName name = true)
    (found : find? name tree.children = some below) (solid : ∀ target, below ≠ .link target)
    (reached : follow top links stack path = .ok tree)
    (same : path = front ∨ path = front ++ [""]) :
    follow top links stack (front ++ [name]) = .ok below := by
  obtain ⟨isStep, notUp, _, short⟩ := isName_iff.1 named
  rcases follow_append front standing with ⟨error, always⟩ | ⟨other, others, above, there, behind⟩
  · rcases same with rfl | rfl
    · rw [← List.append_nil path, always] at reached
      cases reached
    · rw [always] at reached
      cases reached
  · have here : other = tree := by
      rcases same with rfl | rfl
      · exact Except.ok.inj (there.symm.trans reached)
      · rw [behind] at reached
        cases directory : other.isDirectory with
        | false =>
            rw [follow, if_pos (by simp [directory])] at reached
            cases reached
        | true =>
            rw [follow_cons_empty directory, follow_nil] at reached
            exact Except.ok.inj reached
    rw [behind, here, follow_cons_of_find? inside ⟨isStep.filled, isStep.solid, notUp⟩ short found
      solid, follow_nil]

/-- Empty pieces behind pieces that lead to a directory lead there too. -/
theorem follow_empties {path : List String} (standing : stack ≠ [])
    (inside : tree.isDirectory = true) (reached : follow top links stack path = .ok tree)
    (count : Nat) : follow top links stack (path ++ List.replicate count "") = .ok tree := by
  rcases follow_append path standing with ⟨error, always⟩ | ⟨other, others, above, there, behind⟩
  · rw [← List.append_nil path, always] at reached
    cases reached
  · obtain rfl : other = tree := Except.ok.inj (there.symm.trans reached)
    rw [behind]
    clear behind there
    induction count with
    | zero => rw [List.replicate_zero, follow_nil]
    | succ count ih => rw [List.replicate_succ, follow_cons_empty inside, ih]

/-- Slashes at the end of a path add one byte each. -/
theorem utf8ByteSize_slashes (text : String) (count : Nat) :
    (text ++ String.ofList (List.replicate count '/')).utf8ByteSize =
      text.utf8ByteSize + count := by
  rw [String.utf8ByteSize_append, Text.utf8ByteSize_replicate (by decide)]

/-- Slashes at the end of a path add empty pieces only. -/
theorem pieces_slashes (text : String) (count : Nat) :
    pieces (text ++ String.ofList (List.replicate count '/')) =
      pieces text ++ List.replicate count "" := by
  induction count with
  | zero => simp [pieces]
  | succ count ih =>
      have split (chars : List Char) :
          Text.splitOn '/' (chars ++ ['/']) = Text.splitOn '/' chars ++ [[]] := by
        rw [Text.splitOn_append_sep]
        simp [Text.splitOn]
      rw [List.replicate_succ', List.replicate_succ', ← List.append_assoc, ← ih]
      simp only [pieces, String.toList_append, String.toList_ofList, ← List.append_assoc, split,
        List.map_append]
      rfl

end FileTree

/-- A relative path is followed from the current directory. -/
theorem Files.resolve_of_relative {files : Files} {path : Path}
    (sane : path.text.toList.contains '\x00' = false ∧ path.text.isEmpty = false ∧
      ¬ FileTree.maxPathBytes < path.text.utf8ByteSize ∧ path.text.startsWith "/" = false) :
    files.resolve path = FileTree.follow files.top FileTree.maxLinks files.stack
      (FileTree.pieces path.text) := by
  rw [resolve]
  simp only [sane, Bool.false_eq_true, ↓reduceIte]

namespace Files

open FileTree

variable {files : Files} {root path : Path} {tree below : FileTree} {name : String}
  {names : List String}

/-- Paths are followed from some directory. -/
theorem stack_ne_nil (files : Files) : files.stack ≠ [] := by
  have standing (current : List String) (above : List FileTree) (tree : FileTree) :
      stack.descend above tree current ≠ [] := by
    induction current generalizing above tree with
    | nil => simp [stack.descend]
    | cons name rest ih => exact ih _ _
  exact standing _ _ _

/-- What a path leads to is what its pieces lead to, where the path can be used at all. -/
theorem resolve_eq_ok_iff : files.resolve path = .ok tree ↔
    '\x00' ∉ path.text.toList ∧ path.text ≠ "" ∧ path.text.utf8ByteSize ≤ maxPathBytes ∧
      follow files.top maxLinks (if path.text.startsWith "/" then [files.top] else files.stack)
        (pieces path.text) = .ok tree := by
  have nul : path.text.toList.contains '\x00' = true ↔ '\x00' ∈ path.text.toList := by simp
  have empty : path.text.isEmpty = true ↔ path.text = "" := by simp
  simp only [resolve, nul, empty]
  split
  · simp [*]
  · split
    · simp [*]
    · split
      · rename_i long
        simp [Nat.not_le.2 long]
      · rename_i noNul filled short
        simp only [noNul, filled, Nat.not_lt.1 short, not_false_eq_true, ne_eq, true_and]

/-- The pieces of a path with a name behind it: those of the path, without an empty one at the end,
and the name. -/
theorem exists_pieces_join (base : Path) (filled : base.text ≠ "") (isStep : Path.IsStep name) :
    ∃ front, pieces (base.join name).text = front ++ [name] ∧
      (pieces base.text = front ∨ pieces base.text = front ++ [""]) := by
  have single := Text.splitOn_eq_singleton isStep.whole
  rw [pieces, Path.toList_join isStep]
  split
  · rename_i slash
    obtain ⟨front, whole⟩ := List.getLast?_eq_some_iff.1 (slash.resolve_left filled)
    refine ⟨pieces (String.ofList front), ?_, .inr ?_⟩
    · rw [whole, List.append_assoc, List.singleton_append, Text.splitOn_append_sep, single]
      simp [pieces]
    · rw [pieces, whole, Text.splitOn_append_sep]
      simp [pieces, Text.splitOn]
  · refine ⟨pieces base.text, ?_, .inl rfl⟩
    rw [List.append_assoc, List.singleton_append, Text.splitOn_append_sep, single]
    simp [pieces]

/-- A name adds no NUL to a path. -/
theorem usable_join (usable : '\x00' ∉ root.text.toList ∧ root.text ≠ "")
    (named : isName name = true) :
    '\x00' ∉ (root.join name).text.toList ∧ (root.join name).text ≠ "" := by
  obtain ⟨isStep, _, noNul, _⟩ := isName_iff.1 named
  have text := Path.toList_join isStep root
  refine ⟨?_, fun empty => ?_⟩
  · rw [text]
    split <;> simp [usable.1, noNul]
  · have nothing := text.symm.trans (congrArg String.toList empty)
    exact isStep.filled (String.toList_eq_nil_iff.1 (List.append_eq_nil_iff.1 nothing).2)

/-- An entry of a directory that a path leads to is found under its name behind the path. -/
theorem resolve_join (resolved : files.resolve root = .ok tree) (inside : tree.isDirectory = true)
    (named : isName name = true) (found : find? name tree.children = some below)
    (solid : ∀ target, below ≠ .link target)
    (short : (root.join name).text.utf8ByteSize ≤ maxPathBytes) :
    files.resolve (root.join name) = .ok below := by
  obtain ⟨noNul, filled, _, followed⟩ := resolve_eq_ok_iff.1 resolved
  obtain ⟨isStep, _, _, _⟩ := isName_iff.1 named
  obtain ⟨front, split, same⟩ := exists_pieces_join root filled isStep
  obtain ⟨joinNoNul, joinFilled⟩ := usable_join ⟨noNul, filled⟩ named
  have listFilled : root.text.toList ≠ [] := mt String.toList_eq_nil_iff.1 filled
  have start : (root.join name).text.toList.head? = root.text.toList.head? := by
    rw [Path.toList_join isStep]
    split <;> simp [List.head?_append, List.head?_eq_some_head listFilled]
  rw [resolve_eq_ok_iff, split]
  refine ⟨joinNoNul, joinFilled, short, ?_⟩
  have absolute : (root.join name).text.startsWith "/" = root.text.startsWith "/" := by
    rw [Bool.eq_iff_iff, Path.startsWith_slash_iff, Path.startsWith_slash_iff, start]
  rw [absolute]
  refine follow_concat ?_ inside named found solid followed same
  split
  · simp
  · exact stack_ne_nil files

/-- A directory's path leads to the directory with slashes behind it, too. -/
theorem resolve_slashes (resolved : files.resolve root = .ok tree)
    (inside : tree.isDirectory = true) {count : Nat}
    (short : root.text.utf8ByteSize + count ≤ maxPathBytes) :
    files.resolve ⟨root.text ++ String.ofList (List.replicate count '/')⟩ = .ok tree := by
  obtain ⟨noNul, filled, _, followed⟩ := resolve_eq_ok_iff.1 resolved
  have listFilled : root.text.toList ≠ [] := mt String.toList_eq_nil_iff.1 filled
  have start : (root.text ++ String.ofList (List.replicate count '/')).startsWith "/" =
      root.text.startsWith "/" := by
    rw [Bool.eq_iff_iff, Path.startsWith_slash_iff, Path.startsWith_slash_iff]
    simp [List.head?_append, List.head?_eq_some_head listFilled]
  rw [resolve_eq_ok_iff, start, pieces_slashes, utf8ByteSize_slashes]
  refine ⟨by simp [noNul, List.mem_replicate], by simp [filled], short, ?_⟩
  refine follow_empties ?_ inside followed count
  split
  · simp
  · exact stack_ne_nil files

/-! ### Places below a path -/

/-- One more name joins the place it is below. -/
theorem place_concat (root : Path) (names : List String) (name : String) :
    place root (names ++ [name]) = (place root names).join name := by
  rw [place, List.foldl_append]
  rfl

/-- A place below a path is no shorter than the path. -/
theorem utf8ByteSize_le_place (steps : ∀ name ∈ names, Path.IsStep name) (root : Path) :
    root.text.utf8ByteSize ≤ (place root names).text.utf8ByteSize := by
  induction names generalizing root with
  | nil => exact Nat.le_refl _
  | cons name names ih =>
      obtain ⟨here, later⟩ := List.forall_mem_cons.1 steps
      exact (Nat.le_add_right _ _).trans
        ((Path.utf8ByteSize_add_le_join here root).trans (ih later (root.join name)))

/-- Below a usable root every place of proper names is usable. -/
theorem usable_place (usable : '\x00' ∉ root.text.toList ∧ root.text ≠ "")
    (named : ∀ name ∈ names, isName name = true) :
    '\x00' ∉ (place root names).text.toList ∧ (place root names).text ≠ "" := by
  induction names generalizing root with
  | nil => exact usable
  | cons name names ih =>
      obtain ⟨here, later⟩ := List.forall_mem_cons.1 named
      exact ih (usable_join usable here) later

/-- What names lead to from a directory is found at their place below its path. -/
theorem resolve_place (resolved : files.resolve root = .ok tree) (named : tree.isNamed = true)
    (found : tree.descend? names = some below) (solid : ∀ target, below ≠ .link target)
    (short : (place root names).text.utf8ByteSize ≤ maxPathBytes) :
    files.resolve (place root names) = .ok below := by
  induction names generalizing root tree with
  | nil =>
      cases found
      exact resolved
  | cons name names ih =>
      have names_named := named_of_descend? named found
      obtain ⟨between, here, later⟩ := Option.bind_eq_some_iff.1 found
      have steps : ∀ name ∈ names, Path.IsStep name := fun other member =>
        (isName_iff.1 (names_named other (List.mem_cons_of_mem _ member))).1
      have passable : ∀ target, between ≠ .link target := by
        rintro target rfl
        cases names with
        | nil =>
            cases later
            exact solid target rfl
        | cons => cases later
      cases tree with
      | directory entries =>
          have between_short : (root.join name).text.utf8ByteSize ≤ maxPathBytes :=
            (utf8ByteSize_le_place steps (root.join name)).trans short
          exact ih (resolve_join resolved rfl (names_named name List.mem_cons_self) here passable
            between_short) (named_of_find? named here).2 later short
      | _ => cases here

/-- A place that is too long cannot be read. -/
theorem resolve_of_long (resolved : files.resolve root = .ok tree) (named : tree.isNamed = true)
    (found : tree.descend? names = some below)
    (long : maxPathBytes < (place root names).text.utf8ByteSize) :
    files.resolve (place root names) = .error .nameTooLong := by
  obtain ⟨noNul, filled, _, _⟩ := resolve_eq_ok_iff.1 resolved
  obtain ⟨placeNoNul, placeFilled⟩ :=
    usable_place ⟨noNul, filled⟩ (named_of_descend? named found)
  have nul : (place root names).text.toList.contains '\x00' = false := by simpa using placeNoNul
  have empty : (place root names).text.isEmpty = false := by simpa using placeFilled
  simp only [resolve, nul, empty, Bool.false_eq_true, ↓reduceIte, long]

/-- Reading the place of a regular file gives what a walk finds there. -/
theorem read_place {content : Option String} (resolved : files.resolve root = .ok tree)
    (named : tree.isNamed = true) (found : tree.descend? names = some (.file content)) :
    files.read (place root names) = Found.read ⟨place root names, names, content⟩ := by
  rw [Found.read]
  split
  · rename_i long
    rw [read, resolve_of_long resolved named found long]
    rfl
  · rename_i short
    rw [read, resolve_place resolved named found nofun (Nat.not_lt.1 short)]
    rfl

end Files

end Runbook
