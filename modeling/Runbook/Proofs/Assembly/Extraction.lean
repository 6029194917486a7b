import Runbook.Proofs.Assembly.Registry
import Runbook.Proofs.Script.Outline

/-!
# The snippets of a script

A script is cut where its definitions begin. The pieces are the script's lines, each once and in
order; a function has the piece of its last definition, without the blank lines at its end, and
what a registry has under other identifiers stays (`addModule_exact`).
-/

namespace Runbook

open Snippets (partText importLines parts)

namespace Script

/-- Where the first of some definitions begins, or else the lines end. -/
def startRow (lines : List (List Char)) : List Definition → Nat
  | [] => lines.length
  | first :: _ => first.row

/-- The lines of a definition, up to where the first of those behind it begins. -/
def slice (lines : List (List Char)) (definition : Definition) (behind : List Definition) :
    List (List Char) :=
  (lines.take (startRow lines behind)).drop definition.row

/-- The lines of each definition. -/
def slices (lines : List (List Char)) : List Definition → List (List (List Char))
  | [] => []
  | definition :: behind => slice lines definition behind :: slices lines behind

variable {lines : List (List Char)} {definition : Definition} {definitions behind : List Definition}

/-- The import lines are the lines before the row where the first definition starts. -/
theorem importLines_eq :
    importLines lines definitions = lines.take (startRow lines definitions) := by
  cases definitions with
  | nil => exact List.take_length.symm
  | cons => rfl

/-- The first part is named by the first definition and reaches to where the next one starts. -/
theorem parts_cons : parts lines (definition :: behind) =
    ⟨definition.function, slice lines definition behind⟩ :: parts lines behind := by
  cases behind with
  | nil => simp [parts, slice, startRow]
  | cons => rfl

/-- The parts of a script are the slices of its lines. -/
theorem map_lines_parts :
    (parts lines definitions).map ScriptPart.lines = slices lines definitions := by
  induction definitions with
  | nil => rfl
  | cons definition behind ih => rw [parts_cons, List.map_cons, ih, slices]

/-- The pieces of a script are its lines, each once and in order. -/
theorem take_append_slices (ascending : definitions.Pairwise fun a b => a.row < b.row) :
    lines.take (startRow lines definitions) ++ (slices lines definitions).flatten = lines := by
  rw [← importLines_eq, ← map_lines_parts, ← List.flatMap_def]
  exact Snippets.importLines_append_parts lines definitions (ascending.imp Nat.le_of_lt)

/-- A definition has a part, whatever stands before it. -/
theorem exists_parts_append (front : List Definition) :
    ∃ before, parts lines (front ++ definition :: behind) =
      before ++ ⟨definition.function, slice lines definition behind⟩ :: parts lines behind := by
  induction front with
  | nil => exact ⟨[], parts_cons⟩
  | cons first front ih =>
      obtain ⟨before, same⟩ := ih
      rw [List.cons_append, parts_cons, same]
      exact ⟨_ :: before, rfl⟩

/-- A text is lines without the blank ones at their end. -/
def Trimmed (lines : List (List Char)) (text : String) : Prop :=
  ∃ kept blanks, lines = kept ++ blanks ∧ (∀ line ∈ blanks, Text.isAllBlank line = true) ∧
    (∀ line ∈ kept.getLast?, Text.isAllBlank line = false) ∧
      text.toList = Text.joinWith ['\n'] kept

/-- The text of a part has no blank line at its end. -/
theorem trimmed_partText (lines : List (List Char)) : Trimmed lines (partText lines) := by
  have split := List.takeWhile_append_dropWhile (p := Text.isAllBlank) (l := lines.reverse)
  refine ⟨(lines.reverse.dropWhile Text.isAllBlank).reverse,
    (lines.reverse.takeWhile Text.isAllBlank).reverse, ?_, ?_, ?_, ?_⟩
  · rw [← List.reverse_append, split, List.reverse_reverse]
  · intro line member
    exact List.all_eq_true.1 List.all_takeWhile line (List.mem_reverse.1 member)
  · intro line last
    rw [List.getLast?_reverse] at last
    have head := List.head?_dropWhile_not Text.isAllBlank lines.reverse
    rw [Option.mem_def.1 last] at head
    simpa using head
  · rw [partText, String.toList_ofList]

end Script

namespace Snippets

open Script (Definition startRow slice slices Trimmed)

variable {table : Table String String} {key value : String}
  {entries front back : List (String × String)} {snippets next : Snippets} {script : ScriptModule}
  {module source : String} {path : Path} {parse? : Script.Parser}

/-- Setting entries leaves the value of every other key. -/
theorem get?_setAll_of_not_mem (absent : key ∉ entries.map Prod.fst) :
    (setAll table entries).get? key = table.get? key := by
  induction entries generalizing table with
  | nil => rfl
  | cons entry entries ih =>
      obtain ⟨other, later⟩ := not_or.1 (mt List.mem_cons.2 absent)
      rw [setAll, List.foldl_cons, ← setAll, ih later, Table.get?_insert, if_neg other]

/-- What is set last under a key stays. -/
theorem get?_setAll_append_cons (front : List (String × String))
    (absent : key ∉ back.map Prod.fst) :
    (setAll table (front ++ (key, value) :: back)).get? key = some value := by
  rw [setAll_append, setAll, List.foldl_cons, ← setAll, get?_setAll_of_not_mem absent,
    Table.get?_insert, if_pos rfl]

/-- What a script adds to a registry. -/
structure Extraction (script : ScriptModule) (snippets next : Snippets) : Prop where
  cover : script.lines.take (startRow script.lines script.definitions) ++
    (slices script.lines script.definitions).flatten = script.lines
  imports : importsName ∉ script.functions → ∃ text,
    next.get? (script.id importsName) = some text ∧
      Trimmed (script.lines.take (startRow script.lines script.definitions)) text
  functions : ∀ front definition behind name,
    script.definitions = front ++ definition :: behind →
    definition.function.map Script.Word.text = some name →
    (∀ later ∈ behind, later.function.map Script.Word.text ≠ some name) →
      ∃ text, next.get? (script.id name) = some text ∧
        Trimmed (slice script.lines definition behind) text
  others : ∀ key, key ≠ script.id importsName → (∀ name ∈ script.functions, key ≠ script.id name) →
    next.get? key = snippets.get? key

/-- Behind the first entry, a script has one entry for each function. -/
theorem keys_tail_entries (script : ScriptModule) :
    script.entries.tail.map Prod.fst = script.functions.map script.id :=
  (List.cons.inj script.keys_entries).2

/-- A script that is cut at ascending rows adds its pieces. -/
theorem extraction_of_ascending
    (ascending : script.definitions.Pairwise fun a b => a.row < b.row) :
    Extraction script snippets
      (snippets.addDefinitions script.module script.lines script.definitions) := by
  have table := table_addDefinitions snippets script
  constructor
  case cover => exact Script.take_append_slices ascending
  case imports =>
    intro free
    have last : script.id importsName ∉ script.entries.tail.map Prod.fst := by
      rw [keys_tail_entries, List.mem_map_of_injective script.id_injective]
      exact free
    refine ⟨script.imports, ?_, ?_⟩
    · rw [get?, table]
      exact get?_setAll_append_cons [] last
    · rw [ScriptModule.imports, Script.importLines_eq]
      exact Script.trimmed_partText _
  case functions =>
    intro front definition behind name split named distinct
    obtain ⟨word, function, rfl⟩ := Option.map_eq_some_iff.1 named
    obtain ⟨before, parted⟩ := @Script.exists_parts_append script.lines definition behind front
    let later : ScriptModule := ⟨script.module, script.lines, behind⟩
    have last : script.id word.text ∉ later.entries.tail.map Prod.fst := by
      rw [keys_tail_entries]
      intro member
      obtain ⟨another, inside, same⟩ := List.mem_map.1 member
      obtain rfl := script.id_injective same
      obtain ⟨other, defined, again⟩ := List.mem_filterMap.1 inside
      exact distinct other defined again
    refine ⟨_, ?_, Script.trimmed_partText _⟩
    rw [get?, table, ScriptModule.entries, split, parted, List.filterMap_append,
      List.filterMap_cons, function, ← List.cons_append]
    exact get?_setAll_append_cons _ last
  case others =>
    intro key imports functions
    rw [get?, table]
    refine get?_setAll_of_not_mem fun member => ?_
    rw [script.keys_entries, List.mem_cons, List.mem_map] at member
    rcases member with same | ⟨name, member, same⟩
    · exact imports same
    · exact functions name member same.symm

/-! ### In place -/

/-- The snippets of a script are set one after the other in a registry that is there after a refusal
too. -/
def addModuleInPlace (parse? : Script.Parser) (module source : String) (path : Path) :
    ExceptT AssemblyError (StateM Snippets) Unit := do
  match parse? source with
  | none => throw (.scriptInvalid path)
  | some definitions =>
      let lines := Text.lines source.toList
      modify fun snippets =>
        snippets.insert (module ++ "." ++ importsName) (partText (importLines lines definitions))
      (parts lines definitions).forM fun part =>
        modify fun snippets => addPart module snippets part

/-- Adding parts one after the other never fails and folds them into the registry. -/
theorem run_forM_addPart (module : String) (all : List ScriptPart) (snippets : Snippets) :
    (all.forM fun part => modify fun snippets => addPart module snippets part :
      ExceptT AssemblyError (StateM Snippets) PUnit).run.run snippets =
        (.ok (), all.foldl (addPart module) snippets) := by
  induction all generalizing snippets with
  | nil => rfl
  | cons part rest ih =>
      rw [List.foldl_cons]
      exact ih _

/-- In place, a script leaves the registry that is returned otherwise, or the one that was there. -/
theorem run_addModuleInPlace (parse? : Script.Parser) (module source : String) (path : Path)
    (snippets : Snippets) :
    (addModuleInPlace parse? module source path).run.run snippets =
      match snippets.addModuleWith parse? module source path with
      | .ok next => (.ok (), next)
      | .error cause => (.error cause, snippets) := by
  unfold addModuleInPlace addModuleWith
  cases parse? source with
  | none => rfl
  | some definitions => exact run_forM_addPart module _ _

/-- Whatever parser reports definitions in ascending rows, a script that it refuses leaves a registry
as it is, and of one that it reads the registry has what is between these rows. The parser of the
program is such a one, and the definitions that it reports are those of the top-level statements. -/
theorem addModule_exact (snippets : Snippets) (module source : String) (path : Path) :
    Script.Ascending Script.definitions? ∧
    (∀ definitions, Script.definitions? source = some definitions →
      Script.Outlines source definitions) ∧
    ∀ parse? : Script.Parser, Script.Ascending parse? →
      match parse? source with
      | none =>
          snippets.addModuleWith parse? module source path = .error (.scriptInvalid path) ∧
            (addModuleInPlace parse? module source path).run.run snippets =
              (.error (.scriptInvalid path), snippets)
      | some definitions =>
          ∃ next, snippets.addModuleWith parse? module source path = .ok next ∧
            (addModuleInPlace parse? module source path).run.run snippets = (.ok (), next) ∧
              Extraction ⟨module, Text.lines source.toList, definitions⟩ snippets next := by
  refine ⟨Script.ascending_definitions?, fun _ => Script.outlines_of_definitions?,
    fun parse? ascending => ?_⟩
  cases read : parse? source with
  | none =>
      have refused : snippets.addModuleWith parse? module source path =
          .error (.scriptInvalid path) := by
        rw [addModuleWith, read]
      refine ⟨refused, ?_⟩
      rw [run_addModuleInPlace, refused]
  | some definitions =>
      have added : snippets.addModuleWith parse? module source path =
          .ok (snippets.addDefinitions module (Text.lines source.toList) definitions) := by
        rw [addModuleWith, read]
      refine ⟨_, added, ?_, ?_⟩
      · rw [run_addModuleInPlace, added]
      · exact @extraction_of_ascending snippets ⟨module, _, definitions⟩
          (ascending source definitions read)

/-- A script with a function that is defined twice, the second time with a decorator, and with a
class. -/
def sampleSource : String :=
  "import os\n\n\ndef run():\n    return 1\n\n" ++
    "@retry\ndef run():\n    return 2\n\n\nclass C:\n    pass\n"

/-- What the script defines. -/
def sampleDefinitions : List Definition :=
  let run : Script.Word := ⟨"run", List.all_eq_true.1 (by decide)⟩
  [⟨3, some run⟩, ⟨6, some run⟩, ⟨11, none⟩]

/-- The function has the lines of its second definition, up to the class. -/
theorem addModule_exact_sample : Script.definitions? sampleSource = some sampleDefinitions ∧
    ∃ next, empty.addModule "a" sampleSource ⟨"a.py"⟩ = .ok next ∧
      ∃ text, next.get? "a.run" = some text ∧
        Trimmed ["@retry".toList, "def run():".toList, "    return 2".toList, [], []] text := by
  have read : Script.definitions? sampleSource = some sampleDefinitions := by decide +kernel
  have exact :=
    (addModule_exact empty "a" sampleSource ⟨"a.py"⟩).2.2 _ Script.ascending_definitions?
  rw [read] at exact
  obtain ⟨next, added, -, extraction⟩ := exact
  refine ⟨read, next, added, ?_⟩
  exact extraction.functions [_] _ [_] "run" rfl rfl (by decide)

end Snippets

end Runbook
