import Mathlib.Algebra.Ring.Nat
import Mathlib.Data.List.Dedup
import Mathlib.Data.List.Nodup
import Runbook.Assembly.Snippet
import Runbook.Proofs.Except
import Runbook.Proofs.FileTree
import Runbook.Proofs.Table
import Runbook.Proofs.Text.Occurrence

/-!
# Which scripts share a snippet

A registry is the table of the entries of its scripts (`table_of_ofDirectory`), in which of several
entries under one identifier the last one stays. A name holds no dot, so identifiers are equal
only within one module (`ScriptModule.id_inj`). So none is shared exactly when the modules differ
and no function is called as the imports are (`registry_exact`).
-/

namespace Runbook

/-- A script as it is read: its module, its lines, and what is defined at its top level. -/
structure ScriptModule where
  module : String
  lines : List (List Char)
  definitions : List Script.Definition
deriving DecidableEq, Repr

namespace ScriptModule

open Snippets (importsName partText importLines parts)

/-- The names of the functions, in the order of their definitions. -/
def functions (script : ScriptModule) : List String :=
  script.definitions.filterMap fun definition => definition.function.map Script.Word.text

/-- The identifier of a snippet of the module. -/
def id (script : ScriptModule) (name : String) : String := script.module ++ "." ++ name

/-- The lines before the first definition, as a snippet. -/
def imports (script : ScriptModule) : String :=
  partText (importLines script.lines script.definitions)

/-- What a script sets in a registry, in order. -/
def entries (script : ScriptModule) : List (String × String) :=
  (script.id importsName, script.imports) ::
    (parts script.lines script.definitions).filterMap fun part =>
      part.function.map fun name => (script.id name.text, partText part.lines)

/-- An identifier for the imports, and one for each function name. -/
def ids (script : ScriptModule) : List String :=
  script.id importsName :: script.functions.dedup.map script.id

variable {script other : ScriptModule} {name another : String}

/-- The parts of a script are named by its definitions. -/
theorem function_parts (lines : List (List Char)) (definitions : List Script.Definition) :
    (parts lines definitions).map ScriptPart.function =
      definitions.map Script.Definition.function := by
  fun_induction parts lines definitions with
  | case1 => rfl
  | case2 => rfl
  | case3 definition next rest ih =>
      rw [List.map_cons, ih]
      rfl

/-- A script sets its imports and one entry for each function. -/
theorem keys_entries (script : ScriptModule) :
    script.entries.map Prod.fst = script.id importsName :: script.functions.map script.id := by
  have named := congrArg (List.filterMap fun function : Option Script.Word =>
    function.map fun name => script.id name.text) (function_parts script.lines script.definitions)
  rw [List.filterMap_map, List.filterMap_map] at named
  simpa [entries, functions, List.map_filterMap, Function.comp_def] using named

/-- Different names of one module have different ids. -/
theorem id_injective (script : ScriptModule) : Function.Injective script.id := by
  intro name another same
  have texts := congrArg String.toList same
  simp only [id, String.toList_append, List.append_cancel_left_eq] at texts
  exact String.toList_inj.1 texts

/-- What is set under an identifier: the imports, or the lines of a definition of the function. -/
theorem mem_entries_iff {text : String} : (script.id name, text) ∈ script.entries ↔
    name = importsName ∧ text = script.imports ∨
      ∃ part ∈ parts script.lines script.definitions,
        part.function.map Script.Word.text = some name ∧ text = partText part.lines := by
  simp only [entries, List.mem_cons, Prod.mk.injEq, script.id_injective.eq_iff,
    List.mem_filterMap, Option.map_eq_some_iff]
  refine or_congr_right ⟨?_, ?_⟩
  · rintro ⟨part, inside, word, named, same, rfl⟩
    exact ⟨part, inside, ⟨word, named, same⟩, rfl⟩
  · rintro ⟨part, inside, ⟨word, named, same⟩, rfl⟩
    exact ⟨part, inside, word, named, same, rfl⟩

/-- The name of a part is that of a function of the script. -/
theorem mem_functions_of_part {part : ScriptPart}
    (inside : part ∈ parts script.lines script.definitions)
    (named : part.function.map Script.Word.text = some name) : name ∈ script.functions := by
  have listed : part.function ∈ script.definitions.map Script.Definition.function := by
    rw [← function_parts script.lines]
    exact List.mem_map_of_mem inside
  obtain ⟨definition, member, same⟩ := List.mem_map.1 listed
  exact List.mem_filterMap.2 ⟨definition, member, by rw [same, named]⟩

/-- The ids of a script are the keys that it sets. -/
theorem mem_ids_iff {key : String} :
    key ∈ script.ids ↔ key ∈ script.entries.map Prod.fst := by
  simp [ids, keys_entries]

/-- Every script has an id for its imports. -/
theorem id_importsName_mem (script : ScriptModule) : script.id importsName ∈ script.ids :=
  List.mem_cons_self

/-! ### Identifiers -/

/-- The name of a function holds no dot. -/
theorem dot_not_mem_of_mem_functions (member : name ∈ script.functions) :
    '.' ∉ name.toList := by
  obtain ⟨definition, _, same⟩ := List.mem_filterMap.1 member
  obtain ⟨word, _, rfl⟩ := Option.map_eq_some_iff.1 same
  intro dot
  exact absurd (word.continued '.' dot) (by decide)

/-- An identifier has one module and one name, when names hold no dots. -/
theorem id_inj (plain : '.' ∉ name.toList) (another_plain : '.' ∉ another.toList)
    (same : script.id name = other.id another) :
    script.module = other.module ∧ name = another := by
  have split : script.module.toList ++ '.' :: name.toList =
      other.module.toList ++ '.' :: another.toList := by
    simpa [id] using congrArg String.toList same
  have last := Text.eq_of_append_cons_eq plain another_plain split
  rw [last] at split
  exact ⟨String.toList_inj.1 (List.append_cancel_right split), String.toList_inj.1 last⟩

/-- An id of a script is made of a name without dots. -/
theorem exists_of_mem_ids {key : String} (member : key ∈ script.ids) :
    ∃ name, '.' ∉ name.toList ∧ key = script.id name := by
  rcases List.mem_cons.1 member with rfl | member
  · exact ⟨importsName, by decide, rfl⟩
  · obtain ⟨name, inside, rfl⟩ := List.mem_map.1 member
    exact ⟨name, dot_not_mem_of_mem_functions (List.mem_dedup.1 inside), rfl⟩

/-- Two scripts share an identifier exactly when they share their module. -/
theorem disjoint_ids_iff :
    List.Disjoint script.ids other.ids ↔ script.module ≠ other.module := by
  constructor
  · intro apart same
    have shared : script.id importsName = other.id importsName := by rw [id, id, same]
    exact apart script.id_importsName_mem (shared ▸ other.id_importsName_mem)
  · intro differ key inside outside
    obtain ⟨name, plain, rfl⟩ := exists_of_mem_ids inside
    obtain ⟨another, another_plain, same⟩ := exists_of_mem_ids outside
    exact differ (id_inj plain another_plain same).1

/-- The identifiers of one script differ exactly when no function is called as the imports are. -/
theorem nodup_ids_iff : script.ids.Nodup ↔ importsName ∉ script.functions := by
  have others : (script.functions.dedup.map script.id).Nodup := by
    refine List.Nodup.map_on (fun name inside another outside same => ?_) (List.nodup_dedup _)
    exact (id_inj (dot_not_mem_of_mem_functions (List.mem_dedup.1 inside))
      (dot_not_mem_of_mem_functions (List.mem_dedup.1 outside)) same).2
  rw [ids, List.nodup_cons, and_iff_left others, not_iff_not, List.mem_map]
  constructor
  · rintro ⟨name, inside, same⟩
    have plain := dot_not_mem_of_mem_functions (List.mem_dedup.1 inside)
    obtain rfl := (id_inj plain (by decide) same).2
    exact List.mem_dedup.1 inside
  · intro inside
    exact ⟨importsName, List.mem_dedup.2 inside, rfl⟩

end ScriptModule

namespace Snippets

open ScriptModule (id ids entries functions)

variable {parse? : Script.Parser} {snippets next : Snippets} {files : Files} {directory : Path}

/-! ### The scripts of a directory -/

/-- The script that a file holds, where it is one and a parser can read it. -/
def scriptModule? (parse? : Script.Parser) (found : Files.Found) : Option ScriptModule := do
  let module ← module? found.names
  let source ← found.read.toOption
  let definitions ← parse? source
  return ⟨module, Text.lines source.toList, definitions⟩

/-- The scripts of a directory, in the order of the walk. -/
def scriptModules (parse? : Script.Parser) (files : Files) (directory : Path) :
    List ScriptModule :=
  if files.isDirectory directory then (files.walk directory).filterMap (scriptModule? parse?)
  else []

/-- A table with entries set one after the other. -/
def setAll (table : Table String String) (entries : List (String × String)) :
    Table String String :=
  entries.foldl (fun table entry => table.insert entry.1 entry.2) table

/-- Entries are set one list after the other. -/
theorem setAll_append (table : Table String String) (front back : List (String × String)) :
    setAll table (front ++ back) = setAll (setAll table front) back :=
  List.foldl_append

/-- Adding a part sets the entry of its function, where it has one. -/
theorem table_addPart (module : String) (part : ScriptPart) :
    (addPart module snippets part).table =
      setAll snippets.table (part.function.map fun name =>
        (module ++ "." ++ name.text, partText part.lines)).toList := by
  cases named : part.function with
  | none => simp [addPart, named, setAll]
  | some name => simp [addPart, named, setAll, insert]

/-- Adding parts sets the entries of their functions. -/
theorem table_foldl_addPart (module : String) (all : List ScriptPart) (snippets : Snippets) :
    (all.foldl (addPart module) snippets).table =
      setAll snippets.table (all.filterMap fun part => part.function.map fun name =>
        (module ++ "." ++ name.text, partText part.lines)) := by
  induction all generalizing snippets with
  | nil => rfl
  | cons part rest ih =>
      rw [List.foldl_cons, ih, table_addPart, ← setAll_append]
      cases named : part.function <;> simp [named]

/-- Adding a script sets its entries. -/
theorem table_addDefinitions (snippets : Snippets) (script : ScriptModule) :
    (snippets.addDefinitions script.module script.lines script.definitions).table =
      setAll snippets.table script.entries :=
  table_foldl_addPart _ _ _

/-- A file that holds a script adds its entries, and a file that is none adds nothing. Every script
can be read where this succeeds. -/
theorem table_of_addFile {found : Files.Found} (added : addFileWith parse? snippets found = .ok next) :
    next.table = setAll snippets.table ((scriptModule? parse? found).toList.flatMap entries) ∧
      (scriptModule? parse? found).map ScriptModule.module = module? found.names := by
  unfold addFileWith at added
  split at added
  · rename_i none
    cases added
    simp [scriptModule?, none, setAll]
  · rename_i module named
    split at added
    · cases added
    · rename_i source read
      unfold addModuleWith at added
      split at added
      · cases added
      · rename_i definitions parsed
        cases added
        have script : scriptModule? parse? found =
            some ⟨module, Text.lines source.toList, definitions⟩ := by
          simp [scriptModule?, named, read, parsed, Except.toOption]
        rw [script, named]
        exact ⟨by simpa using table_addDefinitions snippets ⟨module, _, definitions⟩, rfl⟩

/-- Adding files sets the entries of those that are scripts, in the order of the files, and passes
over the others. -/
theorem table_of_foldlM {found : List Files.Found}
    (added : found.foldlM (addFileWith parse?) snippets = .ok next) :
    next.table = setAll snippets.table ((found.filterMap (scriptModule? parse?)).flatMap entries) ∧
      (found.filterMap (scriptModule? parse?)).map ScriptModule.module =
        found.filterMap fun file => module? file.names := by
  induction found generalizing snippets with
  | nil =>
      cases added
      exact ⟨rfl, rfl⟩
  | cons file rest ih =>
      rw [List.foldlM_cons] at added
      obtain ⟨between, first, later⟩ := bind_eq_ok_iff.1 added
      obtain ⟨here, named⟩ := table_of_addFile first
      obtain ⟨table, modules⟩ := ih later
      rw [table, here, ← setAll_append, List.filterMap_cons, List.filterMap_cons, ← named,
        ← modules]
      cases scriptModule? parse? file with
      | none => exact ⟨by simp, rfl⟩
      | some script => exact ⟨by simp, rfl⟩

/-- A registry is the table of the entries of all scripts. -/
theorem table_of_ofDirectory (built : ofDirectoryWith parse? files directory = .ok snippets) :
    snippets.table = Table.ofList ((scriptModules parse? files directory).flatMap entries) ∧
      (files.isDirectory directory = true →
        (scriptModules parse? files directory).map ScriptModule.module =
          (files.walk directory).filterMap fun file => module? file.names) := by
  unfold ofDirectoryWith at built
  split at built
  · rename_i inside
    rw [scriptModules, if_pos inside]
    obtain ⟨table, modules⟩ := table_of_foldlM built
    exact ⟨table, fun _ => modules⟩
  · rename_i outside
    cases built
    rw [scriptModules, if_neg outside]
    exact ⟨rfl, fun inside => absurd inside outside⟩

/-! ### What is not shared -/

/-- No two scripts have one module, and no function is called as the imports are. -/
structure Unambiguous (scripts : List ScriptModule) : Prop where
  modules : (scripts.map ScriptModule.module).Nodup
  functions : ∀ script ∈ scripts, importsName ∉ script.functions

variable {scripts : List ScriptModule}

/-- No id is set twice exactly where the scripts are unambiguous. -/
theorem nodup_flatMap_ids_iff : (scripts.flatMap ids).Nodup ↔ Unambiguous scripts := by
  rw [List.nodup_flatMap]
  constructor
  · rintro ⟨each, apart⟩
    refine ⟨List.pairwise_map.2 (apart.imp fun disjoint => ?_), fun script member => ?_⟩
    · exact ScriptModule.disjoint_ids_iff.1 disjoint
    · exact ScriptModule.nodup_ids_iff.1 (each script member)
  · rintro ⟨modules, functions⟩
    refine ⟨fun script member => ScriptModule.nodup_ids_iff.2 (functions script member), ?_⟩
    exact (List.pairwise_map.1 modules).imp fun differ => ScriptModule.disjoint_ids_iff.2 differ

/-- How many identifiers there are when none is shared. -/
theorem length_flatMap_ids : (scripts.flatMap ids).length =
    (scripts.map fun script => 1 + script.functions.dedup.length).sum := by
  rw [List.length_flatMap]
  congr 1
  refine List.map_congr_left fun script _ => ?_
  rw [ids, List.length_cons, List.length_map, Nat.add_comm]

/-- A table of all entries has an identifier for each of them exactly when none is shared. -/
theorem size_eq_iff : (Table.ofList (scripts.flatMap entries)).size =
    (scripts.map fun script => 1 + script.functions.dedup.length).sum ↔ Unambiguous scripts := by
  have same : ((scripts.flatMap entries).map Prod.fst).dedup.length =
      (scripts.flatMap ids).dedup.length := by
    refine List.Perm.length_eq
      ((List.perm_ext_iff_of_nodup (List.nodup_dedup _) (List.nodup_dedup _)).2 fun key => ?_)
    rw [List.mem_dedup, List.mem_dedup, List.map_flatMap, List.mem_flatMap, List.mem_flatMap]
    simp only [ScriptModule.mem_ids_iff]
  rw [Table.size_ofList, same, ← length_flatMap_ids, ← nodup_flatMap_ids_iff]
  constructor
  · intro whole
    rw [← List.dedup_eq_self]
    exact (List.dedup_sublist _).eq_of_length whole
  · intro distinct
    rw [distinct.dedup]

/-- Where no identifier is shared, what is set under one comes from one script. -/
theorem Unambiguous.entries_of_mem (unambiguous : Unambiguous scripts) {script : ScriptModule}
    (member : script ∈ scripts) {name text : String} (plain : '.' ∉ name.toList)
    (listed : (script.id name, text) ∈ scripts.flatMap entries) :
    (script.id name, text) ∈ script.entries := by
  obtain ⟨other, inside, found⟩ := List.mem_flatMap.1 listed
  have key := ScriptModule.mem_ids_iff.2 (List.mem_map_of_mem found)
  obtain ⟨another, another_plain, same⟩ := ScriptModule.exists_of_mem_ids key
  have modules := (ScriptModule.id_inj plain another_plain same).1
  obtain rfl := List.inj_on_of_nodup_map unambiguous.modules member inside modules
  exact found

/-- Where no identifier is shared, the imports of each script stay as they are set. -/
theorem Unambiguous.get?_imports (unambiguous : Unambiguous scripts) {script : ScriptModule}
    (member : script ∈ scripts) :
    (Table.ofList (scripts.flatMap entries)).get? (script.id importsName) =
      some script.imports := by
  refine Table.get?_ofList_of_unique
    (List.mem_flatMap.2 ⟨script, member, List.mem_cons_self⟩) fun text listed => ?_
  have own := unambiguous.entries_of_mem member (by decide) listed
  rcases ScriptModule.mem_entries_iff.1 own with ⟨_, same⟩ | ⟨part, inside, named, _⟩
  · exact same
  · exact absurd (ScriptModule.mem_functions_of_part inside named)
      (unambiguous.functions script member)

/-- Where no identifier is shared, a function has the text of one of its definitions. -/
theorem Unambiguous.get?_function (unambiguous : Unambiguous scripts) {script : ScriptModule}
    (member : script ∈ scripts) {name : String} (defined : name ∈ script.functions) :
    ∃ part ∈ parts script.lines script.definitions,
      part.function.map Script.Word.text = some name ∧
        (Table.ofList (scripts.flatMap entries)).get? (script.id name) =
          some (partText part.lines) := by
  have there : script.id name ∈ (Table.ofList (scripts.flatMap entries)).keys := by
    rw [Table.mem_keys_ofList, List.map_flatMap, List.mem_flatMap]
    refine ⟨script, member, ?_⟩
    rw [ScriptModule.keys_entries]
    exact List.mem_cons_of_mem _ (List.mem_map_of_mem defined)
  obtain ⟨text, found⟩ := Table.mem_keys_iff.1 there
  have listed := Table.subset_of_ofList _ (Table.get?_eq_some_iff.1 found)
  have own := unambiguous.entries_of_mem member
    (ScriptModule.dot_not_mem_of_mem_functions defined) listed
  rcases ScriptModule.mem_entries_iff.1 own with ⟨rfl, _⟩ | ⟨part, inside, named, rfl⟩
  · exact absurd defined (unambiguous.functions script member)
  · exact ⟨part, inside, named, found⟩

/-- Whatever parser reads them, the registry of a directory has the snippets of all its scripts. It
has as many as they have function names and imports exactly when no two scripts have one module and
no function is called as the imports are. Then the imports of each script are the lines before its first definition, and each
function has the lines of one of its definitions in its own script. -/
theorem registry_exact (built : ofDirectoryWith parse? files directory = .ok snippets) :
    let scripts := scriptModules parse? files directory
    (files.isDirectory directory = true → scripts.map ScriptModule.module =
      (files.walk directory).filterMap fun file => module? file.names) ∧
    (snippets.table.size = (scripts.map fun script => 1 + script.functions.dedup.length).sum ↔
      Unambiguous scripts) ∧
    (Unambiguous scripts → ∀ script ∈ scripts,
      snippets.get? (script.id importsName) = some script.imports ∧
        ∀ name ∈ script.functions, ∃ part ∈ parts script.lines script.definitions,
          part.function.map Script.Word.text = some name ∧
            snippets.get? (script.id name) = some (partText part.lines)) := by
  intro scripts
  obtain ⟨table, modules⟩ := table_of_ofDirectory built
  simp only [get?, table]
  exact ⟨modules, size_eq_iff, fun unambiguous script member =>
    ⟨unambiguous.get?_imports member, fun _ defined => unambiguous.get?_function member defined⟩⟩

/-! ### A directory of scripts -/

/-- Some files in a directory for scripts. -/
def sampleScripts (children : List (String × FileTree)) : Files :=
  ⟨.directory [("scripts", .directory children)], []⟩

/-- The files that a walk over the directory finds. -/
def foundScripts (children : List (String × FileTree)) : List Files.Found :=
  ((FileTree.directory children).walk.filter fun found => Files.isListed ⟨"scripts"⟩ found.1).map
    fun found => ⟨Files.place ⟨"scripts"⟩ found.1, found.1, found.2⟩

variable {children : List (String × FileTree)}

/-- The directory of the sample is there. -/
theorem resolve_sampleScripts :
    (sampleScripts children).resolve ⟨"scripts"⟩ = .ok (.directory children) := by
  have start : (sampleScripts children).stack = [(sampleScripts children).top] := rfl
  rw [Files.resolve_of_relative (by decide +kernel), start,
    show FileTree.pieces "scripts" = ["scripts"] by decide,
    FileTree.follow_cons_of_find? rfl (by decide) (by decide) rfl (by nofun),
    FileTree.follow_nil]

/-- It is a directory. -/
theorem isDirectory_sampleScripts : (sampleScripts children).isDirectory ⟨"scripts"⟩ = true := by
  rw [Files.isDirectory, resolve_sampleScripts]
  rfl

/-- A walk finds the files of the sample. -/
theorem walk_sampleScripts :
    (sampleScripts children).walk ⟨"scripts"⟩ = foundScripts children := by
  rw [Files.walk, resolve_sampleScripts]
  rfl

/-- The scripts of the sample are those among the files that are found. -/
theorem scriptModules_sampleScripts : scriptModules parse? (sampleScripts children) ⟨"scripts"⟩ =
    (foundScripts children).filterMap (scriptModule? parse?) := by
  rw [scriptModules, if_pos isDirectory_sampleScripts, walk_sampleScripts]

/-- The registry of the sample is read where its files can be added one after the other. -/
theorem exists_ofDirectory_sampleScripts (entries : List (String × String))
    (read : ((foundScripts children).foldlM (addFileWith Script.definitions?) empty).toOption.map
      (fun snippets => snippets.table.entries) = some entries) :
    ∃ snippets, ofDirectory (sampleScripts children) ⟨"scripts"⟩ = .ok snippets ∧
      snippets.table.entries = entries := by
  rw [ofDirectory, ofDirectoryWith, if_pos isDirectory_sampleScripts, walk_sampleScripts]
  cases built : (foundScripts children).foldlM (addFileWith Script.definitions?) empty with
  | error cause => simp [built, Except.toOption] at read
  | ok snippets => exact ⟨snippets, rfl, by simpa [built, Except.toOption] using read⟩

/-- Two scripts of one name in different modules, with a function of one name. -/
def pairChildren : List (String × FileTree) :=
  [("a.py", .file (some "import os\n\n\ndef run():\n    return 1\n")),
    ("b", .directory [("a.py", .file (some "def run():\n    return 2\n"))])]

/-- Neither script replaces a snippet of the other. -/
theorem registry_exact_pair : ∃ snippets,
    ofDirectory (sampleScripts pairChildren) ⟨"scripts"⟩ = .ok snippets ∧
      snippets.table.size = 4 ∧ snippets.get? "a.imports" = some "import os" ∧
        snippets.get? "b.a.imports" = some "" := by
  obtain ⟨snippets, built, -⟩ := @exists_ofDirectory_sampleScripts pairChildren
    [("a.imports", "import os"), ("a.run", "def run():\n    return 1"), ("b.a.imports", ""),
      ("b.a.run", "def run():\n    return 2")] (by decide +kernel)
  obtain ⟨-, size, stays⟩ := registry_exact built
  rw [scriptModules_sampleScripts] at size stays
  have unambiguous : Unambiguous
      ((foundScripts pairChildren).filterMap (scriptModule? Script.definitions?)) :=
    ⟨by decide +kernel, by decide +kernel⟩
  have imports (key text : String)
      (there : ∃ script ∈
          (foundScripts pairChildren).filterMap (scriptModule? Script.definitions?),
        script.id importsName = key ∧ script.imports = text) : snippets.get? key = some text := by
    obtain ⟨script, member, rfl, rfl⟩ := there
    exact (stays unambiguous script member).1
  exact ⟨snippets, built, (size.2 unambiguous).trans (by decide +kernel),
    imports _ _ (by decide +kernel), imports _ _ (by decide +kernel)⟩

/-- A script with a function that is called as the imports are. -/
def reservedChildren : List (String × FileTree) :=
  [("a.py", .file (some "import os\n\n\ndef imports():\n    return 1\n"))]

/-- Two scripts in one module. -/
def dottedChildren : List (String × FileTree) :=
  [("a", .directory [("b.py", .file (some "import os\n"))]),
    ("a.b.py", .file (some "import re\n"))]

/-- A function replaces the imports of its script, and one script the imports of the other. -/
theorem imports_replaced :
    (∃ snippets, ofDirectory (sampleScripts reservedChildren) ⟨"scripts"⟩ = .ok snippets ∧
      (scriptModules Script.definitions? (sampleScripts reservedChildren) ⟨"scripts"⟩).map
        (fun script => (script.id importsName, script.imports, script.functions)) =
          [("a.imports", "import os", ["imports"])] ∧
      snippets.table.entries = [("a.imports", "def imports():\n    return 1")]) ∧
    ∃ snippets, ofDirectory (sampleScripts dottedChildren) ⟨"scripts"⟩ = .ok snippets ∧
      (scriptModules Script.definitions? (sampleScripts dottedChildren) ⟨"scripts"⟩).map
        (fun script => (script.id importsName, script.imports, script.functions)) =
          [("a.b.imports", "import os", []), ("a.b.imports", "import re", [])] ∧
      snippets.table.entries = [("a.b.imports", "import re")] := by
  obtain ⟨reserved, reservedBuilt, reservedEntries⟩ :=
    @exists_ofDirectory_sampleScripts reservedChildren
      [("a.imports", "def imports():\n    return 1")] (by decide +kernel)
  obtain ⟨dotted, dottedBuilt, dottedEntries⟩ :=
    @exists_ofDirectory_sampleScripts dottedChildren [("a.b.imports", "import re")]
      (by decide +kernel)
  rw [scriptModules_sampleScripts, scriptModules_sampleScripts]
  exact ⟨⟨reserved, reservedBuilt, by decide +kernel, reservedEntries⟩,
    dotted, dottedBuilt, by decide +kernel, dottedEntries⟩

end Snippets

end Runbook
