import Runbook.Assembly.Error
import Runbook.Script.Statement
import Runbook.Text.Blank

/-!
# Snippets

A snippet is a piece of a helper script under an identifier, `<module>.<function>`. A script is
cut at the rows of its top-level definitions: the lines before the first are the module's
imports, and each function has the lines up to the next definition. The cut loses no line.
-/

namespace Runbook

/-- The snippets known to a run, by identifier. -/
structure Snippets where
  table : Table String String

/-- A part of a script between two cuts: the function defined there, and the lines. -/
structure ScriptPart where
  function : Option Script.Word
  lines : List (List Char)
deriving DecidableEq, Repr

namespace Snippets

/-- No snippets. -/
def empty : Snippets := ⟨Table.empty⟩

/-- The text of a snippet. -/
def get? (snippets : Snippets) (id : String) : Option String := snippets.table.get? id

/-- The snippets with a text set. -/
def insert (snippets : Snippets) (id text : String) : Snippets := ⟨snippets.table.insert id text⟩

/-- The name of the snippet with the lines before the first definition. -/
def importsName : String := "imports"

/-- Lines without the blank ones at the end, joined by line feeds. -/
def partText (lines : List (List Char)) : String :=
  let kept := (lines.reverse.dropWhile Text.isAllBlank).reverse
  String.ofList (Text.joinWith ['\n'] kept)

/-- The lines before the first definition. -/
def importLines (lines : List (List Char)) : List Script.Definition → List (List Char)
  | [] => lines
  | first :: _ => lines.take first.row

/-- The parts of a script from its first definition on. -/
def parts (lines : List (List Char)) : List Script.Definition → List ScriptPart
  | [] => []
  | [last] => [⟨last.function, lines.drop last.row⟩]
  | definition :: next :: rest =>
      ⟨definition.function, (lines.take next.row).drop definition.row⟩
        :: parts lines (next :: rest)

/-- The snippets with one part of a module added; a class adds none. -/
def addPart (module : String) (snippets : Snippets) (part : ScriptPart) : Snippets :=
  match part.function with
  | some name => snippets.insert (module ++ "." ++ name.text) (partText part.lines)
  | none => snippets

/-- The snippets with those of a script's lines, cut at its definitions. -/
def addDefinitions (snippets : Snippets) (module : String) (lines : List (List Char))
    (definitions : List Script.Definition) : Snippets :=
  (parts lines definitions).foldl (addPart module)
    (snippets.insert (module ++ "." ++ importsName) (partText (importLines lines definitions)))

/-- The snippets with those of one script, as a parser reads it. -/
def addModuleWith (parse? : Script.Parser) (snippets : Snippets) (module source : String)
    (path : Path) : Except AssemblyError Snippets :=
  match parse? source with
  | none => .error (.scriptInvalid path)
  | some definitions =>
      .ok (snippets.addDefinitions module (Text.lines source.toList) definitions)

/-- The snippets with those of one script. -/
def addModule (snippets : Snippets) (module source : String) (path : Path) :
    Except AssemblyError Snippets :=
  snippets.addModuleWith Script.definitions? module source path

/-- What a file name ends in when it names a script. -/
def scriptEnding : List Char := ".py".toList

/-- A script's file name without its ending. -/
def scriptStem? (name : String) : Option String :=
  match Text.dropLead scriptEnding.reverse name.toList.reverse with
  | some (c :: stem) => some (String.ofList (c :: stem).reverse)
  | _ => none

/-- The module of a script, from the names that lead to it. A name of a dot and the ending keeps the
dot of its ending: with it there are two, which name no file and have no ending to take away. -/
def module? (names : List String) : Option String := do
  let stem ← scriptStem? (← names.getLast?)
  let last := if stem = "." then ".." else stem
  let path : Path := ⟨Text.commaJoin "/" (names.dropLast ++ [last])⟩
  return Text.commaJoin "." (path.components.map Component.text)

/-- The snippets with those of one file of the scripts directory; a file that is no script
adds none. -/
def addFileWith (parse? : Script.Parser) (snippets : Snippets) (found : Files.Found) :
    Except AssemblyError Snippets :=
  match module? found.names with
  | none => .ok snippets
  | some module =>
      match found.read with
      | .error cause => .error (.scriptRead found.path cause)
      | .ok source => snippets.addModuleWith parse? module source found.path

/-- The snippets of all scripts below a directory, as a parser reads them; none where there is no
directory. -/
def ofDirectoryWith (parse? : Script.Parser) (files : Files) (scripts : Path) :
    Except AssemblyError Snippets :=
  if files.isDirectory scripts then (files.walk scripts).foldlM (addFileWith parse?) empty
  else .ok empty

/-- The snippets of all scripts below a directory. -/
def ofDirectory (files : Files) (scripts : Path) : Except AssemblyError Snippets :=
  ofDirectoryWith Script.definitions? files scripts

/-- The parts of a script hold its lines from the first definition on, each once and in order,
when the rows ascend. -/
theorem flatMap_parts (lines : List (List Char)) (first : Script.Definition)
    (rest : List Script.Definition)
    (ascending : (first :: rest).Pairwise fun a b => a.row ≤ b.row) :
    (parts lines (first :: rest)).flatMap ScriptPart.lines = lines.drop first.row := by
  induction rest generalizing first with
  | nil => simp [parts]
  | cons next rest ih =>
      obtain ⟨above, tail⟩ := List.pairwise_cons.1 ascending
      have below : first.row ≤ next.row := above next (by simp)
      simp only [parts, List.flatMap_cons, ih next tail]
      rw [List.drop_take]
      have split := List.take_append_drop (next.row - first.row) (lines.drop first.row)
      rw [List.drop_drop, Nat.add_sub_cancel' below] at split
      exact split

/-- The imports and the parts are the script's lines. -/
theorem importLines_append_parts (lines : List (List Char)) (definitions : List Script.Definition)
    (ascending : definitions.Pairwise fun a b => a.row ≤ b.row) :
    importLines lines definitions ++ (parts lines definitions).flatMap ScriptPart.lines = lines := by
  cases definitions with
  | nil => simp [importLines, parts]
  | cons first rest =>
      rw [flatMap_parts lines first rest ascending]
      exact List.take_append_drop first.row lines

end Snippets

end Runbook
