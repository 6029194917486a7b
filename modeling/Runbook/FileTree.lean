import Runbook.Path
import Runbook.Table

/-!
# File trees

The files that a run works on, as a value: directories with their entries, regular files with
their text, and symbolic links. Reading a path follows links; a walk does not, and lists regular
files in the order of their names at each level. It passes over directories that cannot be listed.
-/

namespace Runbook

/-- A file tree. A file whose bytes are no text holds nothing. -/
inductive FileTree where
  | file (text : Option String)
  | directory (children : List (String × FileTree))
  | link (target : String)

/-- Why a path cannot be read. -/
inductive FileError where
  | notFound
  | notDirectory
  | isDirectory
  | tooManyLinks
  | nameTooLong
  | nulInPath
  | notText
deriving DecidableEq, Repr

/-- The display text of an error. -/
def FileError.message : FileError → String
  | .notFound => "No such file or directory (os error 2)"
  | .notDirectory => "Not a directory (os error 20)"
  | .isDirectory => "Is a directory (os error 21)"
  | .tooManyLinks => "Too many levels of symbolic links (os error 40)"
  | .nameTooLong => "File name too long (os error 36)"
  | .nulInPath => "file name contained an unexpected NUL byte"
  | .notText => "stream did not contain valid UTF-8"

namespace FileTree

/-- The value of the first entry with a name. -/
def find? (name : String) : List (String × FileTree) → Option FileTree
  | [] => none
  | entry :: rest => if entry.1 = name then some entry.2 else find? name rest

/-- The entries of a directory. -/
def children : FileTree → List (String × FileTree)
  | directory children => children
  | _ => []

/-- Is this a directory? -/
def isDirectory : FileTree → Bool
  | directory _ => true
  | _ => false

/-- The tree with `entry` at the end of a list of names; directories on the way are made. -/
def put (entry : FileTree) : List String → FileTree → FileTree
  | [], _ => entry
  | name :: names, tree =>
      let below := (find? name tree.children).getD (directory [])
      directory (insertEntry name (put entry names below) tree.children)

/-- The tree without what stands at the end of a list of names. -/
def remove : List String → FileTree → FileTree
  | [], tree => tree
  | [name], directory children => directory (children.filter fun entry => entry.1 ≠ name)
  | name :: names, directory children =>
      match find? name children with
      | some below => directory (insertEntry name (remove names below) children)
      | none => directory children
  | _, tree => tree

mutual

/-- The regular files of a tree, each with the names that lead to it. A directory's entries come
in the order of their names, and each is listed with all below it. -/
def walk : FileTree → List (List String × Option String)
  | file text => [([], text)]
  | directory children =>
      (walkEntries children).flatMap fun entry =>
        entry.2.map fun found => (entry.1 :: found.1, found.2)
  | link _ => []

/-- The regular files of each entry of a directory, in the order of the entries' names. -/
def walkEntries : List (String × FileTree) → List (String × List (List String × Option String))
  | [] => []
  | (name, tree) :: rest => insertEntry name (walk tree) (walkEntries rest)

end

/-- The most links that one path leads through. -/
def maxLinks : Nat := 40

/-- The most bytes of a name. -/
def maxNameBytes : Nat := 255

/-- The most bytes of a path. -/
def maxPathBytes : Nat := 4095

/-- The pieces of a path between its slashes. -/
def pieces (text : String) : List String := (Text.splitOn '/' text.toList).map String.ofList

/-- What a list of pieces leads to from the directory on top of `stack`, below which are the
directories that it lies in. -/
def follow (top : FileTree) (links : Nat) (stack : List FileTree) (path : List String) :
    Except FileError FileTree :=
  match path with
  | [] =>
      match stack with
      | here :: _ => .ok here
      | [] => .ok top
  | piece :: rest =>
      match stack with
      | [] => follow top links [top] rest
      | here :: above =>
          if !here.isDirectory then .error .notDirectory
          else if piece = "" ∨ piece = "." then follow top links (here :: above) rest
          else if piece = ".." then
            follow top links (if above.isEmpty then [here] else above) rest
          else if maxNameBytes < piece.utf8ByteSize then .error .nameTooLong
          else
            match find? piece here.children with
            | none => .error .notFound
            | some (link target) =>
                match links with
                | 0 => .error .tooManyLinks
                | links + 1 =>
                    if target.isEmpty then .error .notFound
                    else
                      let start := if target.startsWith "/" then [top] else here :: above
                      follow top links start (pieces target ++ rest)
            | some tree => follow top links (tree :: here :: above) rest
termination_by (links, path.length)

end FileTree

/-- A file tree seen from one of its directories. -/
structure Files where
  top : FileTree
  current : List String

namespace Files

/-- The files of a tree whose current directory is the only one that matters. -/
def under (name : String) (tree : FileTree) : Files := ⟨.directory [(name, tree)], [name]⟩

/-- The directories from the current one up to the top. -/
def stack (files : Files) : List FileTree :=
  let rec descend (above : List FileTree) (tree : FileTree) : List String → List FileTree
    | [] => tree :: above
    | name :: names => descend (tree :: above) ((FileTree.find? name tree.children).getD tree) names
  descend [] files.top files.current

/-- What a path leads to. -/
def resolve (files : Files) (path : Path) : Except FileError FileTree :=
  if path.text.toList.contains '\x00' then .error .nulInPath
  else if path.text.isEmpty then .error .notFound
  else if FileTree.maxPathBytes < path.text.utf8ByteSize then .error .nameTooLong
  else
    let start := if path.text.startsWith "/" then [files.top] else files.stack
    FileTree.follow files.top FileTree.maxLinks start (FileTree.pieces path.text)

/-- Does a path lead to a directory? -/
def isDirectory (files : Files) (path : Path) : Bool :=
  match files.resolve path with
  | .ok tree => tree.isDirectory
  | .error _ => false

/-- Does a path lead anywhere? -/
def present (files : Files) (path : Path) : Bool :=
  match files.resolve path with
  | .ok _ => true
  | .error _ => false

/-- Does a path lead to a regular file? -/
def isFile (files : Files) (path : Path) : Bool :=
  match files.resolve path with
  | .ok (.file _) => true
  | _ => false

/-- The text of a regular file's content. -/
def textOf (content : Option String) : Except FileError String :=
  match content with
  | some text => .ok text
  | none => .error .notText

/-- The text of the file that a path leads to. -/
def read (files : Files) (path : Path) : Except FileError String := do
  match ← files.resolve path with
  | .file content => textOf content
  | _ => .error .isDirectory

/-- A regular file found by a walk: its path, the names below the start, and its content. -/
structure Found where
  path : Path
  names : List String
  content : Option String

/-- The text of a file that was found. -/
def Found.read (found : Found) : Except FileError String :=
  if FileTree.maxPathBytes < found.path.text.utf8ByteSize then .error .nameTooLong
  else textOf found.content

/-- Where a list of names leads to from a directory. -/
def place (root : Path) (names : List String) : Path := names.foldl Path.join root

/-- Can the directory that an entry lies in be listed? A path that is too long opens nothing. -/
def isListed (root : Path) (names : List String) : Bool :=
  (place root names.dropLast).text.utf8ByteSize ≤ FileTree.maxPathBytes

/-- The regular files below a directory, in the order of a walk. What lies in a directory that
cannot be listed is left out. -/
def walk (files : Files) (root : Path) : List Found :=
  match files.resolve root with
  | .ok tree =>
      (tree.walk.filter fun found => isListed root found.1).map fun found =>
        ⟨place root found.1, found.1, found.2⟩
  | .error _ => []

/-- The names on the way from the top to a path below the current directory. -/
def names (files : Files) (path : Path) : List String :=
  files.current ++ (path.components.map Component.text).filter fun name => name ≠ "."

/-- The files with an entry at a path below the current directory. -/
def put (files : Files) (path : Path) (entry : FileTree) : Files :=
  { files with top := FileTree.put entry (files.names path) files.top }

/-- The files without what is at a path below the current directory. -/
def remove (files : Files) (path : Path) : Files :=
  { files with top := FileTree.remove (files.names path) files.top }

end Files

end Runbook
