import Runbook.Metadata.File

/-!
# Stores of metadata

All metadata files below a root, in path order. A store is found by a walk, which reads the
files in that order and fails at the first that cannot be read, or made from files in any
order.
-/

namespace Runbook

/-- The metadata files below a root. -/
structure MetadataStore where
  root : Path
  files : List MetadataFile

namespace MetadataStore

/-- Does one file stay in front of another in path order? -/
def inOrder (a b : MetadataFile) : Bool := !b.path.before a.path

/-- The store of some files. -/
def ofFiles (root : Path) (files : List MetadataFile) : MetadataStore :=
  ⟨root, files.mergeSort inOrder⟩

/-- Is a file found by a walk a metadata file? -/
def isMetadata (found : Files.Found) : Bool := found.names.getLast? = some Tag.metadataFileName

/-- The store of the metadata files below a root. -/
def discover (files : Files) (root : Path) : Except MetadataError MetadataStore :=
  if files.isDirectory root then do
    let found := (files.walk root).filter isMetadata
    let loaded ← found.mapM fun found => MetadataFile.ofContent found.path found.read
    return ⟨root, loaded⟩
  else .error (.rootMissing root)

/-- The first file that declares a document name. -/
def findDocument? (store : MetadataStore) (name : String) : Option MetadataFile :=
  store.files.find? fun file => file.documentName? = some name

/-- The files of documents, without those of alarms. -/
def documents (store : MetadataStore) : List MetadataFile :=
  store.files.filter fun file => !file.isAlarm store.root

end MetadataStore

end Runbook
