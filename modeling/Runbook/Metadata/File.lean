import Runbook.Metadata.Error
import Runbook.Json.Reader
import Runbook.Tag

/-!
# Metadata files

A metadata file is a path with the JSON value that stands there. It describes an alarm when it
names one, or when its tag, or else its place, says so.
-/

namespace Runbook

/-- A metadata file as it is read, before any check. -/
structure MetadataFile where
  path : Path
  raw : Json

namespace MetadataFile

/-- The file of a text at a path. -/
def ofText (path : Path) (text : String) : Except MetadataError MetadataFile :=
  match Json.parse? text with
  | some raw => .ok ⟨path, raw⟩
  | none => .error (.malformed path)

/-- The metadata file of what a path holds. -/
def ofContent (path : Path) (content : Except FileError String) :
    Except MetadataError MetadataFile :=
  match content with
  | .ok text => ofText path text
  | .error cause => .error (.read path cause)

/-- The metadata file at a path. -/
def load (files : Files) (path : Path) : Except MetadataError MetadataFile :=
  ofContent path (files.read path)

/-- The value of a text attribute. -/
def attribute? (file : MetadataFile) (key : String) : Option String :=
  (file.raw.get? key).bind Json.asString

/-- The declared document name. -/
def documentName? (file : MetadataFile) : Option String := file.attribute? "documentName"

/-- The declared tag. -/
def tag? (file : MetadataFile) : Option String := file.attribute? "tag"

/-- The directory that the file lies in. -/
def location (file : MetadataFile) : Path := file.path.parent?.getD ⟨"."⟩

/-- The category that the declared tag names, or the file's place where no tag can be read. -/
def category? (root : Path) (file : MetadataFile) : Option Category :=
  match file.tag?.bind Tag.parse? with
  | some tag => tag.category?
  | none => (Tag.ofMetadataPath? root file.path).bind Tag.category?

/-- Does the file describe an alarm? -/
def isAlarm (root : Path) (file : MetadataFile) : Bool :=
  (file.raw.get? "alarmName").isSome || file.category? root = some .alarm

end MetadataFile

end Runbook
