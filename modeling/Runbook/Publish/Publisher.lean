import Runbook.Assembly.Assembler
import Runbook.Metadata.Error
import Runbook.Publish.Service

/-!
# Publishing

A document is assembled, looked up, and then created, updated or left alone. A new version
becomes the default one in a second call. A run goes through a list of documents and stops at
the first failure; a dry run only assembles.
-/

namespace Runbook

/-- Why a document could not be published. -/
inductive PublishError where
  | metadata (cause : MetadataError)
  | assembly (document : String) (cause : AssemblyError)
  | describe (document : String) (cause : PortError)
  | create (document : String) (cause : PortError)
  | update (document : String) (cause : PortError)
  | setDefault (document version : String) (cause : PortError)

namespace PublishError

/-- The display text of an error. -/
def message : PublishError → String
  | metadata cause => cause.message
  | assembly document cause => "failed to assemble " ++ document ++ ": " ++ cause.message
  | describe document cause => "failed to look up " ++ document ++ ": " ++ cause.message
  | create document cause => "failed to create " ++ document ++ ": " ++ cause.message
  | update document cause => "failed to update " ++ document ++ ": " ++ cause.message
  | setDefault document version cause =>
      "failed to set default version " ++ version ++ " of " ++ document ++ ": " ++ cause.message

/-- The catalogue's code for an error. -/
def code : PublishError → ErrorCode
  | metadata cause => cause.code
  | assembly _ cause => cause.code
  | describe _ _ => .describeFailed
  | create _ _ => .createFailed
  | update _ _ => .updateFailed
  | setDefault _ _ _ => .defaultVersionFailed

/-- What an error goes back to, the nearest cause first. -/
def causes : PublishError → List String
  | metadata cause => cause.causes
  | assembly _ cause => cause.message :: cause.causes
  | describe _ cause => [cause.message]
  | create _ cause => [cause.message]
  | update _ cause => [cause.message]
  | setDefault _ _ cause => [cause.message]

end PublishError

/-- What publishing did to a document. -/
inductive PublishOutcome where
  | created
  | updated (version : String)
  | unchanged
  | dryRun (bytes : Nat)
deriving DecidableEq, Repr

namespace PublishOutcome

/-- The display text of an outcome. -/
def text : PublishOutcome → String
  | created => "created"
  | updated version => "updated (default version " ++ version ++ ")"
  | unchanged => "unchanged"
  | dryRun bytes => "assembled " ++ toString bytes ++ " bytes (dry run)"

/-- Did the document get a new version? -/
def isUpdate : PublishOutcome → Bool
  | updated _ => true
  | _ => false

/-- The outcome as a JSON object. -/
def toJson : PublishOutcome → Json
  | created => Json.ofMembers [("outcome", .string "created")]
  | updated version =>
      Json.ofMembers [("outcome", .string "updated"), ("version", .string version)]
  | unchanged => Json.ofMembers [("outcome", .string "unchanged")]
  | dryRun bytes => Json.ofMembers [("outcome", .string "dry_run"), ("bytes", Json.ofNat bytes)]

end PublishOutcome

/-- The outcomes of a run, by document in the order of the run. -/
structure PublishReport where
  outcomes : List (String × PublishOutcome)
deriving DecidableEq, Repr

namespace PublishReport

/-- The first outcome of a document. -/
def outcome? (report : PublishReport) (document : String) : Option PublishOutcome :=
  report.outcomes.lookup document

/-- How many documents had an outcome. -/
def count (report : PublishReport) (outcome : PublishOutcome) : Nat :=
  report.outcomes.countP fun entry => entry.2 = outcome

/-- One line a document. -/
def lines (report : PublishReport) : List String :=
  report.outcomes.map fun entry => entry.1 ++ ": " ++ entry.2.text

/-- How many documents got a new version. -/
def countUpdated (report : PublishReport) : Nat :=
  report.outcomes.countP fun entry => entry.2.isUpdate

/-- The report as a JSON object. -/
def toJson (report : PublishReport) : Json :=
  Json.ofMembers [("outcomes",
    .array (report.outcomes.map fun entry => .array [.string entry.1, entry.2.toJson]))]

end PublishReport

/-- How documents are published: what assembles them, and whether the service is left alone. -/
structure Publisher where
  assemble : DocumentMetadata → Except AssemblyError String
  dryRun : Bool

namespace Publisher

/-- The name of the tag that holds a document's own tag. -/
def referenceTag : String := "Digito-reference-id"

/-- Store a document that the service does not know. -/
def create (service : DocumentService) (metadata : DocumentMetadata) (content : String) :
    Except PublishError PublishOutcome × DocumentService :=
  match service.create ⟨metadata.documentName, content, metadata.kind, metadata.format,
      [(referenceTag, metadata.tag)]⟩ with
  | (.error cause, service) => (.error (.create metadata.documentName cause), service)
  | (.ok (), service) => (.ok .created, service)

/-- Store a new version and make it the default. -/
def update (service : DocumentService) (metadata : DocumentMetadata) (content : String) :
    Except PublishError PublishOutcome × DocumentService :=
  let name := metadata.documentName
  match service.update ⟨name, content, metadata.format⟩ with
  | (.error cause, service) => (.error (.update name cause), service)
  | (.ok version, service) =>
      match service.setDefault name version with
      | (.error cause, service) => (.error (.setDefault name version cause), service)
      | (.ok (), service) => (.ok (.updated version), service)

/-- Bring the service's document to a content. -/
def store (service : DocumentService) (metadata : DocumentMetadata) (content : String) :
    Except PublishError PublishOutcome × DocumentService :=
  let name := metadata.documentName
  match service.describe name with
  | (.error cause, service) => (.error (.describe name cause), service)
  | (.ok false, service) => create service metadata content
  | (.ok true, service) =>
      match service.get name DocumentService.latestVersion with
      | (.error cause, service) => (.error (.describe name cause), service)
      | (.ok current, service) =>
          if current = content then (.ok .unchanged, service)
          else update service metadata content

/-- Publish one document. -/
def publishOne (publisher : Publisher) (service : DocumentService) (metadata : DocumentMetadata) :
    Except PublishError PublishOutcome × DocumentService :=
  match publisher.assemble metadata with
  | .error cause => (.error (.assembly metadata.documentName cause), service)
  | .ok content =>
      if publisher.dryRun then (.ok (.dryRun content.utf8ByteSize), service)
      else store service metadata content

/-- Publish documents in order, up to the first failure. -/
def publishEach (publisher : Publisher) (service : DocumentService) :
    List DocumentMetadata →
      Except PublishError (List (String × PublishOutcome)) × DocumentService
  | [] => (.ok [], service)
  | metadata :: rest =>
      match publisher.publishOne service metadata with
      | (.error cause, service) => (.error cause, service)
      | (.ok outcome, service) =>
          match publisher.publishEach service rest with
          | (.error cause, service) => (.error cause, service)
          | (.ok outcomes, service) =>
              (.ok ((metadata.documentName, outcome) :: outcomes), service)

/-- Publish a list of documents. -/
def publish (publisher : Publisher) (service : DocumentService)
    (documents : List DocumentMetadata) : Except PublishError PublishReport × DocumentService :=
  match publisher.publishEach service documents with
  | (.error cause, service) => (.error cause, service)
  | (.ok outcomes, service) => (.ok ⟨outcomes⟩, service)

end Publisher

end Runbook
