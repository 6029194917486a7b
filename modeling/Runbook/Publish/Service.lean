import Runbook.Metadata.Basic
import Runbook.PortError
import Runbook.Table

/-!
# The document service

A store of documents with numbered versions, one of which is the default. A call can be made to
fail once; each call is noted. A call that fails leaves the documents as they are.
-/

namespace Runbook

/-- The calls that the service knows. -/
inductive DocumentOperation where
  | describe
  | get
  | create
  | update
  | setDefault
deriving DecidableEq, Repr

namespace DocumentOperation

/-- All operations. -/
def all : List DocumentOperation := [.describe, .get, .create, .update, .setDefault]

/-- The service's name for an operation. -/
def name : DocumentOperation → String
  | .describe => "DescribeDocument"
  | .get => "GetDocument"
  | .create => "CreateDocument"
  | .update => "UpdateDocument"
  | .setDefault => "UpdateDocumentDefaultVersion"

/-- The operation of a name. -/
def parse? (text : String) : Option DocumentOperation := all.find? fun op => op.name = text

end DocumentOperation

/-- A request to store a new document. -/
structure CreateRequest where
  name : String
  content : String
  kind : DocumentKind
  format : DocumentFormat
  tags : List (String × String)
deriving DecidableEq, Repr

/-- A request to store a new version. -/
structure UpdateRequest where
  name : String
  content : String
  format : DocumentFormat
deriving DecidableEq, Repr

/-- A call that reached the service. -/
inductive DocumentCall where
  | describe (name : String)
  | get (name version : String)
  | create (request : CreateRequest)
  | update (request : UpdateRequest)
  | setDefault (name version : String)
deriving DecidableEq, Repr

/-- A stored document: its versions from the first on, the number of the default one, and its
tags. -/
structure StoredDocument where
  versions : List String
  defaultVersion : Nat
  tags : List (String × String)
deriving DecidableEq, Repr

namespace StoredDocument

/-- The content of the newest version. -/
def latest? (document : StoredDocument) : Option String := document.versions.getLast?

/-- The content of a version by number; versions are numbered from one. -/
def numbered? (document : StoredDocument) (number : Nat) : Option String :=
  match number with
  | 0 => none
  | index + 1 => document.versions[index]?

end StoredDocument

/-- The state of the service: its documents, the failures that wait for a call, and the calls so
far. -/
structure DocumentService where
  documents : Table String StoredDocument
  failures : DocumentOperation → Option String
  calls : List DocumentCall

namespace DocumentService

/-- A service without documents. -/
def empty : DocumentService := ⟨Table.empty, fun _ => none, []⟩

/-- The service with a document of one version. -/
def seed (service : DocumentService) (name content : String) : DocumentService :=
  { service with documents := service.documents.insert name ⟨[content], 1, []⟩ }

/-- The service whose next call of an operation fails. -/
def failNext (service : DocumentService) (operation : DocumentOperation) (message : String) :
    DocumentService :=
  { service with
    failures := fun other => if other = operation then some message else service.failures other }

/-- The service without a record of its calls so far. -/
def forgetCalls (service : DocumentService) : DocumentService := { service with calls := [] }

/-- A call noted. -/
def note (service : DocumentService) (call : DocumentCall) : DocumentService :=
  { service with calls := service.calls ++ [call] }

/-- The failure that waits for an operation, and the service without it. A failed look-up counts
as one that did not arrive, since the service answers it for documents it does not know. -/
def fail? (service : DocumentService) (operation : DocumentOperation) (name : String) :
    Option PortError × DocumentService :=
  match service.failures operation with
  | none => (none, service)
  | some message =>
      let error : PortError :=
        match operation with
        | .describe => .transport operation.name name message
        | _ => .service operation.name name message
      (some error,
        { service with
          failures := fun other => if other = operation then none else service.failures other })

/-- A call: it is noted, and fails if a failure waits for it. -/
def call (service : DocumentService) (operation : DocumentOperation) (name : String)
    (call : DocumentCall)
    (answer : DocumentService → Except PortError α × DocumentService) :
    Except PortError α × DocumentService :=
  match (service.note call).fail? operation name with
  | (some error, service) => (.error error, service)
  | (none, service) => answer service

/-- The answer that rejects a call and changes nothing. -/
def reject (service : DocumentService) (operation : DocumentOperation) (name reason : String) :
    Except PortError α × DocumentService :=
  (.error (.service operation.name name reason), service)

/-- Is there a document of this name? -/
def describe (service : DocumentService) (name : String) :
    Except PortError Bool × DocumentService :=
  service.call .describe name (.describe name) fun service =>
    (.ok (service.documents.contains name), service)

/-- The selector of the newest version. -/
def latestVersion : String := "$LATEST"

/-- The content that a version selector names. -/
def selected? (document : StoredDocument) (version : String) : Option String :=
  if version = latestVersion then document.latest?
  else (Text.natural? Text.maxWord version.toList).bind document.numbered?

/-- The content of a version. -/
def get (service : DocumentService) (name version : String) :
    Except PortError String × DocumentService :=
  service.call .get name (.get name version) fun service =>
    match service.documents.get? name with
    | none => service.reject .get name "InvalidDocument"
    | some document =>
        match selected? document version with
        | none => service.reject .get name "InvalidDocumentVersion"
        | some content => (.ok content, service)

/-- Store a new document, with its content as the first version. -/
def create (service : DocumentService) (request : CreateRequest) :
    Except PortError Unit × DocumentService :=
  service.call .create request.name (.create request) fun service =>
    if service.documents.contains request.name then
      service.reject .create request.name "DocumentAlreadyExists"
    else
      (.ok (),
        { service with
          documents :=
            service.documents.insert request.name ⟨[request.content], 1, request.tags⟩ })

/-- Store a new version and answer its number. The content has to differ from the newest. -/
def update (service : DocumentService) (request : UpdateRequest) :
    Except PortError String × DocumentService :=
  service.call .update request.name (.update request) fun service =>
    match service.documents.get? request.name with
    | none => service.reject .update request.name "InvalidDocument"
    | some document =>
        if document.latest? = some request.content then
          service.reject .update request.name "DuplicateDocumentContent"
        else
          let versions := document.versions ++ [request.content]
          (.ok (toString versions.length),
            { service with
              documents := service.documents.insert request.name { document with versions } })

/-- Make a version the default one. -/
def setDefault (service : DocumentService) (name version : String) :
    Except PortError Unit × DocumentService :=
  service.call .setDefault name (.setDefault name version) fun service =>
    match service.documents.get? name with
    | none => service.reject .setDefault name "InvalidDocument"
    | some document =>
        match Text.natural? Text.maxWord version.toList with
        | some number =>
            if 1 ≤ number ∧ number ≤ document.versions.length then
              (.ok (),
                { service with
                  documents :=
                    service.documents.insert name { document with defaultVersion := number } })
            else service.reject .setDefault name "InvalidDocumentVersion"
        | none => service.reject .setDefault name "InvalidDocumentVersion"

end DocumentService

end Runbook
