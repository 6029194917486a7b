import Runbook.Proofs.Table
import Runbook.Proofs.Text.Number
import Runbook.Publish.Service

/-!
# What a call does to the document service

Every call is noted and uses up the failure that waits for its operation; `after` is the service
that this leaves. One equation per operation says what the call answers and which documents it
leaves, so that no later proof opens an operation. `Change` lists what a call comes to for the
documents, and `Change.keeps` what is kept by it. `Reachable.sound` is the invariant of all services
that calls can bring about: a stored document has versions, and its default version is one of
them.
-/

namespace Runbook

/-- The operation that a call asks for. -/
def DocumentCall.operation : DocumentCall → DocumentOperation
  | .describe _ => .describe
  | .get _ _ => .get
  | .create _ => .create
  | .update _ => .update
  | .setDefault _ _ => .setDefault

/-- The document with a further version. -/
def StoredDocument.append (document : StoredDocument) (content : String) : StoredDocument :=
  { document with versions := document.versions ++ [content] }

namespace DocumentService

/-- The error of a call that fails for a reason. -/
def callError (operation : DocumentOperation) (name reason : String) : PortError :=
  match operation with
  | .describe => .transport operation.name name reason
  | _ => .service operation.name name reason

/-- The service after some calls that leave it with these documents: the calls are noted, and no
failure waits any more for their operations. -/
def after (service : DocumentService) (calls : List DocumentCall)
    (documents : Table String StoredDocument) : DocumentService where
  documents := documents
  failures := fun operation =>
    if operation ∈ calls.map DocumentCall.operation then none else service.failures operation
  calls := service.calls ++ calls

/-- Behind calls the service has the documents that are given. -/
@[simp] theorem after_documents (service : DocumentService) (calls : List DocumentCall)
    (documents : Table String StoredDocument) :
    (service.after calls documents).documents = documents := rfl

/-- Behind calls the service has recorded them. -/
@[simp] theorem after_calls (service : DocumentService) (calls : List DocumentCall)
    (documents : Table String StoredDocument) :
    (service.after calls documents).calls = service.calls ++ calls := rfl

/-- Behind calls the failures of their operations are used up, and no others. -/
@[simp] theorem after_failures (service : DocumentService) (calls : List DocumentCall)
    (documents : Table String StoredDocument) (operation : DocumentOperation) :
    (service.after calls documents).failures operation =
      if operation ∈ calls.map DocumentCall.operation then none
      else service.failures operation := rfl

/-- Calls one after the other count together; the documents are those of the later ones. -/
@[simp] theorem after_after (service : DocumentService) (first second : List DocumentCall)
    (before documents : Table String StoredDocument) :
    (service.after first before).after second documents =
      service.after (first ++ second) documents := by
  simp only [after, List.append_assoc, List.map_append, List.mem_append]
  congr 1
  funext operation
  by_cases late : operation ∈ second.map DocumentCall.operation
  · simp [late]
  · simp [late]

/-- A call fails as it was made to, and otherwise answers from the documents. -/
theorem call_eq {α : Type} (service : DocumentService) (name : String) (noted : DocumentCall)
    (answer : DocumentService → Except PortError α × DocumentService) :
    service.call noted.operation name noted answer =
      match service.failures noted.operation with
      | some message =>
          (.error (callError noted.operation name message),
            service.after [noted] service.documents)
      | none => answer (service.after [noted] service.documents) := by
  simp only [call, fail?, note]
  cases waiting : service.failures noted.operation with
  | some message =>
      simp only [after, List.map_cons, List.map_nil, List.mem_singleton]
      rfl
  | none =>
      -- Nothing is used up here; `after` clears what is clear already.
      have same : service.failures = fun operation =>
          if operation = noted.operation then none else service.failures operation := by
        funext operation
        by_cases here : operation = noted.operation
        · simp [here, waiting]
        · simp [here]
      simp only [after, List.map_cons, List.map_nil, List.mem_singleton]
      rw [← same]

section

variable (service : DocumentService)

/-- What a description answers, and what it records. -/
theorem describe_eq (name : String) :
    service.describe name =
      match service.failures .describe with
      | some message =>
          (.error (callError .describe name message),
            service.after [.describe name] service.documents)
      | none =>
          (.ok (service.documents.contains name),
            service.after [.describe name] service.documents) :=
  service.call_eq name (.describe name) _

/-- What a read answers, and what it records. -/
theorem get_eq (name version : String) :
    service.get name version =
      match service.failures .get with
      | some message =>
          (.error (callError .get name message),
            service.after [.get name version] service.documents)
      | none =>
          (match service.documents.get? name with
            | none => .error (callError .get name "InvalidDocument")
            | some document =>
                match selected? document version with
                | none => .error (callError .get name "InvalidDocumentVersion")
                | some content => .ok content,
            service.after [.get name version] service.documents) := by
  refine (service.call_eq name (.get name version) _).trans ?_
  simp only [DocumentCall.operation, after_documents]
  cases service.failures .get with
  | some message => rfl
  | none =>
      cases service.documents.get? name with
      | none => rfl
      | some document =>
          cases chosen : selected? document version with
          | none => simp only [chosen]; rfl
          | some content => simp only [chosen]

/-- What a creation answers, what it stores and what it records. -/
theorem create_eq (request : CreateRequest) :
    service.create request =
      match service.failures .create with
      | some message =>
          (.error (callError .create request.name message),
            service.after [.create request] service.documents)
      | none =>
          if service.documents.contains request.name then
            (.error (callError .create request.name "DocumentAlreadyExists"),
              service.after [.create request] service.documents)
          else
            (.ok (),
              service.after [.create request]
                (service.documents.insert request.name ⟨[request.content], 1, request.tags⟩)) :=
  service.call_eq request.name (.create request) _

/-- What an update answers, what it stores and what it records. -/
theorem update_eq (request : UpdateRequest) :
    service.update request =
      match service.failures .update with
      | some message =>
          (.error (callError .update request.name message),
            service.after [.update request] service.documents)
      | none =>
          match service.documents.get? request.name with
          | none =>
              (.error (callError .update request.name "InvalidDocument"),
                service.after [.update request] service.documents)
          | some document =>
              if document.latest? = some request.content then
                (.error (callError .update request.name "DuplicateDocumentContent"),
                  service.after [.update request] service.documents)
              else
                (.ok (toString (document.versions.length + 1)),
                  service.after [.update request]
                    (service.documents.insert request.name
                      (document.append request.content))) := by
  refine (service.call_eq request.name (.update request) _).trans ?_
  simp only [DocumentCall.operation, after_documents, List.length_append, List.length_singleton]
  rfl

/-- What choosing a default version answers, what it stores and what it records. -/
theorem setDefault_eq (name version : String) :
    service.setDefault name version =
      match service.failures .setDefault with
      | some message =>
          (.error (callError .setDefault name message),
            service.after [.setDefault name version] service.documents)
      | none =>
          match service.documents.get? name with
          | none =>
              (.error (callError .setDefault name "InvalidDocument"),
                service.after [.setDefault name version] service.documents)
          | some document =>
              match (Text.natural? Text.maxWord version.toList).filter fun number =>
                  1 ≤ number ∧ number ≤ document.versions.length with
              | none =>
                  (.error (callError .setDefault name "InvalidDocumentVersion"),
                    service.after [.setDefault name version] service.documents)
              | some number =>
                  (.ok (),
                    service.after [.setDefault name version]
                      (service.documents.insert name
                        { document with defaultVersion := number })) := by
  refine (service.call_eq name (.setDefault name version) _).trans ?_
  simp only [DocumentCall.operation, after_documents]
  cases service.failures .setDefault with
  | some message => rfl
  | none =>
      cases service.documents.get? name with
      | none => rfl
      | some document =>
          cases Text.natural? Text.maxWord version.toList with
          | none => rfl
          | some number =>
              by_cases inRange : 1 ≤ number ∧ number ≤ document.versions.length
              · simp only [inRange, Option.filter]
                rfl
              · simp only [inRange, Option.filter]
                rfl

end

/-! ### One call -/

/-- What the service answers to a call. -/
inductive Reply where
  | known (found : Bool)
  | content (text : String)
  | done
  | version (number : String)
deriving DecidableEq, Repr

/-- The service's answer to a call, and the service after it. -/
def answer (service : DocumentService) : DocumentCall → Except PortError Reply × DocumentService
  | .describe name => (service.describe name).map (Except.map .known) id
  | .get name version => (service.get name version).map (Except.map .content) id
  | .create request => (service.create request).map (Except.map fun _ => .done) id
  | .update request => (service.update request).map (Except.map .version) id
  | .setDefault name version =>
      (service.setDefault name version).map (Except.map fun _ => .done) id

/-- What a call can come to: its answer, and the documents that it leaves. -/
inductive Change (documents : Table String StoredDocument) :
    DocumentCall → Except PortError Reply → Table String StoredDocument → Prop where
  | refused (call : DocumentCall) (cause : PortError) :
      Change documents call (.error cause) documents
  | described (name : String) (found : Bool) :
      Change documents (.describe name) (.ok (.known found)) documents
  | read (name version content : String) :
      Change documents (.get name version) (.ok (.content content)) documents
  | created (request : CreateRequest) (absent : documents.get? request.name = none) :
      Change documents (.create request) (.ok .done)
        (documents.insert request.name ⟨[request.content], 1, request.tags⟩)
  | updated (request : UpdateRequest) {document : StoredDocument}
      (stored : documents.get? request.name = some document)
      (differs : document.latest? ≠ some request.content) :
      Change documents (.update request)
        (.ok (.version (toString (document.versions.length + 1))))
        (documents.insert request.name (document.append request.content))
  | defaulted (name version : String) {document : StoredDocument} {number : Nat}
      (stored : documents.get? name = some document) (positive : 1 ≤ number)
      (bounded : number ≤ document.versions.length) :
      Change documents (.setDefault name version) (.ok .done)
        (documents.insert name { document with defaultVersion := number })

/-- A creation changes the documents as its answer says. -/
theorem change_create (service : DocumentService) (request : CreateRequest) :
    Change service.documents (.create request) (service.answer (.create request)).1
      (service.answer (.create request)).2.documents := by
  rw [answer, create_eq]
  cases service.failures .create with
  | some message => exact .refused _ _
  | none =>
      cases known : service.documents.contains request.name with
      | true => exact .refused _ _
      | false => exact .created request (Table.contains_eq_false_iff.1 known)

/-- An update changes the documents as its answer says. -/
theorem change_update (service : DocumentService) (request : UpdateRequest) :
    Change service.documents (.update request) (service.answer (.update request)).1
      (service.answer (.update request)).2.documents := by
  rw [answer, update_eq]
  cases service.failures .update with
  | some message => exact .refused _ _
  | none =>
      cases stored : service.documents.get? request.name with
      | none => exact .refused _ _
      | some document =>
          by_cases same : document.latest? = some request.content
          · simp only [same, ↓reduceIte]
            exact .refused _ _
          · simp only [same, ↓reduceIte]
            exact .updated request stored same

/-- Choosing a default version changes the documents as its answer says. -/
theorem change_setDefault (service : DocumentService) (name version : String) :
    Change service.documents (.setDefault name version)
      (service.answer (.setDefault name version)).1
      (service.answer (.setDefault name version)).2.documents := by
  rw [answer, setDefault_eq]
  cases service.failures .setDefault with
  | some message => exact .refused _ _
  | none =>
      cases stored : service.documents.get? name with
      | none => exact .refused _ _
      | some document =>
          dsimp only
          split
          · exact .refused _ _
          · rename_i number chosen
            have range := of_decide_eq_true (Option.filter_eq_some_iff.1 chosen).2
            exact .defaulted name version stored range.1 range.2

/-- Every call comes to one of the listed cases. -/
theorem change_answer (service : DocumentService) (call : DocumentCall) :
    Change service.documents call (service.answer call).1 (service.answer call).2.documents := by
  cases call with
  | describe name =>
      rw [answer, describe_eq]
      cases service.failures .describe with
      | some message => exact .refused _ _
      | none => exact .described _ _
  | get name version =>
      have same : (service.get name version).2.documents = service.documents := by
        rw [get_eq]
        split <;> rfl
      rw [answer, Prod.map_fst, Prod.map_snd, id_eq, same]
      cases (service.get name version).1 with
      | error cause => exact .refused _ _
      | ok content => exact .read _ _ _
  | create request => exact change_create service request
  | update request => exact change_update service request
  | setDefault name version => exact change_setDefault service name version

/-- What holds of a first version, and is kept by a further version and by another default version,
holds of all documents after a call when it held before. -/
theorem Change.keeps {documents next : Table String StoredDocument} {call : DocumentCall}
    {result : Except PortError Reply} {Good : StoredDocument → Prop}
    (change : Change documents call result next)
    (first : ∀ content tags, Good ⟨[content], 1, tags⟩)
    (append : ∀ {document : StoredDocument} {content : String}, Good document →
      document.latest? ≠ some content → Good (document.append content))
    (default : ∀ {document : StoredDocument} {number : Nat}, Good document → 1 ≤ number →
      number ≤ document.versions.length → Good { document with defaultVersion := number })
    (good : ∀ name document, documents.get? name = some document → Good document) :
    ∀ name document, next.get? name = some document → Good document := by
  cases change with
  | refused | described | read => exact good
  | created request absent => exact Table.forall_get?_insert good (first _ _)
  | updated request stored differs =>
      exact Table.forall_get?_insert good (append (good _ _ stored) differs)
  | defaulted name version stored positive bounded =>
      exact Table.forall_get?_insert good (default (good _ _ stored) positive bounded)

end DocumentService

/-! ### Services that calls bring about -/

/-- A stored document has versions, and its default version is one of them. -/
structure StoredDocument.Sound (document : StoredDocument) : Prop where
  positive : 1 ≤ document.defaultVersion
  bounded : document.defaultVersion ≤ document.versions.length

/-- A sound document has a version. -/
theorem StoredDocument.Sound.filled {document : StoredDocument} (sound : document.Sound) :
    document.versions ≠ [] := by
  intro none
  have positive := sound.positive
  have bounded := sound.bounded
  simp only [none, List.length_nil] at bounded
  omega

/-- A sound document has a last version. -/
theorem StoredDocument.Sound.exists_latest {document : StoredDocument} (sound : document.Sound) :
    ∃ content, document.latest? = some content :=
  ⟨_, List.getLast?_eq_getLast_of_ne_nil sound.filled⟩

/-- A document of one version is sound. -/
theorem StoredDocument.sound_first (content : String) (tags : List (String × String)) :
    StoredDocument.Sound ⟨[content], 1, tags⟩ :=
  ⟨Nat.le_refl 1, Nat.le_refl 1⟩

/-- A further version keeps a document sound. -/
theorem StoredDocument.Sound.append {document : StoredDocument} (sound : document.Sound)
    (content : String) : (document.append content).Sound where
  positive := sound.positive
  bounded := by
    have bounded := sound.bounded
    simp only [StoredDocument.append, List.length_append, List.length_singleton]
    omega

namespace DocumentService

/-- Every stored document is sound. -/
def Sound (service : DocumentService) : Prop :=
  ∀ name document, service.documents.get? name = some document → document.Sound

/-- The services that come about by calls, scripted failures and seeds. -/
inductive Reachable : DocumentService → Prop where
  | empty : Reachable DocumentService.empty
  | seed {service} (prior : Reachable service) (name content : String) :
      Reachable (service.seed name content)
  | failNext {service} (prior : Reachable service) (operation : DocumentOperation)
      (message : String) : Reachable (service.failNext operation message)
  | forgetCalls {service} (prior : Reachable service) : Reachable service.forgetCalls
  | describe {service} (prior : Reachable service) (name : String) :
      Reachable (service.describe name).2
  | get {service} (prior : Reachable service) (name version : String) :
      Reachable (service.get name version).2
  | create {service} (prior : Reachable service) (request : CreateRequest) :
      Reachable (service.create request).2
  | update {service} (prior : Reachable service) (request : UpdateRequest) :
      Reachable (service.update request).2
  | setDefault {service} (prior : Reachable service) (name version : String) :
      Reachable (service.setDefault name version).2

/-- A sound document may be set beside sound documents. -/
theorem Sound.insert {service : DocumentService} (sound : service.Sound) {name : String}
    {document : StoredDocument} (new : document.Sound) {next : DocumentService}
    (inserted : next.documents = service.documents.insert name document) : next.Sound := by
  rw [Sound, inserted]
  exact Table.forall_get?_insert sound new

/-- Whether a service is sound depends on its documents only. -/
theorem Sound.of_documents {service next : DocumentService} (sound : service.Sound)
    (same : next.documents = service.documents) : next.Sound := by
  intro name document found
  exact sound name document (same ▸ found)

/-- Each call keeps sound documents sound. -/
theorem Sound.answer {service : DocumentService} (sound : service.Sound) (call : DocumentCall) :
    (service.answer call).2.Sound :=
  (change_answer service call).keeps StoredDocument.sound_first
    (fun same _ => same.append _) (fun _ positive bounded => ⟨positive, bounded⟩) sound

/-- Every service that calls bring about is sound. -/
theorem Reachable.sound {service : DocumentService} (reachable : Reachable service) :
    service.Sound := by
  induction reachable with
  | empty => intro name document found; simp [DocumentService.empty] at found
  | seed _ name content ih => exact ih.insert (StoredDocument.sound_first content []) rfl
  | failNext _ _ _ ih => exact ih.of_documents rfl
  | forgetCalls _ ih => exact ih.of_documents rfl
  | describe _ name ih => exact ih.answer (.describe name)
  | get _ name version ih => exact ih.answer (.get name version)
  | create _ request ih => exact ih.answer (.create request)
  | update _ request ih => exact ih.answer (.update request)
  | setDefault _ name version ih => exact ih.answer (.setDefault name version)

end DocumentService

end Runbook
