import Runbook.Proofs.Publish.Service
import Runbook.Publish.Publisher

/-!
# One publication as a transition

`Transition` lists what publishing one content can do: the calls, the result and the documents
that are left. What is stored and which failures wait decide between its cases, so there is never
more than one (`Transition.unique`). `exists_transition` says that there always is one; the
service's own refusals of a known name and of a repeated content are no case of it.
-/

namespace Runbook.Publisher

open DocumentService

/-- The request that stores a document for the first time. -/
def creation (metadata : DocumentMetadata) (content : String) : CreateRequest :=
  ⟨metadata.documentName, content, metadata.kind, metadata.format, [(referenceTag, metadata.tag)]⟩

/-- The request that stores a further version of a document. -/
def revision (metadata : DocumentMetadata) (content : String) : UpdateRequest :=
  ⟨metadata.documentName, content, metadata.format⟩

/-- The calls that find out what is stored under a name. -/
def reading (name : String) : List DocumentCall := [.describe name, .get name latestVersion]

/-- A document is stored under a name, and the calls that read its newest content do not fail. -/
structure Found (service : DocumentService) (name : String) (document : StoredDocument)
    (current : String) : Prop where
  described : service.failures .describe = none
  stored : service.documents.get? name = some document
  read : service.failures .get = none
  newest : document.latest? = some current

/-- A document is found with another content than the wanted one, which the service takes. -/
structure Revised (service : DocumentService) (name : String) (document : StoredDocument)
    (current content : String) : Prop extends Found service name document current where
  differs : current ≠ content
  taken : service.failures .update = none

/-- What publishing a content does: the calls, the result, and the documents that are left. -/
inductive Transition (service : DocumentService) (metadata : DocumentMetadata)
    (content : String) :
    List DocumentCall → Except PublishError PublishOutcome → Table String StoredDocument → Prop
    where
  | describeFailed {message : String} (failing : service.failures .describe = some message) :
      Transition service metadata content
        [.describe metadata.documentName]
        (.error (.describe metadata.documentName
          (callError .describe metadata.documentName message)))
        service.documents
  | createFailed {message : String} (described : service.failures .describe = none)
      (absent : service.documents.get? metadata.documentName = none)
      (failing : service.failures .create = some message) :
      Transition service metadata content
        [.describe metadata.documentName, .create (creation metadata content)]
        (.error (.create metadata.documentName
          (callError .create metadata.documentName message)))
        service.documents
  | created (described : service.failures .describe = none)
      (absent : service.documents.get? metadata.documentName = none)
      (taken : service.failures .create = none) :
      Transition service metadata content
        [.describe metadata.documentName, .create (creation metadata content)]
        (.ok .created)
        (service.documents.insert metadata.documentName
          ⟨[content], 1, [(referenceTag, metadata.tag)]⟩)
  | getFailed {document : StoredDocument} {message : String}
      (described : service.failures .describe = none)
      (stored : service.documents.get? metadata.documentName = some document)
      (failing : service.failures .get = some message) :
      Transition service metadata content
        (reading metadata.documentName)
        (.error (.describe metadata.documentName
          (callError .get metadata.documentName message)))
        service.documents
  | unchanged {document : StoredDocument}
      (found : Found service metadata.documentName document content) :
      Transition service metadata content
        (reading metadata.documentName) (.ok .unchanged) service.documents
  | updateFailed {document : StoredDocument} {current message : String}
      (found : Found service metadata.documentName document current)
      (differs : current ≠ content)
      (failing : service.failures .update = some message) :
      Transition service metadata content
        (reading metadata.documentName ++ [.update (revision metadata content)])
        (.error (.update metadata.documentName
          (callError .update metadata.documentName message)))
        service.documents
  | updated {document : StoredDocument} {current : String}
      (revised : Revised service metadata.documentName document current content)
      (advanced : service.failures .setDefault = none)
      (readable : document.versions.length + 1 ≤ Text.maxWord) :
      Transition service metadata content
        (reading metadata.documentName ++
          [.update (revision metadata content),
            .setDefault metadata.documentName (toString (document.versions.length + 1))])
        (.ok (.updated (toString (document.versions.length + 1))))
        (service.documents.insert metadata.documentName
          { document.append content with defaultVersion := document.versions.length + 1 })
  | setDefaultFailed {document : StoredDocument} {current message : String}
      (revised : Revised service metadata.documentName document current content)
      (failing : service.failures .setDefault = some message) :
      Transition service metadata content
        (reading metadata.documentName ++
          [.update (revision metadata content),
            .setDefault metadata.documentName (toString (document.versions.length + 1))])
        (.error (.setDefault metadata.documentName (toString (document.versions.length + 1))
          (callError .setDefault metadata.documentName message)))
        (service.documents.insert metadata.documentName (document.append content))
  /-- A number that no word holds cannot be read back; it takes that many versions to get here. -/
  | numberUnreadable {document : StoredDocument} {current : String}
      (revised : Revised service metadata.documentName document current content)
      (advanced : service.failures .setDefault = none)
      (unreadable : Text.maxWord < document.versions.length + 1) :
      Transition service metadata content
        (reading metadata.documentName ++
          [.update (revision metadata content),
            .setDefault metadata.documentName (toString (document.versions.length + 1))])
        (.error (.setDefault metadata.documentName (toString (document.versions.length + 1))
          (callError .setDefault metadata.documentName "InvalidDocumentVersion")))
        (service.documents.insert metadata.documentName (document.append content))

variable {service : DocumentService} {metadata : DocumentMetadata} {content : String}

/-- What is found under a name is compared with the wanted content. -/
theorem Found.store_eq {document : StoredDocument} {current : String}
    (found : Found service metadata.documentName document current) :
    store service metadata content =
      if current = content then
        (.ok .unchanged, service.after (reading metadata.documentName) service.documents)
      else
        update (service.after (reading metadata.documentName) service.documents)
          metadata content := by
  have known : service.documents.contains metadata.documentName = true :=
    Table.contains_eq_true_iff.2 ⟨document, found.stored⟩
  simp [store, describe_eq, get_eq, found.described, found.read, found.stored, found.newest,
    known, selected?, reading, DocumentCall.operation]

/-- A document that is revised gets the content as its next version. -/
theorem Revised.update_stores {document : StoredDocument} {current : String}
    (revised : Revised service metadata.documentName document current content) :
    (service.after (reading metadata.documentName) service.documents).update
        ⟨metadata.documentName, content, metadata.format⟩ =
      (.ok (toString (document.versions.length + 1)),
        service.after (reading metadata.documentName ++ [.update (revision metadata content)])
          (service.documents.insert metadata.documentName (document.append content))) := by
  simp [update_eq, revised.stored, revised.taken, revised.newest, revised.differs, revision,
    DocumentCall.operation]

/-- Publishing a revised document comes down to making the next version the default one. -/
theorem Revised.store_eq {document : StoredDocument} {current : String}
    (revised : Revised service metadata.documentName document current content)
    (answer : Except PortError Unit) {next : DocumentService}
    (advanced : (service.after
        (reading metadata.documentName ++ [.update (revision metadata content)])
        (service.documents.insert metadata.documentName (document.append content))).setDefault
          metadata.documentName (toString (document.versions.length + 1)) = (answer, next)) :
    store service metadata content =
      match answer with
      | .error cause =>
          (.error (.setDefault metadata.documentName
            (toString (document.versions.length + 1)) cause), next)
      | .ok () => (.ok (.updated (toString (document.versions.length + 1))), next) := by
  rw [revised.toFound.store_eq, if_neg revised.differs]
  cases answer <;> simp only [update, revised.update_stores, advanced]

/-- A transition is what publishing does. -/
theorem Transition.store_eq {calls : List DocumentCall}
    {result : Except PublishError PublishOutcome} {documents : Table String StoredDocument}
    (transition : Transition service metadata content calls result documents) :
    store service metadata content = (result, service.after calls documents) := by
  cases transition with
  | describeFailed failing => simp [store, describe_eq, failing]
  | createFailed described absent failing =>
      have unknown : service.documents.contains metadata.documentName = false :=
        Table.contains_eq_false_iff.2 absent
      simp [store, create, describe_eq, create_eq, described, unknown, failing, creation,
        DocumentCall.operation]
  | created described absent taken =>
      have unknown : service.documents.contains metadata.documentName = false :=
        Table.contains_eq_false_iff.2 absent
      simp [store, create, describe_eq, create_eq, described, unknown, taken, creation,
        DocumentCall.operation]
  | @getFailed document _ described stored failing =>
      have known : service.documents.contains metadata.documentName = true :=
        Table.contains_eq_true_iff.2 ⟨document, stored⟩
      simp [store, describe_eq, get_eq, described, known, failing, reading,
        DocumentCall.operation]
  | unchanged found => rw [found.store_eq, if_pos rfl]
  | updateFailed found differs failing =>
      rw [found.store_eq, if_neg differs]
      simp [update, update_eq, failing, revision, reading, DocumentCall.operation]
  | updated revised advanced readable =>
      refine revised.store_eq (.ok ()) ?_
      simp [setDefault_eq, advanced, Text.natural?_toDigits, readable, StoredDocument.append,
        reading, DocumentCall.operation, Option.filter]
  | setDefaultFailed revised failing =>
      refine revised.store_eq (.error _) ?_
      simp [setDefault_eq, failing, reading, DocumentCall.operation]
  | numberUnreadable revised advanced unreadable =>
      refine revised.store_eq (.error _) ?_
      simp [setDefault_eq, advanced, Text.natural?_toDigits, Nat.not_le.2 unreadable, reading,
        DocumentCall.operation]

/-- There is at most one transition. -/
theorem Transition.unique {firstCalls secondCalls : List DocumentCall}
    {firstResult secondResult : Except PublishError PublishOutcome}
    {firstDocuments secondDocuments : Table String StoredDocument}
    (first : Transition service metadata content firstCalls firstResult firstDocuments)
    (second : Transition service metadata content secondCalls secondResult secondDocuments) :
    firstCalls = secondCalls ∧ firstResult = secondResult ∧
      firstDocuments = secondDocuments := by
  have same := first.store_eq.symm.trans second.store_eq
  obtain ⟨results, services⟩ := Prod.mk.inj same
  have calls := congrArg DocumentService.calls services
  simp only [after_calls, List.append_cancel_left_eq] at calls
  exact ⟨calls, results, congrArg DocumentService.documents services⟩

/-- A found document is left alone or revised. -/
theorem Found.exists_transition {document : StoredDocument} {current : String}
    (found : Found service metadata.documentName document current) :
    ∃ calls result documents,
      Transition service metadata content calls result documents := by
  by_cases same : current = content
  · subst same
    exact ⟨_, _, _, .unchanged found⟩
  · cases taken : service.failures .update with
    | some message => exact ⟨_, _, _, .updateFailed found same taken⟩
    | none =>
        have revised : Revised service metadata.documentName document current content :=
          { toFound := found, differs := same, taken := taken }
        cases advanced : service.failures .setDefault with
        | some message => exact ⟨_, _, _, .setDefaultFailed revised advanced⟩
        | none =>
            by_cases readable : document.versions.length + 1 ≤ Text.maxWord
            · exact ⟨_, _, _, .updated revised advanced readable⟩
            · exact ⟨_, _, _, .numberUnreadable revised advanced (Nat.lt_of_not_le readable)⟩

/-- There is a transition wherever the stored documents are sound. -/
theorem exists_transition (sound : service.Sound) (metadata : DocumentMetadata)
    (content : String) :
    ∃ calls result documents,
      Transition service metadata content calls result documents := by
  cases described : service.failures .describe with
  | some message => exact ⟨_, _, _, .describeFailed described⟩
  | none =>
      cases stored : service.documents.get? metadata.documentName with
      | none =>
          cases taken : service.failures .create with
          | some message => exact ⟨_, _, _, .createFailed described stored taken⟩
          | none => exact ⟨_, _, _, .created described stored taken⟩
      | some document =>
          cases read : service.failures .get with
          | some message => exact ⟨_, _, _, .getFailed described stored read⟩
          | none =>
              obtain ⟨current, newest⟩ := (sound _ _ stored).exists_latest
              exact Found.exists_transition ⟨described, stored, read, newest⟩

/-- No transition touches another document. -/
theorem Transition.get?_of_ne {calls : List DocumentCall}
    {result : Except PublishError PublishOutcome} {documents : Table String StoredDocument}
    (transition : Transition service metadata content calls result documents) {other : String}
    (differs : other ≠ metadata.documentName) :
    documents.get? other = service.documents.get? other := by
  cases transition <;> simp [Table.get?_insert, differs]

/-- A publication that fails leaves the documents alone, unless a version was stored already. -/
theorem Transition.documents_of_error {calls : List DocumentCall} {error : PublishError}
    {documents : Table String StoredDocument}
    (transition : Transition service metadata content calls (.error error) documents)
    (early : ∀ version cause, error ≠ .setDefault metadata.documentName version cause) :
    documents = service.documents := by
  cases transition with
  | setDefaultFailed | numberUnreadable => exact absurd rfl (early _ _)
  | _ => rfl

/-- A publication that succeeds leaves the content as the newest version. -/
theorem Transition.latest_of_ok {calls : List DocumentCall} {outcome : PublishOutcome}
    {documents : Table String StoredDocument}
    (transition : Transition service metadata content calls (.ok outcome) documents) :
    ∃ document, documents.get? metadata.documentName = some document ∧
      document.latest? = some content := by
  cases transition with
  | created => exact ⟨_, by rw [Table.get?_insert, if_pos rfl], rfl⟩
  | unchanged found => exact ⟨_, found.stored, found.newest⟩
  | updated =>
      refine ⟨_, by rw [Table.get?_insert, if_pos rfl], ?_⟩
      simp [StoredDocument.latest?, StoredDocument.append]

/-- A transition keeps the stored documents sound. -/
theorem Transition.sound {calls : List DocumentCall}
    {result : Except PublishError PublishOutcome} {documents : Table String StoredDocument}
    (transition : Transition service metadata content calls result documents)
    (sound : service.Sound) : (service.after calls documents).Sound := by
  cases transition with
  | created => exact sound.insert (StoredDocument.sound_first _ _) rfl
  | updated => exact sound.insert ⟨Nat.le_add_left 1 _, by simp [StoredDocument.append]⟩ rfl
  | setDefaultFailed revised | numberUnreadable revised =>
      exact sound.insert ((sound _ _ revised.stored).append _) rfl
  | _ => exact sound.of_documents rfl

/-- A refused creation or update was made to fail: the service finds nothing wrong with it. -/
theorem Transition.scripted {calls : List DocumentCall} {error : PublishError}
    {documents : Table String StoredDocument} {cause : PortError}
    (transition : Transition service metadata content calls (.error error) documents) :
    (error = .create metadata.documentName cause → ∃ message,
      service.failures .create = some message ∧
        cause = callError .create metadata.documentName message) ∧
    (error = .update metadata.documentName cause → ∃ message,
      service.failures .update = some message ∧
        cause = callError .update metadata.documentName message) := by
  constructor
  · rintro rfl
    cases transition with
    | createFailed _ _ failing => exact ⟨_, failing, rfl⟩
  · rintro rfl
    cases transition with
    | updateFailed _ _ failing => exact ⟨_, failing, rfl⟩

/-- Publishing an assembled content is exactly one transition. It touches no other document, and
where it fails before a version is stored it touches none at all. -/
theorem publishOne_transition (reachable : Reachable service) {publisher : Publisher}
    (writes : publisher.dryRun = false) (assembled : publisher.assemble metadata = .ok content) :
    ∃ calls result documents,
      publisher.publishOne service metadata = (result, service.after calls documents) ∧
      Transition service metadata content calls result documents ∧
      (∀ otherCalls otherResult otherDocuments,
        Transition service metadata content otherCalls otherResult otherDocuments →
          otherCalls = calls ∧ otherResult = result ∧ otherDocuments = documents) ∧
      (∀ other, other ≠ metadata.documentName →
        documents.get? other = service.documents.get? other) ∧
      (∀ error, result = .error error →
        (∀ version cause, error ≠ .setDefault metadata.documentName version cause) →
          documents = service.documents) ∧
      (∀ cause, result = .error (.create metadata.documentName cause) →
        ∃ message, service.failures .create = some message ∧
          cause = callError .create metadata.documentName message) ∧
      (∀ cause, result = .error (.update metadata.documentName cause) →
        ∃ message, service.failures .update = some message ∧
          cause = callError .update metadata.documentName message) := by
  obtain ⟨calls, result, documents, transition⟩ :=
    exists_transition reachable.sound metadata content
  refine ⟨calls, result, documents, ?_, transition, fun _ _ _ other => other.unique transition,
    fun other differs => transition.get?_of_ne differs, ?_, ?_, ?_⟩
  · simp only [publishOne, assembled, writes, transition.store_eq, Bool.false_eq_true, ↓reduceIte]
  · rintro error rfl early
    exact transition.documents_of_error early
  · rintro cause rfl
    exact transition.scripted.1 rfl
  · rintro cause rfl
    exact transition.scripted.2 rfl

/-- A small document. -/
def sampleMetadata : DocumentMetadata where
  documentName := "Restore"
  kind := .automation
  format := .yaml
  content := "document.yml"
  tag := "rds:sop:restore:2020-04-01"
  risk := .small
  failures := []
  minorVersion := "001"
  displayName := none
  description := none
  assumeRole := none
  dependsOn := none
  builder := none
  recommendedAlarms := none
  supportsRollback := none
  location := ⟨"documents"⟩

/-- A new version is stored, and the call that makes it the default one fails. -/
theorem publishOne_transition_throttled :
    ∃ documents,
      Transition ((DocumentService.empty.seed "Restore" "old").failNext .setDefault "Throttling")
        sampleMetadata "new"
        [.describe "Restore", .get "Restore" "$LATEST", .update ⟨"Restore", "new", .yaml⟩,
          .setDefault "Restore" "2"]
        (.error (.setDefault "Restore" "2"
          (.service "UpdateDocumentDefaultVersion" "Restore" "Throttling")))
        documents ∧
      documents.get? "Restore" = some ⟨["old", "new"], 1, []⟩ := by
  have reachable : Reachable
      ((DocumentService.empty.seed "Restore" "old").failNext .setDefault "Throttling") :=
    .failNext (.seed .empty _ _) _ _
  let publisher : Publisher := ⟨fun _ => .ok "new", false⟩
  have assembled : publisher.assemble sampleMetadata = .ok "new" := rfl
  obtain ⟨calls, result, documents, answered, transition, -⟩ :=
    publishOne_transition reachable rfl assembled
  have results : result = .error (.setDefault "Restore" "2"
      (.service "UpdateDocumentDefaultVersion" "Restore" "Throttling")) :=
    (congrArg Prod.fst answered).symm
  have noted : calls = [.describe "Restore", .get "Restore" "$LATEST",
      .update ⟨"Restore", "new", .yaml⟩, .setDefault "Restore" "2"] :=
    (congrArg (fun answer => answer.2.calls) answered).symm
  have stored : documents.get? "Restore" = some ⟨["old", "new"], 1, []⟩ :=
    (congrArg (fun answer => answer.2.documents.get? "Restore") answered).symm
  subst results noted
  exact ⟨documents, transition, stored⟩

end Runbook.Publisher
