import Runbook.Proofs.Except
import Runbook.Proofs.Publish.Sequence

/-!
# Runs that stop at a document

What is stored under other names plays no part in a publication (`Alike.publishOne`), and one that
succeeds uses up no failure. So a run over documents with different names publishes each of them as
it would be published alone from the start, up to the first that fails there
(`publish_stops_exactly`): the documents before are stored, those behind are not even asked for,
and the one itself is as it was, unless a version was stored that could not be made the default.
-/

namespace Runbook

/-- The document that a call names. -/
def DocumentCall.document : DocumentCall → String
  | .describe name => name
  | .get name _ => name
  | .create request => request.name
  | .update request => request.name
  | .setDefault name _ => name

namespace Publisher

open DocumentService

variable {publisher : Publisher} {service other next last : DocumentService}
  {metadata : DocumentMetadata} {content name : String} {documents : List DocumentMetadata}

/-! ### What a publication depends on -/

/-- Two services have one document under a name, and the same failures wait in both. -/
structure Alike (name : String) (service other : DocumentService) : Prop where
  failures : other.failures = service.failures
  stored : other.documents.get? name = service.documents.get? name

/-- To be alike for a document is transitive. -/
theorem Alike.trans (first : Alike name service other) (second : Alike name other next) :
    Alike name service next :=
  ⟨second.failures.trans first.failures, second.stored.trans first.stored⟩

/-- What is found of a document is found in a service alike for it. -/
theorem Found.alike {document : StoredDocument} {current : String}
    (found : Found service name document current) (alike : Alike name service other) :
    Found other name document current where
  described := by rw [alike.failures, found.described]
  stored := by rw [alike.stored, found.stored]
  read := by rw [alike.failures, found.read]
  newest := found.newest

/-- What is revised of a document is revised in a service alike for it. -/
theorem Revised.alike {document : StoredDocument} {current : String}
    (revised : Revised service name document current content) (alike : Alike name service other) :
    Revised other name document current content where
  toFound := revised.toFound.alike alike
  differs := revised.differs
  taken := by rw [alike.failures, revised.taken]

/-- In a service that is alike a transition makes the same calls with the same result, and leaves
the same document. -/
theorem Transition.alike {calls : List DocumentCall}
    {result : Except PublishError PublishOutcome} {documents : Table String StoredDocument}
    (transition : Transition service metadata content calls result documents)
    (alike : Alike metadata.documentName service other) :
    ∃ others, Transition other metadata content calls result others ∧
      others.get? metadata.documentName = documents.get? metadata.documentName := by
  obtain ⟨failures, stored⟩ := alike
  cases transition with
  | describeFailed failing => exact ⟨_, .describeFailed (failures ▸ failing), stored⟩
  | createFailed described absent failing =>
      exact ⟨_, .createFailed (failures ▸ described) (stored.trans absent) (failures ▸ failing),
        stored⟩
  | created described absent taken =>
      exact ⟨_, .created (failures ▸ described) (stored.trans absent) (failures ▸ taken),
        by rw [Table.get?_insert_self, Table.get?_insert_self]⟩
  | getFailed described found failing =>
      exact ⟨_, .getFailed (failures ▸ described) (stored.trans found) (failures ▸ failing), stored⟩
  | unchanged found => exact ⟨_, .unchanged (found.alike ⟨failures, stored⟩), stored⟩
  | updateFailed found differs failing =>
      exact ⟨_, .updateFailed (found.alike ⟨failures, stored⟩) differs (failures ▸ failing), stored⟩
  | updated revised advanced readable =>
      exact ⟨_, .updated (revised.alike ⟨failures, stored⟩) (failures ▸ advanced) readable,
        by rw [Table.get?_insert_self, Table.get?_insert_self]⟩
  | setDefaultFailed revised failing =>
      exact ⟨_, .setDefaultFailed (revised.alike ⟨failures, stored⟩) (failures ▸ failing),
        by rw [Table.get?_insert_self, Table.get?_insert_self]⟩
  | numberUnreadable revised advanced unreadable =>
      exact ⟨_, .numberUnreadable (revised.alike ⟨failures, stored⟩) (failures ▸ advanced)
        unreadable, by rw [Table.get?_insert_self, Table.get?_insert_self]⟩

/-- Services that are alike answer a publication alike, and stay so. -/
theorem Alike.publishOne (alike : Alike metadata.documentName service other)
    (sound : service.Sound) (publisher : Publisher) :
    (publisher.publishOne other metadata).1 = (publisher.publishOne service metadata).1 ∧
      Alike metadata.documentName (publisher.publishOne service metadata).2
        (publisher.publishOne other metadata).2 := by
  cases assembled : publisher.assemble metadata with
  | error cause => simpa only [Publisher.publishOne, assembled, true_and] using alike
  | ok content =>
      cases writes : publisher.dryRun with
      | true =>
          simpa only [Publisher.publishOne, assembled, writes, ↓reduceIte, true_and] using alike
      | false =>
          obtain ⟨calls, result, documents, transition⟩ := exists_transition sound metadata content
          obtain ⟨others, elsewhere, same⟩ := transition.alike alike
          rw [publishOne_eq_store writes assembled, publishOne_eq_store writes assembled,
            transition.store_eq, elsewhere.store_eq]
          refine ⟨rfl, ?_, same⟩
          funext operation
          simp only [after_failures, alike.failures]

/-- The calls of a publication name its document. -/
theorem Transition.document_of_mem {calls : List DocumentCall}
    {result : Except PublishError PublishOutcome} {documents : Table String StoredDocument}
    (transition : Transition service metadata content calls result documents) :
    ∀ call ∈ calls, call.document = metadata.documentName := by
  cases transition <;> simp [reading, creation, revision, DocumentCall.document]

/-- A publication that fails after it has stored a version leaves exactly this version more. -/
theorem Transition.stored_of_setDefault {calls : List DocumentCall} {version : String}
    {cause : PortError} {left : Table String StoredDocument}
    (transition : Transition service metadata content calls
      (.error (.setDefault metadata.documentName version cause)) left) :
    ∃ document, service.documents.get? metadata.documentName = some document ∧
      left.get? metadata.documentName = some (document.append content) := by
  cases transition with
  | setDefaultFailed revised | numberUnreadable revised =>
      exact ⟨_, revised.stored, Table.get?_insert_self _ _ _⟩

/-- A success has met no failure, so that none is used up. -/
theorem Transition.failures_of_ok {calls : List DocumentCall} {outcome : PublishOutcome}
    {left : Table String StoredDocument}
    (transition : Transition service metadata content calls (.ok outcome) left) :
    ∀ call ∈ calls, service.failures call.operation = none := by
  cases transition with
  | created described _ taken => simp [DocumentCall.operation, described, taken]
  | unchanged found => simp [reading, DocumentCall.operation, found.described, found.read]
  | updated revised advanced _ =>
      simp [reading, DocumentCall.operation, revised.described, revised.read, revised.taken,
        advanced]

/-- A document that is published meets no failure, and so leaves all that are scripted. -/
theorem failures_of_publishOne (sound : service.Sound) {outcome : PublishOutcome}
    (published : publisher.publishOne service metadata = (.ok outcome, next)) :
    next.failures = service.failures := by
  rcases publishOne_cases sound publisher metadata with
    same | ⟨content, calls, result, left, _, transition, same⟩
  · rw [← same, published]
  · rw [published] at same
    obtain ⟨rfl, rfl⟩ := Prod.mk.inj same
    funext operation
    rw [after_failures, ite_eq_right_iff]
    intro called
    obtain ⟨call, member, rfl⟩ := List.mem_map.1 called
    exact (transition.failures_of_ok call member).symm

/-- The calls of a run name its documents. -/
theorem exists_calls_of_publishEach (sound : service.Sound) (publisher : Publisher)
    (documents : List DocumentMetadata) :
    ∃ calls, (publisher.publishEach service documents).2.calls = service.calls ++ calls ∧
      ∀ call ∈ calls, call.document ∈ documents.map DocumentMetadata.documentName := by
  refine (publishEach_keeps_of_sound sound
    (fun later => ∃ calls, later.calls = service.calls ++ calls ∧
      ∀ call ∈ calls, call.document ∈ documents.map DocumentMetadata.documentName)
    (fun between sound metadata member kept => ?_) ⟨[], by simp⟩).2
  obtain ⟨earlier, noted, named⟩ := kept
  rcases publishOne_cases sound publisher metadata with
    same | ⟨content, calls, result, left, _, transition, same⟩
  · rw [same]
    exact ⟨earlier, noted, named⟩
  · rw [same]
    refine ⟨earlier ++ calls, by rw [after_calls, noted, List.append_assoc], fun call made => ?_⟩
    rcases List.mem_append.1 made with before | here
    · exact named call before
    · rw [transition.document_of_mem call here]
      exact List.mem_map_of_mem member

/-! ### A document alone -/

/-- Publishing a single document reports its outcome. -/
theorem publish_singleton_eq_ok_iff {outcome : PublishOutcome} :
    publisher.publish service [metadata] =
        (.ok ⟨[(metadata.documentName, outcome)]⟩, next) ↔
      publisher.publishOne service metadata = (.ok outcome, next) := by
  rw [publish_eq_ok_iff, publishEach_cons_eq_ok_iff]
  constructor
  · rintro ⟨_, _, _, here, ⟨⟩, ⟨⟩⟩
    exact here
  · intro here
    exact ⟨outcome, next, [], here, rfl, rfl⟩

/-- Publishing a single document fails as it does. -/
theorem publish_singleton_eq_error_iff {cause : PublishError} :
    publisher.publish service [metadata] = (.error cause, next) ↔
      publisher.publishOne service metadata = (.error cause, next) := by
  rw [publish_eq_error_iff, publishEach_cons_eq_error_iff]
  constructor
  · rintro (wrong | ⟨_, _, _, ⟨⟩⟩)
    exact wrong
  · exact .inl

/-- A document is published alone from a service with an outcome, and `last` holds it as it is
left there. -/
def StoredAlone (publisher : Publisher) (service last : DocumentService)
    (metadata : DocumentMetadata) (outcome : PublishOutcome) : Prop :=
  ∃ alone, publisher.publish service [metadata] =
      (.ok ⟨[(metadata.documentName, outcome)]⟩, alone) ∧
    last.documents.get? metadata.documentName = alone.documents.get? metadata.documentName

/-- A run over documents with different names that succeeds publishes each of them as it is
published alone from any service in which it stands alike. -/
theorem storedAlone_of_publishEach {start : DocumentService} (soundStart : start.Sound)
    (sound : service.Sound) (distinct : (documents.map DocumentMetadata.documentName).Nodup)
    (alike : ∀ metadata ∈ documents, Alike metadata.documentName start service)
    {outcomes : List (String × PublishOutcome)}
    (published : publisher.publishEach service documents = (.ok outcomes, last)) :
    last.failures = service.failures ∧
      List.Forall₂ (fun metadata entry => entry.1 = metadata.documentName ∧
        StoredAlone publisher start last metadata entry.2) documents outcomes := by
  induction documents generalizing service outcomes with
  | nil =>
      cases published
      exact ⟨rfl, .nil⟩
  | cons metadata rest ih =>
      obtain ⟨outcome, between, others, here, later, rfl⟩ := publishEach_cons_eq_ok_iff.1 published
      obtain ⟨elsewhere, distinct⟩ := List.nodup_cons.1 distinct
      have failures := failures_of_publishOne sound here
      have soundBetween : between.Sound := by
        simpa only [here] using sound_publishOne sound publisher metadata
      have alikeBetween : ∀ other ∈ rest, Alike other.documentName start between := by
        intro other member
        have differs : other.documentName ≠ metadata.documentName := by
          intro same
          exact elsewhere (same ▸ List.mem_map_of_mem member)
        have kept := publishOne_get?_of_ne sound publisher differs
        rw [here] at kept
        exact (alike other (.tail _ member)).trans ⟨failures, kept⟩
      obtain ⟨same, each⟩ := ih soundBetween distinct alikeBetween later
      refine ⟨same.trans failures, .cons ⟨rfl, ?_⟩ each⟩
      -- The head is published as from the start, and the others leave it alone.
      obtain ⟨results, left⟩ :=
        (alike metadata List.mem_cons_self).publishOne soundStart publisher
      have kept := publishEach_get?_of_notMem soundBetween publisher elsewhere
      rw [later] at kept
      rw [here] at results left
      exact ⟨(publisher.publishOne start metadata).2,
        publish_singleton_eq_ok_iff.2 (Prod.ext results.symm rfl), kept.trans left.stored⟩

/-! ### A run that fails -/

/-- A run from `service` fails at a document, and leaves `last`: the documents before it as each is
left alone, those behind it as they were, and itself with at most a version more. -/
structure Interrupted (publisher : Publisher) (service last : DocumentService)
    (front : List DocumentMetadata) (metadata : DocumentMetadata) (back : List DocumentMetadata)
    (cause : PublishError) : Prop where
  before : ∀ other ∈ front, ∃ outcome, StoredAlone publisher service last other outcome
  failed : (publisher.publish service [metadata]).1 = .error cause
  unasked : ∃ calls, last.calls = service.calls ++ calls ∧
    ∀ call ∈ calls, ∀ other ∈ back, call.document ≠ other.documentName
  untouched : ∀ other ∈ back,
    last.documents.get? other.documentName = service.documents.get? other.documentName
  kept : (∀ version reason, cause ≠ .setDefault metadata.documentName version reason) →
    last.documents.get? metadata.documentName = service.documents.get? metadata.documentName
  advanced : ∀ version reason, cause = .setDefault metadata.documentName version reason →
    ∃ document content, service.documents.get? metadata.documentName = some document ∧
      publisher.assemble metadata = .ok content ∧
      last.documents.get? metadata.documentName =
        some { document with versions := document.versions ++ [content] }

/-- What a publication that fails leaves of its document. -/
theorem get?_of_publishOne_error (sound : service.Sound) {cause : PublishError}
    (failed : publisher.publishOne service metadata = (.error cause, last)) :
    ((∀ version reason, cause ≠ .setDefault metadata.documentName version reason) →
        last.documents = service.documents) ∧
      ∀ version reason, cause = .setDefault metadata.documentName version reason →
        ∃ document content, service.documents.get? metadata.documentName = some document ∧
          publisher.assemble metadata = .ok content ∧
          last.documents.get? metadata.documentName = some (document.append content) := by
  cases assembled : publisher.assemble metadata with
  | error reason =>
      simp only [publishOne, assembled] at failed
      cases failed
      refine ⟨fun _ => rfl, fun version reason same => ?_⟩
      cases same
  | ok content =>
      cases writes : publisher.dryRun with
      | true => simp [publishOne, assembled, writes] at failed
      | false =>
          obtain ⟨calls, result, left, transition⟩ := exists_transition sound metadata content
          rw [publishOne_eq_store writes assembled, transition.store_eq] at failed
          obtain ⟨rfl, rfl⟩ := Prod.mk.inj failed
          refine ⟨transition.documents_of_error, ?_⟩
          rintro version reason rfl
          obtain ⟨document, found, stored⟩ := transition.stored_of_setDefault
          exact ⟨document, content, found, rfl, stored⟩

/-- Where a run over documents with different names fails, it is interrupted at one of them. -/
theorem exists_interrupted (sound : service.Sound)
    (distinct : (documents.map DocumentMetadata.documentName).Nodup) {cause : PublishError}
    (failed : publisher.publishEach service documents = (.error cause, last)) :
    ∃ front metadata back, documents = front ++ metadata :: back ∧
      Interrupted publisher service last front metadata back cause := by
  obtain ⟨front, metadata, back, outcomes, between, rfl, found, wrong⟩ :=
    publishEach_eq_error_iff.1 failed
  rw [List.map_append, List.map_cons, List.nodup_append] at distinct
  obtain ⟨distinct, others, apart⟩ := distinct
  have ahead : ∀ other ∈ front, other.documentName ≠ metadata.documentName :=
    fun other member => apart _ (List.mem_map_of_mem member) _ List.mem_cons_self
  have behind : ∀ other ∈ back,
      other.documentName ∉ (front ++ [metadata]).map DocumentMetadata.documentName := by
    intro other member inside
    rw [List.map_append, List.mem_append] at inside
    rcases inside with before | here
    · exact apart _ before _ (.tail _ (List.mem_map_of_mem member)) rfl
    · rw [List.map_singleton, List.mem_singleton] at here
      exact (List.nodup_cons.1 others).1 (here ▸ List.mem_map_of_mem member)
  -- The documents before succeed, and leave the failing one to be found as at the start.
  have soundBetween := sound_publishEach sound publisher front
  obtain ⟨failures, each⟩ :=
    storedAlone_of_publishEach sound sound distinct (fun _ _ => ⟨rfl, rfl⟩) found
  have elsewhere : metadata.documentName ∉ front.map DocumentMetadata.documentName := by
    intro inside
    obtain ⟨other, member, same⟩ := List.mem_map.1 inside
    exact ahead other member same
  have kept := publishEach_get?_of_notMem sound publisher elsewhere
  rw [found] at soundBetween kept
  have alike : Alike metadata.documentName service between := ⟨failures, kept⟩
  obtain ⟨results, -⟩ := alike.publishOne sound publisher
  obtain ⟨unchanged, advanced⟩ := get?_of_publishOne_error soundBetween wrong
  -- The run went no further than the failing document.
  have reached : publisher.publishEach service (front ++ [metadata]) = (.error cause, last) :=
    publishEach_eq_error_iff.2 ⟨front, metadata, [], outcomes, between, rfl, found, wrong⟩
  refine ⟨front, metadata, back, rfl, ?before, ?failed, ?unasked, ?untouched, ?kept, ?advanced⟩
  case before =>
    have stored : ∀ other ∈ front, last.documents.get? other.documentName =
        between.documents.get? other.documentName := by
      intro other member
      have same := publishOne_get?_of_ne soundBetween publisher (ahead other member)
      rwa [wrong] at same
    intro other member
    obtain ⟨entry, -, alone, published, left⟩ := exists_of_mem_forall₂ each member
    exact ⟨entry.2, alone, published, (stored other member).trans left⟩
  case failed =>
    rw [wrong] at results
    have alone : publisher.publishOne service metadata =
        (.error cause, (publisher.publishOne service metadata).2) := Prod.ext results.symm rfl
    exact congrArg Prod.fst (publish_singleton_eq_error_iff.2 alone)
  case unasked =>
    obtain ⟨calls, noted, named⟩ :=
      exists_calls_of_publishEach sound publisher (front ++ [metadata])
    rw [reached] at noted
    exact ⟨calls, noted, fun call made other member same =>
      behind other member (same ▸ named call made)⟩
  case untouched =>
    intro other member
    have same := publishEach_get?_of_notMem sound publisher (behind other member)
    rwa [reached] at same
  case kept =>
    intro early
    rw [unchanged early, kept]
  case advanced =>
    intro version reason same
    obtain ⟨document, content, found, assembled, stored⟩ := advanced version reason same
    exact ⟨document, content, kept ▸ found, assembled, stored⟩

/-- A run over documents with different names that fails is interrupted at one of them; one that
succeeds reports each of them once, in order, with the outcome that it has alone. -/
theorem publish_stops_exactly (reachable : Reachable service) (publisher : Publisher)
    (distinct : (documents.map DocumentMetadata.documentName).Nodup) :
    (∀ cause last, publisher.publish service documents = (.error cause, last) →
      ∃ front metadata back, documents = front ++ metadata :: back ∧
        Interrupted publisher service last front metadata back cause) ∧
    (∀ report last, publisher.publish service documents = (.ok report, last) →
      List.Forall₂ (fun metadata entry => entry.1 = metadata.documentName ∧
        StoredAlone publisher service last metadata entry.2) documents report.outcomes) := by
  constructor
  · intro cause last failed
    exact exists_interrupted reachable.sound distinct (publish_eq_error_iff.1 failed)
  · intro report last published
    exact (storedAlone_of_publishEach reachable.sound reachable.sound distinct
      (fun _ _ => ⟨rfl, rfl⟩) (publish_eq_ok_iff.1 published)).2

/-- The first document is created, the second stores a version that cannot be made the default
one, and nobody asks for the third. -/
theorem publish_stops_exactly_throttled :
    let service := (DocumentService.empty.seed "Restore" "old").failNext .setDefault "Throttling"
    let publisher : Publisher := ⟨fun metadata => .ok metadata.documentName, false⟩
    let documents := [{ sampleMetadata with documentName := "Backup" }, sampleMetadata,
      { sampleMetadata with documentName := "List" }]
    let cause : PublishError := .setDefault "Restore" "2"
      (.service "UpdateDocumentDefaultVersion" "Restore" "Throttling")
    (documents.map DocumentMetadata.documentName).Nodup ∧
      ∃ last, publisher.publish service documents = (.error cause, last) ∧
        ∃ front back, documents = front ++ sampleMetadata :: back ∧
          Interrupted publisher service last front sampleMetadata back cause := by
  intro service publisher documents cause
  have reachable : Reachable service := .failNext (.seed .empty _ _) _ _
  have distinct : (documents.map DocumentMetadata.documentName).Nodup := by decide
  refine ⟨distinct, _, Prod.ext rfl rfl, ?_⟩
  obtain ⟨front, metadata, back, same, interrupted⟩ :=
    (publish_stops_exactly reachable publisher distinct).1 cause _ (Prod.ext rfl rfl)
  have member : metadata ∈ documents := by simp [same]
  -- The other two can be published alone.
  rcases List.mem_cons.1 member with rfl | member
  · cases interrupted.failed
  · rcases List.mem_cons.1 member with rfl | member
    · exact ⟨front, back, same, interrupted⟩
    · rw [List.mem_singleton] at member
      subst member
      cases interrupted.failed

end Publisher

end Runbook
