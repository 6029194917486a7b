import Runbook.Proofs.Publish.Transition

/-!
# Publishing documents one after the other

A run over a list of documents is followed document by document: what every publication keeps, the
run keeps (`publishEach_keeps`), and a run that succeeds is its first publication and then the run
over the others (`publishEach_cons_eq_ok_iff`). So a run touches none but its own documents, and
scripts no failure.
-/

namespace Runbook

namespace DocumentService

/-- No failure waits for a call. -/
def Quiet (service : DocumentService) : Prop :=
  ∀ operation, service.failures operation = none

/-- Calls use up failures and script none. -/
theorem Quiet.after {service : DocumentService} (quiet : service.Quiet)
    (calls : List DocumentCall) (documents : Table String StoredDocument) :
    (service.after calls documents).Quiet := by
  intro operation
  rw [after_failures, quiet operation, ite_self]

/-- Without failures that wait, calls that store nothing are noted and that is all. -/
theorem Quiet.after_eq {service : DocumentService} (quiet : service.Quiet)
    (calls : List DocumentCall) :
    service.after calls service.documents =
      { service with calls := service.calls ++ calls } := by
  have same : (service.after calls service.documents).failures = service.failures := by
    funext operation
    rw [quiet.after calls service.documents operation, quiet operation]
  rw [← same]
  rfl

end DocumentService

namespace Publisher

open DocumentService

variable {publisher : Publisher} {service next : DocumentService} {metadata : DocumentMetadata}
  {content : String}

/-! ### One document -/

/-- Publishing an assembled content brings the service's document to it. -/
theorem publishOne_eq_store (writes : publisher.dryRun = false)
    (assembled : publisher.assemble metadata = .ok content) :
    publisher.publishOne service metadata = store service metadata content := by
  simp only [publishOne, assembled, writes, Bool.false_eq_true, ↓reduceIte]

/-- A publication leaves the service alone, or is a transition to an assembled content. -/
theorem publishOne_cases (sound : service.Sound) (publisher : Publisher)
    (metadata : DocumentMetadata) :
    (publisher.publishOne service metadata).2 = service ∨
      ∃ content calls result documents, publisher.assemble metadata = .ok content ∧
        Transition service metadata content calls result documents ∧
        publisher.publishOne service metadata = (result, service.after calls documents) := by
  cases assembled : publisher.assemble metadata with
  | error cause => exact Or.inl (by simp only [publishOne, assembled])
  | ok content =>
      cases writes : publisher.dryRun with
      | true => exact Or.inl (by simp only [publishOne, assembled, writes, ↓reduceIte])
      | false =>
          obtain ⟨calls, result, documents, transition⟩ := exists_transition sound metadata content
          refine Or.inr ⟨content, calls, result, documents, rfl, transition, ?_⟩
          rw [publishOne_eq_store writes assembled, transition.store_eq]

/-- A publication keeps the stored documents sound. -/
theorem sound_publishOne (sound : service.Sound) (publisher : Publisher)
    (metadata : DocumentMetadata) : (publisher.publishOne service metadata).2.Sound := by
  rcases publishOne_cases sound publisher metadata with same | ⟨_, _, _, _, _, transition, same⟩
  · rwa [same]
  · rw [same]
    exact transition.sound sound

/-- A publication touches no other document. -/
theorem publishOne_get?_of_ne (sound : service.Sound) (publisher : Publisher)
    {name : String} (differs : name ≠ metadata.documentName) :
    (publisher.publishOne service metadata).2.documents.get? name =
      service.documents.get? name := by
  rcases publishOne_cases sound publisher metadata with
    same | ⟨_, _, _, _, _, transition, same⟩
  · rw [same]
  · rw [same]
    exact transition.get?_of_ne differs

/-- Publishing a document scripts no failure. -/
theorem quiet_publishOne (sound : service.Sound) (quiet : service.Quiet)
    (publisher : Publisher) (metadata : DocumentMetadata) :
    (publisher.publishOne service metadata).2.Quiet := by
  rcases publishOne_cases sound publisher metadata with
    same | ⟨_, _, _, _, _, _, same⟩
  · rw [same]
    exact quiet
  · rw [same]
    exact quiet.after _ _

/-! ### A list of documents -/

variable {documents : List DocumentMetadata}

/-- What every publication keeps, a run keeps, wherever it stops. -/
theorem publishEach_keeps (Kept : DocumentService → Prop)
    (step : ∀ service, ∀ metadata ∈ documents, Kept service →
      Kept (publisher.publishOne service metadata).2)
    (start : Kept service) : Kept (publisher.publishEach service documents).2 := by
  induction documents generalizing service with
  | nil => exact start
  | cons metadata rest ih =>
      have here := step service metadata List.mem_cons_self start
      rw [publishEach]
      rcases published : publisher.publishOne service metadata with ⟨_ | outcome, next⟩
      · rwa [published] at here
      · rw [published] at here
        have later := ih (fun service other member => step service other (.tail _ member)) here
        dsimp only
        rcases others : publisher.publishEach next rest with ⟨_ | outcomes, last⟩ <;>
          rwa [others] at later

/-- A run that succeeds publishes its first document and then the others. -/
theorem publishEach_cons_eq_ok_iff {rest : List DocumentMetadata}
    {outcomes : List (String × PublishOutcome)} {last : DocumentService} :
    publisher.publishEach service (metadata :: rest) = (.ok outcomes, last) ↔
      ∃ outcome next others, publisher.publishOne service metadata = (.ok outcome, next) ∧
        publisher.publishEach next rest = (.ok others, last) ∧
        outcomes = (metadata.documentName, outcome) :: others := by
  rw [publishEach]
  rcases publisher.publishOne service metadata with ⟨_ | outcome, next⟩
  · simp
  · dsimp only
    rcases later : publisher.publishEach next rest with ⟨_ | others, final⟩
    · simp [later]
    · constructor
      · rintro ⟨⟩
        exact ⟨outcome, next, others, rfl, later, rfl⟩
      · rintro ⟨_, _, _, ⟨⟩, others, rfl⟩
        rw [later] at others
        cases others
        rfl

/-- A run over two lists that succeeds is a run over the first and then one over the second. -/
theorem publishEach_append_eq_ok_iff {front back : List DocumentMetadata}
    {outcomes : List (String × PublishOutcome)} {last : DocumentService} :
    publisher.publishEach service (front ++ back) = (.ok outcomes, last) ↔
      ∃ earlier between later, publisher.publishEach service front = (.ok earlier, between) ∧
        publisher.publishEach between back = (.ok later, last) ∧ outcomes = earlier ++ later := by
  induction front generalizing service outcomes with
  | nil => simp [publishEach]
  | cons metadata rest ih =>
      simp only [List.cons_append, publishEach_cons_eq_ok_iff, ih]
      constructor
      · rintro ⟨outcome, next, _, here, ⟨earlier, between, later, found, others, rfl⟩, rfl⟩
        exact ⟨_, between, later, ⟨outcome, next, earlier, here, found, rfl⟩, others, rfl⟩
      · rintro ⟨_, between, later, ⟨outcome, next, earlier, here, found, rfl⟩, others, rfl⟩
        exact ⟨outcome, next, _, here, ⟨earlier, between, later, found, others, rfl⟩, rfl⟩

/-- A run fails at its first document, or after that at one of the others. -/
theorem publishEach_cons_eq_error_iff {rest : List DocumentMetadata} {cause : PublishError}
    {last : DocumentService} :
    publisher.publishEach service (metadata :: rest) = (.error cause, last) ↔
      publisher.publishOne service metadata = (.error cause, last) ∨
        ∃ outcome next, publisher.publishOne service metadata = (.ok outcome, next) ∧
          publisher.publishEach next rest = (.error cause, last) := by
  rw [publishEach]
  rcases publisher.publishOne service metadata with ⟨_ | outcome, next⟩
  · simp
  · dsimp only
    rcases later : publisher.publishEach next rest with ⟨_ | others, final⟩
    · simp [later]
    · simp [later]

/-- A run that fails does so at a document up to which it succeeds. -/
theorem publishEach_eq_error_iff {cause : PublishError} {last : DocumentService} :
    publisher.publishEach service documents = (.error cause, last) ↔
      ∃ front metadata back outcomes between, documents = front ++ metadata :: back ∧
        publisher.publishEach service front = (.ok outcomes, between) ∧
        publisher.publishOne between metadata = (.error cause, last) := by
  constructor
  · intro failed
    induction documents generalizing service with
    | nil => simp [publishEach] at failed
    | cons metadata rest ih =>
        rcases publishEach_cons_eq_error_iff.1 failed with wrong | ⟨outcome, next, here, later⟩
        · exact ⟨[], metadata, rest, [], service, rfl, rfl, wrong⟩
        · obtain ⟨front, other, back, outcomes, between, rfl, found, wrong⟩ := ih later
          exact ⟨metadata :: front, other, back, _, between, rfl,
            publishEach_cons_eq_ok_iff.2 ⟨outcome, next, outcomes, here, found, rfl⟩, wrong⟩
  · rintro ⟨front, metadata, back, outcomes, between, rfl, found, wrong⟩
    induction front generalizing service outcomes with
    | nil =>
        cases found
        exact publishEach_cons_eq_error_iff.2 (.inl wrong)
    | cons other front ih =>
        obtain ⟨outcome, next, others, here, later, -⟩ := publishEach_cons_eq_ok_iff.1 found
        exact publishEach_cons_eq_error_iff.2 (.inr ⟨outcome, next, here, ih _ later⟩)

/-- Every publication in a run starts from sound documents, so what it keeps there the run keeps. -/
theorem publishEach_keeps_of_sound (sound : service.Sound) (Kept : DocumentService → Prop)
    (step : ∀ service, service.Sound → ∀ metadata ∈ documents, Kept service →
      Kept (publisher.publishOne service metadata).2)
    (start : Kept service) :
    (publisher.publishEach service documents).2.Sound ∧
      Kept (publisher.publishEach service documents).2 :=
  publishEach_keeps (fun service => service.Sound ∧ Kept service)
    (fun service metadata member kept =>
      ⟨sound_publishOne kept.1 publisher metadata, step service kept.1 metadata member kept.2⟩)
    ⟨sound, start⟩

/-- Publishing documents keeps the service sound. -/
theorem sound_publishEach (sound : service.Sound) (publisher : Publisher)
    (documents : List DocumentMetadata) : (publisher.publishEach service documents).2.Sound :=
  publishEach_keeps DocumentService.Sound
    (fun _ metadata _ sound => sound_publishOne sound publisher metadata) sound

/-- A run touches none but its documents. -/
theorem publishEach_get?_of_notMem (sound : service.Sound) (publisher : Publisher) {name : String}
    (elsewhere : name ∉ documents.map DocumentMetadata.documentName) :
    (publisher.publishEach service documents).2.documents.get? name =
      service.documents.get? name := by
  refine (publishEach_keeps_of_sound sound
    (fun other => other.documents.get? name = service.documents.get? name)
    (fun between sound metadata member kept => ?_) rfl).2
  have differs : name ≠ metadata.documentName := by
    rintro rfl
    exact elsewhere (List.mem_map_of_mem member)
  rw [publishOne_get?_of_ne sound publisher differs, kept]

/-- Publishing documents scripts no failure. -/
theorem quiet_publishEach (sound : service.Sound) (quiet : service.Quiet) (publisher : Publisher)
    (documents : List DocumentMetadata) : (publisher.publishEach service documents).2.Quiet :=
  (publishEach_keeps_of_sound sound DocumentService.Quiet (fun _ sound metadata _ quiet =>
    quiet_publishOne sound quiet publisher metadata) quiet).2

/-- A run's report holds the outcomes of its documents. -/
theorem publish_eq (publisher : Publisher) (service : DocumentService)
    (documents : List DocumentMetadata) :
    publisher.publish service documents =
      ((publisher.publishEach service documents).1.map PublishReport.mk,
        (publisher.publishEach service documents).2) := by
  rw [publish]
  rcases publisher.publishEach service documents with ⟨_ | outcomes, last⟩ <;> rfl

/-- A run succeeds with the outcomes of its documents. -/
theorem publish_fst_eq_ok_iff {report : PublishReport} :
    (publisher.publish service documents).1 = .ok report ↔
      (publisher.publishEach service documents).1 = .ok report.outcomes := by
  rw [publish_eq]
  cases report
  cases (publisher.publishEach service documents).1 <;> simp [Except.map]

/-- A run fails as the first of its documents that does. -/
theorem publish_fst_eq_error_iff {cause : PublishError} :
    (publisher.publish service documents).1 = .error cause ↔
      (publisher.publishEach service documents).1 = .error cause := by
  rw [publish_eq]
  cases (publisher.publishEach service documents).1 <;> simp [Except.map]

/-- A run succeeds, and leaves the service, as its documents do one after the other. -/
theorem publish_eq_ok_iff {report : PublishReport} :
    publisher.publish service documents = (.ok report, next) ↔
      publisher.publishEach service documents = (.ok report.outcomes, next) := by
  rw [Prod.ext_iff, Prod.ext_iff, publish_fst_eq_ok_iff, publish_eq]

/-- A run fails, and leaves the service, as its documents do one after the other. -/
theorem publish_eq_error_iff {cause : PublishError} :
    publisher.publish service documents = (.error cause, next) ↔
      publisher.publishEach service documents = (.error cause, next) := by
  rw [Prod.ext_iff, Prod.ext_iff, publish_fst_eq_error_iff, publish_eq]

end Publisher

end Runbook
