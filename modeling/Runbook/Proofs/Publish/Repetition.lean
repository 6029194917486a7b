import Runbook.Proofs.Publish.Sequence

/-!
# Publishing a list a second time

Where a run over documents with different names succeeds, every document ends up with the assembled
content as its newest version (`Current`), since the later documents have other names. A second run
over the list then reads every document and stores nothing: `publish_again_unchanged`.
-/

namespace Runbook.Publisher

open DocumentService

variable {publisher : Publisher} {service next : DocumentService} {metadata : DocumentMetadata}
  {content : String} {documents : List DocumentMetadata}

/-- The newest version of a document is a content. -/
def Current (service : DocumentService) (name content : String) : Prop :=
  ∃ document, service.documents.get? name = some document ∧ document.latest? = some content

/-- A success leaves the assembled content as the newest version. -/
theorem current_of_publishOne (sound : service.Sound) (writes : publisher.dryRun = false)
    {outcome : PublishOutcome}
    (published : publisher.publishOne service metadata = (.ok outcome, next)) :
    ∃ content, publisher.assemble metadata = .ok content ∧
      Current next metadata.documentName content := by
  cases assembled : publisher.assemble metadata with
  | error cause => simp [publishOne, assembled] at published
  | ok content =>
      obtain ⟨calls, result, documents, transition⟩ :=
        exists_transition sound metadata content
      rw [publishOne_eq_store writes assembled, transition.store_eq] at published
      obtain ⟨rfl, rfl⟩ := Prod.mk.inj published
      exact ⟨content, rfl, transition.latest_of_ok⟩

/-- A document that is current is read and left as it is. -/
theorem Current.publishOne_eq (quiet : service.Quiet) (writes : publisher.dryRun = false)
    (assembled : publisher.assemble metadata = .ok content)
    (current : Current service metadata.documentName content) :
    publisher.publishOne service metadata =
      (.ok .unchanged, service.after (reading metadata.documentName) service.documents) := by
  obtain ⟨document, stored, newest⟩ := current
  have found : Found service metadata.documentName document content :=
    ⟨quiet _, stored, quiet _, newest⟩
  rw [publishOne_eq_store writes assembled]
  exact (Transition.unchanged found).store_eq

/-- A run over documents with different names that succeeds leaves each with its assembled content
as the newest version. -/
theorem current_of_publishEach (sound : service.Sound) (writes : publisher.dryRun = false)
    (distinct : (documents.map DocumentMetadata.documentName).Nodup)
    {outcomes : List (String × PublishOutcome)}
    (published : publisher.publishEach service documents = (.ok outcomes, next)) :
    ∀ metadata ∈ documents, ∃ content, publisher.assemble metadata = .ok content ∧
      Current next metadata.documentName content := by
  induction documents generalizing service outcomes with
  | nil => simp
  | cons metadata rest ih =>
      obtain ⟨outcome, between, others, first, later, -⟩ := publishEach_cons_eq_ok_iff.1 published
      obtain ⟨elsewhere, distinct⟩ := List.nodup_cons.1 distinct
      have soundBetween : between.Sound := by
        simpa only [first] using sound_publishOne sound publisher metadata
      rintro other (_ | ⟨_, member⟩)
      · obtain ⟨content, assembled, document, stored, newest⟩ :=
          current_of_publishOne sound writes first
        have kept := publishEach_get?_of_notMem soundBetween publisher elsewhere
        rw [later] at kept
        exact ⟨content, assembled, document, kept.trans stored, newest⟩
      · exact ih soundBetween distinct later other member

/-- A run over documents that are all current reads each of them and leaves the service as it is. -/
theorem publishEach_of_current (quiet : service.Quiet) (writes : publisher.dryRun = false)
    (current : ∀ metadata ∈ documents, ∃ content, publisher.assemble metadata = .ok content ∧
      Current service metadata.documentName content) :
    publisher.publishEach service documents =
      (.ok (documents.map fun metadata => (metadata.documentName, .unchanged)),
        service.after (documents.flatMap fun metadata => reading metadata.documentName)
          service.documents) := by
  induction documents generalizing service with
  | nil =>
      rw [quiet.after_eq]
      simp [publishEach]
  | cons metadata rest ih =>
      obtain ⟨content, assembled, here⟩ := current metadata List.mem_cons_self
      have first := here.publishOne_eq quiet writes assembled
      have later := ih (quiet.after (reading metadata.documentName) service.documents)
        fun other member => current other (List.mem_cons_of_mem _ member)
      rw [after_after, after_documents] at later
      exact publishEach_cons_eq_ok_iff.2 ⟨_, _, _, first, later, rfl⟩

/-- After a run over documents with different names has succeeded, a second run over the list
reads every document once, finds all of them unchanged and leaves the service as it is. -/
theorem publish_again_unchanged (reachable : Reachable service) (quiet : service.Quiet)
    {first second : Publisher} (firstWrites : first.dryRun = false)
    (secondWrites : second.dryRun = false)
    (distinct : (documents.map DocumentMetadata.documentName).Nodup)
    (same : ∀ metadata ∈ documents, second.assemble metadata = first.assemble metadata)
    {report : PublishReport} (published : first.publish service documents = (.ok report, next)) :
    second.publish next documents =
      (.ok ⟨documents.map fun metadata => (metadata.documentName, .unchanged)⟩,
        { next with
          calls := next.calls ++ documents.flatMap fun metadata =>
            [.describe metadata.documentName, .get metadata.documentName latestVersion] }) := by
  have ran := publish_eq_ok_iff.1 published
  have settled := current_of_publishEach reachable.sound firstWrites distinct ran
  have quietNext : next.Quiet := by
    simpa only [ran] using quiet_publishEach reachable.sound quiet first documents
  have current : ∀ metadata ∈ documents, ∃ content, second.assemble metadata = .ok content ∧
      Current next metadata.documentName content := by
    intro metadata member
    obtain ⟨content, assembled, here⟩ := settled metadata member
    exact ⟨content, (same metadata member).trans assembled, here⟩
  have again := publishEach_of_current quietNext secondWrites current
  rw [quietNext.after_eq] at again
  exact publish_eq_ok_iff.2 again

/-- One document gets a second version and the other its first; the second run stores neither. -/
theorem publish_again_unchanged_pair :
    let service := DocumentService.empty.seed "Restore" "old"
    let publisher : Publisher := ⟨fun metadata => .ok metadata.documentName, false⟩
    let documents := [sampleMetadata, { sampleMetadata with documentName := "Backup" }]
    let next := (publisher.publish service documents).2
    publisher.publish service documents =
        (.ok ⟨[("Restore", .updated "2"), ("Backup", .created)]⟩, next) ∧
      publisher.publish next documents =
        (.ok ⟨[("Restore", .unchanged), ("Backup", .unchanged)]⟩,
          { next with
            calls := next.calls ++
              [.describe "Restore", .get "Restore" "$LATEST", .describe "Backup",
                .get "Backup" "$LATEST"] }) := by
  intro service publisher documents next
  have published : publisher.publish service documents =
      (.ok ⟨[("Restore", .updated "2"), ("Backup", .created)]⟩, next) := Prod.ext rfl rfl
  exact ⟨published, publish_again_unchanged (.seed .empty _ _) (fun _ => rfl) rfl rfl (by decide)
    (fun _ _ => rfl) published⟩

end Runbook.Publisher
