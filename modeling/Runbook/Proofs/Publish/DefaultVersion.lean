import Runbook.Proofs.Publish.Transition

/-!
# Where the default version stands

A new version becomes the default one in a call of its own. When that call fails the default
version stays behind, and publishing the same content again finds the newest version as wanted
and leaves it so. `Run.tracked` keeps account of this along every run: the default version of a
document is its newest one exactly where `leftBehind` does not find it left behind in the answers.
-/

namespace Runbook

/-- Every document has a version, and the newest one is its default version. -/
def DocumentService.Settled (service : DocumentService) : Prop :=
  ∀ name document, service.documents.get? name = some document →
    1 ≤ document.defaultVersion ∧ document.defaultVersion = document.versions.length

namespace Publisher

open DocumentService

/-- The answer to publishing a document. -/
structure Answer where
  document : String
  result : Except PublishError PublishOutcome

/-- Is a document's default version left behind after a further answer? -/
def Answer.leavesBehind (answer : Answer) (name : String) (behind : Bool) : Bool :=
  if answer.document = name then
    match answer.result with
    | .ok .created | .ok (.updated _) => false
    | .error (.setDefault _ _ _) => true
    | _ => behind
  else behind

/-- An answer about one document says nothing about the others. -/
theorem Answer.leavesBehind_of_ne {answer : Answer} {name : String}
    (differs : name ≠ answer.document) (behind : Bool) : answer.leavesBehind name behind = behind := by
  simp [Answer.leavesBehind, differs.symm]

/-- An answer that says nothing about its own document says nothing at all. -/
theorem Answer.leavesBehind_of_silent {answer : Answer}
    (silent : ∀ behind, answer.leavesBehind answer.document behind = behind) (name : String)
    (behind : Bool) : answer.leavesBehind name behind = behind := by
  by_cases same : name = answer.document
  · rw [same]
    exact silent behind
  · exact Answer.leavesBehind_of_ne same behind

/-- Is a document's default version left behind after all these answers? -/
def leftBehind (name : String) (answers : List Answer) : Bool :=
  answers.foldl (fun behind answer => answer.leavesBehind name behind) false

/-- The last answer decides, or leaves what the earlier ones said. -/
theorem leftBehind_concat (name : String) (answers : List Answer) (answer : Answer) :
    leftBehind name (answers ++ [answer]) = answer.leavesBehind name (leftBehind name answers) := by
  simp [leftBehind]

/-- The runs from a service on: failures are scripted, and documents are published with whatever
is assembled for them at that time. The answers are kept in order. -/
inductive Run (start : DocumentService) : DocumentService → List Answer → Prop where
  | start : Run start start []
  | fail {service answers} (prior : Run start service answers) (operation : DocumentOperation)
      (message : String) : Run start (service.failNext operation message) answers
  | publish {service answers} (prior : Run start service answers)
      (assemble : DocumentMetadata → Except AssemblyError String) (metadata : DocumentMetadata) :
      Run start (publishOne ⟨assemble, false⟩ service metadata).2
        (answers ++
          [⟨metadata.documentName, (publishOne ⟨assemble, false⟩ service metadata).1⟩])

/-- The stored documents are sound, and a default version is the newest one exactly where it was
not left behind. -/
structure Tracked (service : DocumentService) (behind : String → Bool) : Prop where
  sound : service.Sound
  newest_iff : ∀ name document, service.documents.get? name = some document →
    (document.defaultVersion = document.versions.length ↔ behind name = false)

variable {service : DocumentService} {metadata : DocumentMetadata} {content : String}

/-- In a settled service no default version is left behind. -/
theorem Tracked.of_settled (settled : service.Settled) : Tracked service fun _ => false where
  sound name document found := ⟨(settled name document found).1, (settled name document found).2.le⟩
  newest_iff name document found := by simp [(settled name document found).2]

/-- Nothing has to be tracked while the documents stay as they are. -/
theorem Tracked.of_documents {next : DocumentService} {behind behind' : String → Bool}
    (tracked : Tracked service behind) (same : next.documents = service.documents)
    (kept : ∀ name, behind' name = behind name) : Tracked next behind' where
  sound := tracked.sound.of_documents same
  newest_iff name document found := by
    rw [kept]
    exact tracked.newest_iff name document (same ▸ found)

/-- A document is set, and whether it is behind is noted under its name only. -/
theorem Tracked.insert {next : DocumentService} {behind behind' : String → Bool}
    (tracked : Tracked service behind) {name : String} {document : StoredDocument}
    (inserted : next.documents = service.documents.insert name document)
    (new : document.Sound)
    (newest_iff : document.defaultVersion = document.versions.length ↔ behind' name = false)
    (kept : ∀ other, other ≠ name → behind' other = behind other) : Tracked next behind' where
  sound := tracked.sound.insert new inserted
  newest_iff other stored found := by
    rw [inserted, Table.get?_insert] at found
    split at found
    · rename_i same
      cases found
      rw [same]
      exact newest_iff
    · rename_i differs
      rw [kept other differs]
      exact tracked.newest_iff other stored found

/-- What a transition does to the documents is what its result says about the default version. -/
theorem Transition.tracked {calls : List DocumentCall}
    {result : Except PublishError PublishOutcome} {documents : Table String StoredDocument}
    {behind : String → Bool}
    (transition : Transition service metadata content calls result documents)
    (tracked : Tracked service behind) :
    Tracked (service.after calls documents) fun name =>
      (Answer.mk metadata.documentName result).leavesBehind name (behind name) := by
  have elsewhere : ∀ other, other ≠ metadata.documentName →
      (Answer.mk metadata.documentName result).leavesBehind other (behind other) = behind other :=
    fun other differs => Answer.leavesBehind_of_ne differs _
  cases transition with
  | created described absent taken =>
      exact tracked.insert rfl (StoredDocument.sound_first _ _) (by simp [Answer.leavesBehind])
        elsewhere
  | updated revised advanced readable =>
      refine tracked.insert rfl ⟨Nat.le_add_left 1 _, ?_⟩ ?_ elsewhere
      · simp [StoredDocument.append]
      · simp [StoredDocument.append, Answer.leavesBehind]
  | setDefaultFailed revised _ | numberUnreadable revised _ _ =>
      have sound := tracked.sound _ _ revised.stored
      refine tracked.insert rfl (sound.append _) ?_ elsewhere
      -- The default version was one of the old ones, and there is one more now.
      have bounded := sound.bounded
      simp only [StoredDocument.append, List.length_append, List.length_singleton,
        Answer.leavesBehind, ↓reduceIte, Bool.true_eq_false, iff_false]
      omega
  | _ =>
      refine tracked.of_documents rfl fun name => Answer.leavesBehind_of_silent ?_ name _
      simp [Answer.leavesBehind]

/-- One publication keeps the account, whatever is assembled. -/
theorem Tracked.publishOne {behind : String → Bool} (tracked : Tracked service behind)
    (assemble : DocumentMetadata → Except AssemblyError String) (metadata : DocumentMetadata) :
    Tracked (publishOne ⟨assemble, false⟩ service metadata).2 fun name =>
      (Answer.mk metadata.documentName
        (Publisher.publishOne ⟨assemble, false⟩ service metadata).1).leavesBehind name
          (behind name) := by
  cases assembled : assemble metadata with
  | error cause =>
      simp only [Publisher.publishOne, assembled]
      refine tracked.of_documents rfl fun name => ?_
      simp [Answer.leavesBehind]
  | ok content =>
      obtain ⟨calls, result, documents, transition⟩ :=
        exists_transition tracked.sound metadata content
      simp only [Publisher.publishOne, assembled, transition.store_eq, Bool.false_eq_true,
        ↓reduceIte]
      exact transition.tracked tracked

/-- The account is right along every run from a settled service. -/
theorem Run.tracked {start : DocumentService} {answers : List Answer} (settled : start.Settled)
    (run : Run start service answers) : Tracked service fun name => leftBehind name answers := by
  induction run with
  | start => exact .of_settled settled
  | fail _ operation message ih => exact ih.of_documents rfl fun _ => rfl
  | publish _ assemble metadata ih =>
      simp only [leftBehind_concat]
      exact ih.publishOne assemble metadata

/-- A publication that succeeds leaves the default version behind only where it was so before
and nothing had to be stored. -/
theorem Transition.leavesBehind_of_ok {calls : List DocumentCall} {outcome : PublishOutcome}
    {documents : Table String StoredDocument}
    (transition : Transition service metadata content calls (.ok outcome) documents)
    (behind : Bool) :
    (Answer.mk metadata.documentName (.ok outcome)).leavesBehind metadata.documentName behind =
      false ↔ (outcome = .unchanged → behind = false) := by
  cases transition <;> simp [Answer.leavesBehind]

/-- A publication that succeeds leaves the assembled content as the newest version. That version
is the default one too, except where it was left behind by an earlier publication and nothing had
to be stored this time. -/
theorem default_newest_iff_of_answered {start : DocumentService} {answers : List Answer}
    (settled : start.Settled) (run : Run start service answers)
    {assemble : DocumentMetadata → Except AssemblyError String} {outcome : PublishOutcome}
    {next : DocumentService}
    (answered : publishOne ⟨assemble, false⟩ service metadata = (.ok outcome, next)) :
    ∃ content document, assemble metadata = .ok content ∧
      next.documents.get? metadata.documentName = some document ∧
      document.latest? = some content ∧
      (document.defaultVersion = document.versions.length ↔
        (outcome = .unchanged → leftBehind metadata.documentName answers = false)) := by
  have tracked := (run.tracked settled).publishOne assemble metadata
  cases assembled : assemble metadata with
  | error cause => simp [publishOne, assembled] at answered
  | ok content =>
      obtain ⟨calls, result, documents, transition⟩ :=
        exists_transition (run.tracked settled).sound metadata content
      have same : publishOne ⟨assemble, false⟩ service metadata =
          (result, service.after calls documents) := by
        simp only [publishOne, assembled, transition.store_eq, Bool.false_eq_true, ↓reduceIte]
      rw [answered] at tracked same
      obtain ⟨rfl, rfl⟩ := Prod.mk.inj same
      obtain ⟨document, stored, newest⟩ := transition.latest_of_ok
      refine ⟨content, document, rfl, stored, newest, ?_⟩
      rw [tracked.newest_iff _ document stored]
      exact transition.leavesBehind_of_ok _

/-- A service that stored a second version and failed to make it the default one. -/
def throttledSample : DocumentService :=
  (publishOne ⟨fun _ => .ok "new", false⟩
    ((publishOne ⟨fun _ => .ok "old", false⟩ DocumentService.empty sampleMetadata).2.failNext
      .setDefault "Throttling") sampleMetadata).2

/-- The sample creates a document, stores a second version and fails to make it the default. -/
theorem run_throttledSample :
    Run DocumentService.empty throttledSample
      [⟨"Restore", .ok .created⟩,
        ⟨"Restore", .error (.setDefault "Restore" "2"
          (.service "UpdateDocumentDefaultVersion" "Restore" "Throttling"))⟩] :=
  .publish (.fail (.publish .start (fun _ => .ok "old") sampleMetadata) .setDefault "Throttling")
    (fun _ => .ok "new") sampleMetadata

/-- A service without documents is settled. -/
theorem settled_empty : DocumentService.empty.Settled := by
  intro name document found
  simp [DocumentService.empty] at found

/-- A further content ends the delay. -/
theorem default_newest_after_further_content :
    ∃ document,
      (publishOne ⟨fun _ => .ok "newest", false⟩ throttledSample
        sampleMetadata).2.documents.get? "Restore" = some document ∧
      document.latest? = some "newest" ∧
      document.defaultVersion = document.versions.length := by
  have answered : publishOne ⟨fun _ => .ok "newest", false⟩ throttledSample sampleMetadata =
      (.ok (.updated "3"), (publishOne ⟨fun _ => .ok "newest", false⟩ throttledSample
        sampleMetadata).2) := Prod.ext rfl rfl
  obtain ⟨content, document, assembled, stored, newest, default_iff⟩ :=
    default_newest_iff_of_answered settled_empty run_throttledSample answered
  cases assembled
  exact ⟨document, stored, newest, default_iff.2 nofun⟩

/-- Publishing the same content again answers that nothing changed, and the default version stays
behind. -/
theorem default_behind_after_same_content :
    ∃ service answers,
      DocumentService.empty.Settled ∧ Run DocumentService.empty service answers ∧
      (publishOne ⟨fun _ => .ok "new", false⟩ service sampleMetadata).1 = .ok .unchanged ∧
      ∃ document,
        (publishOne ⟨fun _ => .ok "new", false⟩ service
          sampleMetadata).2.documents.get? "Restore" = some document ∧
        document.latest? = some "new" ∧
        document.defaultVersion ≠ document.versions.length :=
  ⟨throttledSample, _, settled_empty, run_throttledSample, rfl,
    ⟨["old", "new"], 1, [("Digito-reference-id", "rds:sop:restore:2020-04-01")]⟩, rfl, rfl,
    by decide⟩

end Publisher

end Runbook
