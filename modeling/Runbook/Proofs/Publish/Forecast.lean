import Runbook.Proofs.Publish.Repetition

/-!
# What a dry run foretells

A run in which nothing but the assembly can go wrong (`Steady`) fails exactly where a document
cannot be assembled. A dry run is of this kind, and so is a real one from a service in which no
failure waits, as the service itself finds nothing wrong with what is published. So the one
foretells the other (`dryRun_foretells`): whether it fails and where, and otherwise the sizes of the
contents.
-/

namespace Runbook

/-- How many versions of a document are stored. -/
def DocumentService.versionCount (service : DocumentService) (name : String) : Nat :=
  ((service.documents.get? name).map fun document => document.versions.length).getD 0

namespace Publisher

open DocumentService
open DocumentMetadata (documentName)

variable {publisher : Publisher} {service next last : DocumentService}
  {metadata : DocumentMetadata} {content : String} {documents : List DocumentMetadata}

/-! ### Where nothing but the assembly can go wrong -/

/-- A list of documents is assembled up to one that cannot be. -/
structure StopsAt (assemble : DocumentMetadata → Except AssemblyError String)
    (documents : List DocumentMetadata) (metadata : DocumentMetadata) (cause : PublishError) :
    Prop where
  place : ∃ before after, documents = before ++ metadata :: after ∧
    ∀ other ∈ before, ∃ content, assemble other = .ok content
  reason : ∃ reason, assemble metadata = .error reason ∧
    cause = .assembly metadata.documentName reason

/-- Wherever a run gets to, a document that can be assembled is published. -/
def Steady (publisher : Publisher) (service : DocumentService)
    (documents : List DocumentMetadata) : Prop :=
  ∀ front metadata back outcomes between content, documents = front ++ metadata :: back →
    publisher.publishEach service front = (.ok outcomes, between) →
    publisher.assemble metadata = .ok content →
    ∃ outcome next, publisher.publishOne between metadata = (.ok outcome, next)

/-- What is published has been assembled. -/
theorem assembled_of_publishOne {outcome : PublishOutcome}
    (published : publisher.publishOne service metadata = (.ok outcome, next)) :
    ∃ content, publisher.assemble metadata = .ok content := by
  cases assembled : publisher.assemble metadata with
  | error reason => simp [publishOne, assembled] at published
  | ok content => exact ⟨content, rfl⟩

/-- A document that is not assembled fails before any call. -/
theorem publishOne_of_unassembled {reason : AssemblyError}
    (failed : publisher.assemble metadata = .error reason) :
    publisher.publishOne service metadata =
      (.error (.assembly metadata.documentName reason), service) := by
  simp only [publishOne, failed]

/-- A run that succeeds reports every document by its name, in order. -/
theorem names_of_publishEach {outcomes : List (String × PublishOutcome)}
    (published : publisher.publishEach service documents = (.ok outcomes, last)) :
    outcomes.map Prod.fst = documents.map documentName := by
  induction documents generalizing service outcomes with
  | nil =>
      cases published
      rfl
  | cons metadata rest ih =>
      obtain ⟨outcome, between, others, -, later, rfl⟩ := publishEach_cons_eq_ok_iff.1 published
      rw [List.map_cons, List.map_cons, ih later]

/-- In a run that succeeds each document is published after those before it, and its outcome stands
in its place. -/
theorem exists_published_of_split {front back : List DocumentMetadata}
    {outcomes : List (String × PublishOutcome)}
    (published : publisher.publishEach service (front ++ metadata :: back) = (.ok outcomes, last)) :
    ∃ earlier between outcome next, publisher.publishEach service front = (.ok earlier, between) ∧
      publisher.publishOne between metadata = (.ok outcome, next) ∧
      outcomes[front.length]? = some (metadata.documentName, outcome) := by
  obtain ⟨earlier, between, _, before, rest, rfl⟩ := publishEach_append_eq_ok_iff.1 published
  obtain ⟨outcome, next, later, here, -, rfl⟩ := publishEach_cons_eq_ok_iff.1 rest
  have placed : earlier.length = front.length := by
    simpa using congrArg List.length (names_of_publishEach before)
  refine ⟨earlier, between, outcome, next, before, here, ?_⟩
  rw [← placed, List.getElem?_append_right (Nat.le_refl _), Nat.sub_self, List.getElem?_cons_zero]

/-- The documents of a run that succeeds have all been assembled. -/
theorem assembled_of_publishEach {outcomes : List (String × PublishOutcome)}
    (published : publisher.publishEach service documents = (.ok outcomes, last)) :
    ∀ metadata ∈ documents, ∃ content, publisher.assemble metadata = .ok content := by
  induction documents generalizing service outcomes with
  | nil => simp
  | cons metadata rest ih =>
      obtain ⟨outcome, between, others, here, later, -⟩ := publishEach_cons_eq_ok_iff.1 published
      exact List.forall_mem_cons.2 ⟨assembled_of_publishOne here, ih later⟩

/-- Where the run is steady, documents that can be assembled are published. -/
theorem Steady.exists_published (steady : Steady publisher service documents)
    {front back : List DocumentMetadata} (split : documents = front ++ back)
    (assembled : ∀ metadata ∈ front, ∃ content, publisher.assemble metadata = .ok content) :
    ∃ outcomes between, publisher.publishEach service front = (.ok outcomes, between) := by
  rcases run : publisher.publishEach service front with ⟨cause | outcomes, between⟩
  · obtain ⟨before, metadata, after, outcomes, reached, rfl, found, wrong⟩ :=
      publishEach_eq_error_iff.1 run
    obtain ⟨content, possible⟩ := assembled metadata (by simp)
    obtain ⟨outcome, next, published⟩ := steady before metadata (after ++ back) outcomes reached
      content (by rw [split]; simp) found possible
    rw [wrong] at published
    cases published
  · exact ⟨outcomes, between, rfl⟩

/-- A steady run fails exactly where a document cannot be assembled. -/
theorem Steady.publishEach_eq_error_iff (steady : Steady publisher service documents)
    {cause : PublishError} :
    (publisher.publishEach service documents).1 = .error cause ↔
      ∃ metadata, StopsAt publisher.assemble documents metadata cause := by
  constructor
  · intro failed
    obtain ⟨front, metadata, back, outcomes, between, split, found, wrong⟩ :=
      Publisher.publishEach_eq_error_iff.1
        (Prod.ext failed rfl : publisher.publishEach service documents = (.error cause, _))
    refine ⟨metadata, ⟨front, back, split, assembled_of_publishEach found⟩, ?_⟩
    cases possible : publisher.assemble metadata with
    | error reason =>
        rw [publishOne_of_unassembled possible] at wrong
        cases wrong
        exact ⟨reason, rfl, rfl⟩
    | ok content =>
        obtain ⟨outcome, next, published⟩ :=
          steady front metadata back outcomes between content split found possible
        rw [wrong] at published
        cases published
  · rintro ⟨metadata, ⟨front, back, split, assembled⟩, reason, failed, rfl⟩
    obtain ⟨outcomes, between, found⟩ := steady.exists_published split assembled
    exact congrArg Prod.fst (Publisher.publishEach_eq_error_iff.2
      ⟨front, metadata, back, outcomes, between, split, found, publishOne_of_unassembled failed⟩)

/-! ### A dry run -/

/-- A dry run of one document tells its size and calls nothing. -/
theorem publishOne_of_dryRun (dry : publisher.dryRun = true)
    (assembled : publisher.assemble metadata = .ok content) :
    publisher.publishOne service metadata = (.ok (.dryRun content.utf8ByteSize), service) := by
  simp only [publishOne, assembled, dry, ↓reduceIte]

/-- A dry run leaves the service alone. -/
theorem publishEach_snd_of_dryRun (dry : publisher.dryRun = true) :
    (publisher.publishEach service documents).2 = service := by
  refine publishEach_keeps (fun other => other = service) (fun between metadata _ same => ?_) rfl
  subst same
  cases assembled : publisher.assemble metadata with
  | error reason => rw [publishOne_of_unassembled assembled]
  | ok content => rw [publishOne_of_dryRun dry assembled]

/-- A dry run is steady. -/
theorem steady_of_dryRun (dry : publisher.dryRun = true) :
    Steady publisher service documents :=
  fun _ _ _ _ _ _ _ _ assembled => ⟨_, _, publishOne_of_dryRun dry assembled⟩

/-- A dry run that fails stops at some document. -/
theorem stopsAt_of_publish {assemble : DocumentMetadata → Except AssemblyError String}
    {cause : PublishError}
    (failed : ((Publisher.mk assemble true).publish service documents).1 = .error cause) :
    ∃ metadata, StopsAt assemble documents metadata cause :=
  (steady_of_dryRun rfl).publishEach_eq_error_iff.1 (publish_fst_eq_error_iff.1 failed)

/-! ### A real run -/

/-- A publication adds at most one version. -/
theorem Transition.versionCount_le {calls : List DocumentCall}
    {result : Except PublishError PublishOutcome} {left : Table String StoredDocument}
    (transition : Transition service metadata content calls result left) (name : String) :
    (service.after calls left).versionCount name ≤ service.versionCount name + 1 := by
  by_cases same : name = metadata.documentName
  · subst same
    cases transition with
    | created => simp [versionCount]
    | updated revised | setDefaultFailed revised | numberUnreadable revised =>
        simp [versionCount, StoredDocument.append, revised.stored]
    | _ => exact Nat.le_succ _
  · rw [versionCount, after_documents, transition.get?_of_ne same]
    exact Nat.le_succ _

/-- Publishing one document adds no more than one version. -/
theorem versionCount_publishOne_le (sound : service.Sound) (publisher : Publisher)
    (metadata : DocumentMetadata) (name : String) :
    (publisher.publishOne service metadata).2.versionCount name ≤
      service.versionCount name + 1 := by
  rcases publishOne_cases sound publisher metadata with
    same | ⟨content, calls, result, left, _, transition, same⟩
  · rw [same]
    exact Nat.le_succ _
  · rw [same]
    exact transition.versionCount_le name

/-- A run that succeeds adds at most as many versions of a document as there are documents. -/
theorem versionCount_publishEach_le (sound : service.Sound)
    {outcomes : List (String × PublishOutcome)}
    (published : publisher.publishEach service documents = (.ok outcomes, last)) (name : String) :
    last.versionCount name ≤ service.versionCount name + documents.length := by
  induction documents generalizing service outcomes with
  | nil =>
      cases published
      exact Nat.le_refl _
  | cons metadata rest ih =>
      obtain ⟨outcome, between, others, here, later, -⟩ := publishEach_cons_eq_ok_iff.1 published
      have first := versionCount_publishOne_le sound publisher metadata name
      have soundBetween := sound_publishOne sound publisher metadata
      rw [here] at first soundBetween
      have second := ih soundBetween later
      rw [List.length_cons]
      omega

/-- Where no failure waits and the number of a further version can be read back, a publication
succeeds. -/
theorem Transition.exists_outcome {calls : List DocumentCall}
    {result : Except PublishError PublishOutcome} {left : Table String StoredDocument}
    (transition : Transition service metadata content calls result left) (quiet : service.Quiet)
    (room : service.versionCount metadata.documentName < Text.maxWord) :
    ∃ outcome, result = .ok outcome := by
  cases transition with
  | created | unchanged | updated => exact ⟨_, rfl⟩
  | describeFailed failing | createFailed _ _ failing | getFailed _ _ failing
    | updateFailed _ _ failing | setDefaultFailed _ failing => simp [quiet _] at failing
  | numberUnreadable revised _ unreadable =>
      simp only [versionCount, revised.stored, Option.map_some, Option.getD_some] at room
      omega

/-- A real run is steady where no failure waits and there are numbers for all versions. -/
theorem steady_of_quiet (sound : service.Sound) (quiet : service.Quiet)
    (writes : publisher.dryRun = false)
    (room : ∀ name, service.versionCount name + documents.length ≤ Text.maxWord) :
    Steady publisher service documents := by
  rintro front metadata back outcomes between content rfl found assembled
  have soundBetween : between.Sound := by
    simpa only [found] using sound_publishEach sound publisher front
  have quietBetween : between.Quiet := by
    simpa only [found] using quiet_publishEach sound quiet publisher front
  have counted := versionCount_publishEach_le sound found metadata.documentName
  have free := room metadata.documentName
  rw [List.length_append, List.length_cons] at free
  obtain ⟨calls, result, left, transition⟩ := exists_transition soundBetween metadata content
  obtain ⟨outcome, rfl⟩ := transition.exists_outcome quietBetween (by omega)
  exact ⟨outcome, _, (publishOne_eq_store writes assembled).trans transition.store_eq⟩

/-! ### The dry run and the real one -/

/-- Where a run stops depends on what is assembled of its documents only. -/
theorem StopsAt.congr {first second : DocumentMetadata → Except AssemblyError String}
    (same : ∀ metadata ∈ documents, second metadata = first metadata) {cause : PublishError}
    (stops : StopsAt first documents metadata cause) : StopsAt second documents metadata cause := by
  obtain ⟨⟨front, back, rfl, assembled⟩, reason, failed, rfl⟩ := stops
  refine ⟨⟨front, back, rfl, fun other member => ?_⟩, reason, ?_, rfl⟩
  · rw [same other (by simp [member])]
    exact assembled other member
  · rw [same metadata (by simp), failed]

/-- A dry run leaves the service alone and foretells the real run from a service in which no failure
waits: the one fails when the other does, at the same document, which cannot be assembled, and
otherwise they report the same names, the dry run with the size of the content that the real run
leaves as the newest version at that point. A document never has so many versions that a machine
word cannot number them. -/
theorem dryRun_foretells (reachable : Reachable service) (quiet : service.Quiet)
    {dry real : Publisher} (leaves : dry.dryRun = true) (writes : real.dryRun = false)
    (same : ∀ metadata ∈ documents, real.assemble metadata = dry.assemble metadata)
    (room : ∀ name, service.versionCount name + documents.length ≤ Text.maxWord) :
    (dry.publish service documents).2 = service ∧
    (∀ cause, (dry.publish service documents).1 = .error cause ↔
      (real.publish service documents).1 = .error cause) ∧
    (∀ cause, (real.publish service documents).1 = .error cause →
      ∃ front metadata back reason, documents = front ++ metadata :: back ∧
        (∃ forecast, (dry.publish service front).1 = .ok forecast) ∧
        (∃ report, (real.publish service front).1 = .ok report) ∧
        dry.assemble metadata = .error reason ∧
        cause = .assembly metadata.documentName reason) ∧
    (∀ forecast report, (dry.publish service documents).1 = .ok forecast →
      (real.publish service documents).1 = .ok report →
      forecast.outcomes.map Prod.fst = report.outcomes.map Prod.fst ∧
      ∀ front metadata back, documents = front ++ metadata :: back → ∃ content,
        forecast.outcomes[front.length]? =
          some (metadata.documentName, .dryRun content.utf8ByteSize) ∧
        Current (real.publish service (front ++ [metadata])).2 metadata.documentName content) := by
  have dryStops : ∀ cause, (dry.publish service documents).1 = .error cause ↔
      ∃ metadata, StopsAt dry.assemble documents metadata cause := fun cause =>
    publish_fst_eq_error_iff.trans (steady_of_dryRun leaves).publishEach_eq_error_iff
  have steady := steady_of_quiet reachable.sound quiet writes room
  have realStops : ∀ cause, (real.publish service documents).1 = .error cause ↔
      ∃ metadata, StopsAt dry.assemble documents metadata cause := by
    intro cause
    rw [publish_fst_eq_error_iff, steady.publishEach_eq_error_iff]
    exact exists_congr fun metadata =>
      ⟨.congr fun other member => (same other member).symm, .congr same⟩
  refine ⟨?leaves, fun cause => (dryStops cause).trans (realStops cause).symm, ?stops, ?sizes⟩
  case leaves =>
    rw [publish_eq]
    exact publishEach_snd_of_dryRun leaves
  case stops =>
    intro cause failed
    obtain ⟨metadata, ⟨front, back, split, assembled⟩, reason, wrong, named⟩ :=
      (realStops cause).1 failed
    have possible : ∀ other ∈ front, ∃ content, real.assemble other = .ok content := by
      intro other member
      rw [same other (by simp [split, member])]
      exact assembled other member
    obtain ⟨forecast, _, foretold⟩ := (steady_of_dryRun leaves).exists_published split assembled
    obtain ⟨outcomes, _, published⟩ := steady.exists_published split possible
    exact ⟨front, metadata, back, reason, split,
      ⟨⟨forecast⟩, publish_fst_eq_ok_iff.2 (congrArg Prod.fst foretold)⟩,
      ⟨⟨outcomes⟩, publish_fst_eq_ok_iff.2 (congrArg Prod.fst published)⟩, wrong, named⟩
  case sizes =>
    intro forecast report foretold published
    have foreseen : dry.publishEach service documents = (.ok forecast.outcomes, _) :=
      Prod.ext (publish_fst_eq_ok_iff.1 foretold) rfl
    have done : real.publishEach service documents = (.ok report.outcomes, _) :=
      Prod.ext (publish_fst_eq_ok_iff.1 published) rfl
    refine ⟨(names_of_publishEach foreseen).trans (names_of_publishEach done).symm, ?_⟩
    rintro front metadata back rfl
    obtain ⟨_, _, outcome, _, _, sized, placed⟩ := exists_published_of_split foreseen
    obtain ⟨_, between, _, next, before, here, _⟩ := exists_published_of_split done
    have soundBetween : between.Sound := by
      simpa only [before] using sound_publishEach reachable.sound real front
    obtain ⟨content, assembled, current⟩ := current_of_publishOne soundBetween writes here
    rw [same metadata (by simp)] at assembled
    rw [publishOne_of_dryRun leaves assembled] at sized
    cases sized
    have alone : real.publishEach between [metadata] = (.ok _, next) :=
      publishEach_cons_eq_ok_iff.2 ⟨_, _, [], here, rfl, rfl⟩
    have reached := publishEach_append_eq_ok_iff.2 ⟨_, _, _, before, alone, rfl⟩
    refine ⟨content, placed, ?_⟩
    rwa [publish_eq, reached]

/-- A document that is listed twice gets two more versions, and the sizes of both are foretold. -/
theorem dryRun_foretells_twice :
    let service := DocumentService.empty.seed "Restore" "old"
    let dry : Publisher := ⟨fun metadata => .ok metadata.content, true⟩
    let real : Publisher := ⟨fun metadata => .ok metadata.content, false⟩
    let documents := [sampleMetadata, { sampleMetadata with content := "other.yml" }]
    (dry.publish service documents).1 =
        .ok ⟨[("Restore", .dryRun 12), ("Restore", .dryRun 9)]⟩ ∧
      (real.publish service documents).1 =
        .ok ⟨[("Restore", .updated "2"), ("Restore", .updated "3")]⟩ ∧
      (∃ content, content.utf8ByteSize = 12 ∧
        Current (real.publish service [sampleMetadata]).2 "Restore" content) ∧
      ∃ content, content.utf8ByteSize = 9 ∧
        Current (real.publish service documents).2 "Restore" content := by
  intro service dry real documents
  have room : ∀ name, service.versionCount name + documents.length ≤ Text.maxWord := by
    intro name
    have few : service.versionCount name ≤ 1 := by
      simp only [service, versionCount, seed, DocumentService.empty, Table.get?_insert]
      split <;> simp
    have listed : documents.length = 2 := rfl
    have many : 3 ≤ Text.maxWord := by decide
    omega
  have leaves : dry.dryRun = true := rfl
  have writes : real.dryRun = false := rfl
  obtain ⟨-, -, -, sizes⟩ := dryRun_foretells (.seed .empty "Restore" "old") (fun _ => rfl) leaves
    writes (fun _ _ => rfl) room
  obtain ⟨-, each⟩ := sizes _ _ rfl rfl
  obtain ⟨first, firstSize, firstCurrent⟩ := each [] sampleMetadata _ rfl
  obtain ⟨second, secondSize, secondCurrent⟩ := each [sampleMetadata] _ [] rfl
  simp only [List.length_nil, List.length_singleton, List.getElem?_cons_zero,
    List.getElem?_cons_succ, Option.some.injEq, Prod.mk.injEq, PublishOutcome.dryRun.injEq]
    at firstSize secondSize
  exact ⟨rfl, rfl, ⟨first, firstSize.2.symm, firstCurrent⟩, second, secondSize.2.symm,
    secondCurrent⟩

end Publisher

end Runbook
