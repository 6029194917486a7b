import Mathlib.Data.List.Chain
import Runbook.Proofs.Publish.Service

/-!
# The versions of stored documents

No call loses a document. Versions are only added to it (`Change.extends`), each different from the
one before (`Change.consistent`). So what is read for a number stays what it was. `history_sound`
puts this together for all sequences of calls and scripted failures from a seeded service.
-/

namespace Runbook

/-- A sound document in which each version differs from the one before. -/
structure StoredDocument.Consistent (document : StoredDocument) : Prop extends document.Sound where
  changing : document.versions.IsChain (· ≠ ·)

namespace StoredDocument

variable {document later : StoredDocument} {content : String}

/-- A first version is consistent. -/
theorem consistent_first (content : String) (tags : List (String × String)) :
    Consistent ⟨[content], 1, tags⟩ :=
  ⟨sound_first content tags, List.isChain_singleton content⟩

/-- A version that differs from the last one keeps a document consistent. -/
theorem Consistent.append (consistent : document.Consistent)
    (differs : document.latest? ≠ some content) : (document.append content).Consistent where
  toSound := consistent.toSound.append content
  changing := by
    refine List.isChain_append.2 ⟨consistent.changing, List.isChain_singleton content, ?_⟩
    rintro last newest next same rfl
    rw [List.head?_singleton, Option.mem_some_iff] at same
    subst same
    exact differs newest

/-- A version that is added is the last. -/
@[simp] theorem latest?_append : (document.append content).latest? = some content :=
  List.getLast?_concat

/-- The newest version has the greatest number. -/
theorem numbered?_length_append :
    (document.append content).numbered? (document.versions.length + 1) = some content :=
  List.getElem?_concat_length

/-- A version keeps its number when later ones are added. -/
theorem numbered?_of_prefix {number : Nat} (grown : document.versions <+: later.versions)
    (there : document.numbered? number = some content) :
    later.numbered? number = some content := by
  cases number with
  | zero => cases there
  | succ index =>
      obtain ⟨added, same⟩ := grown
      obtain ⟨inside, _⟩ := List.getElem?_eq_some_iff.1 there
      rw [numbered?, ← same, List.getElem?_append_left inside]
      exact there

end StoredDocument

namespace DocumentService

/-! ### Selectors of versions -/

/-- A number is not the selector of the newest version. -/
theorem toString_ne_latestVersion (number : Nat) : toString number ≠ latestVersion := by
  intro same
  have dollar : '$' ∈ Nat.toDigits 10 number := by
    have digits := congrArg String.toList same
    rw [Nat.toString_eq_ofList_toDigits, String.toList_ofList] at digits
    rw [digits]
    decide
  have digit := Nat.isDigit_of_mem_toDigits (by decide) (by decide) dollar
  exact absurd digit (by decide)

/-- A number that a word holds selects the version of this number. -/
theorem selected?_toString (document : StoredDocument) {number : Nat}
    (readable : number ≤ Text.maxWord) :
    selected? document (toString number) = document.numbered? number := by
  rw [selected?, if_neg (toString_ne_latestVersion number), Nat.toString_eq_ofList_toDigits,
    String.toList_ofList, Text.natural?_toDigits, if_pos readable, Option.bind_some]

/-- All selectors but that of the newest version select the same when versions are added. -/
theorem selected?_of_prefix {document later : StoredDocument} {version content : String}
    (numbered : version ≠ latestVersion) (grown : document.versions <+: later.versions)
    (there : selected? document version = some content) :
    selected? later version = some content := by
  rw [selected?, if_neg numbered] at there ⊢
  obtain ⟨number, parsed, found⟩ := Option.bind_eq_some_iff.1 there
  rw [parsed, Option.bind_some]
  exact StoredDocument.numbered?_of_prefix grown found

/-- The content that a version of a document has. -/
def content? (service : DocumentService) (name version : String) : Option String :=
  (service.documents.get? name).bind fun document => selected? document version

/-- A content is read exactly when it is there and no failure waits. -/
theorem get_fst_eq_ok_iff {service : DocumentService} {name version content : String} :
    (service.get name version).1 = .ok content ↔
      service.failures .get = none ∧ service.content? name version = some content := by
  rw [get_eq, content?]
  cases service.failures .get with
  | some message => simp
  | none =>
      cases service.documents.get? name with
      | none => simp
      | some document =>
          cases chosen : selected? document version with
          | none => simp [chosen]
          | some found => simp [chosen]

/-! ### What a call keeps -/

variable {service : DocumentService} {documents next : Table String StoredDocument}
  {call : DocumentCall} {result : Except PortError Reply}

/-- Every document is still there, and its versions are the first of its versions now. -/
def Extends (documents next : Table String StoredDocument) : Prop :=
  ∀ name document, documents.get? name = some document →
    ∃ later, next.get? name = some later ∧ document.versions <+: later.versions

/-- Documents extend themselves. -/
theorem Extends.refl (documents : Table String StoredDocument) : Extends documents documents :=
  fun _ document found => ⟨document, found, List.prefix_rfl⟩

/-- Extending documents is transitive. -/
theorem Extends.trans {last : Table String StoredDocument} (first : Extends documents next)
    (second : Extends next last) : Extends documents last := by
  intro name document found
  obtain ⟨between, there, grown⟩ := first name document found
  obtain ⟨later, kept, further⟩ := second name between there
  exact ⟨later, kept, grown.trans further⟩

/-- Only the document that is set has to be looked at. -/
theorem extends_insert {name : String} {later : StoredDocument}
    (grown : ∀ document, documents.get? name = some document →
      document.versions <+: later.versions) :
    Extends documents (documents.insert name later) := by
  intro other document found
  by_cases same : other = name
  · subst same
    exact ⟨later, Table.get?_insert_self _ _ _, grown document found⟩
  · refine ⟨document, ?_, List.prefix_rfl⟩
    rw [Table.get?_insert, if_neg same]
    exact found

/-- A change extends the documents. -/
theorem Change.extends (change : Change documents call result next) : Extends documents next := by
  cases change with
  | refused | described | read => exact .refl documents
  | created request absent =>
      refine extends_insert fun document found => ?_
      rw [absent] at found
      cases found
  | updated request stored differs =>
      refine extends_insert fun document found => ?_
      rw [stored] at found
      cases found
      exact List.prefix_append _ _
  | defaulted name version stored positive bounded =>
      refine extends_insert fun document found => ?_
      rw [stored] at found
      cases found
      exact List.prefix_rfl

/-- All stored documents are consistent. -/
def Consistent (documents : Table String StoredDocument) : Prop :=
  ∀ name document, documents.get? name = some document → document.Consistent

/-- A change keeps the documents consistent. -/
theorem Change.consistent (change : Change documents call result next)
    (consistent : Consistent documents) : Consistent next :=
  change.keeps StoredDocument.consistent_first (fun same differs => same.append differs)
    (fun same positive bounded => ⟨⟨positive, bounded⟩, same.changing⟩) consistent

/-! ### Sequences of calls -/

/-- What happens to a service: it is called, or its next call of an operation is made to fail. -/
inductive Event where
  | call (call : DocumentCall)
  | failNext (operation : DocumentOperation) (message : String)
deriving DecidableEq, Repr

/-- The service after an event. -/
def perform (service : DocumentService) : Event → DocumentService
  | .call call => (service.answer call).2
  | .failNext operation message => service.failNext operation message

/-- The service after some events. -/
def run (service : DocumentService) (events : List Event) : DocumentService :=
  events.foldl perform service

/-- A service with some documents of one version. -/
def seeded (seeds : List (String × String)) : DocumentService :=
  seeds.foldl (fun service document => service.seed document.1 document.2) empty

/-- A service begins consistent. -/
theorem consistent_seeded (seeds : List (String × String)) :
    Consistent (seeded seeds).documents := by
  induction seeds using List.reverseRec with
  | nil =>
      intro name document found
      cases found
  | append_singleton seeds document ih =>
      rw [seeded, List.foldl_append]
      exact Table.forall_get?_insert ih (StoredDocument.consistent_first _ _)

/-- An event keeps the documents consistent. -/
theorem consistent_perform (consistent : Consistent service.documents) (event : Event) :
    Consistent (service.perform event).documents := by
  cases event with
  | call call => exact (change_answer service call).consistent consistent
  | failNext operation message => exact consistent

/-- An event extends the documents. -/
theorem extends_perform (service : DocumentService) (event : Event) :
    Extends service.documents (service.perform event).documents := by
  cases event with
  | call call => exact (change_answer service call).extends
  | failNext operation message => exact .refl _

/-- Events keep the documents consistent, one after the other. -/
theorem consistent_run (consistent : Consistent service.documents) (events : List Event) :
    Consistent (service.run events).documents := by
  induction events generalizing service with
  | nil => exact consistent
  | cons event rest ih => exact ih (consistent_perform consistent event)

/-- Events extend the documents, one after the other. -/
theorem extends_run (service : DocumentService) (events : List Event) :
    Extends service.documents (service.run events).documents := by
  induction events generalizing service with
  | nil => exact .refl _
  | cons event rest ih => exact (extends_perform service event).trans (ih _)

/-- What is there for a number stays there. -/
theorem content?_run {name version content : String} (numbered : version ≠ latestVersion)
    (there : service.content? name version = some content) (events : List Event) :
    (service.run events).content? name version = some content := by
  obtain ⟨document, stored, selected⟩ := Option.bind_eq_some_iff.1 there
  obtain ⟨later, kept, grown⟩ := extends_run service events name document stored
  rw [content?, kept, Option.bind_some]
  exact selected?_of_prefix numbered grown selected

/-- A call that is answered with an error leaves the documents as they are. -/
theorem documents_of_answer_error {cause : PortError} {next : DocumentService}
    (failed : service.answer call = (.error cause, next)) :
    next.documents = service.documents := by
  have change := change_answer service call
  rw [failed] at change
  generalize next.documents = documents at change ⊢
  cases change
  rfl

/-- An update that succeeds stores its content as the newest version, under the number that it
answers. -/
theorem stored_of_update {request : UpdateRequest} {number : String} {next : DocumentService}
    (updated : service.update request = (.ok number, next)) :
    ∃ document, service.documents.get? request.name = some document ∧
      next.documents.get? request.name = some (document.append request.content) ∧
      number = toString (document.versions.length + 1) := by
  have change := change_update service request
  rw [answer, updated, Prod.map_fst, Prod.map_snd, id_eq, Except.map] at change
  generalize after : next.documents = documents at change ⊢
  cases change with
  | @updated _ document stored differs =>
      exact ⟨document, stored, Table.get?_insert_self _ _ _, rfl⟩

/-- A service keeps a sound history of its documents, whatever it is called with and whichever calls
are made to fail. Every document has versions, each different from the one before, and its default
version is one of them. What is there for a number stays there. An update that succeeds puts its
content under the number that it answers, as the newest version, and a call that fails changes no
document. -/
theorem history_sound (seeds : List (String × String)) (events : List Event) :
    let service := (seeded seeds).run events
    (∀ name document, service.documents.get? name = some document →
      document.versions ≠ [] ∧ 1 ≤ document.defaultVersion ∧
        document.defaultVersion ≤ document.versions.length ∧
        document.versions.IsChain (· ≠ ·)) ∧
    (∀ name version content, (service.get name version).1 = .ok content ↔
      service.failures .get = none ∧ service.content? name version = some content) ∧
    (∀ name version content, version ≠ latestVersion →
      service.content? name version = some content →
        ∀ later, (service.run later).content? name version = some content) ∧
    (∀ request number next, service.update request = (.ok number, next) →
      ∃ document, next.documents.get? request.name = some document ∧
        number = toString document.versions.length ∧
        document.numbered? document.versions.length = some request.content ∧
        next.content? request.name latestVersion = some request.content ∧
        (document.versions.length ≤ Text.maxWord →
          next.content? request.name number = some request.content)) ∧
    ∀ call cause next, service.answer call = (.error cause, next) →
      next.documents = service.documents := by
  intro service
  have consistent : Consistent service.documents := consistent_run (consistent_seeded seeds) events
  refine ⟨fun name document stored => ?_, fun _ _ _ => get_fst_eq_ok_iff,
    fun _ _ _ numbered there later => content?_run numbered there later,
    fun request number next updated => ?_, fun _ _ _ failed => documents_of_answer_error failed⟩
  · obtain ⟨sound, changing⟩ := consistent name document stored
    exact ⟨sound.filled, sound.positive, sound.bounded, changing⟩
  · obtain ⟨document, -, stored, rfl⟩ := stored_of_update updated
    have length : (document.append request.content).versions.length =
        document.versions.length + 1 := List.length_append
    have numbered : (document.append request.content).numbered? (document.versions.length + 1) =
        some request.content := StoredDocument.numbered?_length_append
    refine ⟨_, stored, by rw [length], by rw [length]; exact numbered, ?_, fun readable => ?_⟩
    · rw [content?, stored, Option.bind_some, selected?, if_pos rfl]
      exact StoredDocument.latest?_append
    · rw [content?, stored, Option.bind_some, selected?_toString _ (length ▸ readable)]
      exact numbered

/-- A document whose first update is made to fail, and whose second one succeeds. -/
def throttledEvents : List Event :=
  [.failNext .update "Throttling", .call (.update ⟨"Doc", "new", .yaml⟩),
    .call (.update ⟨"Doc", "new", .yaml⟩)]

/-- The second version is read as it was sent, also after the document has changed back. -/
theorem history_sound_throttled :
    let service := (seeded [("Doc", "old")]).run throttledEvents
    let restored := service.run [.call (.update ⟨"Doc", "old", .yaml⟩)]
    (service.get "Doc" "2").1 = .ok "new" ∧
      restored.content? "Doc" "2" = some "new" ∧
      restored.content? "Doc" "$LATEST" = some "old" ∧
      restored.content? "Doc" "3" = some "old" ∧
      (service.run [.call (.get "Doc" "3")]).documents = service.documents := by
  intro service restored
  obtain ⟨-, read, kept, updated, failed⟩ := history_sound [("Doc", "old")] throttledEvents
  have there : service.content? "Doc" "2" = some "new" := by decide
  obtain ⟨document, stored, -, -, newest, numbered⟩ :=
    updated ⟨"Doc", "old", .yaml⟩ "3" restored (Prod.ext rfl rfl)
  have three : document = ⟨["old", "new", "old"], 1, []⟩ :=
    Option.some.inj (stored.symm.trans (by decide))
  refine ⟨(read "Doc" "2" "new").2 ⟨rfl, there⟩, kept "Doc" "2" "new" (by decide) there _, newest,
    numbered ?_, failed (.get "Doc" "3") _ _ (Prod.ext rfl rfl)⟩
  rw [three]
  decide

end DocumentService

end Runbook
