import Mathlib.Data.List.Infix
import Runbook.Metadata.Check
import Runbook.Proofs.Tag
import Runbook.Proofs.Text.Letter
import Runbook.Proofs.Text.Occurrence

/-!
# Which names a document may have

A name is read from the outside in, and what is found is the only way to read it: the date is what
follows the last underscore, and a date with an underscore is never found (`faultless_iff`).
A body holds letters and digits only and mentions the service. So a tag allows a name exactly when
the word to mention has no separators, which a service may have (`nameable_iff`).
-/

namespace Runbook

namespace DocumentName

variable {sep : Char} {text before after ending front body : List Char}
  {name suffix date word : String}

/-- A text is cut where no such character follows. -/
theorem cutAtLast_eq_some_iff :
    cutAtLast sep text = some (before, after) ↔ text = before ++ sep :: after ∧ sep ∉ after := by
  have joined := List.takeWhile_append_dropWhile (p := fun c => decide (c ≠ sep))
    (l := text.reverse)
  constructor
  · intro cut
    unfold cutAtLast at cut
    split at cut
    · cases cut
    · rename_i c rest found
      cases cut
      have stop : c = sep := by
        have head := List.head?_dropWhile_not (fun c => decide (c ≠ sep)) text.reverse
        rw [found] at head
        simpa using head
      rw [found, stop] at joined
      refine ⟨?_, ?_⟩
      · simpa using congrArg List.reverse joined.symm
      · rw [List.mem_reverse]
        intro inside
        simpa using List.all_eq_true.1 List.all_takeWhile sep inside
  · rintro ⟨rfl, absent⟩
    have plain : ∀ c ∈ after.reverse, decide (c ≠ sep) = true := by
      intro c member
      simpa using fun same : c = sep => absent (same ▸ List.mem_reverse.1 member)
    have reversed : (before ++ sep :: after).reverse = after.reverse ++ sep :: before.reverse := by
      simp
    unfold cutAtLast
    rw [reversed, List.dropWhile_append_of_pos plain, List.takeWhile_append_of_pos plain]
    simp

/-- A text without its ending is what stands before it. -/
theorem dropEnding_eq_some_iff : dropEnding ending text = some front ↔ text = front ++ ending := by
  simp only [dropEnding, Option.map_eq_some_iff, Text.dropLead_eq_some_iff]
  constructor
  · rintro ⟨rest, whole, rfl⟩
    simpa using congrArg List.reverse whole
  · rintro rfl
    exact ⟨front.reverse, by simp, by simp⟩

/-- The part of a name that tells what a document does, and to which service: letters and digits,
an upper-case letter first, with the service in upper or lower case. -/
structure Body (word : String) (body : List Char) : Prop where
  capital : ∃ c rest, body = c :: rest ∧ c.isUpper = true
  plain : ∀ c ∈ body, c.isAlphanum = true
  mentions : Text.lowered word.toList <:+: Text.lowered body

/-- A body is faultless exactly where it is one around the word. -/
theorem bodyFault?_eq_none_iff : bodyFault? body word = none ↔ Body word body := by
  have capital : body.head?.any Text.isUpper = true ↔
      ∃ c rest, body = c :: rest ∧ c.isUpper = true := by
    cases body <;> simp [Text.isUpper_eq]
  have plain : body.all Text.isAlphanumeric = true ↔ ∀ c ∈ body, c.isAlphanum = true := by
    simp [Text.isAlphanumeric_eq]
  have mentions := @Text.contains_iff_infix (Text.lowered word.toList) (Text.lowered body)
  constructor
  · intro faultless
    unfold bodyFault? at faultless
    split at faultless
    · cases faultless
    · split at faultless
      · cases faultless
      · split at faultless
        · cases faultless
        · rename_i starts holds has
          exact ⟨capital.1 (by simpa using starts), plain.1 (by simpa using holds),
            mentions.1 (by simpa using has)⟩
  · intro body
    simp [bodyFault?, capital.2 body.capital, plain.2 body.plain, mentions.2 body.mentions]

/-- The name with a body. -/
def written (body : List Char) (suffix date : String) : String :=
  lead ++ String.ofList body ++ suffix ++ "_" ++ date

/-- A name is written as lead, body, suffix, underscore and date. -/
theorem toList_written : (written body suffix date).toList =
    lead.toList ++ (body ++ suffix.toList ++ '_' :: date.toList) := by
  simp [written]

/-- A name that is written with a body has only the faults of the body. -/
theorem fault?_written (undivided : '_' ∉ date.toList) :
    fault? (written body suffix date) suffix date word = bodyFault? body word := by
  simp only [fault?, Text.dropLead_eq_some_iff.2 toList_written,
    cutAtLast_eq_some_iff.2 ⟨rfl, undivided⟩, dropEnding_eq_some_iff.2 rfl, ne_eq,
    not_true_eq_false, ↓reduceIte]

/-- What a name without fault is read as is how it is written. -/
theorem exists_written_of_fault?_eq_none (faultless : fault? name suffix date word = none) :
    '_' ∉ date.toList ∧ ∃ body, name = written body suffix date ∧ bodyFault? body word = none := by
  unfold fault? at faultless
  split at faultless
  · cases faultless
  · rename_i rest led
    split at faultless
    · cases faultless
    · rename_i head found cut
      split at faultless
      · cases faultless
      · rename_i dated
        split at faultless
        · cases faultless
        · rename_i body ended
          obtain rfl : found = date.toList := not_not.1 dated
          obtain ⟨split, undivided⟩ := cutAtLast_eq_some_iff.1 cut
          refine ⟨undivided, body, String.toList_inj.1 ?_, faultless⟩
          rw [toList_written, Text.dropLead_eq_some_iff.1 led, split,
            dropEnding_eq_some_iff.1 ended]

/-- A name has no fault exactly when it is the lead, a body that mentions the word, the suffix, an
underscore and the date, and no underscore stands in the date. A word with a capital sigma is
mentioned by no body, however that letter is written in lower case. -/
theorem faultless_iff (name suffix date word : String) :
    fault? name suffix date word = none ↔ '_' ∉ date.toList ∧
      ∃ body, Body word body ∧ name = lead ++ String.ofList body ++ suffix ++ "_" ++ date := by
  constructor
  · intro faultless
    obtain ⟨undivided, body, rfl, sound⟩ := exists_written_of_fault?_eq_none faultless
    exact ⟨undivided, body, bodyFault?_eq_none_iff.1 sound, rfl⟩
  · rintro ⟨undivided, body, isBody, rfl⟩
    exact (fault?_written undivided).trans (bodyFault?_eq_none_iff.2 isBody)

end DocumentName

namespace Tag

variable {tag : Tag} {name : String} {suffix : String}

/-- The segments of a tag hold letters, digits and the separators of words only. -/
def Spelled (tag : Tag) : Prop :=
  ∀ segment ∈ tag.segments, ∀ c ∈ segment.toList, c.isAlphanum = true ∨ endsWord c = true

/-- What document names at the place of a tag end in before the date, where they are ruled. -/
def suffix? (tag : Tag) : Option String := tag.category?.bind Category.nameSuffix?

/-- A document at the place of a tag may have the name. -/
def Allows (tag : Tag) (name : String) : Prop :=
  ∀ suffix, tag.suffix? = some suffix →
    DocumentName.fault? name suffix tag.date tag.serviceAlias = none

/-- The name segment begins with a word that a separator ends. -/
def HasOwnWord (tag : Tag) : Prop :=
  ∃ c rest, tag.name.toList = c :: rest ∧ endsWord c = false ∧ rest.any endsWord = true

/-- A name is faultless exactly where the tag of the place allows it. -/
theorem nameFault_eq_nil_iff {file : MetadataFile} {root : Path}
    (place : ofMetadataPath? root file.path = some tag) (named : file.documentName? = some name) :
    file.nameFault root = [] ↔ tag.Allows name := by
  simp only [MetadataFile.nameFault, place, named, Allows, suffix?]
  cases tag.category?.bind Category.nameSuffix? with
  | none => simp
  | some suffix =>
      simp only [Option.some.injEq, forall_eq']
      cases DocumentName.fault? name suffix tag.date tag.serviceAlias <;> simp

/-- A name with a word of its own in front is called by that word. -/
theorem serviceAlias_of_hasOwnWord (own : tag.HasOwnWord) :
    tag.serviceAlias = String.ofList (tag.name.toList.takeWhile fun c => !endsWord c) := by
  obtain ⟨c, rest, whole, solid, divided⟩ := own
  simp [serviceAlias, whole, solid, divided]

/-- Any other is called by the service. -/
theorem serviceAlias_of_not_hasOwnWord (own : ¬ tag.HasOwnWord) :
    tag.serviceAlias = tag.service := by
  unfold serviceAlias
  refine if_pos ?_
  cases whole : tag.name.toList with
  | nil => rfl
  | cons c rest =>
      cases solid : endsWord c with
      | true => simp [solid]
      | false =>
          have undivided : rest.any endsWord = false := by
            rw [Bool.eq_false_iff]
            exact fun divided => own ⟨c, rest, whole, solid, divided⟩
          simp [solid, undivided]

/-- The word to mention has no separators when it is the name's own, or the service has none. -/
theorem serviceAlias_plain_iff : (∀ c ∈ tag.serviceAlias.toList, endsWord c = false) ↔
    tag.HasOwnWord ∨ ∀ c ∈ tag.service.toList, endsWord c = false := by
  by_cases own : tag.HasOwnWord
  · refine iff_of_true ?_ (.inl own)
    rw [serviceAlias_of_hasOwnWord own, String.toList_ofList]
    intro c member
    simpa using List.all_eq_true.1 List.all_takeWhile c member
  · rw [serviceAlias_of_not_hasOwnWord own, or_iff_right own]

/-- A spelled tag has an alias of letters, digits and ends of words. -/
theorem Spelled.serviceAlias (spelled : tag.Spelled) {c : Char}
    (member : c ∈ tag.serviceAlias.toList) : c.isAlphanum = true ∨ endsWord c = true := by
  by_cases own : tag.HasOwnWord
  · rw [serviceAlias_of_hasOwnWord own, String.toList_ofList] at member
    exact spelled tag.name (by simp [segments]) c ((List.takeWhile_prefix _).subset member)
  · rw [serviceAlias_of_not_hasOwnWord own] at member
    exact spelled tag.service (by simp [segments]) c member

/-- A body has no room for separators, so no name mentions a word that has one. -/
theorem plain_of_allows (ruled : tag.suffix? = some suffix) (allows : tag.Allows name) :
    ∀ c ∈ tag.serviceAlias.toList, endsWord c = false := by
  obtain ⟨_, body, _, sound⟩ :=
    DocumentName.exists_written_of_fault?_eq_none (allows suffix ruled)
  have isBody := DocumentName.bodyFault?_eq_none_iff.1 sound
  intro c member
  rw [Bool.eq_false_iff]
  intro ends
  have same : Text.lowerCase c = [c] ∧ c.isAlphanum = false := by
    have mark : c = '-' ∨ c = '_' := by simpa [endsWord] using ends
    rcases mark with rfl | rfl <;> decide
  have found : c ∈ Text.lowered tag.serviceAlias.toList :=
    List.mem_flatMap.2 ⟨c, member, by simp [same.1]⟩
  have plain := Text.isAlphanum_of_mem_lowered isBody.plain (isBody.mentions.subset found)
  rw [same.2] at plain
  cases plain

/-- A word of letters and digits is mentioned by the body that it makes up after an upper-case
letter. -/
theorem exists_allows (undivided : '_' ∉ tag.date.toList)
    (plain : ∀ c ∈ tag.serviceAlias.toList, c.isAlphanum = true) : ∃ name, tag.Allows name := by
  cases ruled : tag.suffix? with
  | none => exact ⟨"", fun suffix some => by rw [ruled] at some; cases some⟩
  | some suffix =>
      refine ⟨DocumentName.written ('A' :: tag.serviceAlias.toList) suffix tag.date, ?_⟩
      intro other again
      obtain rfl : suffix = other := Option.some.inj (ruled.symm.trans again)
      rw [DocumentName.fault?_written undivided, DocumentName.bodyFault?_eq_none_iff]
      refine ⟨⟨'A', _, rfl, by decide⟩, ?_, ?_⟩
      · exact List.forall_mem_cons.2 ⟨by decide, plain⟩
      · exact ⟨Text.lowerCase 'A', [], by simp [Text.lowered]⟩

/-- A document of a ruled category can be named, when its date has no underscore, exactly when its
name segment begins with a word of its own or its service has no separators. What a tag allows is
what a descriptor at its place is checked for. -/
theorem nameable_iff (spelled : tag.Spelled)
    (ruled : tag.category? = some .sop ∨ tag.category? = some .test)
    (undivided : '_' ∉ tag.date.toList) :
    ((∃ name, tag.Allows name) ↔
      tag.HasOwnWord ∨ ∀ c ∈ tag.service.toList, endsWord c = false) ∧
    ∀ (name : String) (file : MetadataFile) (root : Path),
      ofMetadataPath? root file.path = some tag → file.documentName? = some name →
        (file.nameFault root = [] ↔ tag.Allows name) := by
  refine ⟨?_, fun name file root place named => nameFault_eq_nil_iff place named⟩
  rw [← serviceAlias_plain_iff]
  constructor
  · rintro ⟨name, allows⟩
    obtain ⟨suffix, suffixed⟩ : ∃ suffix, tag.suffix? = some suffix := by
      rcases ruled with known | known
      · exact ⟨"SOP", by rw [suffix?, known]; rfl⟩
      · exact ⟨"Test", by rw [suffix?, known]; rfl⟩
    exact plain_of_allows suffixed allows
  · intro plain
    refine exists_allows undivided fun c member => ?_
    rcases spelled.serviceAlias member with alphanumeric | ends
    · exact alphanumeric
    · rw [plain c member] at ends
      cases ends

/-- Whether a tag is spelled can be seen character by character. -/
theorem spelled_of_all (checked : (tag.segments.all fun segment =>
    segment.toList.all fun c => c.isAlphanum || endsWord c) = true) : tag.Spelled := by
  simpa [Spelled] using checked

/-- The first word of `ec2-kill_process` can be mentioned. -/
theorem nameable_killProcess :
    let tag : Tag := ⟨"compute", "test", "ec2-kill_process", "2020-07-28"⟩
    tag.Spelled ∧ tag.category? = some .test ∧ '_' ∉ tag.date.toList ∧
      ∃ name, tag.Allows name := by
  intro tag
  have spelled : tag.Spelled := spelled_of_all (by decide)
  have ruled : tag.category? = some .test := by decide
  exact ⟨spelled, ruled, by decide,
    (nameable_iff spelled (.inr ruled) (by decide)).1.2
      (.inl ⟨'e', "c2-kill_process".toList, by decide, by decide, by decide⟩)⟩

/-- A service with a hyphen is to be mentioned, and no body can mention it. -/
theorem unnameable_hyphenated :
    let tag : Tag := ⟨"my-service", "sop", "restore", "2020-04-01"⟩
    (∀ segment ∈ tag.segments, segment ≠ "") ∧ tag.Spelled ∧ tag.category? = some .sop ∧
      '_' ∉ tag.date.toList ∧ ¬ ∃ name, tag.Allows name := by
  intro tag
  have spelled : tag.Spelled := spelled_of_all (by decide)
  have suffixed : tag.suffix? = some "SOP" := by decide
  refine ⟨by decide, spelled, by decide, by decide, ?_⟩
  rintro ⟨name, allows⟩
  have plain := plain_of_allows suffixed allows '-' (by decide)
  exact absurd plain (by decide)

end Tag

end Runbook
