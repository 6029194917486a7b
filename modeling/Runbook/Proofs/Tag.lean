import Runbook.Proofs.Path
import Runbook.Tag

/-!
# Reading tags

A text is read as a tag exactly when it is the text of one whose segments are filled and hold no
colon (`parse?_eq_some_iff`), so that reading and writing are inverse on these tags and on no others
(`parse?_inverse_text`). The tag of a place has filled segments, but a directory may have a colon in
its name or be called otherwise than a category.
-/

namespace Runbook

namespace Category

variable {text : String} {category : Category}

/-- A category is read from its word only. -/
theorem parse?_eq_some_iff : parse? text = some category ↔ text = category.word := by
  cases category <;> grind [parse?, word]

end Category

namespace Tag

variable {tag : Tag} {text : String} {root path : Path}

/-- The segments of a tag, in order. -/
def segments (tag : Tag) : List String := [tag.service, tag.category, tag.name, tag.date]

/-- The segments of a tag can be told apart in its text: none is empty or holds a colon. -/
structure Readable (tag : Tag) : Prop where
  filled : ∀ segment ∈ tag.segments, segment ≠ ""
  apart : ∀ segment ∈ tag.segments, ':' ∉ segment.toList

/-- A tag whose segments hold no colon is split into them. -/
theorem splitOn_text (apart : ∀ segment ∈ tag.segments, ':' ∉ segment.toList) :
    Text.splitOn ':' tag.text.toList = tag.segments.map String.toList := by
  simp only [segments, List.forall_mem_cons, List.not_mem_nil, false_implies, implies_true,
    and_true] at apart
  obtain ⟨service, category, name, date⟩ := apart
  simp [Tag.text, segments, Text.joinWith, Text.splitOn_append_cons service,
    Text.splitOn_append_cons category, Text.splitOn_append_cons name,
    Text.splitOn_eq_singleton date]

/-- A text is a tag's when its segments can be told apart there. -/
theorem parse?_eq_some_iff : parse? text = some tag ↔ text = tag.text ∧ tag.Readable := by
  constructor
  · intro parsed
    unfold parse? at parsed
    split at parsed
    · rename_i service category name date pieces
      split at parsed
      · rename_i filled
        cases parsed
        have joined := Text.joinWith_splitOn ':' text.toList
        have apart (piece : List Char) := @Text.not_mem_of_mem_splitOn ':' text.toList piece
        rw [pieces] at joined apart
        refine ⟨?_, ?_, ?_⟩
        · simp only [Tag.text, String.toList_ofList, joined, String.ofList_toList]
        · simpa [segments] using filled
        · simpa [segments] using apart
      · cases parsed
    · cases parsed
  · rintro ⟨rfl, readable⟩
    have filled := readable.filled
    simp only [segments, List.forall_mem_cons, List.not_mem_nil, false_implies, implies_true,
      and_true, ne_eq, ← String.toList_eq_nil_iff] at filled
    simp only [parse?, splitOn_text readable.apart, segments, List.map_cons, List.map_nil,
      String.ofList_toList, ne_eq, filled, not_false_eq_true, and_self, ↓reduceIte]

/-- A tag has three colons more than its segments. -/
theorem count_text (tag : Tag) : tag.text.toList.count ':' =
    3 + tag.service.toList.count ':' + tag.category.toList.count ':' +
      tag.name.toList.count ':' + tag.date.toList.count ':' := by
  simp only [Tag.text, Text.joinWith, String.toList_ofList, List.count_append,
    List.count_singleton_self]
  omega

/-- A tag that can be read is the only one of its text. -/
theorem Readable.eq_of_text {other : Tag} (readable : tag.Readable) (same : other.text = tag.text) :
    other = tag := by
  have none (segment : String) (inside : segment ∈ tag.segments) :
      segment.toList.count ':' = 0 := List.count_eq_zero.2 (readable.apart segment inside)
  simp only [segments, List.forall_mem_cons] at none
  have colons := count_text tag
  rw [← same, count_text other] at colons
  have apart : ∀ segment ∈ other.segments, ':' ∉ segment.toList := by
    simp only [segments, List.forall_mem_cons, ← List.count_eq_zero]
    refine ⟨?_, ?_, ?_, ?_, by simp⟩ <;> omega
  have pieces := splitOn_text readable.apart
  rw [← same, splitOn_text apart] at pieces
  have together : other.segments = tag.segments :=
    List.map_injective_iff.2 (fun _ _ => String.toList_inj.1) pieces
  cases tag
  cases other
  simpa [segments] using together

instance : Decidable tag.Readable :=
  decidable_of_iff ((∀ segment ∈ tag.segments, segment ≠ "") ∧
      ∀ segment ∈ tag.segments, ':' ∉ segment.toList)
    ⟨fun parts => ⟨parts.1, parts.2⟩, fun readable => ⟨readable.filled, readable.apart⟩⟩

/-- The text of a tag is read as the tag itself or, where a segment is empty or holds a colon, not
at all: other tags do not come from it. -/
theorem parse?_text (tag : Tag) : parse? tag.text = if tag.Readable then some tag else none := by
  split
  · rename_i readable
    exact parse?_eq_some_iff.2 ⟨rfl, readable⟩
  · rename_i unreadable
    rw [Option.eq_none_iff_forall_ne_some]
    intro other parsed
    obtain ⟨same, readable⟩ := parse?_eq_some_iff.1 parsed
    obtain rfl := readable.eq_of_text same
    exact unreadable readable

/-- Reading and writing tags are inverse wherever they can be. A text that is read is the text of
what was read. A tag is read back from its text when its segments are filled and hold no colon, and
no tag is read from it otherwise. So no two texts are read as one tag, and no two such tags share a
text. -/
theorem parse?_inverse_text :
    (∀ text tag, parse? text = some tag → tag.text = text) ∧
      (∀ tag, parse? tag.text = if tag.Readable then some tag else none) ∧
        (∀ text other tag, parse? text = some tag → parse? other = some tag → text = other) ∧
          ∀ tag other : Tag, tag.Readable → other.Readable → tag.text = other.text →
            tag = other := by
  have written (text : String) (tag : Tag) (parsed : parse? text = some tag) : tag.text = text :=
    (parse?_eq_some_iff.1 parsed).1.symm
  refine ⟨written, parse?_text, ?_, ?_⟩
  · intro text other tag first second
    rw [← written text tag first, written other tag second]
  · intro tag other _ readable same
    exact readable.eq_of_text same

/-- The laws at a tag that is read back, and at one with a colon in a segment, which is not. -/
theorem parse?_inverse_text_killProcess :
    parse? "compute:test:ec2-kill_process:2020-07-28" =
        some ⟨"compute", "test", "ec2-kill_process", "2020-07-28"⟩ ∧
      (⟨"compute", "test", "ec2-kill_process", "2020-07-28"⟩ : Tag).text =
          "compute:test:ec2-kill_process:2020-07-28" ∧
        parse? (⟨"compute:test", "ec2", "kill", "2020-07-28"⟩ : Tag).text = none := by
  have parsed : parse? "compute:test:ec2-kill_process:2020-07-28" =
      some ⟨"compute", "test", "ec2-kill_process", "2020-07-28"⟩ := by decide
  refine ⟨parsed, parse?_inverse_text.1 _ _ parsed, ?_⟩
  rw [parse?_inverse_text.2.1, if_neg (by decide)]

/-! ### The tag of a place -/

/-- A place has a tag when it is six components below the root, the last two of them given. -/
theorem ofMetadataPath?_eq_some_iff : ofMetadataPath? root path = some tag ↔
    ∃ service category name date documents file,
      path.components = root.components ++ [service, category, name, date, documents, file] ∧
        documents.text = documentsDirectory ∧ file.text = metadataFileName ∧
          tag = ⟨service.text, category.text, name.text, date.text⟩ := by
  constructor
  · intro found
    unfold ofMetadataPath? at found
    split at found
    · rename_i service category name date documents file below
      split at found
      · rename_i given
        cases found
        exact ⟨service, category, name, date, documents, file, Path.relativeTo?_eq_some_iff.1 below,
          given.1, given.2, rfl⟩
      · cases found
    · cases found
  · rintro ⟨service, category, name, date, documents, file, below, directory, last, rfl⟩
    simp only [ofMetadataPath?, Path.relativeTo?_eq_some_iff.2 below, directory, last, and_self,
      ↓reduceIte]

/-- The segments of a tag that is read from a place are not empty. -/
theorem filled_of_ofMetadataPath? (found : ofMetadataPath? root path = some tag) :
    ∀ segment ∈ tag.segments, segment ≠ "" := by
  obtain ⟨service, category, name, date, documents, file, below, _, _, rfl⟩ :=
    ofMetadataPath?_eq_some_iff.1 found
  have filled (component : Component) := @Path.filled_of_mem_components path component
  simp only [below, List.mem_append, List.mem_cons] at filled
  simp only [segments, List.forall_mem_cons]
  exact ⟨filled _ (by simp), filled _ (by simp), filled _ (by simp), filled _ (by simp), nofun⟩

/-- A place with a tag is in a directory. -/
theorem exists_parent?_of_ofMetadataPath? (found : ofMetadataPath? root path = some tag) :
    ∃ above, path.parent? = some above := by
  obtain ⟨_, _, _, _, _, file, below, _, named, _⟩ := ofMetadataPath?_eq_some_iff.1 found
  have last : path.components.getLast? = some file := by simp [below]
  refine Path.exists_parent? last ?_
  rintro rfl
  exact absurd named (by decide)

end Tag

end Runbook
