import Runbook.Proofs.Metadata.Validation
import Runbook.Proofs.Tag

/-!
# Which category a descriptor is in

A document's descriptor without violations declares the text of its place's tag
(`Faultless.exists_place`). Reading the declared tag need not give that tag back: the texts are
compared, and no check looks at the segments. So the descriptor has a category exactly when no
directory of its place has a colon in its name and the second one is called after a category
(`classified_iff`).
-/

namespace Runbook.MetadataFile

variable {file : MetadataFile} {root : Path}

/-- A place is faultless exactly where it is that of a tag, and a declared tag is that one. -/
theorem placeFault_eq_nil_iff : file.placeFault root = [] ↔
    ∃ place, Tag.ofMetadataPath? root file.path = some place ∧
      ∀ declared, file.tag? = some declared → declared = place.text := by
  rw [placeFault]
  cases Tag.ofMetadataPath? root file.path with
  | none => simp
  | some place => cases file.tag? <;> simp

/-- The declared tag is the text of the place's tag. -/
theorem Faultless.exists_place (faultless : file.Faultless root) :
    ∃ place, Tag.ofMetadataPath? root file.path = some place ∧ file.tag? = some place.text := by
  obtain ⟨declared, there, _⟩ := faultless.needed (by decide : "tag" ∈ neededOfDocument)
  obtain ⟨place, found, same⟩ := placeFault_eq_nil_iff.1 faultless.place
  exact ⟨place, found, by rw [tag?, there, same declared there]⟩

/-- The declared tag can be read, is the tag of the place, and names a category. -/
def Classified (file : MetadataFile) (root : Path) : Prop :=
  ∃ text tag category, file.tag? = some text ∧ Tag.parse? text = some tag ∧
    Tag.ofMetadataPath? root file.path = some tag ∧ tag.category? = some category

/-- A descriptor without violations is in a category exactly when the directories of its place can
be told apart in its tag and the second one is called after a category. -/
theorem classified_iff (clean : file.violations root = []) :
    ∃ place, Tag.ofMetadataPath? root file.path = some place ∧ file.tag? = some place.text ∧
      (file.Classified root ↔
        (∀ segment ∈ place.segments, ':' ∉ segment.toList) ∧
          ∃ category : Category, place.category = category.word) := by
  obtain ⟨place, found, declared⟩ := (violations_eq_nil_iff.1 clean).exists_place
  refine ⟨place, found, declared, ?_, ?_⟩
  · rintro ⟨text, tag, category, isText, parsed, again, known⟩
    obtain rfl : place = tag := by simpa [found] using again
    obtain rfl : place.text = text := by simpa [declared] using isText
    exact ⟨(Tag.parse?_eq_some_iff.1 parsed).2.apart, category,
      Category.parse?_eq_some_iff.1 known⟩
  · rintro ⟨apart, category, known⟩
    have readable : place.Readable := ⟨Tag.filled_of_ofMetadataPath? found, apart⟩
    exact ⟨place.text, place, category, declared, Tag.parse?_eq_some_iff.2 ⟨rfl, readable⟩, found,
      Category.parse?_eq_some_iff.2 known⟩

/-- A listing among the utilities is in their category. -/
theorem classified_listing :
    (sample "util" "list" "1" "Digito-List").violations ⟨"docs"⟩ = [] ∧
      (sample "util" "list" "1" "Digito-List").Classified ⟨"docs"⟩ := by
  have clean : (sample "util" "list" "1" "Digito-List").violations ⟨"docs"⟩ = [] := by
    decide +kernel
  obtain ⟨place, found, _, same⟩ := classified_iff clean
  obtain rfl : ⟨"host", "util", "list", "1"⟩ = place := by
    have here : Tag.ofMetadataPath? ⟨"docs"⟩ (sample "util" "list" "1" "Digito-List").path =
        some ⟨"host", "util", "list", "1"⟩ := by decide
    exact Option.some.inj (here.symm.trans found)
  exact ⟨clean, same.2 ⟨by decide, .util, rfl⟩⟩

/-- A descriptor in a directory that is no category has no violations. Neither has one in a
directory with a colon, whose tag cannot even be read. -/
theorem unclassified_listings :
    (sample "misc" "list" "1" "Digito-List").violations ⟨"docs"⟩ = [] ∧
      ¬ (sample "misc" "list" "1" "Digito-List").Classified ⟨"docs"⟩ ∧
      (sample "util" "list:all" "1" "Digito-List").violations ⟨"docs"⟩ = [] ∧
      ¬ (sample "util" "list:all" "1" "Digito-List").Classified ⟨"docs"⟩ := by
  have uncategorized {file : MetadataFile}
      (none : (file.tag?.bind Tag.parse?).bind Tag.category? = none) :
      ¬ file.Classified ⟨"docs"⟩ := by
    rintro ⟨text, tag, category, isText, parsed, _, known⟩
    simp [isText, parsed, known] at none
  exact ⟨by decide, uncategorized (by decide), by decide,
    uncategorized (by decide)⟩

end Runbook.MetadataFile
