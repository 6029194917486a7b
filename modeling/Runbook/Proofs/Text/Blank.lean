import Mathlib.Data.List.DropRight
import Runbook.Tag

/-!
# Blanks around the items of a list

A list with commas can be taken apart with the blanks around its items, and with an item for each
comma, or without them. Both ways give the same names exactly when no item has a blank at one of its
ends (`same_names_iff`).
-/

namespace Runbook

namespace Text

variable {text : List Char}

/-- What is trimmed has nothing more to trim. -/
theorem trim_trim : trim (trim text) = trim text := by
  have lead : trimLeft (trim text) = trim text := by
    refine List.dropWhile_eq_self_iff.2 fun filled => ?_
    have kept : trim text <+: trimLeft text := List.rdropWhile_prefix isBlank _
    rw [kept.getElem filled]
    exact List.dropWhile_eq_self_iff.1 (List.dropWhile_idempotent isBlank text) _
  rw [trim, lead]
  exact List.rdropWhile_idempotent isBlank _

/-- A trimmed text holds no other characters. -/
theorem mem_of_mem_trim {c : Char} (member : c ∈ trim text) : c ∈ text := by
  have left : c ∈ trimLeft text := (List.rdropWhile_prefix isBlank _).subset member
  exact (List.dropWhile_suffix isBlank).subset left

/-- Nothing is left of nothing. -/
@[simp] theorem trim_nil : trim [] = [] := rfl

end Text

variable {list name : String}

/-- The names of a list are its pieces between commas, trimmed and not empty. -/
theorem mem_splitNames_iff : name ∈ splitNames list ↔ name ≠ "" ∧
    ∃ piece ∈ Text.splitOn ',' list.toList, Text.trim piece = name.toList := by
  simp only [splitNames, Text.commaItems, List.mem_map, List.mem_filter]
  constructor
  · rintro ⟨item, ⟨⟨piece, member, rfl⟩, filled⟩, rfl⟩
    exact ⟨by simpa using filled, piece, member, by simp⟩
  · rintro ⟨filled, piece, member, same⟩
    refine ⟨name.toList, ⟨⟨piece, member, same⟩, ?_⟩, String.ofList_toList⟩
    simpa using filled

/-- The pieces between the commas are the trimmed ones that are not empty, up to the empty one,
exactly when none of them has a blank at one of its ends. -/
theorem same_names_iff :
    (∀ name, name ≠ "" →
      (name.toList ∈ Text.splitOn ',' list.toList ↔ name ∈ splitNames list)) ↔
      ∀ piece ∈ Text.splitOn ',' list.toList, Text.trim piece = piece := by
  constructor
  · intro same piece member
    by_cases filled : piece = []
    · rw [filled, Text.trim_nil]
    · have listed : String.ofList piece ∈ splitNames list :=
        (same _ (by simpa using filled)).1 (by rwa [String.toList_ofList])
      obtain ⟨_, other, _, trimmed⟩ := mem_splitNames_iff.1 listed
      rw [String.toList_ofList] at trimmed
      rw [← trimmed, Text.trim_trim]
  · intro trimmed name filled
    rw [mem_splitNames_iff]
    constructor
    · intro member
      exact ⟨filled, name.toList, member, trimmed _ member⟩
    · rintro ⟨_, piece, member, same⟩
      rwa [← same, trimmed _ member]

end Runbook
