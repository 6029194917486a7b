import Mathlib.Data.List.Nodup
import Runbook.Order

/-!
# Sorted lists

Sorting by a key leaves no member behind one with a later key. Members that the key tells apart
ascend strictly then (`ascending_sortedBy`), so that the sorted list depends on the members alone.
-/

namespace Runbook

variable {κ α : Type} [Ordered κ]

/-- Not to stand after is transitive. -/
theorem notAfter_trans {first second third : κ} (low : (!Ordered.before second first) = true)
    (high : (!Ordered.before third second) = true) : (!Ordered.before third first) = true := by
  simp only [Bool.not_eq_true'] at *
  by_contra down
  rw [Bool.not_eq_false] at down
  cases up : Ordered.before first second with
  | true =>
      rw [Ordered.trans down up] at high
      cases high
  | false =>
      obtain rfl := Ordered.total up low
      rw [down] at high
      cases high

/-- Of two keys one does not stand after the other. -/
theorem notAfter_total (first second : κ) :
    ((!Ordered.before second first) || !Ordered.before first second) = true := by
  cases up : Ordered.before first second with
  | false => simp
  | true =>
      cases down : Ordered.before second first with
      | false => rfl
      | true => simpa [Ordered.irrefl] using Ordered.trans up down

/-- Keys of which one stands before the other are different. -/
theorem ne_of_before {first second : κ} (before : Ordered.before first second = true) :
    first ≠ second := by
  rintro rfl
  rw [Ordered.irrefl] at before
  cases before

/-- What two lists begin with alike does not count for their order. -/
theorem before_append_left [DecidableEq κ] (front left right : List κ) :
    Ordered.before (front ++ left) (front ++ right) = Ordered.before left right := by
  induction front with
  | nil => rfl
  | cons head front ih => simpa [Ordered.before, listBefore] using ih

/-- A view that keeps the order of members keeps the order of lists. -/
theorem before_map [DecidableEq κ] {ι : Type} [DecidableEq ι] [Ordered ι] (view : ι → κ)
    (keeps : ∀ a b, Ordered.before (view a) (view b) = Ordered.before a b)
    (injective : ∀ a b, view a = view b → a = b) (left right : List ι) :
    Ordered.before (left.map view) (right.map view) = Ordered.before left right := by
  induction left generalizing right with
  | nil => cases right <;> rfl
  | cons head left ih =>
      cases right with
      | nil => rfl
      | cons other right =>
          simp only [List.map_cons, Ordered.before, listBefore]
          by_cases same : head = other
          · rw [if_pos (congrArg view same), if_pos same]
            exact ih right
          · rw [if_neg (mt (injective head other) same), if_neg same]
            exact keeps head other

/-- The members of a list sorted by a key. -/
theorem pairwise_sortedBy (key : α → κ) (members : List α) :
    (members.mergeSort fun first second => !Ordered.before (key second) (key first)).Pairwise
      fun first second => (!Ordered.before (key second) (key first)) = true :=
  List.pairwise_mergeSort (fun _ _ _ => notAfter_trans) (fun _ _ => notAfter_total _ _) members

/-- Members with different keys are sorted strictly. -/
theorem ascending_sortedBy {key : α → κ} {members : List α}
    (distinct : (members.map key).Nodup) :
    (members.mergeSort fun first second => !Ordered.before (key second) (key first)).Pairwise
      fun first second => Ordered.before (key first) (key second) = true := by
  have sorted := List.mergeSort_perm members
    fun first second => !Ordered.before (key second) (key first)
  have apart := List.pairwise_map.1 ((sorted.map key).nodup_iff.2 distinct)
  refine ((pairwise_sortedBy key members).and apart).imp fun {first second} both => ?_
  by_contra notUp
  have down : Ordered.before (key second) (key first) = false := by simpa using both.1
  exact both.2 (Ordered.total (by simpa using notUp) down)

end Runbook
