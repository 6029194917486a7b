import Mathlib.Data.List.Nodup
import Runbook.Alarm.Manager
import Runbook.Proofs.Order

/-!
# Reports of teardowns

A report does not depend on the order of the results it is made of (`ofResults_perm`). Its two parts
hold each stack once, in ascending order, by how its deletion ended.
-/

namespace Runbook

section

variable {κ : Type} [Ordered κ]

/-- Sorting by the order of the members. -/
theorem pairwise_sorted (members : List κ) :
    (members.mergeSort fun first second => !Ordered.before second first).Pairwise
      fun first second => (!Ordered.before second first) = true :=
  pairwise_sortedBy id members

/-- Lists with the same members in another order are sorted alike. -/
theorem sorted_eq_of_perm {members others : List κ} (perm : members.Perm others) :
    (members.mergeSort fun first second => !Ordered.before second first) =
      others.mergeSort fun first second => !Ordered.before second first := by
  have antisymm (first second : κ) (low : (!Ordered.before second first) = true)
      (high : (!Ordered.before first second) = true) : first = second :=
    Ordered.total (by simpa using high) (by simpa using low)
  refine List.Perm.eq_of_pairwise (fun first second _ _ => antisymm first second)
    (pairwise_sorted members) (pairwise_sorted others) ?_
  exact (List.mergeSort_perm members _).trans (perm.trans (List.mergeSort_perm others _).symm)

/-- Sorted members that a key tells apart ascend strictly in that key, where it decides the
order. -/
theorem ascending_of_sorted {ι : Type} [Ordered ι] (key : κ → ι) {members : List κ}
    (sorted : members.Pairwise fun first second => (!Ordered.before second first) = true)
    (distinct : (members.map key).Nodup)
    (decides : ∀ first second, Ordered.before (key second) (key first) = true →
      Ordered.before second first = true) :
    (members.map key).Pairwise fun first second => Ordered.before first second = true := by
  have apart : members.Pairwise fun first second => key first ≠ key second :=
    List.pairwise_map.1 distinct
  refine List.pairwise_map.2 ((sorted.and apart).imp fun {first second} both => ?_)
  have notDown : Ordered.before (key second) (key first) = false := by
    by_contra down
    rw [decides first second (by simpa using down)] at both
    cases both.1
  cases up : Ordered.before (key first) (key second) with
  | true => rfl
  | false => exact absurd (Ordered.total up notDown) both.2

end

namespace TeardownReport

variable {results others : List (String × Except PortError Unit)} {stack message : String}

/-- The report does not depend on the order in which the deletions ended. -/
theorem ofResults_perm (perm : results.Perm others) : ofResults results = ofResults others := by
  simp only [ofResults, TeardownReport.mk.injEq]
  exact ⟨sorted_eq_of_perm (perm.filterMap _), sorted_eq_of_perm (perm.filterMap _)⟩

/-- The failures are the deletions that ended in an error, with its text. -/
theorem mem_failures_iff : (stack, message) ∈ (ofResults results).failures ↔
    ∃ cause, (stack, .error cause) ∈ results ∧ message = cause.message := by
  simp only [ofResults, List.mem_mergeSort, List.mem_filterMap]
  constructor
  · rintro ⟨⟨name, answer⟩, member, listed⟩
    cases answer with
    | ok => cases listed
    | error cause => cases listed; exact ⟨cause, member, rfl⟩
  · rintro ⟨cause, member, rfl⟩
    exact ⟨_, member, rfl⟩

/-- Each stack is in one of the two parts. -/
theorem names_perm : ((ofResults results).deleted ++ (ofResults results).failures.map Prod.fst).Perm
    (results.map Prod.fst) := by
  refine (((List.mergeSort_perm _ _).append ((List.mergeSort_perm _ _).map _))).trans ?_
  induction results with
  | nil => exact .nil
  | cons result rest ih =>
      obtain ⟨name, answer⟩ := result
      cases answer with
      | ok => exact .cons name ih
      | error cause => exact List.perm_middle.trans (.cons name ih)

section

variable (distinct : (results.map Prod.fst).Nodup)
include distinct

/-- The deleted stacks are listed in ascending order. -/
theorem deleted_pairwise : (ofResults results).deleted.Pairwise
    fun first second => Ordered.before first second = true := by
  have apart := (List.nodup_append.1 (names_perm.nodup_iff.2 distinct)).1
  have sorted := ascending_of_sorted id (pairwise_sorted _) (by rwa [List.map_id]) fun _ _ => id
  rwa [List.map_id] at sorted

/-- The failures are listed in ascending order of the stacks. -/
theorem failures_pairwise : ((ofResults results).failures.map Prod.fst).Pairwise
    fun first second => Ordered.before first second = true := by
  have apart := (List.nodup_append.1 (names_perm.nodup_iff.2 distinct)).2.1
  refine ascending_of_sorted Prod.fst (pairwise_sorted _) apart fun first second below => ?_
  have differs : second.1 ≠ first.1 := by
    intro same
    rw [same, Ordered.irrefl] at below
    cases below
  simpa only [Ordered.before, differs, ↓reduceIte] using below

/-- No stack is in both parts. -/
theorem notMem_failures (deleted : stack ∈ (ofResults results).deleted) :
    stack ∉ (ofResults results).failures.map Prod.fst := by
  have apart := (List.nodup_append.1 (names_perm.nodup_iff.2 distinct)).2.2
  exact fun failed => apart stack deleted stack failed rfl

end

end TeardownReport

end Runbook
