import Mathlib.Data.List.Nodup
import Runbook.Alarm.Manager
import Runbook.Proofs.Table
import Runbook.Proofs.Text.Number
import Runbook.Proofs.Text.Occurrence

/-!
# Numbers of stacks and alarms

The name of a stack ends in its number, so stacks with different numbers have different names,
whatever they were named for (`StackName.number_eq_of_make_eq`). The search for an identifier stops
at the first number that is not taken: it tries one number more than there are tracked alarms, and
so many cannot all be taken (`AlarmManager.firstFree_freeNumber`).
-/

namespace Runbook

namespace Text

/-- The digits of a number hold no hyphen. -/
theorem hyphen_not_mem_digits (number : Nat) : '-' ∉ (toString number).toList := by
  rw [Nat.toString_eq_ofList_toDigits, String.toList_ofList]
  intro member
  have digit := Nat.isDigit_of_mem_toDigits (by decide) (by decide) member
  simp at digit

end Text

namespace StackName

/-- A name ends in a hyphen and its number. -/
theorem toList_make (reference run : String) (number : Nat) :
    ∃ lead, (make reference run number).toList = lead ++ '-' :: (toString number).toList := by
  refine ⟨dropHyphens ((head reference).take (maxLength - (tail run number).utf8ByteSize)) ++
    '-' :: run.toList, ?_⟩
  simp [make, tail]

/-- Names are the same for no two numbers. -/
theorem number_eq_of_make_eq {first second run other : String} {number another : Nat}
    (same : make first run number = make second other another) : number = another := by
  obtain ⟨left, leftEnds⟩ := toList_make first run number
  obtain ⟨right, rightEnds⟩ := toList_make second other another
  have ends : left ++ '-' :: (toString number).toList = right ++ '-' :: (toString another).toList :=
    leftEnds.symm.trans ((congrArg String.toList same).trans rightEnds)
  have digits := Text.eq_of_append_cons_eq (Text.hyphen_not_mem_digits number)
    (Text.hyphen_not_mem_digits another) ends
  exact Text.toString_injective (String.toList_inj.1 digits)

end StackName

namespace AlarmManager

/-- A number is the first one from `start` on that no tracked alarm has as its identifier. -/
structure FirstFree (deployed : Table String DeployedAlarm) (start number : Nat) : Prop where
  from_start : start ≤ number
  free : deployed.contains (toString number) = false
  taken : ∀ earlier, start ≤ earlier → earlier < number →
    deployed.contains (toString earlier) = true

/-- The search passes over taken numbers only. -/
theorem freeNumber_spec (deployed : Table String DeployedAlarm) (tries start : Nat) :
    (start ≤ freeNumber deployed tries start ∧
        ∀ earlier, start ≤ earlier → earlier < freeNumber deployed tries start →
          deployed.contains (toString earlier) = true) ∧
      (deployed.contains (toString (freeNumber deployed tries start)) = true →
        freeNumber deployed tries start = start + tries) := by
  induction tries generalizing start with
  | zero =>
      exact ⟨⟨Nat.le_refl _, fun earlier low high => absurd low (Nat.not_le.2 high)⟩, fun _ => rfl⟩
  | succ tries ih =>
      obtain ⟨⟨low, passed⟩, full⟩ := ih (start + 1)
      rw [freeNumber]
      split
      · rename_i here
        refine ⟨⟨by omega, fun earlier after before => ?_⟩, fun taken => ?_⟩
        · rcases Nat.eq_or_lt_of_le after with same | later
          · rwa [← same]
          · exact passed earlier later before
        · have last := full taken
          omega
      · rename_i free
        exact ⟨⟨Nat.le_refl _, fun earlier low high => absurd low (Nat.not_le.2 high)⟩,
          fun taken => absurd taken free⟩

/-- Numbers in a row that are all taken are no more than the tracked alarms. -/
theorem length_le_size_of_taken {deployed : Table String DeployedAlarm} (start : Nat)
    {count : Nat} (taken : ∀ number, start ≤ number → number < start + count →
      deployed.contains (toString number) = true) : count ≤ deployed.size := by
  have distinct : ((List.range' start count).map (toString : Nat → String)).Nodup :=
    (List.nodup_range' 1).map Text.toString_injective
  have tracked : (List.range' start count).map (toString : Nat → String) ⊆ deployed.keys := by
    intro key member
    obtain ⟨number, inside, rfl⟩ := List.mem_map.1 member
    obtain ⟨low, high⟩ := List.mem_range'_1.1 inside
    exact Table.mem_keys_iff.2 (Table.contains_eq_true_iff.1 (taken number low high))
  simpa [Table.keys, Table.size] using (List.subperm_of_subset distinct tracked).length_le

/-- The search ends at the first number that is free. -/
theorem firstFree_freeNumber (deployed : Table String DeployedAlarm) (start : Nat) :
    FirstFree deployed start (freeNumber deployed deployed.size start) := by
  obtain ⟨⟨low, passed⟩, full⟩ := freeNumber_spec deployed deployed.size start
  refine ⟨low, ?_, passed⟩
  by_contra taken
  rw [Bool.not_eq_false] at taken
  have ended := full taken
  have crowded : deployed.size + 1 ≤ deployed.size := by
    refine length_le_size_of_taken start fun number after before => ?_
    by_cases last : number = freeNumber deployed deployed.size start
    · rwa [last]
    · exact passed number after (by omega)
  omega

/-- A new alarm gets an identifier that is not tracked and a number above all earlier ones. -/
theorem fresh_of_identify {manager : AlarmManager} {id : Option String} {key : String}
    {number : Nat} (identified : manager.identify id = .ok (key, number)) :
    manager.ordinal < number ∧ manager.deployed.get? key = none := by
  cases id with
  | some given =>
      simp only [identify] at identified
      split at identified
      · cases identified
      · rename_i free
        cases identified
        exact ⟨Nat.lt_succ_self _, free⟩
  | none =>
      have first := firstFree_freeNumber manager.deployed (manager.ordinal + 1)
      cases identified
      exact ⟨first.from_start, Table.contains_eq_false_iff.1 first.free⟩

end AlarmManager

end Runbook
