import Mathlib.Data.List.Forall2

/-!
# Steps that can fail

A sequence of steps succeeds exactly when each of them does, and fails with the error of the first
that fails.
-/

namespace Runbook

variable {ε α β : Type}

/-- Two steps succeed exactly where the first does and the second on its value. -/
theorem bind_eq_ok_iff {step : Except ε α} {next : α → Except ε β} {result : β} :
    (step >>= next) = .ok result ↔ ∃ value, step = .ok value ∧ next value = .ok result := by
  cases step with
  | error cause => simp [bind, Except.bind]
  | ok value => simp [bind, Except.bind]

/-- Two steps fail as the first does, or as the second on its value. -/
theorem bind_eq_error_iff {step : Except ε α} {next : α → Except ε β} {cause : ε} :
    (step >>= next) = .error cause ↔
      step = .error cause ∨ ∃ value, step = .ok value ∧ next value = .error cause := by
  cases step with
  | error other => simp [bind, Except.bind]
  | ok value => simp [bind, Except.bind]

/-- An image is a success exactly where it is that of one. -/
theorem map_eq_ok_iff {image : α → β} {step : Except ε α} {result : β} :
    step.map image = .ok result ↔ ∃ value, step = .ok value ∧ image value = result := by
  cases step with
  | error cause => simp [Except.map]
  | ok value => simp [Except.map]

/-- An image fails exactly as what it is taken of. -/
theorem map_eq_error_iff {image : α → β} {step : Except ε α} {cause : ε} :
    step.map image = .error cause ↔ step = .error cause := by
  cases step with
  | error other => simp [Except.map]
  | ok value => simp [Except.map]

/-- Of two lists that correspond each member of the first has its counterpart. -/
theorem exists_of_mem_forall₂ {related : α → β → Prop} {items : List α} {images : List β}
    (correspond : List.Forall₂ related items images) {item : α} (member : item ∈ items) :
    ∃ image, related item image := by
  induction correspond with
  | nil => cases member
  | cons here _ ih =>
      rcases List.mem_cons.1 member with rfl | later
      · exact ⟨_, here⟩
      · exact ih later

/-- A list of steps succeeds exactly when every one of them does. -/
theorem mapM_eq_ok_iff {step : α → Except ε β} {items : List α} {results : List β} :
    items.mapM step = .ok results ↔
      List.Forall₂ (fun item result => step item = .ok result) items results := by
  induction items generalizing results with
  | nil => simp [pure, Except.pure, eq_comm]
  | cons item rest ih =>
      rw [List.mapM_cons, bind_eq_ok_iff, List.forall₂_cons_left_iff]
      constructor
      · rintro ⟨first, here, found⟩
        obtain ⟨others, later, same⟩ := bind_eq_ok_iff.1 found
        cases same
        exact ⟨first, others, here, ih.1 later, rfl⟩
      · rintro ⟨first, others, here, later, rfl⟩
        exact ⟨first, here, bind_eq_ok_iff.2 ⟨others, ih.2 later, rfl⟩⟩

/-- Steps that do the same with each item do the same with all of them. -/
theorem mapM_congr {step other : α → Except ε β} {items : List α}
    (same : ∀ item ∈ items, step item = other item) : items.mapM step = items.mapM other := by
  induction items with
  | nil => rfl
  | cons item rest ih =>
      obtain ⟨here, later⟩ := List.forall_mem_cons.1 same
      rw [List.mapM_cons, List.mapM_cons, here, ih later]

/-- Each result is that of one of the steps. -/
theorem exists_of_mem_mapM {step : α → Except ε β} {items : List α} {results : List β}
    (succeeded : items.mapM step = .ok results) {result : β} (member : result ∈ results) :
    ∃ item ∈ items, step item = .ok result := by
  induction mapM_eq_ok_iff.1 succeeded with
  | nil => cases member
  | cons here later ih =>
      rcases List.mem_cons.1 member with rfl | found
      · exact ⟨_, List.mem_cons_self, here⟩
      · obtain ⟨item, inside, same⟩ := ih (mapM_eq_ok_iff.2 later) found
        exact ⟨item, List.mem_cons_of_mem _ inside, same⟩

/-- A list of steps succeeds when no step fails. -/
theorem exists_mapM_eq_ok_iff {step : α → Except ε β} {items : List α} :
    (∃ results, items.mapM step = .ok results) ↔
      ∀ item ∈ items, ∃ result, step item = .ok result := by
  constructor
  · rintro ⟨results, succeeded⟩ item member
    exact exists_of_mem_forall₂ (mapM_eq_ok_iff.1 succeeded) member
  · intro each
    induction items with
    | nil => exact ⟨[], rfl⟩
    | cons item rest ih =>
        obtain ⟨first, here⟩ := each item List.mem_cons_self
        obtain ⟨others, later⟩ := ih fun other member => each other (List.mem_cons_of_mem _ member)
        exact ⟨first :: others, mapM_eq_ok_iff.2 (.cons here (mapM_eq_ok_iff.1 later))⟩

/-- A list of steps fails with the error of the first that fails. -/
theorem mapM_eq_error_iff {step : α → Except ε β} {items : List α} {cause : ε} :
    items.mapM step = .error cause ↔ ∃ front item back, items = front ++ item :: back ∧
      (∀ earlier ∈ front, ∃ result, step earlier = .ok result) ∧ step item = .error cause := by
  induction items with
  | nil => simp [pure, Except.pure]
  | cons item rest ih =>
      rw [List.mapM_cons, bind_eq_error_iff]
      constructor
      · rintro (here | ⟨first, good, found⟩)
        · exact ⟨[], item, rest, rfl, by simp, here⟩
        · rcases bind_eq_error_iff.1 found with later | ⟨_, _, same⟩
          · obtain ⟨front, other, back, rfl, earlier, wrong⟩ := ih.1 later
            refine ⟨item :: front, other, back, rfl, ?_, wrong⟩
            exact List.forall_mem_cons.2 ⟨⟨first, good⟩, earlier⟩
          · cases same
      · rintro ⟨front, other, back, same, earlier, wrong⟩
        cases front with
        | nil =>
            cases same
            exact .inl wrong
        | cons head front =>
            cases same
            obtain ⟨⟨first, good⟩, later⟩ := List.forall_mem_cons.1 earlier
            exact .inr ⟨first, good,
              bind_eq_error_iff.2 (.inl (ih.2 ⟨front, other, back, rfl, later, wrong⟩))⟩

end Runbook
