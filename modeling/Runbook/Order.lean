/-!
# Strict total orders

The order of characters, texts, lists and pairs, as a test that can be run. Texts and lists are
compared at their first difference, and come before those that continue them.
-/

namespace Runbook

/-- Values in a strict total order. -/
class Ordered (κ : Type) where
  before : κ → κ → Bool
  irrefl : ∀ a, before a a = false
  trans : ∀ {a b c}, before a b = true → before b c = true → before a c = true
  total : ∀ {a b}, before a b = false → before b a = false → a = b

/-- Characters are ordered by their code points. -/
instance : Ordered Char where
  before a b := decide (a.toNat < b.toNat)
  irrefl a := by simp
  trans := by
    intro a b c first second
    simp only [decide_eq_true_eq] at *
    omega
  total := by
    intro a b first second
    simp only [decide_eq_false_iff_not] at *
    have same : a.val.toNat = b.val.toNat := by
      simp only [Char.toNat] at *
      omega
    exact Char.ext (UInt32.toNat_inj.1 same)

/-- Is one list before another? -/
def listBefore {κ : Type} [DecidableEq κ] [Ordered κ] : List κ → List κ → Bool
  | [], [] => false
  | [], _ :: _ => true
  | _ :: _, [] => false
  | a :: as, b :: bs => if a = b then listBefore as bs else Ordered.before a b

section

variable {κ : Type} [DecidableEq κ] [Ordered κ]

/-- No list stands before itself. -/
theorem listBefore_irrefl (list : List κ) : listBefore list list = false := by
  induction list with
  | nil => rfl
  | cons a list ih => simp [listBefore, ih]

/-- The order of lists is transitive. -/
theorem listBefore_trans {a b c : List κ} (first : listBefore a b = true)
    (second : listBefore b c = true) : listBefore a c = true := by
  induction a generalizing b c with
  | nil => cases b <;> cases c <;> simp_all [listBefore]
  | cons x a ih =>
      cases b with
      | nil => simp [listBefore] at first
      | cons y b =>
          cases c with
          | nil => simp [listBefore] at second
          | cons z c =>
              simp only [listBefore] at *
              by_cases xy : x = y <;> by_cases yz : y = z
              · subst xy yz
                simp only [↓reduceIte] at *
                exact ih first second
              · simp_all
              · subst yz
                simp_all
              · simp only [xy, yz, ↓reduceIte] at first second
                have whole := Ordered.trans first second
                by_cases xz : x = z
                · subst xz
                  simp [Ordered.irrefl] at whole
                · simp [xz, whole]

/-- Two lists of which neither stands before the other are one. -/
theorem eq_of_not_listBefore {a b : List κ} (first : listBefore a b = false)
    (second : listBefore b a = false) : a = b := by
  induction a generalizing b with
  | nil => cases b <;> simp_all [listBefore]
  | cons x a ih =>
      cases b with
      | nil => simp [listBefore] at second
      | cons y b =>
          simp only [listBefore] at first second
          by_cases xy : x = y
          · subst xy
            simp only [↓reduceIte] at first second
            rw [ih first second]
          · have yx : y ≠ x := fun same => xy same.symm
            simp only [xy, yx, ↓reduceIte] at first second
            exact absurd (Ordered.total first second) xy

/-- Lists are ordered by their first difference. -/
instance : Ordered (List κ) where
  before := listBefore
  irrefl := listBefore_irrefl
  trans := listBefore_trans
  total := eq_of_not_listBefore

end

/-- Texts are ordered as the lists of their characters. -/
instance : Ordered String where
  before a b := listBefore a.toList b.toList
  irrefl a := listBefore_irrefl a.toList
  trans := listBefore_trans
  total first second := String.toList_inj.1 (eq_of_not_listBefore first second)

/-- Pairs are ordered by their first parts, equal first parts by the second. -/
instance {κ ι : Type} [DecidableEq κ] [Ordered κ] [Ordered ι] : Ordered (κ × ι) where
  before a b := if a.1 = b.1 then Ordered.before a.2 b.2 else Ordered.before a.1 b.1
  irrefl a := by simp [Ordered.irrefl]
  trans := by
    intro a b c first second
    split at first <;> split at second
    · rename_i left right
      simp only [left, right, ↓reduceIte]
      exact Ordered.trans first second
    · rename_i left right
      rw [if_neg (left ▸ right), left]
      exact second
    · rename_i left right
      rw [if_neg (right ▸ left), ← right]
      exact first
    · rename_i left right
      have whole := Ordered.trans first second
      have differs : a.1 ≠ c.1 := by
        intro same
        rw [same] at whole
        simp [Ordered.irrefl] at whole
      simp [differs, whole]
  total := by
    intro a b first second
    by_cases same : a.1 = b.1
    · simp only [same, ↓reduceIte] at first second
      exact Prod.ext same (Ordered.total first second)
    · have other : b.1 ≠ a.1 := fun equal => same equal.symm
      simp only [same, other, ↓reduceIte] at first second
      exact absurd (Ordered.total first second) same

end Runbook
