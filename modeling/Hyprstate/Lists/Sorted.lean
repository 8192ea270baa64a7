import Mathlib.Data.List.Sort

/-!
# The first match of a sorted list

In a sorted list the first element with a property is the least one that has it (`find?_mergeSort`),
so what is found does not depend on the order in which the list was sorted from
(`mergeSort_perm_congr`).
-/

namespace Sorted

variable {α : Type} [LinearOrder α] {p : α → Bool} {l l' : List α} {a : α}

/-- In a sorted list the first element that passes is the least one. -/
theorem find?_eq_some_iff (hsorted : l.Pairwise (· ≤ ·)) :
    l.find? p = some a ↔ a ∈ l ∧ p a = true ∧ ∀ b ∈ l, p b = true → a ≤ b := by
  induction l with
  | nil => simp
  | cons x rest ih =>
    obtain ⟨hx, hrest⟩ := List.pairwise_cons.mp hsorted
    cases hpx : p x with
    | true =>
      rw [List.find?_cons_of_pos hpx, Option.some_inj]
      constructor
      · rintro rfl
        refine ⟨List.mem_cons_self, hpx, fun b hb _ => ?_⟩
        rcases List.mem_cons.mp hb with rfl | hb
        · exact le_rfl
        · exact hx b hb
      · rintro ⟨ha, -, hleast⟩
        -- The head is below the rest, and the least match is not above the head.
        rcases List.mem_cons.mp ha with rfl | ha
        · rfl
        · exact le_antisymm (hx a ha) (hleast x List.mem_cons_self hpx)
    | false =>
      have hnot : ¬p x = true := by simp [hpx]
      rw [List.find?_cons_of_neg hnot, ih hrest]
      constructor
      · rintro ⟨ha, hpa, hleast⟩
        refine ⟨List.mem_cons_of_mem _ ha, hpa, fun b hb hpb => ?_⟩
        rcases List.mem_cons.mp hb with rfl | hb
        · exact absurd hpb hnot
        · exact hleast b hb hpb
      · rintro ⟨ha, hpa, hleast⟩
        rcases List.mem_cons.mp ha with rfl | ha
        · exact absurd hpa hnot
        · exact ⟨ha, hpa, fun b hb => hleast b (List.mem_cons_of_mem _ hb)⟩

/-- The first element that passes after a sort is the least one that passes. -/
theorem find?_mergeSort :
    (l.mergeSort (· ≤ ·)).find? p = some a ↔ a ∈ l ∧ p a = true ∧ ∀ b ∈ l, p b = true → a ≤ b := by
  simp only [find?_eq_some_iff List.sortedLE_mergeSort.pairwise, List.mem_mergeSort]

/-- The first element after a sort is the least one. -/
theorem head?_mergeSort : (l.mergeSort (· ≤ ·)).head? = some a ↔ a ∈ l ∧ ∀ b ∈ l, a ≤ b := by
  have hfind : (l.mergeSort (· ≤ ·)).head? = (l.mergeSort (· ≤ ·)).find? fun _ => true := by
    cases l.mergeSort (· ≤ ·) <;> rfl
  rw [hfind, find?_mergeSort]
  simp

/-- The order before a sort does not matter after it. -/
theorem mergeSort_perm_congr (h : l.Perm l') : l.mergeSort (· ≤ ·) = l'.mergeSort (· ≤ ·) := by
  have hperm : (l.mergeSort (· ≤ ·)).Perm (l'.mergeSort (· ≤ ·)) :=
    (List.mergeSort_perm l _).trans (h.trans (List.mergeSort_perm l' _).symm)
  exact hperm.eq_of_pairwise (fun _ _ _ _ => le_antisymm) List.sortedLE_mergeSort.pairwise
    List.sortedLE_mergeSort.pairwise

end Sorted
