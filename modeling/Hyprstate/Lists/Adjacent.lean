import Mathlib.Data.List.Basic

/-!
# Removing adjacent duplicates

`dedupBy` goes once through a list and merges an element into the kept one before it, where a
callback says so. Merging by a key leaves no key twice exactly where equal keys stand together
(`nodup_dedupBy_iff`).
-/

namespace Adjacent

variable {α κ : Type}

/-- The loop: an element is merged into the kept one before it, or is kept after it. -/
def dedupFrom (merge : α → α → Option α) (kept : α) : List α → List α
  | [] => [kept]
  | a :: rest =>
    match merge a kept with
    | some kept' => dedupFrom merge kept' rest
    | none => kept :: dedupFrom merge a rest

/-- `dedup_by`. The callback is given an element and the kept one before it, and answers what is
kept in place of the two, or nothing where both are. -/
def dedupBy (merge : α → α → Option α) : List α → List α
  | [] => []
  | a :: rest => dedupFrom merge a rest

/-- Where a key occurs again, it is the next one. -/
def Together : List κ → Prop
  | [] => True
  | k :: ks => (k ∈ ks → ks.head? = some k) ∧ Together ks

/-- The callback merges what has one key, and keeps one of the two. -/
structure MergesBy (key : α → κ) (merge : α → α → Option α) : Prop where
  same : ∀ a kept, key a = key kept → merge a kept = some a ∨ merge a kept = some kept
  other : ∀ a kept, key a ≠ key kept → merge a kept = none

section

variable {key : α → κ} {merge : α → α → Option α}

/-- No key is lost. -/
theorem mem_keys_dedupFrom (hmerge : MergesBy key merge) (kept : α) (rest : List α) (k : κ) :
    k ∈ (dedupFrom merge kept rest).map key ↔ k ∈ (kept :: rest).map key := by
  induction rest generalizing kept with
  | nil => rfl
  | cons a rest ih =>
    unfold dedupFrom
    by_cases hkey : key a = key kept
    · obtain h | h := hmerge.same a kept hkey
      · rw [h]
        dsimp only
        simp [ih, hkey]
      · rw [h]
        dsimp only
        simp [ih, hkey]
    · rw [hmerge.other a kept hkey]
      dsimp only
      simp only [List.map_cons, List.mem_cons, ih]

/-- A merge of adjacent elements leaves no key twice exactly where equal keys stand together. -/
theorem nodup_dedupFrom_iff (hmerge : MergesBy key merge) (kept : α) (rest : List α) :
    ((dedupFrom merge kept rest).map key).Nodup ↔ Together ((kept :: rest).map key) := by
  induction rest generalizing kept with
  | nil => simp [dedupFrom, Together]
  | cons a rest ih =>
    unfold dedupFrom
    by_cases hkey : key a = key kept
    · -- The two keys are one.
      have htogether : Together ((kept :: a :: rest).map key) ↔
          Together (key kept :: rest.map key) := by
        simp [Together, hkey]
      rw [htogether]
      obtain h | h := hmerge.same a kept hkey
      · rw [h]
        dsimp only
        rw [ih, List.map_cons, hkey]
      · rw [h]
        dsimp only
        rw [ih, List.map_cons]
    · rw [hmerge.other a kept hkey]
      dsimp only
      have hhead : (key kept ∈ (a :: rest).map key → ((a :: rest).map key).head? =
          some (key kept)) ↔
          key kept ∉ (a :: rest).map key := by
        simp [hkey]
      show _ ↔ (key kept ∈ (a :: rest).map key → ((a :: rest).map key).head? = some (key kept)) ∧
        Together ((a :: rest).map key)
      rw [hhead, List.map_cons, List.nodup_cons, mem_keys_dedupFrom hmerge, ih]

/-- An element that is kept of any two of its key is kept. -/
theorem mem_dedupFrom (hmerge : MergesBy key merge) {x : α}
    (hx : ∀ a, key a = key x → merge x a = some x ∧ merge a x = some x) {kept : α} {rest : List α}
    (hmem : x ∈ kept :: rest) : x ∈ dedupFrom merge kept rest := by
  induction rest generalizing kept with
  | nil => exact hmem
  | cons a rest ih =>
    unfold dedupFrom
    by_cases hkey : key a = key kept
    · rcases List.mem_cons.mp hmem with rfl | hmem
      · rw [(hx a hkey).2]
        exact ih List.mem_cons_self
      rcases List.mem_cons.mp hmem with rfl | hmem
      · rw [(hx kept hkey.symm).1]
        exact ih List.mem_cons_self
      · obtain h | h := hmerge.same a kept hkey
        · rw [h]
          exact ih (List.mem_cons_of_mem _ hmem)
        · rw [h]
          exact ih (List.mem_cons_of_mem _ hmem)
    · rw [hmerge.other a kept hkey]
      rcases List.mem_cons.mp hmem with rfl | hmem
      · exact List.mem_cons_self
      · exact List.mem_cons_of_mem _ (ih hmem)

/-- What is kept was there. -/
theorem mem_of_mem_dedupFrom (hmerge : MergesBy key merge) {kept x : α} {rest : List α}
    (h : x ∈ dedupFrom merge kept rest) : x ∈ kept :: rest := by
  induction rest generalizing kept with
  | nil => exact h
  | cons a rest ih =>
    unfold dedupFrom at h
    by_cases hkey : key a = key kept
    · obtain heq | heq := hmerge.same a kept hkey
      · rw [heq] at h
        exact List.mem_cons_of_mem _ (ih h)
      · rw [heq] at h
        rcases List.mem_cons.mp (ih h) with rfl | hmem
        · exact List.mem_cons_self
        · exact List.mem_cons_of_mem _ (List.mem_cons_of_mem _ hmem)
    · rw [hmerge.other a kept hkey] at h
      rcases List.mem_cons.mp h with rfl | hmem
      · exact List.mem_cons_self
      · exact List.mem_cons_of_mem _ (ih hmem)

/-- Every key is left. -/
theorem mem_keys_dedupBy (hmerge : MergesBy key merge) (l : List α) (k : κ) :
    k ∈ (dedupBy merge l).map key ↔ k ∈ l.map key := by
  cases l with
  | nil => rfl
  | cons a rest => exact mem_keys_dedupFrom hmerge a rest k

/-- No key is left twice exactly where equal keys stand together. -/
theorem nodup_dedupBy_iff (hmerge : MergesBy key merge) (l : List α) :
    ((dedupBy merge l).map key).Nodup ↔ Together (l.map key) := by
  cases l with
  | nil => exact ⟨fun _ => trivial, fun _ => List.nodup_nil⟩
  | cons a rest => exact nodup_dedupFrom_iff hmerge a rest

/-- An element that survives every merge with its like is still there. -/
theorem mem_dedupBy (hmerge : MergesBy key merge) {x : α}
    (hx : ∀ a, key a = key x → merge x a = some x ∧ merge a x = some x) {l : List α}
    (hmem : x ∈ l) : x ∈ dedupBy merge l := by
  cases l with
  | nil => exact hmem
  | cons a rest => exact mem_dedupFrom hmerge hx hmem

end

end Adjacent
