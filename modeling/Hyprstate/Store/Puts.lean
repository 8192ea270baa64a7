import Mathlib.Logic.Function.Basic
import Mathlib.Tactic.Common

/-!
# Puts into a store

A plan of values to put into the cells of a store, one after another. `put` says what a cell holds
after an attempt, and how the attempt ends. Where each cell is meant for one value only
(`Functional`), a cell holds after the plan what the one put makes of it (`attempt_of_mem`), and
where all cells are settled the plan changes nothing (`attempt_of_settled`).
-/

namespace Store

variable {K V W S : Type} [DecidableEq K]

section

variable (put : K → W → V → V × S)

/-- The puts of a plan in order: the store afterwards, and how each ended. -/
def attempt : List (K × W) → (K → V) → (K → V) × List S
  | [], s => (s, [])
  | (k, w) :: plan, s =>
    let r := put k w (s k)
    let rest := attempt plan (Function.update s k r.1)
    (rest.1, r.2 :: rest.2)

/-- A plan has one value for a cell. -/
def Functional (plan : List (K × W)) : Prop := ∀ p ∈ plan, ∀ q ∈ plan, p.1 = q.1 → p.2 = q.2

end

section

variable {put : K → W → V → V × S} {s : K → V}

/-- A plan in two parts goes on from what the first one left. -/
theorem attempt_append (plan plan' : List (K × W)) (s : K → V) :
    attempt put (plan ++ plan') s =
      ((attempt put plan' (attempt put plan s).1).1,
        (attempt put plan s).2 ++ (attempt put plan' (attempt put plan s).1).2) := by
  induction plan generalizing s with
  | nil => rfl
  | cons p plan ih => simp only [List.cons_append, attempt, ih]

/-- A cell that the plan has nothing for is left. -/
theorem attempt_of_not_mem {plan : List (K × W)} {k : K} (hk : ∀ w, (k, w) ∉ plan) (s : K → V) :
    (attempt put plan s).1 k = s k := by
  induction plan generalizing s with
  | nil => rfl
  | cons p plan ih =>
    obtain ⟨k', w'⟩ := p
    have hne : k ≠ k' := by
      rintro rfl
      exact hk w' List.mem_cons_self
    have hrest : ∀ w, (k, w) ∉ plan := fun w hw => hk w (List.mem_cons_of_mem _ hw)
    rw [attempt, ih hrest, Function.update_of_ne hne]

/-- A cell that the plan has a value for holds what the put of it makes of the cell. -/
theorem attempt_of_mem {plan : List (K × W)} (hplan : Functional plan) {k : K} {w : W}
    (hmem : (k, w) ∈ plan) (hidem : ∀ v, (put k w (put k w v).1).1 = (put k w v).1) (s : K → V) :
    (attempt put plan s).1 k = (put k w (s k)).1 := by
  induction plan generalizing s with
  | nil => cases hmem
  | cons p plan ih =>
    obtain ⟨k', w'⟩ := p
    have hplan' : Functional plan := fun p hp q hq =>
      hplan p (List.mem_cons_of_mem _ hp) q (List.mem_cons_of_mem _ hq)
    rw [attempt]
    by_cases hlater : (k, w) ∈ plan
    · rw [ih hplan' hlater]
      by_cases hk : k = k'
      · -- It is put twice.
        subst hk
        obtain rfl : w = w' := hplan _ hmem _ List.mem_cons_self rfl
        rw [Function.update_self, hidem]
      · rw [Function.update_of_ne hk]
    · obtain ⟨rfl, rfl⟩ := Prod.mk.inj ((List.mem_cons.mp hmem).resolve_right hlater)
      have hnone : ∀ w', (k, w') ∉ plan := by
        intro w' hw'
        obtain rfl : w = w' := hplan _ hmem _ (List.mem_cons_of_mem _ hw') rfl
        exact hlater hw'
      rw [attempt_of_not_mem hnone, Function.update_self]

/-- Where every put leaves its cell as it is, so does the plan; each ends as it does on the
store. -/
theorem attempt_of_settled {plan : List (K × W)}
    (hsettled : ∀ p ∈ plan, (put p.1 p.2 (s p.1)).1 = s p.1) :
    attempt put plan s = (s, plan.map fun p => (put p.1 p.2 (s p.1)).2) := by
  induction plan with
  | nil => rfl
  | cons p plan ih =>
    obtain ⟨k, w⟩ := p
    have hkeep : Function.update s k (put k w (s k)).1 = s := by
      rw [hsettled (k, w) List.mem_cons_self, Function.update_eq_self]
    rw [attempt, hkeep, ih fun p hp => hsettled p (List.mem_cons_of_mem _ hp)]
    rfl

end

end Store
