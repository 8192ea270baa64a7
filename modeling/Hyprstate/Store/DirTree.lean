import Mathlib.Data.List.Infix
import Mathlib.Logic.Function.Basic
import Mathlib.Tactic.Common

/-!
# Directory trees

What is at each path of a directory tree. An entry keeps its number for as long as it lives, and a
rename takes it along with everything below it; a number is never given twice, and no entry is at
two paths. Only an entry with nothing below it (`Bare`) is removed, or replaced by a rename.
-/

namespace Store

/-- A directory tree, and the number that the next entry gets. -/
structure DirTree (N : Type) where
  node : List N → Option Nat
  next : Nat
  root : (node []).isSome
  closed : ∀ p n, (node (p ++ [n])).isSome → (node p).isSome
  unique : ∀ {p q i}, node p = some i → node q = some i → p = q
  below : ∀ {p i}, node p = some i → i < next

namespace DirTree

variable {N : Type}

/-- Nothing is below the path. -/
def Bare (t : DirTree N) (p : List N) : Prop := ∀ n, t.node (p ++ [n]) = none

/-- The tree of a root without entries. -/
def empty [DecidableEq N] : DirTree N where
  node p := if p = [] then some 0 else none
  next := 1
  root := rfl
  closed p n h := by simp at h
  unique {p q i} hp hq := by
    split at hp
    · next hnil =>
      split at hq
      · next hnil' => rw [hnil, hnil']
      · cases hq
    · cases hp
  below {p i} h := by
    split at h
    · obtain rfl := Option.some.inj h
      exact Nat.zero_lt_one
    · cases h

section

variable (t : DirTree N) {p q r : List N} {n : N} {i j : Nat}

/-- Above what is there everything is there. -/
theorem isSome_of_append {s : List N} (h : (t.node (p ++ s)).isSome) : (t.node p).isSome := by
  induction s using List.reverseRecOn with
  | nil => rwa [List.append_nil] at h
  | append_singleton s n ih =>
    rw [← List.append_assoc] at h
    exact ih (t.closed _ _ h)

/-- A path where nothing is has nothing below it. -/
theorem bare_of_none (h : t.node p = none) : t.Bare p := by
  intro n
  by_contra hsome
  have hp := t.closed p n (Option.isSome_iff_ne_none.mpr hsome)
  rw [h] at hp
  cases hp

/-- What is there is not below a path that nothing is below. -/
theorem eq_of_bare (hbare : t.Bare q) (hr : (t.node r).isSome) (h : q <+: r) : r = q := by
  obtain ⟨s, rfl⟩ := h
  cases s with
  | nil => exact List.append_nil q
  | cons n s =>
    rw [List.append_cons] at hr
    have hsome := t.isSome_of_append hr
    rw [hbare n] at hsome
    cases hsome

variable [DecidableEq N]

/-! ## A new entry -/

/-- A new entry in a directory. -/
def create (p : List N) (n : N) (hdir : (t.node p).isSome) (hnone : t.node (p ++ [n]) = none) :
    DirTree N where
  node := Function.update t.node (p ++ [n]) (some t.next)
  next := t.next + 1
  root := by
    rw [Function.update_of_ne (by simp)]
    exact t.root
  closed q m h := by
    have hkeep : (t.node q).isSome := by
      by_cases heq : q ++ [m] = p ++ [n]
      · obtain ⟨rfl, -⟩ := List.append_inj' heq rfl
        exact hdir
      · rw [Function.update_of_ne heq] at h
        exact t.closed _ _ h
    rwa [Function.update_of_ne]
    rintro rfl
    rw [hnone] at hkeep
    cases hkeep
  unique {q r i} hq hr := by
    by_cases hqn : q = p ++ [n] <;> by_cases hrn : r = p ++ [n]
    · rw [hqn, hrn]
    · rw [hqn, Function.update_self] at hq
      rw [Function.update_of_ne hrn] at hr
      exact absurd (t.below hr) (Option.some.inj hq ▸ lt_irrefl _)
    · rw [Function.update_of_ne hqn] at hq
      rw [hrn, Function.update_self] at hr
      exact absurd (t.below hq) (Option.some.inj hr ▸ lt_irrefl _)
    · rw [Function.update_of_ne hqn] at hq
      rw [Function.update_of_ne hrn] at hr
      exact t.unique hq hr
  below {q i} h := by
    by_cases hqn : q = p ++ [n]
    · rw [hqn, Function.update_self] at h
      exact Option.some.inj h ▸ Nat.lt_succ_self _
    · rw [Function.update_of_ne hqn] at h
      exact Nat.lt_succ_of_lt (t.below h)

/-- What is there stays. -/
theorem create_node (hdir : (t.node p).isSome) (hnone : t.node (p ++ [n]) = none)
    (h : t.node r = some i) : (t.create p n hdir hnone).node r = some i := by
  have hne : r ≠ p ++ [n] := by
    rintro rfl
    rw [hnone] at h
    cases h
  exact (Function.update_of_ne hne _ _).trans h

/-- A new entry is bare. -/
theorem create_bare (hdir : (t.node p).isSome) (hnone : t.node (p ++ [n]) = none) :
    (t.create p n hdir hnone).Bare (p ++ [n]) := by
  intro m
  have hne : p ++ [n] ++ [m] ≠ p ++ [n] := by simp
  exact (Function.update_of_ne hne _ _).trans (t.bare_of_none hnone m)

/-! ## A removed entry -/

/-- An entry removed. -/
def remove (p : List N) (hp : p ≠ []) (hbare : t.Bare p) : DirTree N where
  node := Function.update t.node p none
  next := t.next
  root := by
    rw [Function.update_of_ne hp.symm]
    exact t.root
  closed q m h := by
    by_cases hqm : q ++ [m] = p
    · rw [hqm, Function.update_self] at h
      cases h
    · rw [Function.update_of_ne hqm] at h
      rw [Function.update_of_ne]
      · exact t.closed _ _ h
      · rintro rfl
        rw [hbare m] at h
        cases h
  unique {q r i} hq hr := by
    by_cases hqp : q = p
    · rw [hqp, Function.update_self] at hq
      cases hq
    by_cases hrp : r = p
    · rw [hrp, Function.update_self] at hr
      cases hr
    rw [Function.update_of_ne hqp] at hq
    rw [Function.update_of_ne hrp] at hr
    exact t.unique hq hr
  below {q i} h := by
    by_cases hqp : q = p
    · rw [hqp, Function.update_self] at h
      cases h
    · rw [Function.update_of_ne hqp] at h
      exact t.below h

/-- Everything else stays. -/
theorem remove_node (hp : p ≠ []) (hbare : t.Bare p) (h : r ≠ p) :
    (t.remove p hp hbare).node r = t.node r :=
  Function.update_of_ne h _ _

/-! ## A renamed entry -/

/-- What a rename of `p` to `q` leaves at each path. -/
def moved (node : List N → Option Nat) (p q r : List N) : Option Nat :=
  if q <+: r then node (p ++ r.drop q.length) else if p <+: r then none else node r

/-- What was below the old path is below the new one. -/
theorem moved_below (node : List N → Option Nat) (s : List N) :
    moved node p q (q ++ s) = node (p ++ s) := by
  rw [moved, if_pos (List.prefix_append q s), List.drop_left]

/-- A path below neither stays. -/
theorem moved_of_not (node : List N → Option Nat) (hq : ¬q <+: r) (hp : ¬p <+: r) :
    moved node p q r = node r := by
  rw [moved, if_neg hq, if_neg hp]

/-- What is somewhere after a rename is below the new name, or is where it was. -/
theorem moved_cases {node : List N → Option Nat} (h : moved node p q r = some i) :
    (∃ s, r = q ++ s ∧ node (p ++ s) = some i) ∨ ¬q <+: r ∧ ¬p <+: r ∧ node r = some i := by
  by_cases hq : q <+: r
  · obtain ⟨s, rfl⟩ := hq
    rw [moved_below] at h
    exact .inl ⟨s, rfl, h⟩
  by_cases hp : p <+: r
  · rw [moved, if_neg hq, if_pos hp] at h
    cases h
  · rw [moved_of_not node hq hp] at h
    exact .inr ⟨hq, hp, h⟩

/-- An entry renamed, with everything below it; what had the new name goes. -/
def rename (p q : List N) (hp : p ≠ []) (hq : q ≠ []) (hdir : (t.node q.dropLast).isSome)
    (hout : ¬p <+: q) : DirTree N where
  node := moved t.node p q
  next := t.next
  root := by
    rw [moved_of_not _ (fun h => hq (List.prefix_nil.mp h)) fun h => hp (List.prefix_nil.mp h)]
    exact t.root
  closed r m h := by
    obtain ⟨i, hi⟩ := Option.isSome_iff_exists.mp h
    rcases moved_cases hi with ⟨s, hs, hnode⟩ | ⟨hqr, hpr, hnode⟩
    · rcases List.eq_nil_or_concat s with rfl | ⟨s, n, rfl⟩
      · -- It is the new name itself.
        rw [List.append_nil] at hs
        have hlast : q.dropLast = r := by rw [← hs, List.dropLast_concat]
        rw [hlast] at hdir
        rwa [moved_of_not]
        · intro hqr
          have hle := hqr.length_le
          rw [← hs, List.length_append, List.length_singleton] at hle
          omega
        · intro hpr
          exact hout (hs ▸ hpr.trans (List.prefix_append r [m]))
      · rw [List.concat_eq_append, ← List.append_assoc] at hs
        obtain ⟨rfl, -⟩ := List.append_inj' hs rfl
        rw [moved_below]
        rw [List.concat_eq_append, ← List.append_assoc] at hnode
        exact t.closed _ n (by rw [hnode]; rfl)
    · rw [moved_of_not]
      · exact t.closed _ m (by rw [hnode]; rfl)
      · exact fun h => hqr (h.trans (List.prefix_append r [m]))
      · exact fun h => hpr (h.trans (List.prefix_append r [m]))
  unique {r r' i} hr hr' := by
    rcases moved_cases hr with ⟨s, rfl, hs⟩ | ⟨-, hpr, hnode⟩ <;>
      rcases moved_cases hr' with ⟨s', rfl, hs'⟩ | ⟨-, hpr', hnode'⟩
    · rw [List.append_cancel_left (t.unique hs hs')]
    · exact absurd (t.unique hs hnode' ▸ List.prefix_append p s) hpr'
    · exact absurd (t.unique hs' hnode ▸ List.prefix_append p s') hpr
    · exact t.unique hnode hnode'
  below {r i} h := by
    rcases moved_cases h with ⟨s, -, hnode⟩ | ⟨-, -, hnode⟩
    · exact t.below hnode
    · exact t.below hnode

/-- What is neither renamed nor replaced stays. -/
theorem rename_node (hp : p ≠ []) (hq : q ≠ []) (hdir : (t.node q.dropLast).isSome)
    (hout : ¬p <+: q) (hbare : t.Bare q) (h : t.node r = some i) (hpr : ¬p <+: r) (hqr : r ≠ q) :
    (t.rename p q hp hq hdir hout).node r = some i := by
  have hqr : ¬q <+: r := fun hpre => hqr (t.eq_of_bare hbare (by rw [h]; rfl) hpre)
  exact (moved_of_not t.node hqr hpr).trans h

end

end DirTree

end Store
