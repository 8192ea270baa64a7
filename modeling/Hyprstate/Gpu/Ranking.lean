import Hyprstate.Fsm.Gpu
import Mathlib.Data.List.Perm.Basic

/-!
# The integrated card and the order of the others

The two choices among cards that `gpu_desired` rests on, each stated for the cards themselves: which
card `integrated_card` finds (`integratedCard_get`), and what stands first among the discrete cards
in the order of preference (`bestDiscrete_head`). The source works on indices, so a card is taken
with its index (`Enumerated`).
-/

namespace Hyprstate

/-- A connected external or eDP connector. -/
def GpuCard.displays (c : GpuCard) : Bool := decide (c.external > 0 ∨ c.edp > 0)

/-! ## The order of preference -/

/-- More outputs come first, then more memory, then the lower path. -/
theorem discreteLe_iff (a b : GpuCard) :
    discreteLe a b = true ↔ a.external > b.external ∨ a.external = b.external ∧
      (a.vram > b.vram ∨ a.vram = b.vram ∧ a.path ≤ b.path) := by
  unfold discreteLe
  split
  · simp only [decide_eq_true_eq]
    omega
  · split
    · simp only [decide_eq_true_eq]
      omega
    · have hext : a.external = b.external := by omega
      have hvram : a.vram = b.vram := by omega
      simp [hext, hvram]

/-- The order of the discrete cards is transitive. -/
theorem discreteLe_trans (a b c : GpuCard) (hab : discreteLe a b) (hbc : discreteLe b c) :
    discreteLe a c := by
  rw [discreteLe_iff] at *
  have hpath : a.path ≤ b.path → b.path ≤ c.path → a.path ≤ c.path := String.le_trans
  grind

/-- And it is total. -/
theorem discreteLe_total (a b : GpuCard) : discreteLe a b || discreteLe b a := by
  rw [Bool.or_eq_true, discreteLe_iff, discreteLe_iff]
  have hpath : a.path ≤ b.path ∨ b.path ≤ a.path := String.le_total _ _
  grind

/-- Two cards that stand before each other have one path. -/
theorem path_eq_of_discreteLe {a b : GpuCard} (hab : discreteLe a b) (hba : discreteLe b a) :
    a.path = b.path := by
  rw [discreteLe_iff] at hab hba
  have hpath : a.path ≤ b.path → b.path ≤ a.path → a.path = b.path := String.le_antisymm
  grind

/-! ## Cards with their indices -/

/-- A list of cards that stand at the indices beside them. -/
def Enumerated (cards : List GpuCard) (l : List (GpuCard × Nat)) : Prop :=
  ∀ c ∈ l, cards[c.2]? = some c.1

/-- The indices of enumerated cards lead back to the cards. -/
theorem Enumerated.mapM {cards : List GpuCard} {l : List (GpuCard × Nat)}
    (h : Enumerated cards l) :
    (l.map Prod.snd).mapM (fun i => cards[i]?) = some (l.map Prod.fst) := by
  induction l with
  | nil => rfl
  | cons c rest ih =>
    have hc : cards[c.2]? = some c.1 := h c (by simp)
    have hrest := ih fun d hd => h d (by simp [hd])
    simp [hc, hrest]

/-- And to the cards with their indices. -/
theorem Enumerated.keyed {cards : List GpuCard} {l : List (GpuCard × Nat)}
    (h : Enumerated cards l) :
    (l.map Prod.snd).mapM (fun i => (cards[i]?).map (·, i)) = some l := by
  induction l with
  | nil => rfl
  | cons c rest ih =>
    have hc : cards[c.2]? = some c.1 := h c (by simp)
    have hrest := ih fun d hd => h d (by simp [hd])
    simp [hc, hrest]

/-- The cards with their places are enumerated. -/
theorem enumerated_zipIdx (cards : List GpuCard) : Enumerated cards cards.zipIdx := by
  intro c hc
  exact List.mem_zipIdx_iff_getElem?.mp hc

/-- Indices are filtered as the cards with their indices are. -/
theorem filter_range (cards : List GpuCard) (p : Nat → Bool) :
    (List.range cards.length).filter p = (cards.zipIdx.filter fun c => p c.2).map Prod.snd := by
  rw [List.range_eq_range', ← List.zipIdx_map_snd 0 cards, List.filter_map]
  rfl

/-! ## The integrated card -/

/-- The cards of one value with their indices, of which the source filters the indices. -/
theorem exists_filter_value (cards : List GpuCard) (f : GpuCard → Nat) (v : Nat) :
    ∃ l : List (GpuCard × Nat), (∀ c, c ∈ l ↔ cards[c.2]? = some c.1 ∧ f c.1 = v) ∧
      (List.range cards.length).filter (fun i => (cards[i]?.map f) == some v) =
        l.map Prod.snd ∧
      cards.filter (fun c => f c == v) = l.map Prod.fst := by
  refine ⟨cards.zipIdx.filter fun c => f c.1 == v, ?_, ?_, ?_⟩
  · intro c
    rw [List.mem_filter, List.mem_zipIdx_iff_getElem?, beq_iff_eq]
  · rw [filter_range]
    congr 1
    apply List.filter_congr
    intro c hc
    rw [enumerated_zipIdx cards c hc]
    rfl
  · conv_lhs => rw [← List.zipIdx_map_fst 0 cards, List.filter_map]
    rfl

/-- The card that is integrated: the only one with boot_vga, or the only one of the smallest VRAM
where none has it. -/
def IsIntegrated (cards : List GpuCard) (card : GpuCard) : Prop :=
  (cards.map GpuCard.vram).min? = some card.vram ∧
    (cards.filter (fun c => c.bootVga == 1) = [card] ∨
      cards.filter (fun c => c.bootVga == 1) = [] ∧
        cards.filter (fun c => c.vram == card.vram) = [card])

/-- The index `integrated_card` finds stands for the integrated card. -/
theorem integratedCard_get (cards : List GpuCard) (card : GpuCard) :
    (integratedCard cards).bind (cards[·]?) = some card ↔ IsIntegrated cards card := by
  unfold integratedCard IsIntegrated
  cases hmin : (cards.map GpuCard.vram).min? with
  | none => simp
  | some minVram =>
    obtain ⟨V, hmemV, hvga, hvga'⟩ := exists_filter_value cards GpuCard.bootVga 1
    obtain ⟨W, hmemW, hvram, hvram'⟩ := exists_filter_value cards GpuCard.vram minVram
    simp only [hvga, hvga', hvram, Option.some_inj]
    rcases V with _ | ⟨v, _ | ⟨v', rest⟩⟩
    · -- No card has boot_vga: the one of the smallest VRAM.
      rcases W with _ | ⟨w, _ | ⟨w', rest⟩⟩
      · constructor
        · rintro ⟨⟩
        · rintro ⟨hcard, h | ⟨-, hsmallest⟩⟩
          · cases h
          · rw [← hcard, hvram'] at hsmallest
            cases hsmallest
      · obtain ⟨hget, hvramw⟩ := (hmemW w).mp (List.mem_singleton_self w)
        simp only [List.map_cons, List.map_nil, Option.bind_some, hget, Option.some_inj]
        constructor
        · rintro rfl
          exact ⟨hvramw.symm, .inr ⟨trivial, by rw [hvramw, hvram']; rfl⟩⟩
        · rintro ⟨hcard, h | ⟨-, hsmallest⟩⟩
          · cases h
          · rw [← hcard, hvram'] at hsmallest
            simpa using hsmallest
      · constructor
        · rintro ⟨⟩
        · rintro ⟨hcard, h | ⟨-, hsmallest⟩⟩
          · cases h
          · rw [← hcard, hvram'] at hsmallest
            cases hsmallest
    · -- One card has boot_vga: it must be one of the smallest VRAM.
      obtain ⟨hget, -⟩ := (hmemV v).mp (List.mem_singleton_self v)
      have hcontains : (W.map Prod.snd).contains v.2 = true ↔ v.1.vram = minVram := by
        rw [List.contains_iff_mem, List.mem_map]
        constructor
        · rintro ⟨w, hw, hindex⟩
          obtain ⟨hgetw, hvramw⟩ := (hmemW w).mp hw
          rw [hindex, hget, Option.some_inj] at hgetw
          rw [hgetw, hvramw]
        · intro hv
          exact ⟨v, (hmemW v).mpr ⟨hget, hv⟩, rfl⟩
      simp only [List.map_cons, List.map_nil, hcontains]
      by_cases hv : v.1.vram = minVram
      · rw [if_pos hv, Option.bind_some, hget, Option.some_inj]
        constructor
        · rintro rfl
          exact ⟨hv.symm, .inl rfl⟩
        · rintro ⟨-, h | ⟨h, -⟩⟩
          · simpa using h
          · cases h
      · rw [if_neg hv]
        constructor
        · rintro ⟨⟩
        · rintro ⟨hcard, h | ⟨h, -⟩⟩
          · have hcardv : v.1 = card := by simpa using h
            exact absurd (by rw [hcardv, hcard]) hv
          · cases h
    · constructor
      · rintro ⟨⟩
      · rintro ⟨-, h | ⟨h, -⟩⟩ <;> cases h

/-- The integrated card is one of the cards. -/
theorem integratedCard_lt {cards : List GpuCard} {i : Nat} (h : integratedCard cards = some i) :
    i < cards.length := by
  have hlt : ∀ {p : Nat → Bool} {j : Nat} {rest : List Nat},
      (List.range cards.length).filter p = j :: rest → j < cards.length := by
    intro p j rest hfilter
    have hmem : j ∈ (List.range cards.length).filter p := by rw [hfilter]; simp
    exact List.mem_range.mp (List.mem_filter.mp hmem).1
  unfold integratedCard at h
  split at h
  · cases h
  · simp only at h
    split at h
    · rename_i hvga
      split at h
      · cases h
        exact hlt hvga
      · cases h
    · split at h
      · rename_i hvram
        cases h
        exact hlt hvram
      · cases h
    · cases h

/-- The integrated card with its index. -/
theorem integratedCard_some {cards : List GpuCard} {i : Nat} (h : integratedCard cards = some i) :
    ∃ card, cards[i]? = some card ∧ IsIntegrated cards card := by
  obtain ⟨card, hget⟩ : ∃ card, cards[i]? = some card :=
    ⟨_, List.getElem?_eq_getElem (integratedCard_lt h)⟩
  refine ⟨card, hget, ?_⟩
  rw [← integratedCard_get, h]
  exact hget

/-! ## The discrete cards in order -/

/-- The discrete cards in the order of preference. -/
def discretesOf (cards : List GpuCard) (integrated : Nat) : List (GpuCard × Nat) :=
  (cards.zipIdx.filter fun c => c.2 != integrated).mergeSort fun a b => discreteLe a.1 b.1

/-- The discrete cards are those at other places than the integrated one. -/
theorem mem_discretesOf {cards : List GpuCard} {integrated : Nat} {c : GpuCard × Nat} :
    c ∈ discretesOf cards integrated ↔ cards[c.2]? = some c.1 ∧ c.2 ≠ integrated := by
  unfold discretesOf
  rw [List.mem_mergeSort, List.mem_filter, List.mem_zipIdx_iff_getElem?, bne_iff_ne]

/-- Two cards leave one that is not the integrated one. -/
theorem discretesOf_ne_nil {cards : List GpuCard} (hmany : ¬ cards.length < 2)
    (integrated : Nat) : discretesOf cards integrated ≠ [] := by
  obtain ⟨i, hi, hne⟩ : ∃ i < cards.length, i ≠ integrated := by
    by_cases hzero : integrated = 0
    · exact ⟨1, by omega, by omega⟩
    · exact ⟨0, by omega, by omega⟩
  have hmem : (cards[i], i) ∈ discretesOf cards integrated :=
    mem_discretesOf.mpr ⟨List.getElem?_eq_getElem hi, hne⟩
  exact List.ne_nil_of_mem hmem

/-- The discrete cards keep their indices apart. -/
theorem nodup_discretesOf (cards : List GpuCard) (integrated : Nat) :
    ((discretesOf cards integrated).map Prod.snd).Nodup := by
  have hperm : (discretesOf cards integrated).Perm
      (cards.zipIdx.filter fun c => c.2 != integrated) := List.mergeSort_perm _ _
  rw [(hperm.map Prod.snd).nodup_iff]
  have hindices : (cards.zipIdx.map Prod.snd).Nodup := by
    rw [List.zipIdx_map_snd]
    exact List.nodup_range'
  exact hindices.sublist (List.filter_sublist.map Prod.snd)

/-- Two members that a list does not order backwards stand in it in their order. -/
theorem pair_sublist_of_pairwise {α : Type} {R : α → α → Prop} {l : List α} {a b : α}
    (h : l.Pairwise R) (ha : a ∈ l) (hb : b ∈ l) (hne : a ≠ b) (hback : ¬ R b a) :
    [a, b].Sublist l := by
  induction l with
  | nil => cases ha
  | cons x rest ih =>
    obtain ⟨hx, hrest⟩ := List.pairwise_cons.mp h
    rcases List.mem_cons.mp ha with rfl | harest
    · rcases List.mem_cons.mp hb with rfl | hbrest
      · exact absurd rfl hne
      · exact (List.singleton_sublist.mpr hbrest).cons_cons a
    · rcases List.mem_cons.mp hb with rfl | hbrest
      · exact absurd (hx a harest) hback
      · exact (ih hrest harest hbrest).cons x

/-- The discrete card that stands first: nothing stands before it in the order of preference, and of
equals it is the first enumerated. -/
def BestDiscrete (cards : List GpuCard) (best : Nat) : Prop :=
  integratedCard cards ≠ some best ∧ ∃ card, cards[best]? = some card ∧
    ∀ i other, integratedCard cards ≠ some i → cards[i]? = some other →
      discreteLe card other ∧ (i < best → discreteLe other card = false)

/-- The head of the sorted discrete cards is the one that stands first. -/
theorem bestDiscrete_head {cards : List GpuCard} {integrated : Nat} {best : GpuCard × Nat}
    {rest : List (GpuCard × Nat)} (hintegrated : integratedCard cards = some integrated)
    (hdiscretes : discretesOf cards integrated = best :: rest) : BestDiscrete cards best.2 := by
  have hmem : best ∈ discretesOf cards integrated := by simp [hdiscretes]
  obtain ⟨hbest, hne⟩ := mem_discretesOf.mp hmem
  -- The head of a sorted list is no worse than the others.
  have hsorted : (discretesOf cards integrated).Pairwise fun a b => discreteLe a.1 b.1 = true :=
    List.pairwise_mergeSort (fun a b c => discreteLe_trans a.1 b.1 c.1)
      (fun a b => discreteLe_total a.1 b.1) _
  rw [hdiscretes] at hsorted
  refine ⟨?_, best.1, hbest, ?_⟩
  · rw [hintegrated]
    exact fun h => hne (Option.some_inj.mp h).symm
  intro i other hi hother
  have hother_mem : (other, i) ∈ discretesOf cards integrated := by
    refine mem_discretesOf.mpr ⟨hother, ?_⟩
    rintro rfl
    exact hi hintegrated
  constructor
  · rw [hdiscretes] at hother_mem
    rcases List.mem_cons.mp hother_mem with rfl | hrest
    · simpa using discreteLe_total other other
    · exact (List.pairwise_cons.mp hsorted).1 (other, i) hrest
  · -- The sort is stable: an equal card enumerated earlier would stand before the head.
    intro hlt
    by_contra hle
    have hle : discreteLe other best.1 = true := by simpa using hle
    have hindices : (cards.zipIdx.filter fun c => c.2 != integrated).Pairwise
        fun a b => a.2 < b.2 := by
      refine List.Pairwise.filter _ (List.pairwise_map.mp ?_)
      rw [List.zipIdx_map_snd]
      exact List.pairwise_lt_range'
    have hpair : [(other, i), best].Sublist (discretesOf cards integrated) := by
      refine List.pair_sublist_mergeSort (fun a b c => discreteLe_trans a.1 b.1 c.1)
        (fun a b => discreteLe_total a.1 b.1) (by exact hle) ?_
      refine pair_sublist_of_pairwise hindices (List.mem_mergeSort.mp hother_mem)
        (List.mem_mergeSort.mp hmem) ?_ (by simpa using Nat.le_of_lt hlt)
      rintro rfl
      exact Nat.lt_irrefl _ hlt
    have hnodup := nodup_discretesOf cards integrated
    rw [hdiscretes] at hpair hnodup
    have hnot : best.2 ∉ rest.map Prod.snd := (List.nodup_cons.mp hnodup).1
    cases hpair with
    | cons _ hpair => exact hnot (List.mem_map_of_mem (hpair.subset (by simp)))
    | cons_cons _ _ => exact Nat.lt_irrefl _ hlt

end Hyprstate
