import Hyprstate.Gpu.Selection

/-!
# The selection does not depend on the enumeration

The kernel numbers the cards anew at every boot. `gpuDesired_perm` shows that the order in which the
snapshot holds them is not seen in the result, as long as no two share a path.

Every choice of the selection is brought from indices to cards: the integrated card by
`integratedCard_get`, the discrete cards by the one order their distinct paths allow
(`discretes_perm`), and the listed devices by their paths (`cards_devicesOf`).
-/

namespace Hyprstate

variable {cards cards' : List GpuCard}

/-- The integrated card is the same in every enumeration. -/
theorem IsIntegrated.perm {card : GpuCard} (hperm : cards'.Perm cards)
    (h : IsIntegrated cards card) : IsIntegrated cards' card := by
  obtain ⟨hmin, hfound⟩ := h
  have hvram := hperm.map GpuCard.vram
  refine ⟨?_, ?_⟩
  · rw [List.min?_eq_some_iff] at hmin ⊢
    exact ⟨hvram.mem_iff.mpr hmin.1, fun v hv => hmin.2 v (hvram.mem_iff.mp hv)⟩
  · rcases hfound with hvga | ⟨hvga, hsmallest⟩
    · exact .inl (hvga ▸ hperm.filter _).eq_singleton
    · exact .inr ⟨(hvga ▸ hperm.filter _).eq_nil, (hsmallest ▸ hperm.filter _).eq_singleton⟩

/-- Either both enumerations have no integrated card, or both have the same one. -/
theorem integratedCard_perm (hperm : cards'.Perm cards) :
    integratedCard cards' = none ∧ integratedCard cards = none ∨
      ∃ i' i card, integratedCard cards' = some i' ∧ integratedCard cards = some i ∧
        cards'[i']? = some card ∧ cards[i]? = some card := by
  have hfind : ∀ {as bs : List GpuCard} {j : Nat}, as.Perm bs → integratedCard bs = some j →
      ∃ i card, integratedCard as = some i ∧ as[i]? = some card ∧ bs[j]? = some card := by
    intro as bs j h hj
    obtain ⟨card, hget, hcard⟩ := integratedCard_some hj
    obtain ⟨i, hi, hget'⟩ :=
      Option.bind_eq_some_iff.mp ((integratedCard_get as card).mpr (hcard.perm h))
    exact ⟨i, card, hi, hget', hget⟩
  cases hintegrated : integratedCard cards with
  | some i =>
    obtain ⟨i', card, hi', hget', hget⟩ := hfind hperm hintegrated
    exact .inr ⟨i', i, card, hi', rfl, hget', hget⟩
  | none =>
    cases hintegrated' : integratedCard cards' with
    | some i' =>
      obtain ⟨i, card, hi, -, -⟩ := hfind hperm.symm hintegrated'
      rw [hintegrated] at hi
      cases hi
    | none => exact .inl ⟨rfl, rfl⟩

/-! ## Cards by their paths -/

/-- Cards that stand at one index are the cards of one path. -/
theorem index_eq_iff_path (hpaths : (cards.map GpuCard.path).Nodup) {c d : GpuCard × Nat}
    (hc : cards[c.2]? = some c.1) (hd : cards[d.2]? = some d.1) :
    c.2 = d.2 ↔ c.1.path = d.1.path := by
  have hlt : c.2 < (cards.map GpuCard.path).length := by
    simpa using (List.getElem?_eq_some_iff.mp hc).1
  rw [← List.getElem?_inj hlt hpaths, List.getElem?_map, List.getElem?_map, hc, hd]
  simp

/-- The discrete cards are the cards but for the integrated one. -/
theorem mem_cards_discretesOf (hpaths : (cards.map GpuCard.path).Nodup) {i : Nat}
    {integrated c : GpuCard} (hget : cards[i]? = some integrated) :
    c ∈ (discretesOf cards i).map Prod.fst ↔ c ∈ cards ∧ c.path ≠ integrated.path := by
  rw [List.mem_map]
  constructor
  · rintro ⟨d, hd, rfl⟩
    obtain ⟨hdget, hne⟩ := mem_discretesOf.mp hd
    refine ⟨List.mem_of_getElem? hdget, fun hpath => hne ?_⟩
    exact (index_eq_iff_path hpaths (d := (integrated, i)) hdget hget).mpr hpath
  · rintro ⟨hmem, hne⟩
    obtain ⟨j, hj⟩ := List.getElem?_of_mem hmem
    refine ⟨(c, j), mem_discretesOf.mpr ⟨hj, fun hindex => hne ?_⟩, rfl⟩
    exact (index_eq_iff_path hpaths (c := (c, j)) (d := (integrated, i)) hj hget).mp hindex

/-- None is there twice. -/
theorem nodup_cards_discretesOf (hpaths : (cards.map GpuCard.path).Nodup) (i : Nat) :
    ((discretesOf cards i).map Prod.fst).Nodup := by
  refine List.Nodup.map_on ?_ (List.Nodup.of_map Prod.snd (nodup_discretesOf cards i))
  intro a ha b hb hcard
  have hindex := (index_eq_iff_path hpaths (mem_discretesOf.mp ha).1 (mem_discretesOf.mp hb).1).mpr
    (congrArg GpuCard.path hcard)
  exact Prod.ext hcard hindex

/-- They are sorted. -/
theorem pairwise_cards_discretesOf (cards : List GpuCard) (i : Nat) :
    ((discretesOf cards i).map Prod.fst).Pairwise fun a b => discreteLe a b = true := by
  rw [List.pairwise_map]
  exact List.pairwise_mergeSort (fun a b c => discreteLe_trans a.1 b.1 c.1)
    (fun a b => discreteLe_total a.1 b.1) _

/-- Distinct paths leave one order for the discrete cards. -/
theorem discretes_perm (hperm : cards'.Perm cards) (hpaths : (cards.map GpuCard.path).Nodup)
    {i' i : Nat} {integrated : GpuCard} (hget' : cards'[i']? = some integrated)
    (hget : cards[i]? = some integrated) :
    (discretesOf cards' i').map Prod.fst = (discretesOf cards i).map Prod.fst := by
  have hpaths' : (cards'.map GpuCard.path).Nodup := (hperm.map GpuCard.path).nodup_iff.mpr hpaths
  refine List.Perm.eq_of_pairwise ?_ (pairwise_cards_discretesOf cards' i')
    (pairwise_cards_discretesOf cards i) ?_
  · intro a b ha hb hab hba
    have ha := hperm.mem_iff.mp ((mem_cards_discretesOf hpaths' hget').mp ha).1
    have hb := ((mem_cards_discretesOf hpaths hget).mp hb).1
    exact List.inj_on_of_nodup_map hpaths ha hb (path_eq_of_discreteLe hab hba)
  · rw [List.perm_ext_iff_of_nodup (nodup_cards_discretesOf hpaths' i')
      (nodup_cards_discretesOf hpaths i)]
    intro c
    rw [mem_cards_discretesOf hpaths' hget', mem_cards_discretesOf hpaths hget, hperm.mem_iff]

/-! ## The ranking on cards alone -/

/-- `primaryOf` on cards. -/
def primaryAmong (mode : GpuMode) (source : GpuModeSource) (integrated best : GpuCard) :
    GpuCard × String :=
  match mode with
  | .auto => if best.displays then (best, "dgpu-has-display") else (integrated, "dgpu-idle-listed")
  | .igpu => (integrated, source.asStr ++ "-igpu")
  | _ => (best, source.asStr ++ "-dgpu")

/-- `devicesOf` on cards, told apart by their paths. -/
def devicesAmong (keepIdle : Bool) (integrated primary : GpuCard) (discretes : List GpuCard) :
    List GpuCard :=
  primary :: ((if integrated.path = primary.path then [] else [integrated]) ++
    discretes.filter fun c => c.path != primary.path && (keepIdle || c.displays))

/-- `ranked` on cards. -/
def rankedAmong (lidClosed : Bool) (mode : GpuMode) (source : GpuModeSource)
    (integrated best : GpuCard) (rest : List GpuCard) : Option (List GpuCard) × String :=
  let primary := primaryAmong mode source integrated best
  let devices := devicesAmong (decide (mode = .auto)) integrated primary.1 (best :: rest)
  if devices.any (fun c => decide (c.external > 0)) ||
      (!lidClosed && devices.any fun c => decide (c.edp > 0)) then
    (some devices, primary.2)
  else (none, "bailed-transient")

/-- The primary card is chosen by the cards, and not by their indices. -/
theorem cards_primaryOf (mode : GpuMode) (source : GpuModeSource)
    (integrated best : GpuCard × Nat) :
    (primaryOf mode source integrated best).1.1 =
        (primaryAmong mode source integrated.1 best.1).1 ∧
      (primaryOf mode source integrated best).2 =
        (primaryAmong mode source integrated.1 best.1).2 := by
  cases mode with
  | auto =>
    unfold primaryOf primaryAmong
    dsimp only
    split <;> exact ⟨rfl, rfl⟩
  | igpu => exact ⟨rfl, rfl⟩
  | dgpu => exact ⟨rfl, rfl⟩
  | off => exact ⟨rfl, rfl⟩

/-- So is the list of devices. -/
theorem cards_devicesOf (hpaths : (cards.map GpuCard.path).Nodup) (keepIdle : Bool)
    {integrated primary : GpuCard × Nat} {discretes : List (GpuCard × Nat)}
    (hintegrated : cards[integrated.2]? = some integrated.1)
    (hprimary : cards[primary.2]? = some primary.1) (hdiscretes : Enumerated cards discretes) :
    (devicesOf keepIdle integrated primary discretes).map Prod.fst =
      devicesAmong keepIdle integrated.1 primary.1 (discretes.map Prod.fst) := by
  have hfilter : (discretes.filter fun c => c.2 != primary.2 && (keepIdle || c.1.displays)) =
      discretes.filter fun c => c.1.path != primary.1.path && (keepIdle || c.1.displays) := by
    apply List.filter_congr
    intro c hc
    have hindex := index_eq_iff_path hpaths (hdiscretes c hc) hprimary
    by_cases hsame : c.2 = primary.2
    · simp [hsame, hindex.mp hsame]
    · rw [bne_iff_ne.mpr hsame, bne_iff_ne.mpr (mt hindex.mpr hsame)]
  have hindex := index_eq_iff_path hpaths hintegrated hprimary
  unfold devicesOf devicesAmong
  rw [hfilter, List.filter_map]
  by_cases hsame : integrated.2 = primary.2
  · rw [if_pos hsame, if_pos (hindex.mp hsame)]
    rfl
  · rw [if_neg hsame, if_neg (mt hindex.mpr hsame)]
    rfl

/-- Ranking sees the cards and not their indices. -/
theorem cards_ranked (snap : GpuSnapshot) (hpaths : (snap.cards.map GpuCard.path).Nodup)
    (mode : GpuMode) (source : GpuModeSource) (integrated : GpuCard × Nat) {best : GpuCard × Nat}
    {rest : List (GpuCard × Nat)} (hintegrated : snap.cards[integrated.2]? = some integrated.1)
    (hdiscretes : Enumerated snap.cards (best :: rest)) :
    ((ranked snap mode source integrated best rest).1.map (List.map Prod.fst),
        (ranked snap mode source integrated best rest).2) =
      rankedAmong snap.lidClosed mode source integrated.1 best.1 (rest.map Prod.fst) := by
  obtain ⟨hprimary, hreason⟩ := cards_primaryOf mode source integrated best
  have hget : snap.cards[(primaryOf mode source integrated best).1.2]? =
      some (primaryOf mode source integrated best).1.1 := by
    rcases primaryOf_eq mode source integrated best with h | h
    · rw [h]
      exact hintegrated
    · rw [h]
      exact hdiscretes best List.mem_cons_self
  have hdevices := cards_devicesOf hpaths (decide (mode = .auto)) hintegrated hget hdiscretes
  unfold ranked rankedAmong usableOutput
  dsimp only
  rw [← hprimary, ← hreason, ← List.map_cons, ← hdevices]
  simp only [List.any_map]
  split
  · rename_i husable
    rw [if_pos (by exact husable)]
    rfl
  · rename_i husable
    rw [if_neg (by exact husable)]
    rfl

/-! ## The result -/

/-- The selected cards are the same in every enumeration. -/
theorem gpuSelected_perm {snap : GpuSnapshot} (hperm : cards'.Perm snap.cards)
    (hpaths : (snap.cards.map GpuCard.path).Nodup) (mode : GpuMode) (source : GpuModeSource) :
    ((gpuSelected { snap with cards := cards' } mode source).1.map (List.map Prod.fst),
        (gpuSelected { snap with cards := cards' } mode source).2) =
      ((gpuSelected snap mode source).1.map (List.map Prod.fst),
        (gpuSelected snap mode source).2) := by
  have hpaths' : (cards'.map GpuCard.path).Nodup := (hperm.map GpuCard.path).nodup_iff.mpr hpaths
  unfold gpuSelected
  rw [hperm.length_eq, hperm.any_eq]
  by_cases hoff : mode = .off
  · rw [if_pos hoff, if_pos hoff]
  rw [if_neg hoff, if_neg hoff]
  by_cases hfew : snap.cards.length < 2
  · rw [if_pos hfew, if_pos hfew]
  rw [if_neg hfew, if_neg hfew]
  by_cases hnonPci : snap.nonPciDisplay = true
  · rw [if_pos hnonPci, if_pos hnonPci]
  rw [if_neg hnonPci, if_neg hnonPci]
  -- The integrated card is the same card, at its own place in each listing.
  rcases integratedCard_perm hperm with ⟨hnone', hnone⟩ | ⟨i', i, card, hi', hi, hget', hget⟩
  · rw [hnone', hnone]
  · rw [hi', hi]
    dsimp only
    by_cases hshut : (snap.lidClosed &&
        !snap.cards.any fun c => decide (c.external > 0)) = true
    · rw [if_pos hshut, if_pos hshut]
    rw [if_neg hshut, if_neg hshut, hget', hget]
    -- And so are the discrete ones, in their order of preference.
    have hdiscretes := discretes_perm hperm hpaths hget' hget
    have henum' : Enumerated cards' (discretesOf cards' i') :=
      fun c hc => (mem_discretesOf.mp hc).1
    have henum : Enumerated snap.cards (discretesOf snap.cards i) :=
      fun c hc => (mem_discretesOf.mp hc).1
    cases hsorted' : discretesOf cards' i' with
    | nil =>
      rw [hsorted', List.map_nil, eq_comm, List.map_eq_nil_iff] at hdiscretes
      rw [hdiscretes]
    | cons best' rest' =>
      cases hsorted : discretesOf snap.cards i with
      | nil => simp [hsorted', hsorted] at hdiscretes
      | cons best rest =>
        rw [hsorted'] at henum' hdiscretes
        rw [hsorted] at henum hdiscretes
        obtain ⟨hbest, hrest⟩ : best'.1 = best.1 ∧ rest'.map Prod.fst = rest.map Prod.fst := by
          simpa using hdiscretes
        have hranked' := cards_ranked { snap with cards := cards' } hpaths' mode source (card, i')
          hget' henum'
        have hranked := cards_ranked snap hpaths mode source (card, i) hget henum
        rw [hbest, hrest] at hranked'
        exact hranked'.trans hranked.symm

/-- The result of `gpu_desired` is the same for every enumeration of cards of distinct paths. -/
theorem gpuDesired_perm (snap : GpuSnapshot) (cards : List GpuCard) (mode : GpuMode)
    (source : GpuModeSource) (hperm : cards.Perm snap.cards)
    (hpaths : (snap.cards.map GpuCard.path).Nodup) :
    gpuDesired { snap with cards } mode source = gpuDesired snap mode source := by
  obtain ⟨hdevices, hreason⟩ := Prod.mk.inj (gpuSelected_perm hperm hpaths mode source)
  have hnames : ∀ devices : Option (List (GpuCard × Nat)),
      devices.map (List.map fun c => devnode c.1) =
        (devices.map (List.map Prod.fst)).map (List.map devnode) := by
    intro devices
    cases devices with
    | none => rfl
    | some devices => simp
  rw [gpuDesired_eq, gpuDesired_eq, hnames, hnames, hdevices, hreason]

/-- The integrated card of a laptop, with its panel. -/
def laptopIgpu : GpuCard :=
  { path := "/dev/dri/by-path/pci-0000:c4:00.0-card", card := "card1", bootVga := 1, vram := 512,
    external := 0, edp := 1 }

/-- Its discrete card, with a monitor. -/
def laptopDgpu : GpuCard :=
  { path := "/dev/dri/by-path/pci-0000:03:00.0-card", card := "card0", bootVga := 0, vram := 8192,
    external := 1, edp := 0 }

/-- The laptop whose cards change places between two boots. -/
theorem gpuDesired_perm_laptop :
    gpuDesired { cards := [laptopDgpu, laptopIgpu] } .auto .default =
      gpuDesired { cards := [laptopIgpu, laptopDgpu] } .auto .default :=
  gpuDesired_perm { cards := [laptopIgpu, laptopDgpu] } [laptopDgpu, laptopIgpu] .auto .default
    (List.Perm.swap laptopIgpu laptopDgpu []) (by decide)

end Hyprstate
