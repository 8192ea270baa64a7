import Hyprstate.Gpu.Ranking
import Mathlib.Data.List.Nodup

/-!
# The list `gpu_desired` selects

`gpu_desired` works on indices into the snapshot's cards, and it panics on an index out of range, on
`discretes[0]` of no discrete card, and in its `unreachable!` arm. `gpuDesiredAt` is that text with
every such place checked. `gpuDesired_safe` shows that none is ever reached, that `gpuDesired` is
the list `gpuDesiredAt` names, and that the list is one a session can log in with (`SafeList`).

The proof takes a card with its index (`gpuSelected`), of which the two functions read the name and
the index, and puts the result together from what was listed (`gpuSelected_some`).
-/

namespace Hyprstate

/-! ## The source on indices -/

/-- `sort_by` on indices: the comparator reads the two cards. -/
def sortDiscretes (cards : List GpuCard) (indices : List Nat) : Option (List Nat) := do
  let keyed ← indices.mapM fun i => (cards[i]?).map (·, i)
  some ((keyed.mergeSort fun a b => discreteLe a.1 b.1).map Prod.snd)

/-- The match that chooses the primary. -/
def choosePrimary (cards : List GpuCard) (mode : GpuMode) (source : GpuModeSource)
    (integrated best : Nat) : Option (Nat × String) :=
  match mode with
  | .auto => do
    let card ← cards[best]?
    some (if card.displays then (best, "dgpu-has-display") else (integrated, "dgpu-idle-listed"))
  | .igpu => some (integrated, source.asStr ++ "-igpu")
  | .dgpu => some (best, source.asStr ++ "-dgpu")
  | .off => none

/-- The loop that lists the discrete cards after the primary and the integrated one. -/
def listDiscretes (cards : List GpuCard) (primary : Nat) (keepIdle : Bool) :
    List Nat → Option (List Nat)
  | [] => some []
  | i :: rest => do
    let listed ← listDiscretes cards primary keepIdle rest
    if i = primary then some listed
    else
      let card ← cards[i]?
      some (if keepIdle || card.displays then i :: listed else listed)

/-- `gpu_desired` on indices; `none` where it panics. -/
def gpuDesiredAt (snap : GpuSnapshot) (mode : GpuMode) (source : GpuModeSource) :
    Option (Option (List Nat) × String) :=
  if mode = .off then some (none, "override-off")
  else if snap.cards.length < 2 then some (none, "no-multi-gpu")
  else if snap.nonPciDisplay then some (none, "non-pci-display-present")
  else
    match integratedCard snap.cards with
    | none => some (none, "ambiguous-integrated")
    | some integrated =>
      if snap.lidClosed && !snap.cards.any (fun c => decide (c.external > 0)) then
        some (none, "bailed-transient")
      else do
        let discretes ← sortDiscretes snap.cards
          ((List.range snap.cards.length).filter (· != integrated))
        let best ← discretes[0]?
        let (primary, reason) ← choosePrimary snap.cards mode source integrated best
        let listed ← listDiscretes snap.cards primary (decide (mode = .auto)) discretes
        let devices := primary :: ((if integrated ≠ primary then [integrated] else []) ++ listed)
        let cards ← devices.mapM fun i => snap.cards[i]?
        let usable := cards.any (fun c => decide (c.external > 0)) ||
          (!snap.lidClosed && cards.any fun c => decide (c.edp > 0))
        some (if usable then (some devices, reason) else (none, "bailed-transient"))

/-- The device nodes of the cards at these indices. -/
def devnodesAt (cards : List GpuCard) (indices : List Nat) : List String :=
  indices.filterMap fun i => (cards[i]?).map devnode

/-! ## What a safe list is -/

/-- The primary each mode chooses. -/
def ChosenPrimary (cards : List GpuCard) : GpuMode → Nat → Prop
  | .auto, i =>
    (BestDiscrete cards i ∧ ∃ c, cards[i]? = some c ∧ c.displays) ∨
      (integratedCard cards = some i ∧
        ∃ best c, BestDiscrete cards best ∧ cards[best]? = some c ∧ c.displays = false)
  | .igpu, i => integratedCard cards = some i
  | .dgpu, i => BestDiscrete cards i
  | .off, _ => False

/-- What the session relies on in a list of cards. -/
structure SafeList (snap : GpuSnapshot) (mode : GpuMode) (devices : List Nat) : Prop where
  inRange : ∀ i ∈ devices, i < snap.cards.length
  nodup : devices.Nodup
  names : (snap.cards.map GpuCard.card).Nodup → (devnodesAt snap.cards devices).Nodup
  primary : ∃ i, devices.head? = some i ∧ ChosenPrimary snap.cards mode i
  integrated : ∃ i, integratedCard snap.cards = some i ∧ i ∈ devices
  displays : ∀ i c, snap.cards[i]? = some c → 0 < c.external ∨ 0 < c.edp → i ∈ devices
  auto : mode = .auto → ∀ i < snap.cards.length, i ∈ devices
  usable : ∃ i ∈ devices, ∃ c, snap.cards[i]? = some c ∧
    (0 < c.external ∨ snap.lidClosed = false ∧ 0 < c.edp)

/-! ## Both readings of the selection -/

/-- The primary of a mode and the reason for it. -/
def primaryOf (mode : GpuMode) (source : GpuModeSource) (integrated best : GpuCard × Nat) :
    (GpuCard × Nat) × String :=
  match mode with
  | .auto =>
    if best.1.displays then (best, "dgpu-has-display") else (integrated, "dgpu-idle-listed")
  | .igpu => (integrated, source.asStr ++ "-igpu")
  | _ => (best, source.asStr ++ "-dgpu")

/-- The devices listed with a primary. -/
def devicesOf (keepIdle : Bool) (integrated primary : GpuCard × Nat)
    (discretes : List (GpuCard × Nat)) : List (GpuCard × Nat) :=
  primary :: ((if integrated.2 = primary.2 then [] else [integrated]) ++
    discretes.filter fun c => c.2 != primary.2 && (keepIdle || c.1.displays))

/-- A connected external, or an eDP with the lid open. -/
def usableOutput (lidClosed : Bool) (devices : List (GpuCard × Nat)) : Bool :=
  devices.any (fun c => decide (c.1.external > 0)) ||
    (!lidClosed && devices.any fun c => decide (c.1.edp > 0))

/-- The code's sort of indices is the sort of the cards. -/
theorem sortDiscretes_eq (cards : List GpuCard) (integrated : Nat) :
    sortDiscretes cards ((List.range cards.length).filter (· != integrated)) =
      some ((discretesOf cards integrated).map Prod.snd) := by
  have henum : Enumerated cards (cards.zipIdx.filter fun c => c.2 != integrated) :=
    fun c hc => enumerated_zipIdx cards c (List.mem_filter.mp hc).1
  unfold sortDiscretes
  rw [filter_range, henum.keyed]
  rfl

/-- The code's filter of indices is the filter of the cards. -/
theorem listDiscretes_eq {cards : List GpuCard} (primary : Nat) (keepIdle : Bool)
    {l : List (GpuCard × Nat)} (h : Enumerated cards l) :
    listDiscretes cards primary keepIdle (l.map Prod.snd) =
      some ((l.filter fun c => c.2 != primary && (keepIdle || c.1.displays)).map Prod.snd) := by
  induction l with
  | nil => rfl
  | cons c rest ih =>
    have hc : cards[c.2]? = some c.1 := h c (by simp)
    have hrest := ih fun d hd => h d (by simp [hd])
    simp only [List.map_cons, listDiscretes, hrest, Option.bind_eq_bind, Option.bind_some]
    by_cases hprimary : c.2 = primary
    · simp [hprimary]
    · cases keepIdle <;> cases hdisplays : c.1.displays <;> simp [hprimary, hc, hdisplays]

/-- The outcome once the cards are ranked. -/
def ranked (snap : GpuSnapshot) (mode : GpuMode) (source : GpuModeSource)
    (integrated best : GpuCard × Nat) (rest : List (GpuCard × Nat)) :
    Option (List (GpuCard × Nat)) × String :=
  let primary := primaryOf mode source integrated best
  let devices := devicesOf (decide (mode = .auto)) integrated primary.1 (best :: rest)
  if usableOutput snap.lidClosed devices then (some devices, primary.2)
  else (none, "bailed-transient")

/-- `gpu_desired` with each listed card beside its index. -/
def gpuSelected (snap : GpuSnapshot) (mode : GpuMode) (source : GpuModeSource) :
    Option (List (GpuCard × Nat)) × String :=
  if mode = .off then (none, "override-off")
  else if snap.cards.length < 2 then (none, "no-multi-gpu")
  else if snap.nonPciDisplay then (none, "non-pci-display-present")
  else
    match integratedCard snap.cards with
    | none => (none, "ambiguous-integrated")
    | some integrated =>
      if snap.lidClosed && !snap.cards.any (fun c => decide (c.external > 0)) then
        (none, "bailed-transient")
      else
        match snap.cards[integrated]?, discretesOf snap.cards integrated with
        | some card, best :: rest => ranked snap mode source (card, integrated) best rest
        | _, _ => (none, "ambiguous-integrated")

/-- The selection by indices is the selection by cards. -/
theorem gpuDesired_eq (snap : GpuSnapshot) (mode : GpuMode) (source : GpuModeSource) :
    gpuDesired snap mode source =
      ((gpuSelected snap mode source).1.map (List.map fun c => devnode c.1),
        (gpuSelected snap mode source).2) := by
  unfold gpuDesired gpuSelected
  -- Guard by guard, as the source returns.
  by_cases hoff : mode = .off
  · rw [if_pos hoff, if_pos hoff]
    rfl
  rw [if_neg hoff, if_neg hoff]
  by_cases hfew : snap.cards.length < 2
  · rw [if_pos hfew, if_pos hfew]
    rfl
  rw [if_neg hfew, if_neg hfew]
  by_cases hnonPci : snap.nonPciDisplay = true
  · rw [if_pos hnonPci, if_pos hnonPci]
    rfl
  rw [if_neg hnonPci, if_neg hnonPci]
  cases integratedCard snap.cards with
  | none => rfl
  | some integrated =>
    dsimp only
    by_cases hshut : (snap.lidClosed && !snap.cards.any fun c => decide (c.external > 0)) = true
    · rw [if_pos hshut, if_pos hshut]
      rfl
    rw [if_neg hshut, if_neg hshut]
    have hsorted : ((snap.cards.zipIdx.filter fun c => c.2 != integrated).mergeSort
        fun a b => discreteLe a.1 b.1) = discretesOf snap.cards integrated := rfl
    rw [hsorted]
    cases snap.cards[integrated]? with
    | none => rfl
    | some card =>
      cases discretesOf snap.cards integrated with
      | nil => rfl
      | cons best rest =>
        -- The three modes differ in the primary card only.
        have hend (primary : (GpuCard × Nat) × String) :
            let devices := devicesOf (decide (mode = .auto)) (card, integrated) primary.1
              (best :: rest)
            (if usableOutput snap.lidClosed devices then
              (some (devices.map fun c => devnode c.1), primary.2)
            else (none, "bailed-transient")) =
              let selected := if usableOutput snap.lidClosed devices then
                (some devices, primary.2) else (none, "bailed-transient")
              (selected.1.map (List.map fun c => devnode c.1), selected.2) := by
          dsimp only
          split <;> rfl
        cases mode with
        | auto => exact hend (primaryOf .auto source (card, integrated) best)
        | igpu => exact hend (primaryOf .igpu source (card, integrated) best)
        | dgpu => exact hend (primaryOf .dgpu source (card, integrated) best)
        | off => exact absurd rfl hoff

/-- The devices listed stand at their indices when the integrated card and the primary do. -/
theorem enumerated_devicesOf {cards : List GpuCard} {keepIdle : Bool}
    {integrated primary : GpuCard × Nat} {discretes : List (GpuCard × Nat)}
    (hintegrated : cards[integrated.2]? = some integrated.1)
    (hprimary : cards[primary.2]? = some primary.1) (hdiscretes : Enumerated cards discretes) :
    Enumerated cards (devicesOf keepIdle integrated primary discretes) := by
  intro c hc
  unfold devicesOf at hc
  rcases List.mem_cons.mp hc with rfl | hc
  · exact hprimary
  rcases List.mem_append.mp hc with hc | hc
  · split at hc
    · cases hc
    · rw [List.mem_singleton.mp hc]
      exact hintegrated
  · exact hdiscretes c (List.mem_filter.mp hc).1

/-- The indices of the list of devices. -/
theorem indices_devicesOf (keepIdle : Bool) (integrated primary : GpuCard × Nat)
    (discretes : List (GpuCard × Nat)) :
    (devicesOf keepIdle integrated primary discretes).map Prod.snd =
      primary.2 :: ((if integrated.2 ≠ primary.2 then [integrated.2] else []) ++
        (discretes.filter fun c => c.2 != primary.2 && (keepIdle || c.1.displays)).map
          Prod.snd) := by
  unfold devicesOf
  by_cases hsame : integrated.2 = primary.2
  · simp [hsame]
  · simp [hsame]

/-- The primary card is the integrated one or the best discrete one. -/
theorem primaryOf_eq (mode : GpuMode) (source : GpuModeSource) (integrated best : GpuCard × Nat) :
    (primaryOf mode source integrated best).1 = integrated ∨
      (primaryOf mode source integrated best).1 = best := by
  cases mode with
  | auto =>
    by_cases hdisplays : best.1.displays
    · exact .inr (by simp [primaryOf, hdisplays])
    · exact .inl (by simp [primaryOf, hdisplays])
  | igpu => exact .inl rfl
  | dgpu => exact .inr rfl
  | off => exact .inr rfl

/-- The code's choice by indices is the choice by cards. -/
theorem choosePrimary_eq {cards : List GpuCard} {mode : GpuMode} (source : GpuModeSource)
    (integrated : GpuCard × Nat) {best : GpuCard × Nat} (hoff : mode ≠ .off)
    (hbest : cards[best.2]? = some best.1) :
    choosePrimary cards mode source integrated.2 best.2 =
      some ((primaryOf mode source integrated best).1.2,
        (primaryOf mode source integrated best).2) := by
  cases mode with
  | auto =>
    by_cases hdisplays : best.1.displays
    · simp [choosePrimary, hbest, primaryOf, hdisplays]
    · simp [choosePrimary, hbest, primaryOf, hdisplays]
  | igpu => rfl
  | dgpu => rfl
  | off => exact absurd rfl hoff

/-- The indices that the code selects are those of the cards selected. -/
theorem gpuDesiredAt_eq (snap : GpuSnapshot) (mode : GpuMode) (source : GpuModeSource) :
    gpuDesiredAt snap mode source =
      some ((gpuSelected snap mode source).1.map (List.map Prod.snd),
        (gpuSelected snap mode source).2) := by
  unfold gpuDesiredAt gpuSelected
  -- The two agree guard by guard, in the order of the source.
  by_cases hoff : mode = .off
  · rw [if_pos hoff, if_pos hoff]
    rfl
  rw [if_neg hoff, if_neg hoff]
  by_cases hfew : snap.cards.length < 2
  · rw [if_pos hfew, if_pos hfew]
    rfl
  rw [if_neg hfew, if_neg hfew]
  by_cases hnonPci : snap.nonPciDisplay = true
  · rw [if_pos hnonPci, if_pos hnonPci]
    rfl
  rw [if_neg hnonPci, if_neg hnonPci]
  cases hintegrated : integratedCard snap.cards with
  | none => rfl
  | some integrated =>
    dsimp only
    by_cases hshut : (snap.lidClosed && !snap.cards.any fun c => decide (c.external > 0)) = true
    · rw [if_pos hshut, if_pos hshut]
      rfl
    rw [if_neg hshut, if_neg hshut, sortDiscretes_eq]
    obtain ⟨card, hcard, -⟩ := integratedCard_some hintegrated
    rw [hcard]
    -- Past the guards the indices are those of cards that exist, so no look-up fails.
    have henum : Enumerated snap.cards (discretesOf snap.cards integrated) :=
      fun c hc => (mem_discretesOf.mp hc).1
    cases hdiscretes : discretesOf snap.cards integrated with
    | nil => exact absurd hdiscretes (discretesOf_ne_nil hfew integrated)
    | cons best rest =>
      rw [hdiscretes] at henum
      have hbest : snap.cards[best.2]? = some best.1 := henum best (by simp)
      have hchosen := choosePrimary_eq source (card, integrated) hoff hbest
      simp only [Option.bind_eq_bind, Option.bind_some, List.map_cons, List.getElem?_cons_zero,
        hchosen]
      rw [← List.map_cons, listDiscretes_eq _ _ henum]
      have hprimary : snap.cards[(primaryOf mode source (card, integrated) best).1.2]? =
          some (primaryOf mode source (card, integrated) best).1.1 := by
        rcases primaryOf_eq mode source (card, integrated) best with h | h
        · rw [h]
          exact hcard
        · rw [h]
          exact hbest
      unfold ranked usableOutput
      generalize primaryOf mode source (card, integrated) best = primary at *
      have hdevices : Enumerated snap.cards
          (devicesOf (decide (mode = .auto)) (card, integrated) primary.1 (best :: rest)) :=
        enumerated_devicesOf hcard hprimary henum
      have hindices := indices_devicesOf (decide (mode = .auto)) (card, integrated) primary.1
        (best :: rest)
      rw [Option.bind_some, ← hindices, hdevices.mapM, Option.bind_some]
      simp only [List.any_map]
      congr 1
      split
      · rename_i husable
        rw [if_pos (by exact husable)]
        rfl
      · rename_i husable
        rw [if_neg (by exact husable)]
        rfl

/-! ## The listed devices -/

/-- Either a guard stops the selection, for whatever source, or every source's is the ranking of
one integrated card and the same discrete ones. -/
theorem gpuSelected_cases (snap : GpuSnapshot) (mode : GpuMode) :
    (∃ reason, ∀ source, gpuSelected snap mode source = (none, reason)) ∨
    ∃ integrated best rest, mode ≠ .off ∧ integratedCard snap.cards = some integrated.2 ∧
      snap.cards[integrated.2]? = some integrated.1 ∧
      discretesOf snap.cards integrated.2 = best :: rest ∧
      ∀ source, gpuSelected snap mode source = ranked snap mode source integrated best rest := by
  unfold gpuSelected
  -- No guard looks at the source.
  by_cases hoff : mode = .off
  · exact Or.inl ⟨_, fun _ => if_pos hoff⟩
  simp only [if_neg hoff]
  by_cases hfew : snap.cards.length < 2
  · exact Or.inl ⟨_, fun _ => if_pos hfew⟩
  simp only [if_neg hfew]
  by_cases hnonPci : snap.nonPciDisplay = true
  · exact Or.inl ⟨_, fun _ => if_pos hnonPci⟩
  simp only [if_neg hnonPci]
  cases hintegrated : integratedCard snap.cards with
  | none => exact Or.inl ⟨_, fun _ => rfl⟩
  | some i =>
    dsimp only
    by_cases hshut : (snap.lidClosed &&
        !snap.cards.any fun c => decide (c.external > 0)) = true
    · exact Or.inl ⟨_, fun _ => if_pos hshut⟩
    simp only [if_neg hshut]
    cases hcard : snap.cards[i]? with
    | none => exact Or.inl ⟨_, fun _ => rfl⟩
    | some card =>
      cases hdiscretes : discretesOf snap.cards i with
      | nil => exact Or.inl ⟨_, fun _ => rfl⟩
      | cons best rest =>
        exact Or.inr ⟨(card, i), best, rest, hoff, rfl, hcard, hdiscretes, fun _ => rfl⟩

/-- What a selected list was put together from. -/
theorem gpuSelected_some {snap : GpuSnapshot} {mode : GpuMode} {source : GpuModeSource}
    {devices : List (GpuCard × Nat)} (h : (gpuSelected snap mode source).1 = some devices) :
    ∃ integrated best rest, mode ≠ .off ∧ integratedCard snap.cards = some integrated.2 ∧
      snap.cards[integrated.2]? = some integrated.1 ∧
      discretesOf snap.cards integrated.2 = best :: rest ∧
      devices = devicesOf (decide (mode = .auto)) integrated
        (primaryOf mode source integrated best).1 (best :: rest) ∧
      usableOutput snap.lidClosed devices = true := by
  obtain ⟨reason, hguard⟩ | ⟨integrated, best, rest, hoff, hintegrated, hcard, hdiscretes, heq⟩ :=
    gpuSelected_cases snap mode
  · rw [hguard] at h
    cases h
  · rw [heq] at h
    unfold ranked at h
    dsimp only at h
    split at h
    · rename_i husable
      cases h
      exact ⟨integrated, best, rest, hoff, hintegrated, hcard, hdiscretes, rfl, husable⟩
    · cases h

/-- No card is in the list twice. -/
theorem nodup_devicesOf {cards : List GpuCard} {keepIdle : Bool}
    {integrated primary : GpuCard × Nat} :
    ((devicesOf keepIdle integrated primary (discretesOf cards integrated.2)).map
      Prod.snd).Nodup := by
  have hdiscretes := (nodup_discretesOf cards integrated.2).sublist
    ((List.filter_sublist (p := fun c => c.2 != primary.2 && (keepIdle || c.1.displays))).map
      Prod.snd)
  have hfiltered : ∀ i ∈ ((discretesOf cards integrated.2).filter fun c =>
      c.2 != primary.2 && (keepIdle || c.1.displays)).map Prod.snd,
      i ≠ primary.2 ∧ i ≠ integrated.2 := by
    intro i hi
    obtain ⟨c, hc, rfl⟩ := List.mem_map.mp hi
    obtain ⟨hmem, hkeep⟩ := List.mem_filter.mp hc
    have hprimary : c.2 ≠ primary.2 := by
      simp only [Bool.and_eq_true, bne_iff_ne] at hkeep
      exact hkeep.1
    exact ⟨hprimary, (mem_discretesOf.mp hmem).2⟩
  rw [indices_devicesOf]
  by_cases hsame : integrated.2 = primary.2
  · rw [if_neg (by simpa using hsame), List.nil_append, List.nodup_cons]
    exact ⟨fun hmem => (hfiltered _ hmem).1 rfl, hdiscretes⟩
  · rw [if_pos hsame, List.singleton_append, List.nodup_cons, List.nodup_cons]
    refine ⟨?_, fun hmem => (hfiltered _ hmem).2 rfl, hdiscretes⟩
    intro hmem
    rcases List.mem_cons.mp hmem with h | h
    · exact hsame h.symm
    · exact (hfiltered _ h).1 rfl

/-- Every card that is kept or shows something is listed. -/
theorem mem_indices_devicesOf {cards : List GpuCard} {keepIdle : Bool}
    {integrated primary : GpuCard × Nat} {i : Nat} {c : GpuCard} (hget : cards[i]? = some c)
    (hkeep : i = integrated.2 ∨ keepIdle = true ∨ c.displays = true) :
    i ∈ (devicesOf keepIdle integrated primary (discretesOf cards integrated.2)).map
      Prod.snd := by
  rw [indices_devicesOf, List.mem_cons, List.mem_append]
  by_cases hprimary : i = primary.2
  · exact .inl hprimary
  by_cases hintegrated : i = integrated.2
  · right
    left
    rw [if_pos (by rw [← hintegrated]; exact hprimary), hintegrated]
    exact List.mem_singleton_self _
  · right
    right
    have hmem : (c, i) ∈ discretesOf cards integrated.2 := mem_discretesOf.mpr ⟨hget, hintegrated⟩
    refine List.mem_map.mpr ⟨(c, i), List.mem_filter.mpr ⟨hmem, ?_⟩, rfl⟩
    have hshown : keepIdle = true ∨ c.displays = true := hkeep.resolve_left hintegrated
    simpa [hprimary] using hshown

/-- The primary card is chosen as the mode says. -/
theorem chosenPrimary_primaryOf {cards : List GpuCard} {mode : GpuMode} (source : GpuModeSource)
    {integrated best : GpuCard × Nat} {rest : List (GpuCard × Nat)} (hoff : mode ≠ .off)
    (hintegrated : integratedCard cards = some integrated.2)
    (hdiscretes : discretesOf cards integrated.2 = best :: rest) :
    ChosenPrimary cards mode (primaryOf mode source integrated best).1.2 := by
  have hbest := bestDiscrete_head hintegrated hdiscretes
  have hget : cards[best.2]? = some best.1 :=
    (mem_discretesOf.mp (hdiscretes ▸ List.mem_cons_self)).1
  cases mode with
  | auto =>
    cases hdisplays : best.1.displays with
    | true =>
      left
      simp only [primaryOf, hdisplays, if_true]
      exact ⟨hbest, best.1, hget, hdisplays⟩
    | false =>
      right
      simp only [primaryOf, hdisplays, Bool.false_eq_true, if_false]
      exact ⟨hintegrated, best.2, best.1, hbest, hget, hdisplays⟩
  | igpu => exact hintegrated
  | dgpu => exact hbest
  | off => exact absurd rfl hoff

/-- The nodes at enumerated indices are those of the cards. -/
theorem devnodesAt_eq {cards : List GpuCard} {l : List (GpuCard × Nat)} (h : Enumerated cards l) :
    devnodesAt cards (l.map Prod.snd) = l.map fun c => devnode c.1 := by
  unfold devnodesAt
  rw [List.filterMap_map]
  induction l with
  | nil => rfl
  | cons c rest ih =>
    have hc : cards[c.2]? = some c.1 := h c (by simp)
    have hrest := ih fun d hd => h d (by simp [hd])
    rw [List.filterMap_cons_some (b := devnode c.1) (by simp [hc]), hrest]
    rfl

/-- Cards of distinct names have distinct device nodes. -/
theorem Enumerated.nodup_devnodesAt {cards : List GpuCard} {l : List (GpuCard × Nat)}
    (h : Enumerated cards l) (hindices : (l.map Prod.snd).Nodup)
    (hnames : (cards.map GpuCard.card).Nodup) : (devnodesAt cards (l.map Prod.snd)).Nodup := by
  rw [devnodesAt_eq h]
  refine List.Nodup.map_on ?_ (List.Nodup.of_map Prod.snd hindices)
  intro a ha b hb hnode
  have hcard : a.1.card = b.1.card := by simpa [devnode] using hnode
  have ha' := h a ha
  have hb' := h b hb
  have hlt : a.2 < (cards.map GpuCard.card).length := by
    simpa using (List.getElem?_eq_some_iff.mp ha').1
  have hindex : a.2 = b.2 := (List.getElem?_inj hlt hnames).mp (by simp [ha', hb', hcard])
  rw [hindex, hb', Option.some_inj] at ha'
  exact Prod.ext ha'.symm hindex

/-- A selected list is safe. -/
theorem safeList_selected {snap : GpuSnapshot} {mode : GpuMode} {source : GpuModeSource}
    {devices : List (GpuCard × Nat)} (h : (gpuSelected snap mode source).1 = some devices) :
    Enumerated snap.cards devices ∧ SafeList snap mode (devices.map Prod.snd) := by
  obtain ⟨integrated, best, rest, hoff, hintegrated, hcard, hdiscretes, rfl, husable⟩ :=
    gpuSelected_some h
  -- Every card of the list is one of the snapshot's, at its own index.
  have henum : Enumerated snap.cards (devicesOf (decide (mode = .auto)) integrated
      (primaryOf mode source integrated best).1 (best :: rest)) := by
    have hranked : Enumerated snap.cards (best :: rest) :=
      fun c hc => (mem_discretesOf.mp (hdiscretes ▸ hc)).1
    refine enumerated_devicesOf hcard ?_ hranked
    rcases primaryOf_eq mode source integrated best with heq | heq
    · rw [heq]
      exact hcard
    · rw [heq]
      exact hranked best List.mem_cons_self
  -- The first entry is the primary, which the mode allows.
  have hprimary := chosenPrimary_primaryOf source hoff hintegrated hdiscretes
  rw [← hdiscretes] at henum husable ⊢
  refine ⟨henum, ?_, nodup_devicesOf, henum.nodup_devnodesAt nodup_devicesOf, ?_, ?_, ?_, ?_, ?_⟩
  · intro i hi
    obtain ⟨c, hc, rfl⟩ := List.mem_map.mp hi
    exact (List.getElem?_eq_some_iff.mp (henum c hc)).1
  · exact ⟨_, rfl, hprimary⟩
  · exact ⟨_, hintegrated, mem_indices_devicesOf hcard (.inl rfl)⟩
  · intro i c hget hshown
    exact mem_indices_devicesOf hget (.inr (.inr (by simpa [GpuCard.displays] using hshown)))
  · intro hauto i hi
    exact mem_indices_devicesOf (List.getElem?_eq_getElem hi) (.inr (.inl (by simp [hauto])))
  -- A usable output: an external one lit, or the panel behind an open lid.
  · unfold usableOutput at husable
    rcases Bool.or_eq_true_iff.mp husable with hexternal | hedp
    · obtain ⟨c, hc, hshown⟩ := List.any_eq_true.mp hexternal
      exact ⟨c.2, List.mem_map_of_mem hc, c.1, henum c hc, .inl (by simpa using hshown)⟩
    · obtain ⟨hopen, hany⟩ := Bool.and_eq_true_iff.mp hedp
      obtain ⟨c, hc, hshown⟩ := List.any_eq_true.mp hany
      exact ⟨c.2, List.mem_map_of_mem hc, c.1, henum c hc,
        .inr ⟨by simpa using hopen, by simpa using hshown⟩⟩

/-- What the source returns on indices is what `gpuDesired` names, and it never panics: whatever the
snapshot, the mode and the source, a list is safe. -/
theorem gpuDesired_safe (snap : GpuSnapshot) (mode : GpuMode) (source : GpuModeSource) :
    ∃ result reason, gpuDesiredAt snap mode source = some (result, reason) ∧
      gpuDesired snap mode source = (result.map (devnodesAt snap.cards), reason) ∧
      ∀ devices, result = some devices → SafeList snap mode devices := by
  refine ⟨_, _, gpuDesiredAt_eq snap mode source, ?_, ?_⟩
  · rw [gpuDesired_eq]
    cases hselected : (gpuSelected snap mode source).1 with
    | none => rfl
    | some devices =>
      have henum := (safeList_selected hselected).1
      simp only [Option.map_some, devnodesAt_eq henum]
  · intro indices hindices
    obtain ⟨devices, hselected, rfl⟩ := Option.map_eq_some_iff.mp hindices
    exact (safeList_selected hselected).2

end Hyprstate
