import Hyprstate.Powerd.Reapply

/-!
# The level of a discrete card

`ApplyProfile` puts the level of the discrete cards, and skips a card that is runtime-suspended:
opening its file would wake it. A card keeps its level over a suspend, so that an awake card has the
level of the last apply that found it awake (`dpmLevel_run`), and that of an earlier profile where a
later apply was skipped.
-/

namespace Hyprstate.Knobs

/-- The files, and the profile that was applied last. -/
structure Power1 where
  sysfs : Sysfs
  active : PowerProfile

/-- What happens to the cards between two reads. -/
inductive CardEvent
  | applyProfile (profile : PowerProfile)
  | suspended (card : String)
  | woken (card : String)

/-- `apply_profile` as far as the knobs go, and the runtime power management of the kernel. -/
def Power1.step (hw : Hardware) (writable : Bool) (s : Power1) : CardEvent → Power1
  | .applyProfile profile =>
    { sysfs := (powerdApply hw profile writable s.sysfs).sysfs
      active := profile }
  | .suspended card =>
    { s with sysfs := Function.update s.sysfs (.runtimeStatus card) (.text "suspended") }
  | .woken card =>
    { s with sysfs := Function.update s.sysfs (.runtimeStatus card) (.text "active") }

/-- A run of suspends, wakes and applies. -/
def Power1.run (hw : Hardware) (writable : Bool) (s : Power1) (events : List CardEvent) : Power1 :=
  events.foldl (Power1.step hw writable) s

/-- The card can be read, and is not suspended. -/
def Power1.awake (s : Power1) (card : String) : Bool :=
  match s.sysfs (.runtimeStatus card) with
  | .text status => status != "suspended"
  | _ => false

/-- The profile of the last apply that found the card awake. -/
def lastAwakeApply (hw : Hardware) (writable : Bool) (card : String) :
    Power1 → List CardEvent → Option PowerProfile
  | _, [] => none
  | s, e :: rest =>
    (lastAwakeApply hw writable card (s.step hw writable e) rest).or
      (match e with
        | .applyProfile profile => if s.awake card then some profile else none
        | _ => none)

/-- A discrete card on hardware that accepts every write. -/
structure Discrete (hw : Hardware) (card : String) : Prop where
  accepted : ∀ f v, hw.respond f v = .ok
  discrete : ∃ integrated c, hw.integrated = some integrated ∧ c ∈ hw.cards.zipIdx ∧
    c.2 ≠ integrated ∧
    c.1.card = card

/-- The level of the card can be read. -/
def Power1.hasLevel (s : Power1) (card : String) : Prop :=
  ∃ level, s.sysfs (.dpmLevel card) = .text level

variable {hw : Hardware} {writable : Bool} {card : String}

/-- An apply puts the level of an awake card, and leaves that of any other. -/
theorem dpmLevel_applyProfile (hcard : Discrete hw card) {s : Power1} (hlevel : s.hasLevel card)
    (profile : PowerProfile) :
    (s.step hw writable (.applyProfile profile)).sysfs (.dpmLevel card) =
      if s.awake card then .text (dgpuDpm profile) else s.sysfs (.dpmLevel card) := by
  obtain ⟨integrated, c, hintegrated, hc, hdiscrete, rfl⟩ := hcard.discrete
  obtain ⟨level, hlevel⟩ := hlevel
  have hdem : demand hw profile s.sysfs (.dpmLevel c.1.card) = _ := dpmDemand_card hintegrated hc
  rw [if_neg hdiscrete] at hdem
  have hfile : (s.step hw writable (.applyProfile profile)).sysfs (.dpmLevel c.1.card) = _ :=
    powerdApply_file hw profile writable s.sysfs (by simp)
  rw [hfile, hdem, Power1.awake]
  cases hstatus : s.sysfs (.runtimeStatus c.1.card) with
  | missing => rfl
  | unreadable err => rfl
  | text status =>
    by_cases hsuspended : status = "suspended"
    · simp [hsuspended]
    · -- Every write is accepted, and the level it leaves is the one that is written.
      simp only [bne_iff_ne, ne_eq, hsuspended, not_false_eq_true, if_true, hlevel]
      unfold Hardware.knobWrite
      by_cases hcur : level = dgpuDpm profile
      · simp [hcur]
      · simp [hcur, hcard.accepted, readBack]

/-- What happens to the cards leaves the level. -/
theorem dpmLevel_event {s : Power1} {e : CardEvent} (he : ∀ profile, e ≠ .applyProfile profile) :
    (s.step hw writable e).sysfs (.dpmLevel card) = s.sysfs (.dpmLevel card) := by
  cases e with
  | applyProfile profile => exact absurd rfl (he profile)
  | suspended c =>
    show Function.update s.sysfs (.runtimeStatus c) (.text "suspended") (.dpmLevel card) = _
    rw [Function.update_of_ne (by simp)]
  | woken c =>
    show Function.update s.sysfs (.runtimeStatus c) (.text "active") (.dpmLevel card) = _
    rw [Function.update_of_ne (by simp)]

/-- A card that suspends is not awake. -/
theorem awake_suspended (s : Power1) (card : String) :
    (s.step hw writable (.suspended card)).awake card = false := by
  show (match Function.update s.sysfs (.runtimeStatus card) (.text "suspended")
      (.runtimeStatus card) with
    | .text status => status != "suspended"
    | _ => false) = false
  rw [Function.update_self]
  rfl

/-- A card that wakes is. -/
theorem awake_woken (s : Power1) (card : String) :
    (s.step hw writable (.woken card)).awake card = true := by
  show (match Function.update s.sysfs (.runtimeStatus card) (.text "active")
      (.runtimeStatus card) with
    | .text status => status != "suspended"
    | _ => false) = true
  rw [Function.update_self]
  rfl

/-- The level can be read after each step. -/
theorem hasLevel_step (hcard : Discrete hw card) {s : Power1} (hlevel : s.hasLevel card)
    (e : CardEvent) : (s.step hw writable e).hasLevel card := by
  unfold Power1.hasLevel
  cases e with
  | applyProfile profile =>
    rw [dpmLevel_applyProfile hcard hlevel]
    split
    · exact ⟨_, rfl⟩
    · exact hlevel
  | suspended c => rwa [dpmLevel_event (by simp)]
  | woken c => rwa [dpmLevel_event (by simp)]

/-- The level is that of the last apply that found the card awake. -/
theorem dpmLevel_of_lastAwakeApply (hcard : Discrete hw card) {s : Power1}
    (hlevel : s.hasLevel card) (events : List CardEvent) :
    (s.run hw writable events).sysfs (.dpmLevel card) =
      match lastAwakeApply hw writable card s events with
      | some profile => .text (dgpuDpm profile)
      | none => s.sysfs (.dpmLevel card) := by
  induction events generalizing s with
  | nil => rfl
  | cons e rest ih =>
    rw [Power1.run, List.foldl_cons]
    refine (ih (hasLevel_step hcard hlevel e)).trans ?_
    cases e with
    | applyProfile profile =>
      rw [lastAwakeApply]
      cases lastAwakeApply hw writable card (s.step hw writable (.applyProfile profile)) rest with
      | some later => rfl
      | none =>
        -- No later apply found it awake: this one did, or left the level.
        rw [Option.none_or]
        dsimp only
        rw [dpmLevel_applyProfile hcard hlevel]
        by_cases hawake : s.awake card = true
        · rw [if_pos hawake, if_pos hawake]
        · rw [if_neg hawake, if_neg hawake]
    | suspended c =>
      rw [lastAwakeApply, Option.or_none, dpmLevel_event (by simp)]
      simp
    | woken c =>
      rw [lastAwakeApply, Option.or_none, dpmLevel_event (by simp)]
      simp

/-- A run of two parts is the one after the other. -/
theorem run_append (s : Power1) (pre post : List CardEvent) :
    s.run hw writable (pre ++ post) = (s.run hw writable pre).run hw writable post :=
  List.foldl_append

/-- Without an apply the active profile stays, and no apply finds the card awake. -/
theorem run_of_no_apply (s : Power1) {events : List CardEvent}
    (hevents : ∀ e ∈ events, ∀ profile, e ≠ .applyProfile profile) :
    (s.run hw writable events).active = s.active ∧
      (s.run hw writable events).sysfs (.dpmLevel card) = s.sysfs (.dpmLevel card) := by
  induction events generalizing s with
  | nil => exact ⟨rfl, rfl⟩
  | cons e rest ih =>
    obtain ⟨hactive, hlevel⟩ := ih (s.step hw writable e) fun e he =>
      hevents e (List.mem_cons_of_mem _ he)
    have he := hevents e List.mem_cons_self
    refine ⟨hactive.trans ?_, hlevel.trans (dpmLevel_event he)⟩
    cases e with
    | applyProfile profile => exact absurd rfl (he profile)
    | _ => rfl

/-- An awake discrete card has the level that the matrix gives for the profile of the last apply
that found it awake, or the level it started with where none did. Where the last apply found it
awake, that is the level for the active profile.
-/
theorem dpmLevel_run (hcard : Discrete hw card) {s : Power1} (hlevel : s.hasLevel card)
    (events : List CardEvent) :
    ((s.run hw writable events).awake card = true →
        (s.run hw writable events).sysfs (.dpmLevel card) =
          match lastAwakeApply hw writable card s events with
          | some profile => .text (dgpuDpm profile)
          | none => s.sysfs (.dpmLevel card)) ∧
      ∀ pre profile post, events = pre ++ .applyProfile profile :: post →
        (∀ e ∈ post, ∀ p, e ≠ .applyProfile p) → (s.run hw writable pre).awake card = true →
        (s.run hw writable events).sysfs (.dpmLevel card) =
          .text (dgpuDpm (s.run hw writable events).active) := by
  refine ⟨fun _ => dpmLevel_of_lastAwakeApply hcard hlevel events, ?_⟩
  rintro pre profile post rfl hpost hawake
  have hpre : (s.run hw writable pre).hasLevel card := by
    clear hawake
    induction pre generalizing s with
    | nil => exact hlevel
    | cons e rest ih => exact ih (hasLevel_step hcard hlevel e)
  -- After that apply the level and the active profile stay.
  have hlater : Power1.active (Power1.run hw writable _ post) = _ ∧
      Power1.sysfs (Power1.run hw writable _ post) (.dpmLevel card) = _ :=
    run_of_no_apply ((s.run hw writable pre).step hw writable (.applyProfile profile)) hpost
  have hrun : s.run hw writable (pre ++ .applyProfile profile :: post) =
      ((s.run hw writable pre).step hw writable (.applyProfile profile)).run hw writable post :=
    run_append s pre _
  rw [hrun, hlater.2, hlater.1, dpmLevel_applyProfile hcard hpre, if_pos hawake]
  rfl

/-- A discrete card before an integrated one, and every write accepted. -/
def twoCards : Hardware where
  cpufreq := []
  links :=
    [{ path := "/dev/dri/by-path/pci-0000:03:00.0-card", card := "card0",
       pciClass := "0x030000", bootVga := 0, vram := 8192, external := 0, edp := 0 },
      { path := "/dev/dri/by-path/pci-0000:c1:00.0-card", card := "card1",
        pciClass := "0x030000", bootVga := 1, vram := 512, external := 0, edp := 1 }]
  respond _ _ := .ok

/-- Both cards are awake, with the level of the balanced profile. -/
def bothAwake : Power1 where
  sysfs
    | .runtimeStatus _ => .text "active"
    | .dpmLevel _ => .text "auto"
    | _ => .missing
  active := .balanced

/-- The second of two cards is a discrete one that takes its writes. -/
theorem twoCards_discrete : Discrete twoCards "card0" where
  accepted _ _ := rfl
  discrete := by
    have hintegrated : twoCards.integrated = some 1 := by decide +kernel
    have hany : twoCards.cards.zipIdx.any (fun c => c.2 != 1 && c.1.card == "card0") = true := by
      decide +kernel
    obtain ⟨c, hmem, hc⟩ := List.any_eq_true.mp hany
    simp only [Bool.and_eq_true, bne_iff_ne, beq_iff_eq] at hc
    exact ⟨1, c, hintegrated, hmem, hc.1, hc.2⟩

/-- The card sleeps through the second of two applies. -/
def sleptThrough : List CardEvent :=
  [.applyProfile .powerSaver, .suspended "card0", .applyProfile .balanced, .woken "card0"]

/-- The card wakes with the level of the apply that found it awake, until the next one does. -/
theorem dpmLevel_run_powerSaver :
    (bothAwake.run twoCards true sleptThrough).sysfs (.dpmLevel "card0") = .text "low" ∧
      (bothAwake.run twoCards true (sleptThrough ++ [.applyProfile .performance])).sysfs
        (.dpmLevel "card0") = .text "auto" := by
  have hlevel : bothAwake.hasLevel "card0" := ⟨"auto", rfl⟩
  have hawake : (bothAwake.run twoCards true sleptThrough).awake "card0" = true :=
    @awake_woken twoCards true _ "card0"
  have hlast : lastAwakeApply twoCards true "card0" bothAwake sleptThrough = some .powerSaver := by
    simp only [sleptThrough, lastAwakeApply, awake_suspended, Option.or_none, Option.none_or,
      Bool.false_eq_true, if_false]
    rfl
  constructor
  · rw [(dpmLevel_run twoCards_discrete hlevel sleptThrough).1 hawake, hlast]
    rfl
  · exact (dpmLevel_run twoCards_discrete hlevel _).2 sleptThrough .performance [] rfl
      (fun _ he => absurd he List.not_mem_nil) hawake

/-- The clamp of a profile outlives it on a card that slept through the next apply. -/
theorem dpmLevel_outlives_profile :
    ¬ ∀ (hw : Hardware) (writable : Bool) (card : String) (s : Power1) (events : List CardEvent),
        Discrete hw card → s.hasLevel card → (s.run hw writable events).awake card = true →
        (s.run hw writable events).sysfs (.dpmLevel card) =
          .text (dgpuDpm (s.run hw writable events).active) := by
  intro h
  have hlevel : bothAwake.hasLevel "card0" := ⟨"auto", rfl⟩
  -- power-saver finds the card awake; balanced finds it suspended.
  let lowered := bothAwake.step twoCards true (.applyProfile .powerSaver)
  let asleep := lowered.step twoCards true (.suspended "card0")
  let skipped := asleep.step twoCards true (.applyProfile .balanced)
  have hrun : bothAwake.run twoCards true [.applyProfile .powerSaver, .suspended "card0",
      .applyProfile .balanced, .woken "card0"] = skipped.step twoCards true (.woken "card0") := rfl
  have hasLevel : asleep.hasLevel "card0" :=
    hasLevel_step twoCards_discrete (hasLevel_step twoCards_discrete hlevel _) _
  have hlow : lowered.sysfs (.dpmLevel "card0") = .text "low" :=
    (dpmLevel_applyProfile twoCards_discrete hlevel .powerSaver).trans (if_pos rfl)
  have hslept : asleep.sysfs (.dpmLevel "card0") = .text "low" :=
    (dpmLevel_event (by simp)).trans hlow
  have hskipped : skipped.sysfs (.dpmLevel "card0") = .text "low" := by
    refine (dpmLevel_applyProfile twoCards_discrete hasLevel .balanced).trans ?_
    rw [awake_suspended, if_neg Bool.false_ne_true]
    exact hslept
  have hwoken := h twoCards true "card0" bothAwake _ twoCards_discrete hlevel
    (hrun ▸ awake_woken skipped "card0")
  rw [hrun, dpmLevel_event (by simp), hskipped] at hwoken
  have hauto : Attr.text "low" = .text "auto" := hwoken
  exact absurd hauto (by decide)

end Hyprstate.Knobs
