import Hyprstate.Daemon.Invariant
import Hyprstate.Gpu.Enumeration
import Mathlib.Data.List.Induction

/-!
# How often a relog is advised

`check_and_notify_drift` reads the clock before it advises, and says nothing within `GPU_NOTIFY_MIN`
of the last advice. The context keeps when that was, and an observer of the requests knows it too
(`Advised`), so in every run any two notifications are a minute apart by the clock
(`Run.advice_spaced`), also where the list that is advised changes from one to the next, and
whatever happens in between.
-/

namespace Hyprstate

open Reactive Process

/-- A notification that advises a relog. -/
def Eff.isAdvice : Eff → Bool
  | .trySend (.notify _ _ tag) => tag == "hyprstate-gpu"
  | _ => false

/-- What the clock answered. -/
def clockOf : DaemonObs → Option Nat
  | ⟨(_, .now), now⟩ => some now
  | _ => none

/-- What the clock said last. -/
def lastNow (seen : List DaemonObs) : Option Nat := (seen.filterMap clockOf).getLast?

/-- What an observer knows of the clock, and of the last advice. -/
structure Advised where
  clock : Option Nat := none
  said : Option Nat := none

namespace Advised

/-- An observer of the clock and of the notices. -/
def told (w : Advised) (o : DaemonObs) : Advised :=
  if o.1.2.isAdvice then { w with said := w.clock } else { w with clock := (clockOf o).or w.clock }

/-- Advice comes with a reading of the clock, a minute or more after the last advice. -/
def Due (w : Advised) (e : Eff) : Prop :=
  e.isAdvice = true → ∃ now, w.clock = some now ∧ ∀ t, w.said = some t → t + 60000 ≤ now

variable {w : Advised}

/-- A request that is no notice leaves the time of the last one. -/
theorem said_told {o : DaemonObs} (ho : o.1.2.isAdvice = false) : (w.told o).said = w.said := by
  rw [told, if_neg (by simp [ho])]

/-- And it may move the clock. -/
theorem clock_told (o : DaemonObs) : (w.told o).clock = (clockOf o).or w.clock := by
  obtain ⟨⟨c, e⟩, b⟩ := o
  rw [told]
  split
  case isFalse => rfl
  case isTrue h => cases e <;> first | rfl | cases h

/-- After a trace the clock is at its last reading. -/
theorem clock_foldl (seen : List DaemonObs) :
    (seen.foldl told w).clock = (lastNow seen).or w.clock := by
  induction seen using List.reverseRecOn with
  | nil => rfl
  | append_singleton seen o ih =>
    rw [List.foldl_append, List.foldl_cons, List.foldl_nil, clock_told, ih, lastNow, lastNow,
      List.filterMap_append]
    cases hclock : clockOf o <;> simp [hclock]

/-- Along a run whose advice is due, the last advice is later and later. -/
theorem said_mono {seen : List DaemonObs} (h : Along told (fun w o => w.Due o.1.2) w seen) {t : Nat}
    (ht : w.said = some t) : ∃ t', (seen.foldl told w).said = some t' ∧ t ≤ t' := by
  induction seen generalizing w t with
  | nil => exact ⟨t, ht, le_rfl⟩
  | cons o seen ih =>
    obtain ⟨hdue, hrest⟩ := h
    cases ho : o.1.2.isAdvice with
    | false => exact ih hrest ((said_told ho).trans ht)
    | true =>
      obtain ⟨now, hclock, hlate⟩ := hdue ho
      have hsaid : (w.told o).said = some now := by rw [told, if_pos ho, hclock]
      obtain ⟨t', ht', hle⟩ := ih hrest hsaid
      exact ⟨t', ht', by have := hlate t ht; omega⟩

/-! ## The daemon's advice -/

/-- The pieces that advise when it is due, and keep in the context when they did. -/
abbrev Kept {α : Type} (x : Daemon α) : Prop :=
  Stays (fun _ => True) told (fun _ e w => w.Due e) (fun c w => w.said = c.gpu.gpuLastNotifyAt) x

/-- What is no notice is always due. -/
theorem due_of_not_advice {e : Eff} (he : ¬e.isAdvice = true) : w.Due e := fun h => absurd h he

/-- A notice is a command. -/
theorem resource_of_advice {e : Eff} (he : e.isAdvice = true) : e.resource = .command := by
  cases e <;> first | cases he | skip
  rename_i cmd
  cases cmd <;> first | rfl | cases he

/-- The pieces that every turn shares give no advice. -/
theorem apart_advice : PiecesApart fun e => e.isAdvice = true where
  plain _ _ hcommand he := hcommand (resource_of_advice he)
  routine e he h := by
    cases e <;> first | cases h | skip
    rename_i cmd
    cases cmd <;> first | cases h | skip
    simp only [Eff.routine, beq_iff_eq] at he
    simp [Eff.isAdvice, he] at h

/-- A piece without advice keeps the time of the last notice. -/
theorem kept_of_leaves {α : Type} {x : Daemon α}
    (hx : Leaves (fun e => e.isAdvice = true) (fun c => c.gpu.gpuLastNotifyAt) x) : Kept x := by
  refine Stays.of_leaves (J := fun v (w : Advised) => w.said = v) hx
    (fun _ _ _ he => due_of_not_advice he) ?_
  exact fun _ _ _ _ _ he _ hw => (said_told (Bool.eq_false_iff.mpr he)).trans hw

section

variable (session : Bool)

/-- A drift that is news is advised a minute or more after the last one. -/
theorem kept_notifyDrift (trigger : String) (desired : List String) (reason : String) :
    Kept ((⟨false, session⟩ : Effectors).notifyDrift trigger desired reason) := by
  intro c w hI
  rw [Effectors.notifyDrift, wp_get_bind, wp_when]
  refine ⟨fun _ => ?_, fun _ => wp_observer_pure.mpr hI⟩
  rw [wp_observer_ask_bind]
  refine ⟨due_of_not_advice (by simp [Eff.isAdvice]), fun (now : Nat) _ => ?_⟩
  rw [wp_when]
  refine ⟨fun hdue => ?_, fun _ => wp_observer_pure.mpr hI⟩
  have hlate : ∀ t, w.said = some t → t + 60000 ≤ now := by
    intro t ht
    have hnot : ¬now - t < 60000 := by simpa [← hI, ht] using hdue
    omega
  rw [wp_set_bind, Effectors.notifyGpuDrift]
  show Wp _ _ _ (request (.trySend (.notify _ _ "hyprstate-gpu")) >>= fun _ => pure ()) _ _
  rw [wp_observer_ask_bind]
  exact ⟨fun _ => ⟨now, rfl, hlate⟩, fun ok _ => wp_observer_pure.mpr rfl⟩

/-- Nothing else advises, or moves what the context keeps of it. -/
theorem kept_drift (trigger : String) (mode : GpuMode) (source : GpuModeSource) :
    Kept ((⟨false, session⟩ : Effectors).checkAndNotifyDrift trigger mode source) := by
  have hresolve : Kept Effectors.resolveGpuActual := kept_of_leaves (by
    rw [Effectors.resolveGpuActual]
    refine .bind (.ask (by simp [Eff.isAdvice])) fun devices => ?_
    cases devices with
    | none => exact .pure _
    | some devices =>
      cases devices with
      | nil => exact .bind (.ask (by simp [Eff.isAdvice])) fun reason => .modify fun _ => rfl
      | cons d ds => exact .modify fun _ => rfl)
  rw [Effectors.checkAndNotifyDrift]
  refine .get_bind fun c => .bind (.when _ hresolve) fun _ => .get_bind fun c => ?_
  split
  · refine .bind (kept_of_leaves (.ask (e := Eff.gpuSnapshot) (by simp [Eff.isAdvice])))
      fun snap => ?_
    split
    · exact .pure _
    · exact .ite (.modify fun _ _ hI => hI) (kept_notifyDrift session _ _ _)
  · exact .pure _

/-- The pin keeps it. -/
theorem kept_pin (awake : Bool) : Kept ((⟨false, session⟩ : Effectors).syncDgpuPin awake) :=
  kept_of_leaves (by
  rw [Effectors.syncDgpuPin, Effectors.powerdUnavailable]
  refine .get_bind fun c => .when _ (.bind (.ask (by simp [Eff.isAdvice])) fun ok => .ite ?_ ?_)
  · exact .modify fun _ => rfl
  · exact .modify fun _ => rfl)

/-- Every group of a turn's pieces keeps it. -/
theorem invariant :
    GroupInvariant (⟨false, session⟩ : Effectors) (fun _ => True) told (fun _ e w => w.Due e)
    (fun c w => w.said = c.gpu.gpuLastNotifyAt) := by
  -- A part that queues no command gives no notice, and leaves the stamp.
  have hframed : ∀ rs, Resource.command ∉ rs → Frames (fun _ => True) told (fun _ e w => w.Due e)
      (fun c w => w.said = c.gpu.gpuLastNotifyAt) rs fun c =>
        c.gpu.gpuLastNotifyAt := fun rs hrs _ _ _ _ hx hsub hQ =>
    kept_of_leaves
      (.of_meets hx (fun _ _ e he hadvice => hrs (resource_of_advice hadvice ▸ hsub he)) hQ)
  have hgroups : ∀ c c' : Context, c'.groups = c.groups →
      c'.gpu.gpuLastNotifyAt = c.gpu.gpuLastNotifyAt :=
    fun c c' hc => congrArg (fun g : Groups => g.gpu.gpuLastNotifyAt) hc
  exact {
    toProfilePieces :=
      .of_apart (J := fun v (w : Advised) => w.said = v) apart_advice kept_of_leaves
      (fun _ => by simp [Eff.isAdvice]) (by simp [Eff.isAdvice]) (fun _ => by simp [Eff.isAdvice])
      fun _ _ _ _ => rfl
    toPowerPieces := .of_apart (J := fun v (w : Advised) => w.said = v) apart_advice kept_of_leaves
      fun _ _ _ _ _ => rfl
    toBrightnessPieces := .of_view (J := fun v (w : Advised) => w.said = v)
      (hframed [.query, .light] (by decide))
      (fun _ => id) fun _ _ => rfl
    toKbdPieces := .of_view (J := fun v (w : Advised) => w.said = v)
      (hframed [.query, .light, .file, .kbdOverride] (by decide)) (fun _ => id) fun _ _ => rfl
    toTaskPieces := .of_view (J := fun v (w : Advised) => w.said = v)
      (hframed [.query, .abort, .timer, .graceTimer] (by decide)) (fun _ => id) fun _ _ _ _ _ => rfl
    toCommandPieces :=
      .of_apart (J := fun v (w : Advised) => w.said = v) apart_advice kept_of_leaves
      (by simp [Eff.isAdvice]) (by simp [Eff.isAdvice]) fun _ _ _ _ => rfl
    apply := fun profile => hframed [.query, .powerd] (by decide)
      (fun c => applyPowerProfile_spec _ c profile)
      (fun _ => id) (by rintro c _ _ ⟨p, rfl⟩; rfl)
    pin := kept_pin session
    core := fun c c' w hc hI => hI.trans (hgroups c c' hc).symm
    frame := fun hx hrs hQ => hframed framedResources (by decide) hx hrs fun c a c' hc =>
      hgroups c c' (hQ c a c' hc)
    drift := kept_drift session }

/-- So does the setup. -/
theorem setup_kept : Wp (World.observer (fun _ => True) told) (fun _ e w => w.Due e)
    (fun _ c' w' => w'.said = c'.gpu.gpuLastNotifyAt)
      (⟨false, session⟩ : Effectors).setup {} {} := by
  refine (invariant session).setup (fun _ _ _ hI => hI) (fun conf => kept_of_leaves ?_)
    (fun c w _ hI => ?_) rfl rfl
  · exact (apart_advice.only (fun c => seedKbd_spec c conf) (by decide)).leaves
      (fun c => seedKbd_spec c conf)
      (by rintro _ _ _ ⟨k, rfl⟩; rfl)
  · exact kept_of_leaves ((apart_advice.only seedProfile_spec (by decide)).leaves seedProfile_spec
      (by rintro _ _ _ ⟨n, r, e, rfl⟩; rfl)) c w hI

/-- So does a turn. -/
theorem handle_kept (ev : Event) : Kept ((⟨false, session⟩ : Effectors).handle ev) :=
  fun c w hI => by
  refine (invariant session).handle ?_
  by_cases hev : ev = .powerdAppeared
  · subst hev
    rw [Effectors.dispatchUpdate, wp_modify_bind, wp_modify_bind, wp_observer_pure]
    split <;> exact hI
  · exact (invariant session).dispatchUpdate ev hev c w hI

end

end Advised

/-- Any two notifications that advise a relog are a minute or more apart, by the clock as it was
read for them. -/
def AdviceSpaced (seen : List DaemonObs) : Prop :=
  ∀ pre mid post o o', seen = pre ++ o :: mid ++ o' :: post → o.1.2.isAdvice = true →
    o'.1.2.isAdvice = true →
    ∃ t t', lastNow pre = some t ∧ lastNow (pre ++ o :: mid) = some t' ∧ t + 60000 ≤ t'

/-- In every run the advice is spaced. -/
theorem Run.advice_spaced {session : Bool} {tr₀ : List DaemonObs} {ts : List Turn} {c : Context}
    (h : Run ⟨false, session⟩ tr₀ ts c) : AdviceSpaced (requested tr₀ ts) := by
  intro pre mid post o o' heq ho ho'
  have halong := (h.recorded (Advised.setup_kept session) (Advised.invariant session).startup
    (Advised.handle_kept session) fun _ _ => trivial).1
  rw [heq, along_append, along_append] at halong
  obtain ⟨⟨-, hfirst, hmid⟩, hagain, -⟩ := halong
  obtain ⟨t, hclock, -⟩ := hfirst ho
  obtain ⟨t', hclock', hlate⟩ := hagain ho'
  rw [Advised.clock_foldl, Option.or_none] at hclock hclock'
  have hsaid : (Advised.told (pre.foldl Advised.told {}) o).said = some t := by
    rw [Advised.told, if_pos ho, Advised.clock_foldl, Option.or_none, hclock]
  obtain ⟨s, hs, hle⟩ := Advised.said_mono hmid hsaid
  rw [List.foldl_append, List.foldl_cons] at hlate
  exact ⟨t, t', hclock, hclock', by have := hlate s hs; omega⟩

/-- A laptop whose session renders on neither card. The time, and what the user wants. -/
def relogDue (now : Nat) (word : String) : (e : Eff) → e.Ans
  | .now => now
  | .gpuOverrideWord => some word
  | .gpuSnapshot => { cards := [laptopIgpu, laptopDgpu] }
  | .hyprlandAqDevices => some ["/dev/dri/card2"]
  | e => e.quiet

/-- The user changes the override, again at once, and again later. -/
theorem Run.advice_spaced_overrides : ∃ tr₀ ts c, Run ⟨false, true⟩ tr₀ ts c ∧
    ((requested tr₀ ts).filter fun o => o.1.2.isAdvice).length = 2 ∧
    AdviceSpaced (requested tr₀ ts) := by
  have hstart := Run.start (runs_answered (Effectors.setup ⟨false, true⟩) (relogDue 0 "igpu") {})
    (runs_answered (Effectors.startup ⟨false, true⟩) (relogDue 0 "igpu") _)
  have hfirst := hstart.turn (.gpuOverrideChanged (some "igpu"))
    (runs_answered (Effectors.handle ⟨false, true⟩ _) (relogDue 0 "igpu") _)
  have hsoon := hfirst.turn (.gpuOverrideChanged (some "dgpu"))
    (runs_answered (Effectors.handle ⟨false, true⟩ _) (relogDue 59999 "dgpu") _)
  have hrun := hsoon.turn (.gpuOverrideChanged (some "dgpu"))
    (runs_answered (Effectors.handle ⟨false, true⟩ _) (relogDue 60000 "dgpu") _)
  exact ⟨_, _, _, hrun, by decide +kernel, hrun.advice_spaced⟩

end Hyprstate
