import Hyprstate.Daemon.Transition
import Hyprstate.Reactive.World

/-!
# Invariants of the power record

The part of the context that the power policy and the two overrides read and write (`PowerView`) is
moved by few pieces of the dispatcher: the apply, the GPU pin, the override's step, the release of
the keyboard override, and four arms. A `PowerInvariant` relates the view to a world and is kept by
those pieces; then it is kept by every turn (`PowerInvariant.handle`), whatever else the turn does.
-/

namespace Hyprstate

open Reactive Process

/-- What the power policy and the overrides keep in the context. -/
structure PowerView where
  override : Option PowerProfile
  base : Option BaseState
  applied : Option PowerProfile
  selfWrites : SelfWriteTracker
  available : Bool
  kbdOverride : Bool

/-- What the power record shows. -/
def Context.powerView (c : Context) : PowerView where
  override := c.power.powerOverride
  base := c.power.powerOverrideBase
  applied := c.power.powerApplied
  selfWrites := c.power.selfWrites
  available := c.power.powerdAvailable
  kbdOverride := c.kbd.kbdOverride

/-- A change of the keyboard's record leaves it, but for the keyboard's override. -/
theorem powerView_of_onlyKbd {c c' : Context} (h : onlyKbd c c')
    (hk : c'.kbd.kbdOverride = c.kbd.kbdOverride) : c'.powerView = c.powerView := by
  obtain ⟨k, rfl⟩ := h
  have hk' : k.kbdOverride = c.kbd.kbdOverride := hk
  simp only [Context.powerView, hk']

/-- The requests that only the pieces which move the view make. -/
def viewResources : List Resource := [.powerd, .powerOverride, .kbdOverride, .queue]

section

variable (fx : Effectors) (c : Context)

/-! ## What leaves the view alone -/

/-- So does the keyboard's check. -/
theorem kbdPolicyCheck_view (sample : Bool) :
    Meets (fx.kbdPolicyCheck sample) c (only [.query, .light, .file])
      fun _ c' => onlyKbd c c' ∧ c'.powerView = c.powerView := by
  have hsample : ∀ c : Context, Meets Effectors.kbdSample c (fun _ _ => True)
      fun _ c' => onlyKbd c c' ∧ c'.kbd.kbdOverride = c.kbd.kbdOverride := by
    intro c
    rw [Effectors.kbdSample, meets_bind, meets_get]
    cases c.kbd.kbdAls with
    | none => exact ⟨onlyKbd_self c, rfl⟩
    | some als =>
      refine ⟨trivial, fun lux => ?_⟩
      cases lux with
      | none => exact ⟨onlyKbd_self c, rfl⟩
      | some lux => exact ⟨⟨_, rfl⟩, rfl⟩
  have hset : ∀ (c : Context) (pct : Nat), Meets (fx.kbdSet pct) c (fun _ _ => True)
      fun _ c' => onlyKbd c c' ∧ c'.kbd.kbdOverride = c.kbd.kbdOverride := by
    intro c pct
    rw [Effectors.kbdSet, meets_bind, meets_get]
    cases c.kbd.kbdLed with
    | none => exact ⟨onlyKbd_self c, rfl⟩
    | some led => simp
  have hkeep : Meets (fx.kbdPolicyCheck sample) c (fun _ _ => True)
      fun _ c' => onlyKbd c c' ∧ c'.kbd.kbdOverride = c.kbd.kbdOverride := by
    have hmay : Meets (when sample Effectors.kbdSample) c (fun _ _ => True)
        fun _ c' => onlyKbd c c' ∧ c'.kbd.kbdOverride = c.kbd.kbdOverride := by
      rw [meets_when]
      exact ⟨fun _ => hsample c, fun _ => ⟨onlyKbd_self c, rfl⟩⟩
    rw [Effectors.kbdPolicyCheck, meets_bind, meets_get, meets_when]
    refine ⟨fun _ => ?_, fun _ => ⟨onlyKbd_self c, rfl⟩⟩
    refine hmay.bind ?_
    rintro _ _ ⟨⟨k, rfl⟩, hk⟩
    rw [meets_bind, meets_get]
    refine (hset _ _).bind ?_
    rintro _ _ ⟨⟨k', rfl⟩, hk'⟩
    refine ((kbdWriteStatus_spec fx _ _).mono (fun _ _ _ => trivial) fun _ _ => id).imp ?_
    rintro _ _ rfl
    exact ⟨⟨k', rfl⟩, hk'.trans hk⟩
  refine ((kbdPolicyCheck_spec fx c sample).and hkeep).mono (fun _ _ h => h.1) ?_
  rintro _ _ ⟨hc, -, hk⟩
  exact ⟨hc, powerView_of_onlyKbd hc hk⟩

/-- So does the discovery of the LED. -/
theorem discoverKbd_view :
    Meets Effectors.discoverKbd c (only [.query])
      fun _ c' => onlyKbd c c' ∧ c'.powerView = c.powerView := by
  have hkeep : Meets Effectors.discoverKbd c (fun _ _ => True)
      fun _ c' => c'.kbd.kbdOverride = c.kbd.kbdOverride := by
    rw [Effectors.discoverKbd, meets_bind, meets_ask]
    refine ⟨trivial, fun led => ?_⟩
    rw [meets_bind, meets_get, meets_bind, meets_when]
    refine ⟨fun _ => ?_, fun _ => by simp⟩
    cases led with
    | none => simp
    | some led => simp
  refine ((discoverKbd_spec c).and hkeep).mono (fun _ _ h => h.1) ?_
  rintro _ _ ⟨hc, hk⟩
  exact ⟨hc, powerView_of_onlyKbd hc hk⟩

/-- So does the reading of the world at the start. -/
theorem seedWorld_view :
    Meets Effectors.seedWorld c (only [.query]) fun _ c' => c'.powerView = c.powerView := by
  refine (seedWorld_exact c).imp ?_
  rintro _ _ ⟨closed, logind, wayland, count, rfl, -⟩
  rfl

/-- The setup reads the keyboard override into the view, and nothing else. -/
theorem setup_view :
    Meets fx.setup c (only setupResources)
      fun _ c' => ∃ k, c'.powerView = { c.powerView with kbdOverride := k } := by
  -- Of what the view holds, only the keyboard's override is seeded.
  have hcontext : ∀ (conf : PowerConf) (c : Context), Meets (fx.seedContext conf) c
      (only setupResources) fun _ c' => ∃ k, c'.powerView =
        { c.powerView with kbdOverride := k } := by
    intro conf c
    refine (weaken (seedPower_spec c) (by simp)).bind ?_
    rintro _ _ ⟨ac, acs, pct, low, rfl⟩
    refine (weaken (discoverBacklight_spec _) (by simp)).bind ?_
    rintro _ _ ⟨b, rfl⟩
    refine (weaken (seedKbd_spec _ conf) (by simp)).bind ?_
    rintro _ _ ⟨k, rfl⟩
    refine (weaken (batteryLowRequestCheck_spec fx _) (by simp)).bind ?_
    rintro _ _ ⟨r, rfl, -⟩
    refine (weaken (seedWorld_view _) (by simp)).bind ?_
    rintro _ c₁ h₁
    have hseen : c₁.powerView = { c.powerView with kbdOverride := k.kbdOverride } := h₁
    refine (weaken (seedProfile_spec c₁) (by simp)).bind ?_
    rintro _ _ ⟨n, rev, e, rfl⟩
    have hlast : ∀ locked : Bool, ∃ k', ({ c₁ with
        currentProfile := n, activeProfileRev := rev, edpPolicy := e, locked := locked } :
        Context).powerView = { c.powerView with kbdOverride := k' } := fun _ => ⟨_, hseen⟩
    simp only [meets_bind, meets_ask, meets_ite, meets_pure, meets_modify]
    exact ⟨by simp [only], fun _ => ⟨by simp [only], fun _ => ⟨by simp [only], fun _ =>
      ⟨fun _ => ⟨by simp [only], fun _ => ⟨by simp [only], fun _ => hlast _⟩⟩,
        fun _ => ⟨by simp [only], fun _ => hlast _⟩⟩⟩⟩⟩
  refine setup_meets fx c (I := fun c₁ => c₁.powerView = c.powerView)
    (fun _ _ he => setupResources_begins he) (fun _ => rfl) (fun conf c₁ h₁ => ?_)
    fun c₁ h₁ => ⟨c.kbd.kbdOverride, h₁⟩
  refine (hcontext conf c₁).imp ?_
  rintro _ c' ⟨k, h'⟩
  exact ⟨k, by rw [h', h₁]⟩

/-- The events whose arms leave the view alone. -/
def unviewed : Event → Bool
  | .configReloaded | .profileApplied | .reconcileTick _ | .monitorsChanged | .kbdIdle _ => false
  | .platformProfileChanged _ | .powerOverrideChanged _ | .kbdOverrideChanged _ => false
  | .powerdAppeared => false
  | _ => true

/-- What such an arm may touch. -/
def unviewedResources : List Resource :=
  [.query, .light, .requestFile, .file, .timer, .abort, .command]

/-- So does the arm of any event that is not of the record. -/
theorem dispatchUpdate_view (ev : Event) (hev : unviewed ev = true) :
    Meets (fx.dispatchUpdate ev) c (only unviewedResources)
      fun _ c' => c'.powerView = c.powerView := by
  have hin : ∀ {α : Type} {x : Daemon α} {c' : Context} {rs : List Resource}
      {Q : α → Context → Prop}, Meets x c' (only rs) Q → rs ⊆ unviewedResources →
      Meets x c' (only unviewedResources) Q := fun h hrs => weaken h hrs
  -- The arms that end in the keys' check do so from any context of the same view.
  have hkbd : ∀ (sample falls : Bool) (c' : Context), c'.powerView = c.powerView →
      Meets (do fx.kbdPolicyCheck sample; pure falls) c' (only unviewedResources)
        fun _ c'' => c''.powerView = c.powerView := by
    intro sample falls c' hc'
    refine (hin (kbdPolicyCheck_view fx c' sample) (by simp [unviewedResources])).bind ?_
    rintro _ c'' ⟨-, hc''⟩
    exact hc''.trans hc'
  have hquery : Resource.query ∈ unviewedResources := by simp [unviewedResources]
  -- No other arm that is left moves a record of the view, request by request.
  cases ev with
  | configReloaded | profileApplied | reconcileTick _ | monitorsChanged | kbdIdle _
  | platformProfileChanged _ | powerOverrideChanged _ | kbdOverrideChanged _ | powerdAppeared =>
    exact absurd hev (by simp [unviewed])
  | profilesChanged =>
    refine (hin (scheduleProfileReconcile_spec c) (by simp [unviewedResources])).bind ?_
    rintro _ _ ⟨t, rfl⟩
    rfl
  | backlightHotplug =>
    refine (hin (discoverBacklight_spec c) (by simp [unviewedResources])).bind ?_
    rintro _ _ ⟨b, rfl⟩
    rfl
  | sleeping | kbdLevelChanged level =>
    rw [Effectors.dispatchUpdate, meets_bind, meets_modify]
    exact hkbd _ _ _ rfl
  | kbdLedHotplug =>
    refine (hin (discoverKbd_view c) (by simp [unviewedResources])).bind ?_
    rintro _ c' ⟨-, hc'⟩
    exact hkbd _ _ _ hc'
  | lid closed =>
    rw [Effectors.dispatchUpdate, meets_bind, meets_get, meets_ite]
    refine ⟨fun _ => ?_, fun _ => rfl⟩
    rw [meets_bind, meets_modify, meets_bind, meets_when]
    refine ⟨fun _ => (hin (refreshWaylandClaim_spec _) (by simp [unviewedResources])).imp ?_,
      fun _ => rfl⟩
    rintro _ _ ⟨w, rfl⟩
    rfl
  | monitorHotplug added name =>
    rw [Effectors.dispatchUpdate, meets_bind, meets_get, Hyprctl.extMonitorCount, meets_bind,
      meets_bind, meets_ask]
    refine ⟨hquery, fun monitors => ?_⟩
    rw [meets_pure, meets_bind, meets_modify]
    refine (hin (scheduleProfileReconcile_spec _) (by simp [unviewedResources])).bind ?_
    rintro _ _ ⟨t, rfl⟩
    exact ⟨hquery, fun _ => rfl⟩
  | inhibitor wayland active => cases wayland <;> rfl
  | lockChanged locked =>
    rw [Effectors.dispatchUpdate, meets_bind, meets_modify]
    exact ⟨hquery, fun _ => hkbd _ _ _ rfl⟩
  | acChanged onAc =>
    rw [Effectors.dispatchUpdate, meets_bind, meets_get, meets_ite]
    refine ⟨fun _ => rfl, fun _ => ?_⟩
    rw [meets_bind, meets_modify]
    refine (hin (batteryLowRequestCheck_spec fx _) (by simp [unviewedResources])).bind ?_
    rintro _ _ ⟨r, rfl, -⟩
    refine (hin (schedulePowerSettle_spec _) (by simp [unviewedResources])).bind ?_
    rintro _ _ ⟨t, rfl⟩
    exact ⟨hquery, fun _ => rfl⟩
  | powerAcSettled =>
    rw [Effectors.dispatchUpdate, meets_bind, meets_modify]
    refine (hin (batteryLowRequestCheck_spec fx _) (by simp [unviewedResources])).bind ?_
    rintro _ _ ⟨r, rfl, -⟩
    rfl
  | batteryPercent pct =>
    rw [Effectors.dispatchUpdate, meets_bind, meets_get, meets_bind, meets_set]
    refine (hin (batteryLowRequestCheck_spec fx _) (by simp [unviewedResources])).bind ?_
    rintro changed _ ⟨r, rfl, -⟩
    rw [meets_bind, meets_when]
    exact ⟨fun _ => ⟨hquery, fun _ => rfl⟩, fun _ => rfl⟩
  | gpuOverrideChanged word => rfl
  | suspendRequestChanged word =>
    rw [Effectors.dispatchUpdate, meets_bind, meets_modify, meets_bind, meets_when]
    refine ⟨fun _ => (hin (refreshWaylandClaim_spec _) (by simp [unviewedResources])).imp ?_,
      fun _ => rfl⟩
    rintro _ _ ⟨w, rfl⟩
    rfl
  | timerExpired =>
    rw [Effectors.dispatchUpdate, meets_bind, meets_get, meets_bind, meets_when]
    refine ⟨fun _ => ?_, fun _ => rfl⟩
    rw [meets_bind, meets_ask]
    refine ⟨hquery, fun standing => ?_⟩
    rw [meets_when]
    exact ⟨fun _ => rfl, fun _ => rfl⟩
  | resumed =>
    rw [Effectors.dispatchUpdate, meets_bind, meets_modify,
      Effectors.clearSuspendRequest, meets_bind, meets_when]
    have hrest : Meets (do
        Effectors.requestReconcile .resumed
        modify fun c => { c with kbd := { c.kbd with kbdSleeping := false } }
        fx.kbdPolicyCheck false
        pure true) { c with suspendRequested := false } (only unviewedResources)
        fun _ c' => c'.powerView = c.powerView := by
      refine ⟨hquery, fun _ => ?_⟩
      exact hkbd _ _ _ rfl
    exact ⟨fun _ => ⟨by simp [only, unviewedResources], fun _ => hrest⟩, fun _ => hrest⟩

/-! ## The arms that move the view by themselves -/

/-- The view once the override file was heard to hold the word. -/
def PowerView.heard (word : Option String) (v : PowerView) : PowerView :=
  match word with
  | none => { v with override := none, base := none }
  | some s =>
    match PowerProfile.parse s with
    | some p => if v.override = some p then v else { v with override := some p, base := none }
    | none => v

/-- A word of the override's file moves the override alone. -/
theorem PowerView.heard_eq (word : Option String) (v : PowerView) :
    ∃ o b, v.heard word = { v with override := o, base := b } := by
  unfold heard
  split
  · exact ⟨none, none, rfl⟩
  · split
    · split
      · exact ⟨v.override, v.base, rfl⟩
      · exact ⟨_, none, rfl⟩
    · exact ⟨v.override, v.base, rfl⟩

/-- The arm hears the word. -/
theorem powerOverrideChanged_view (word : Option String) :
    Meets (fx.dispatchUpdate (.powerOverrideChanged word)) c (only [])
      fun _ c' => c'.powerView = c.powerView.heard word := by
  rw [Effectors.dispatchUpdate, meets_bind, meets_get]
  cases word with
  | none => rfl
  | some s =>
    unfold PowerView.heard
    dsimp only
    cases PowerProfile.parse s with
    | none => rfl
    | some p =>
      rw [meets_bind, meets_when]
      refine ⟨fun hnew => ?_, fun hold => ?_⟩
      · have hne : c.powerView.override ≠ some p := by simpa [Context.powerView] using hnew
        dsimp only
        rw [if_neg hne]
        rfl
      · have heq : c.powerView.override = some p := by simpa [Context.powerView] using hold
        dsimp only
        rw [if_pos heq]
        rfl

/-- The keyboard's override is recorded. -/
theorem kbdOverrideChanged_view (armed : Bool) :
    Meets (fx.dispatchUpdate (.kbdOverrideChanged armed)) c (only unviewedResources)
      fun _ c' => c'.powerView = { c.powerView with kbdOverride := armed } := by
  rw [Effectors.dispatchUpdate, meets_bind, meets_modify]
  refine (weaken (kbdPolicyCheck_view fx _ armed) (by simp [unviewedResources])).bind ?_
  rintro _ c' ⟨-, hc'⟩
  exact hc'

/-- Where powerd is back, nothing counts as applied. -/
theorem powerdAppeared_view :
    Meets (fx.dispatchUpdate .powerdAppeared) c (only []) fun _ c' =>
      c'.powerView = c.powerView ∨
        c'.powerView = { c.powerView with applied := none, available := true } := by
  rw [Effectors.dispatchUpdate, meets_bind, meets_modify]
  split
  · exact .inl rfl
  · exact .inr rfl

/-- The pin calls powerd, and at most finds it unavailable. -/
theorem syncDgpuPin_view (awake : Bool) :
    Meets (fx.syncDgpuPin awake) c (fun _ e => e = .powerdSetDgpuAwake awake)
      fun _ c' => ∃ a, c'.powerView = { c.powerView with available := a } := by
  simp only [Effectors.syncDgpuPin, Effectors.powerdUnavailable, meets_bind, meets_get, meets_when,
    meets_ite, meets_pure, meets_ask, meets_modify]
  exact ⟨fun _ => ⟨fun _ => ⟨fun _ => ⟨_, rfl⟩, fun _ => ⟨_, rfl⟩⟩,
    fun _ => ⟨trivial, fun _ => ⟨fun _ => ⟨_, rfl⟩, fun _ => ⟨_, rfl⟩⟩⟩⟩,
    fun _ => ⟨c.power.powerdAvailable, rfl⟩⟩

end

/-! ## What keeps an invariant of the view -/

section

variable {σ : Type} {W : World (Context × Eff) (stamped Eff.Ans) σ} {fx : Effectors}
  {I : PowerView → σ → Prop}

/-- The piece keeps the invariant, in any context and world. -/
def KeepsView {α : Type} (W : World (Context × Eff) (stamped Eff.Ans) σ) (I : PowerView → σ → Prop)
    (x : Daemon α) : Prop :=
  ∀ c w, I c.powerView w → Wp W (fun _ _ _ => True) (fun _ c' w' => I c'.powerView w') x c w

/-- An invariant of the view and the world, kept by the world's own moves and by the pieces that
move the view inside a turn. -/
structure PowerInvariant (fx : Effectors) (W : World (Context × Eff) (stamped Eff.Ans) σ)
    (I : PowerView → σ → Prop) : Prop where
  drift : ∀ v w w', W.drift w w' → I v w → I v w'
  answer : ∀ v c e w b w', e.resource ∉ viewResources → W.answer (c, e) w b w' → I v w → I v w'
  apply : ∀ profile, KeepsView W I (fx.applyPowerProfile profile)
  pin : ∀ awake, KeepsView W I (fx.syncDgpuPin awake)
  step : ∀ base, KeepsView W I (fx.powerOverrideStep base)
  release : KeepsView W I fx.kbdReleaseOverride

variable (hI : PowerInvariant fx W I)
include hI

/-- What touches none of these resources keeps the invariant of the view it found. -/
theorem PowerInvariant.frame {α : Type} {x : Daemon α} {c : Context} {w : σ} {rs : List Resource}
    {Q : α → Context → Prop} (hx : Meets x c (only rs) Q) (hrs : ∀ r ∈ rs, r ∉ viewResources)
    (hw : I c.powerView w) :
    Wp W (fun _ _ _ => True) (fun a c' w' => Q a c' ∧ I c.powerView w') x c w := by
  refine (wp_of_meets (J := fun w' => I c.powerView w') hx hw (hI.drift _) ?_).mono
    (fun _ _ _ _ => trivial) fun _ _ _ => id
  exact fun c' e w₁ b w₂ he => hI.answer _ c' e w₁ b w₂ (hrs _ he)

/-- The power policy keeps an invariant of the record that its steps keep. -/
theorem PowerInvariant.powerPolicyCheck : KeepsView W I fx.powerPolicyCheck := by
  intro c w hw
  rw [Effectors.powerPolicyCheck, wp_get_bind]
  refine (hI.step _ c w hw).bind ?_
  rintro _ c₁ w₁ hw₁
  rw [wp_get_bind]
  refine (hI.apply _ c₁ w₁ hw₁).bind ?_
  rintro _ c₂ w₂ hw₂
  rw [wp_get_bind, wp_set_bind]
  dsimp only
  cases c₂.power.powerLastBase with
  | none => exact fun w₃ hdrift => hdrift.keeps (hI.drift _) hw₂
  | some prev =>
    refine (hI.frame (brightnessEdge_spec fx _ prev _) (by decide) (by exact hw₂)).mono
      (fun _ _ _ => id) ?_
    rintro _ _ w₃ ⟨⟨b, rfl⟩, hw₃⟩
    exact hw₃

/-- So does the GPU's check. -/
theorem PowerInvariant.gpuCheck (trigger : String) (chosen : Option MonitorProfile) :
    KeepsView W I (fx.gpuCheck trigger chosen) := by
  intro c w hw
  refine (hI.frame (gpuDriftCheck_spec fx c trigger _) (by decide) hw).bind ?_
  rintro mode _ w₁ ⟨⟨g, rfl⟩, hw₁⟩
  exact hI.pin _ _ w₁ hw₁

/-- So does a piece that may be skipped. -/
theorem PowerInvariant.when {x : Daemon Unit} (p : Bool) (hx : KeepsView W I x) :
    KeepsView W I (when p x) := by
  intro c w hw
  rw [wp_when]
  exact ⟨fun _ => hx c w hw, fun _ w' hdrift => hdrift.keeps (hI.drift _) hw⟩

/-- So does a change of the monitors. -/
theorem PowerInvariant.handleMonitorsChanged : KeepsView W I fx.handleMonitorsChanged := by
  -- What follows the match is the same with and without one.
  have hrest : ∀ chosen : Option MonitorProfile, KeepsView W I (do
      fx.writeGpuBreadcrumb (chosen.map MonitorProfile.gpu)
      fx.gpuCheck "monitors changed" chosen
      fx.powerPolicyCheck
      let c ← get
      Process.when (!Effectors.edpShouldBeOn c && decide (c.extMonCount > 0))
        fx.rehomeEdpWorkspaces) := by
    intro chosen c w hw
    refine (hI.frame (writeGpuBreadcrumb_spec fx c _) (by decide) hw).bind ?_
    rintro _ _ w₁ ⟨rfl, hw₁⟩
    refine (hI.gpuCheck _ _ _ w₁ hw₁).bind ?_
    rintro _ c₂ w₂ hw₂
    refine (hI.powerPolicyCheck c₂ w₂ hw₂).bind ?_
    rintro _ c₃ w₃ hw₃
    rw [wp_get_bind]
    refine hI.when _ (fun c w hw => ?_) c₃ w₃ hw₃
    have hsend : Meets fx.rehomeEdpWorkspaces c (only [.command]) fun _ c' => c' = c := by
      refine (sendCmd_spec fx c .rehomeEdpWorkspaces).mono ?_ fun _ _ => id
      rintro _ _ ⟨-, rfl, -⟩
      simp [only]
    refine (hI.frame hsend (by decide) hw).mono (fun _ _ _ => id) ?_
    rintro _ _ w' ⟨rfl, hw'⟩
    exact hw'
  intro c w hw
  refine (hI.frame (currentMatch_spec c) (by decide) hw).bind ?_
  rintro chosen _ w₁ ⟨rfl, hw₁⟩
  cases chosen with
  | none => exact hrest none _ w₁ hw₁
  | some p =>
    refine (hI.frame (applyProfile_spec fx _ p) (by decide) hw₁).bind ?_
    rintro _ _ w₂ ⟨⟨pn, pr, pe, rfl⟩, hw₂⟩
    exact hrest (some p) _ w₂ hw₂

/-- The machine's resources are none of the view's. -/
theorem PowerInvariant.evaluateFsms (kind : EventKind) : KeepsView W I (fx.evaluateFsms kind) := by
  intro c w hw
  by_cases hk : kind = .timerExpired
  · subst hk
    refine (hI.frame ((evaluateFsms_timerExpired_spec fx c).mono (fun _ _ h => h.1) fun _ _ => id)
      (by decide) hw).mono (fun _ _ _ => id) ?_
    rintro _ _ w₁ ⟨⟨t, cw, s, rfl, -⟩, hw₁⟩
    exact hw₁
  · refine (hI.frame ((evaluateFsms_spec fx c kind hk).mono (fun _ _ h => h.1) fun _ _ => id)
      (by decide) hw).mono (fun _ _ _ => id) ?_
    rintro _ _ w₁ ⟨⟨t, cw, rfl⟩, hw₁⟩
    exact hw₁

/-- So does the tail of a turn. -/
theorem PowerInvariant.dispatchTail (ev : Event) : KeepsView W I (fx.dispatchTail ev) := by
  intro c w hw
  rw [Effectors.dispatchTail]
  have hrearm : KeepsView W I Effectors.brightnessRearm := by
    intro c w hw
    refine (hI.frame (brightnessRearm_spec c) (by decide) hw).mono (fun _ _ _ => id) ?_
    rintro _ _ w' ⟨⟨b, rfl⟩, hw'⟩
    exact hw'
  have hgpu : KeepsView W I (do
      let chosen ← Effectors.currentMatch
      fx.gpuCheck ev.label chosen) := by
    intro c w hw
    refine (hI.frame (currentMatch_spec c) (by decide) hw).bind ?_
    rintro chosen _ w' ⟨rfl, hw'⟩
    exact hI.gpuCheck _ _ _ w' hw'
  refine (hI.when _ hrearm c w hw).bind ?_
  rintro _ c₁ w₁ hw₁
  refine (hI.when _ hgpu c₁ w₁ hw₁).bind ?_
  rintro _ c₂ w₂ hw₂
  refine (hI.when _ hI.powerPolicyCheck c₂ w₂ hw₂).bind ?_
  rintro _ c₃ w₃ hw₃
  exact hI.evaluateFsms _ c₃ w₃ hw₃

/-- So does a request for a pass. -/
theorem PowerInvariant.requestReconcile (trigger : ReconcileTrigger) :
    KeepsView W I (Effectors.requestReconcile trigger) := by
  intro c w hw
  refine (hI.frame (requestReconcile_spec c trigger) (by decide) hw).mono (fun _ _ _ => id) ?_
  rintro _ _ w₁ ⟨rfl, hw₁⟩
  exact hw₁

/-- So does a re-assert. -/
theorem PowerInvariant.reassert (trigger : ReconcileTrigger) :
    KeepsView W I (fx.reassert trigger) := by
  intro c w hw
  rw [Effectors.reassert, wp_get_bind, wp_bind, wp_when]
  refine ⟨fun hs => ?_, fun _ w₁ hdrift =>
    hI.requestReconcile trigger c w₁ (hdrift.keeps (hI.drift _) hw)⟩
  refine (hI.frame (ingestActiveProfile_spec c) (by decide) hw).bind ?_
  rintro _ _ w₁ ⟨⟨pn, pr, pe, rfl⟩, hw₁⟩
  rw [wp_get_bind]
  refine (hI.frame ((onEnter_spec fx _ _ false (by simpa using hs)).mono (fun _ _ h => h.1)
    fun _ _ => id) (by decide) (by exact hw₁)).bind ?_
  rintro _ _ w₂ ⟨⟨-, t, cw, rfl⟩, hw₂⟩ w₃ hdrift
  exact hI.requestReconcile trigger _ w₃ (hdrift.keeps (hI.drift _) hw₂)

/-- So does a pass. -/
theorem PowerInvariant.handleReconcileTick (snap : ReconcileSnapshot) :
    KeepsView W I (fx.handleReconcileTick snap) := by
  -- What the repairs drive ends in the power policy, and then in the machine.
  have hdrive : ∀ fsm power : Bool, KeepsView W I (fx.driveRepairs fsm power) := by
    intro fsm power c w hw
    have hpolicy : KeepsView W I (do
        modify fun c => { c with onAcSettled := c.onAc }
        fx.powerPolicyCheck
        let _ ← fx.batteryLowRequestCheck
        pure ()) := by
      intro c w hw
      rw [wp_modify_bind]
      refine (hI.powerPolicyCheck _ w (by exact hw)).bind ?_
      rintro _ c₁ w₁ hw₁
      refine (hI.frame (batteryLowRequestCheck_spec fx c₁) (by decide) hw₁).bind ?_
      rintro _ _ w₂ ⟨⟨r, rfl, -⟩, hw₂⟩ w₃ hdrift
      exact hdrift.keeps (hI.drift _) hw₂
    rw [Effectors.driveRepairs]
    refine (hI.when power hpolicy c w hw).bind ?_
    rintro _ c₁ w₁ hw₁
    exact hI.when fsm (hI.evaluateFsms _) c₁ w₁ hw₁
  have hrest : KeepsView W I (do
      let _ ← Effectors.ingestActiveProfile
      fx.enforceEdp snap
      fx.dpmsBackstop snap) := by
    intro c w hw
    refine (hI.frame (ingestActiveProfile_spec c) (by decide) hw).bind ?_
    rintro _ _ w₁ ⟨⟨pn, pr, pe, rfl⟩, hw₁⟩
    refine (hI.frame ((enforceEdp_spec fx _ snap).mono (fun _ _ h => h.1) fun _ _ => id) (by decide)
      (by exact hw₁)).bind ?_
    rintro _ _ w₂ ⟨rfl, hw₂⟩
    refine (hI.frame (dpmsBackstop_spec fx _ snap) (by decide) hw₂).mono (fun _ _ _ => id) ?_
    rintro _ _ w₃ ⟨rfl, hw₃⟩
    exact hw₃
  intro c w hw
  refine (hI.frame (repairContext_spec c snap) (by decide) hw).bind ?_
  rintro drift _ w₁ ⟨⟨req, t, rfl, -⟩, hw₁⟩
  refine (hdrive drift.1 drift.2 _ w₁ (by exact hw₁)).bind ?_
  rintro _ c₂ w₂ hw₂
  rw [wp_get_bind]
  exact hI.when _ hrest c₂ w₂ hw₂

/-- The events whose arms move the view by themselves. -/
def ownArm : Event → Bool
  | .platformProfileChanged _ | .powerOverrideChanged _ | .kbdOverrideChanged _ => true
  | .powerdAppeared => true
  | _ => false

omit hI in
/-- So does the arm of an idle keyboard. -/
theorem kbdIdle_arm (hI : PowerInvariant fx W I) (idle : Bool) :
    KeepsView W I (fx.dispatchUpdate (.kbdIdle idle)) := by
  intro c w hw
  rw [Effectors.dispatchUpdate, wp_modify_bind]
  refine (hI.when idle hI.release _ w (by exact hw)).bind ?_
  rintro _ c₁ w₁ hw₁
  refine (hI.frame (kbdPolicyCheck_view fx c₁ _) (by decide) hw₁).bind ?_
  rintro _ c₂ w₂ ⟨⟨-, hc₂⟩, hw₂⟩
  have hw₂' : I c₂.powerView w₂ := by rwa [hc₂]
  exact fun w₃ hdrift => hdrift.keeps (hI.drift _) hw₂'

/-- The arms that move the view through those pieces alone keep the invariant. -/
theorem PowerInvariant.dispatchUpdate (ev : Event) (hev : ownArm ev = false) :
    KeepsView W I (fx.dispatchUpdate ev) := by
  intro c w hw
  have hfalls : ∀ (falls : Bool) (c' : Context) (w' : σ), I c'.powerView w' →
      Wp W (fun _ _ _ => True) (fun _ c'' w'' => I c''.powerView w'') (pure falls) c' w' :=
    fun falls c' w' hw' w'' hdrift => hdrift.keeps (hI.drift _) hw'
  cases ev with
  | reconcileTick snap =>
    exact (hI.handleReconcileTick snap c w hw).bind fun _ c' w' hw' => hfalls _ c' w' hw'
  | configReloaded | profileApplied =>
    exact (hI.reassert _ c w hw).bind fun _ c' w' hw' => hfalls _ c' w' hw'
  | monitorsChanged =>
    exact (hI.handleMonitorsChanged c w hw).bind fun _ c' w' hw' => hfalls _ c' w' hw'
  | kbdIdle idle => exact kbdIdle_arm hI idle c w hw
  | platformProfileChanged _ | powerOverrideChanged _ | kbdOverrideChanged _ | powerdAppeared =>
    exact absurd hev (by simp [ownArm])
  | _ =>
    refine (hI.frame (dispatchUpdate_view fx c _ rfl) (by decide) hw).mono (fun _ _ _ => id) ?_
    rintro _ c₁ w₁ ⟨hc₁, hw₁⟩
    rw [hc₁]
    exact hw₁

/-- A turn whose arm keeps the invariant, or establishes it after the event was taken, keeps it. -/
theorem PowerInvariant.handle {ev : Event} {c : Context} {w : σ}
    (harm : Wp W (fun _ _ _ => True) (fun _ c' w' => I c'.powerView w')
      (fx.dispatchUpdate ev) c w) :
    Wp W (fun _ _ _ => True) (fun _ c' w' => I c'.powerView w') (fx.handle ev) c w := by
  rw [Effectors.handle, Effectors.dispatch, bind_assoc]
  refine harm.bind ?_
  rintro falls c₁ w₁ hw₁
  refine (hI.when falls (hI.dispatchTail ev) c₁ w₁ hw₁).bind ?_
  rintro _ c₂ w₂ hw₂
  refine (hI.frame (syncWaybar_spec fx c₂) (by decide) hw₂).mono (fun _ _ _ => id) ?_
  rintro _ _ w₃ ⟨⟨v, rfl⟩, hw₃⟩
  exact hw₃

/-- The loop's prologue keeps the invariant. -/
theorem PowerInvariant.startup : KeepsView W I fx.startup := by
  intro c w hw
  rw [Effectors.startup, wp_modify_bind, wp_get_bind]
  refine (hI.frame ((onEnter_spec fx _ _ true (worldState_ne_suspending _)).mono (fun _ _ h => h.1)
    fun _ _ => id) (by decide) (by exact hw)).bind ?_
  rintro _ c₁ w₁ ⟨⟨-, t, cw, rfl⟩, hw₁⟩
  refine (hI.frame (currentMatch_spec _) (by decide) (by exact hw₁)).bind ?_
  rintro chosen _ w₂ ⟨rfl, hw₂⟩
  refine (hI.frame (resolveSessionGpuMode_spec _ _) (by decide) hw₂).bind ?_
  rintro mode _ w₃ ⟨rfl, hw₃⟩
  refine (hI.pin _ _ w₃ (by exact hw₃)).bind ?_
  rintro _ c₄ w₄ hw₄
  refine (hI.frame (syncWaybar_spec fx c₄) (by decide) hw₄).bind ?_
  rintro _ _ w₅ ⟨⟨v, rfl⟩, hw₅⟩
  refine (hI.frame (kbdPolicyCheck_view fx _ _) (by decide) (by exact hw₅)).bind ?_
  rintro _ c₆ w₆ ⟨⟨-, hc₆⟩, hw₆⟩
  exact hI.requestReconcile _ c₆ w₆ (by rw [hc₆]; exact hw₆)

/-- The whole start keeps an invariant that does not mind the keyboard override and the setup's own
requests. -/
theorem PowerInvariant.boot
    (hanswer : ∀ v c e w b w', e.resource ∈ setupResources → W.answer (c, e) w b w' →
      I v w → I v w')
    (hkbd : ∀ v k w, I v w → I { v with kbdOverride := k } w) : KeepsView W I fx.boot := by
  intro c w hw
  have hsetup : Wp W (fun c' e w' => only setupResources c' e ∧ I c.powerView w')
      (fun _ c' w' => (∃ k, c'.powerView = { c.powerView with kbdOverride := k }) ∧
        I c.powerView w')
      fx.setup c w :=
    wp_of_meets (J := fun w' => I c.powerView w') (setup_view fx c) hw (hI.drift _)
      fun c' e w₁ b w₂ he => hanswer _ c' e w₁ b w₂ he
  refine (hsetup.mono (fun _ _ _ _ => trivial) fun _ _ _ => id).bind ?_
  rintro ok c₁ w₁ ⟨⟨k, hc₁⟩, hw₁⟩
  exact hI.when ok hI.startup c₁ w₁ (by rw [hc₁]; exact hkbd _ k _ hw₁)

end

end Hyprstate
