import Hyprstate.Daemon.Run

/-!
# Footprints

What each piece of the dispatcher may ask of the world and what it may change in the context. A
request touches one `Resource`; a footprint lemma bounds the resources and says which part of the
context can differ afterwards. The proofs about the daemon use these and never unfold a function
again.
-/

namespace Hyprstate

open Reactive Process

/-- Only these resources. -/
def only (rs : List Resource) (_ : Context) (e : Eff) : Prop := e.resource ∈ rs

/-- A contract about few resources is one about more. -/
theorem weaken {α : Type} {x : Daemon α} {c : Context} {rs rs' : List Resource}
    {Q : α → Context → Prop} (h : Meets x c (only rs) Q) (hrs : rs ⊆ rs') :
    Meets x c (only rs') Q :=
  h.mono (fun _ _ he => hrs he) fun _ _ => id

/-- Only these resources, and a panel command is made with `n` external monitors on record and turns
the panel off only when there are some. -/
def within (rs : List Resource) (n : Nat) (c : Context) (e : Eff) : Prop :=
  e.resource ∈ rs ∧
    ∀ on, e = .trySend (.setEdp on) → c.extMonCount = n ∧ (on = true ∨ 0 < n)

/-- A larger frame. -/
theorem within_mono {rs rs' : List Resource} {n : Nat} {c : Context} {e : Eff} (hrs : rs ⊆ rs')
    (h : within rs n c e) : within rs' n c e :=
  ⟨hrs h.1, h.2⟩

/-- A contract without panel commands is one about more resources. -/
theorem widen {α : Type} {x : Daemon α} {c : Context} {rs rs' : List Resource} {n : Nat}
    {Q : α → Context → Prop} (h : Meets x c (only rs) Q) (hrs : rs ⊆ rs')
    (hp : Resource.panel ∉ rs) : Meets x c (within rs' n) Q := by
  refine h.mono (fun _ e he => ⟨hrs he, ?_⟩) fun _ _ => id
  rintro on rfl
  exact absurd he hp

/-! ## Parts of the context -/

/-- Only the power policy's record changes. -/
def onlyPower (c c' : Context) : Prop := ∃ p, c' = { c with power := p }

/-- Only the brightness effects' record changes. -/
def onlyBrightness (c c' : Context) : Prop := ∃ b, c' = { c with brightness := b }

/-- Only the keyboard backlight's record changes. -/
def onlyKbd (c c' : Context) : Prop := ∃ k, c' = { c with kbd := k }

/-- Only the GPU record changes. -/
def onlyGpu (c c' : Context) : Prop := ∃ g, c' = { c with gpu := g }

/-- Only the handles of the grace timer and of the claim watch change. -/
def onlyTimers (c c' : Context) : Prop :=
  ∃ t w, c' = { c with graceTimer := t, claimWatch := w }

/-- Nothing changed. -/
@[simp] theorem onlyPower_self (c : Context) : onlyPower c c := ⟨c.power, rfl⟩

/-- A change of the power record. -/
@[simp] theorem onlyPower_update (c : Context) (p : PowerContext) :
    onlyPower c { c with power := p } := ⟨p, rfl⟩

/-- Nothing changed. -/
@[simp] theorem onlyBrightness_self (c : Context) : onlyBrightness c c := ⟨c.brightness, rfl⟩

/-- A change of the brightness record. -/
@[simp] theorem onlyBrightness_update (c : Context) (b : BrightnessContext) :
    onlyBrightness c { c with brightness := b } := ⟨b, rfl⟩

/-- Nothing changed. -/
@[simp] theorem onlyKbd_self (c : Context) : onlyKbd c c := ⟨c.kbd, rfl⟩

/-- A change of the keyboard's record. -/
@[simp] theorem onlyKbd_update (c : Context) (k : KbdContext) :
    onlyKbd c { c with kbd := k } := ⟨k, rfl⟩

/-- Nothing changed. -/
@[simp] theorem onlyGpu_self (c : Context) : onlyGpu c c := ⟨c.gpu, rfl⟩

/-- A change of the GPU's record. -/
@[simp] theorem onlyGpu_update (c : Context) (g : GpuContext) :
    onlyGpu c { c with gpu := g } := ⟨g, rfl⟩

/-- Nothing changed. -/
@[simp] theorem onlyTimers_self (c : Context) : onlyTimers c c := ⟨c.graceTimer, c.claimWatch, rfl⟩

/-- A change of the timers' handles. -/
@[simp] theorem onlyTimers_graceTimer (c : Context) (t w : Option Handle) :
    onlyTimers c { c with graceTimer := t, claimWatch := w } := ⟨t, w, rfl⟩

section

variable (fx : Effectors) (c : Context)

/-! ## Effectors -/

/-- The command is sent out of shadow mode. -/
theorem sendCmd_spec (cmd : Cmd) :
    Meets (fx.sendCmd cmd) c (fun c' e => c' = c ∧ e = .trySend cmd ∧ fx.shadow = false)
      fun _ c' => c' = c := by
  simp [Effectors.sendCmd]

/-- A pass is asked for. -/
theorem requestReconcile_spec (trigger : ReconcileTrigger) :
    Meets (Effectors.requestReconcile trigger) c (only [.query]) fun _ c' => c' = c :=
  ⟨by simp [only], fun _ => rfl⟩

/-- A notice is a command. -/
theorem notifyPower_spec (body : String) :
    Meets (fx.notifyPower body) c (only [.command]) fun _ c' => c' = c := by
  simp [Effectors.notifyPower, Effectors.sendCmd, only]

/-- The panel command is what the policy makes of it, and off only beside an external monitor. -/
theorem setEdp_spec (on : Bool) :
    Meets (fx.setEdp on) c
      (fun c' e => c' = c ∧ e = .trySend (.setEdp (c.edpPolicy.resolve on)) ∧ fx.shadow = false ∧
        (c.edpPolicy.resolve on = true ∨ 0 < c.extMonCount))
      fun _ c' => c' = c := by
  simp [Effectors.setEdp, Effectors.sendCmd, edpMayDisable]
  tauto

/-- The override's file is removed, and its record. -/
theorem clearPowerOverride_spec :
    Meets fx.clearPowerOverride c (only [.powerOverride]) fun _ c' => onlyPower c c' := by
  simp [Effectors.clearPowerOverride, only]

/-- An adoption writes the override's file, and tells the user. -/
theorem adoptPowerOverride_spec (profile : PowerProfile) :
    Meets (fx.adoptPowerOverride profile) c (only [.powerOverride, .command])
      fun _ c' => onlyPower c c' := by
  simp [Effectors.adoptPowerOverride, Effectors.notifyPower, Effectors.sendCmd, only]

/-- The profile goes to powerd. -/
theorem applyPowerProfile_spec (profile : PowerProfile) :
    Meets (fx.applyPowerProfile profile) c (only [.query, .powerd]) fun _ c' => onlyPower c c' := by
  simp [Effectors.applyPowerProfile, Effectors.powerdUnavailable, only]

/-- The level is read. -/
theorem brightnessRead_spec :
    Meets Effectors.brightnessRead c (only [.query]) fun _ c' => c' = c := by
  simp only [Effectors.brightnessRead, meets_bind, meets_get]
  cases c.brightness.brightnessDev <;> simp [only]

/-- Whether the user took over is read from the level. -/
theorem brightnessUserTookOver_spec :
    Meets Effectors.brightnessUserTookOver c (only [.query]) fun _ c' => c' = c := by
  simp only [Effectors.brightnessUserTookOver, meets_bind, meets_get]
  cases c.brightness.brightnessSet with
  | none => simp
  | some set =>
    refine (brightnessRead_spec c).bind ?_
    rintro cur c rfl
    cases cur <;> simp

/-- The level is written. -/
theorem brightnessWrite_spec (value : Nat) :
    Meets (fx.brightnessWrite value) c (only [.light]) fun _ c' => onlyBrightness c c' := by
  simp only [Effectors.brightnessWrite, meets_bind, meets_get]
  cases c.brightness.brightnessDev with
  | none => exact ⟨c.brightness, rfl⟩
  | some dev =>
    simp [only]

/-- To yield forgets what was saved. -/
theorem brightnessYield_spec :
    Meets Effectors.brightnessYield c (only [.query]) fun _ c' => onlyBrightness c c' := by
  simp only [Effectors.brightnessYield, meets_bind, meets_modify]
  refine (brightnessRead_spec _).imp ?_
  rintro cur c rfl
  simp

/-- A cap reads the level and writes it. -/
theorem brightnessLimit_spec (save : Bool) (den : Nat) :
    Meets (fx.brightnessLimit save den) c (only [.query, .light])
      fun _ c' => onlyBrightness c c' := by
  refine (weaken (brightnessUserTookOver_spec c) (by simp)).bind ?_
  rintro tookOver c rfl
  rw [meets_ite]
  refine ⟨fun _ => weaken (brightnessYield_spec c) (by simp), fun _ => ?_⟩
  refine (weaken (brightnessRead_spec c) (by simp)).bind ?_
  rintro cur c rfl
  cases cur with
  | none => simp
  | some cur =>
    simp only [meets_bind, meets_get, meets_when, meets_modify]
    refine ⟨fun _ => ⟨fun _ => ?_, fun _ => by simp⟩, fun _ => ⟨fun _ => ?_, fun _ => by simp⟩⟩
    all_goals
      refine (weaken (brightnessWrite_spec fx _ _) (by simp)).imp ?_
      rintro _ _ ⟨b, rfl⟩
      simp

/-- So does a restore. -/
theorem brightnessRestore_spec :
    Meets fx.brightnessRestore c (only [.query, .light]) fun _ c' => onlyBrightness c c' := by
  simp only [Effectors.brightnessRestore, meets_bind, meets_get]
  cases c.brightness.brightnessSaved with
  | none => simp
  | some saved =>
    simp only [meets_bind, meets_set]
    refine (weaken (brightnessUserTookOver_spec _) (by simp)).imp ?_
    rintro tookOver c rfl
    rw [meets_ite]
    refine ⟨fun _ => ?_, fun _ => ?_⟩
    · refine (weaken (brightnessRead_spec _) (by simp)).bind ?_
      rintro cur c rfl
      simp
    · refine (weaken (brightnessWrite_spec fx _ _) (by simp)).imp ?_
      rintro _ _ ⟨b, rfl⟩
      simp

/-- After a resume the level is read again. -/
theorem brightnessRearm_spec :
    Meets Effectors.brightnessRearm c (only [.query]) fun _ c' => onlyBrightness c c' := by
  simp only [Effectors.brightnessRearm, meets_bind, meets_get, meets_when]
  refine ⟨fun _ => ?_, fun _ => by simp⟩
  refine (brightnessRead_spec _).imp ?_
  rintro cur c rfl
  simp

/-! ## The policy checks -/

/-- The override's expiry touches its file, and tells the user. -/
theorem powerOverrideStep_spec (base : BaseState) :
    Meets (fx.powerOverrideStep base) c (only [.powerOverride, .command])
      fun _ c' => onlyPower c c' := by
  simp only [Effectors.powerOverrideStep, meets_bind, meets_get]
  split
  · simp
  · simp
  · rw [meets_when]
    refine ⟨fun _ => ?_, fun _ => by simp⟩
    refine (weaken (clearPowerOverride_spec fx c) (by simp)).bind ?_
    rintro _ _ ⟨p, rfl⟩
    refine (weaken (notifyPower_spec fx _ _) (by simp)).imp ?_
    rintro _ _ rfl
    simp

/-- An edge of the AC axis reads the level and writes it. -/
theorem brightnessEdge_spec (prev base : BaseState) :
    Meets (fx.brightnessEdge prev base) c (only [.query, .light])
      fun _ c' => onlyBrightness c c' := by
  have step : ∀ {x : Daemon Unit} (p : Bool),
      (∀ c, Meets x c (only [.query, .light]) fun _ c' => onlyBrightness c c') → ∀ c,
      Meets (when p x) c (only [.query, .light]) fun _ c' => onlyBrightness c c' := by
    intro x p hx c
    rw [meets_when]
    exact ⟨fun _ => hx c, fun _ => by simp⟩
  rw [Effectors.brightnessEdge]
  refine step _ (fun c => ?_) c
  refine (step _ (fun c => brightnessLimit_spec fx c true 2) c).bind ?_
  rintro _ _ ⟨b, rfl⟩
  refine (step _ (fun c => brightnessLimit_spec fx c false 4) _).bind ?_
  rintro _ _ ⟨b', rfl⟩
  refine (step _ (fun c => brightnessRestore_spec fx c) _).imp ?_
  rintro _ _ ⟨b'', rfl⟩
  simp

/-- The power policy check changes the power and the brightness records, whatever it is answered. -/
theorem powerPolicyCheck_spec :
    Meets fx.powerPolicyCheck c (only [.query, .light, .powerd, .powerOverride, .command])
      fun _ c' => ∃ p b, c' = { c with power := p, brightness := b } := by
  simp only [Effectors.powerPolicyCheck, meets_bind, meets_get]
  refine (weaken (powerOverrideStep_spec fx c _) (by simp)).imp ?_
  rintro _ _ ⟨p, rfl⟩
  refine (weaken (applyPowerProfile_spec fx _ _) (by simp)).imp ?_
  rintro _ _ ⟨p', rfl⟩
  simp only [meets_set]
  split
  · exact ⟨_, c.brightness, rfl⟩
  · refine (weaken (brightnessEdge_spec fx _ _ _) (by simp)).imp ?_
    rintro _ _ ⟨b, rfl⟩
    exact ⟨_, b, rfl⟩

/-- A sample reads the light and the LED. -/
theorem kbdSample_spec :
    Meets Effectors.kbdSample c (only [.query]) fun _ c' => onlyKbd c c' := by
  simp only [Effectors.kbdSample, meets_bind, meets_get]
  cases c.kbd.kbdAls with
  | none => simp
  | some als =>
    simp only [meets_bind, meets_ask]
    refine ⟨by simp [only], fun lux => ?_⟩
    cases lux <;> simp

/-- The LED is written. -/
theorem kbdSet_spec (pct : Nat) :
    Meets (fx.kbdSet pct) c (only [.light]) fun _ c' => onlyKbd c c' := by
  simp only [Effectors.kbdSet, meets_bind, meets_get]
  cases c.kbd.kbdLed with
  | none => simp
  | some led => simp [only]

/-- The status file is written. -/
theorem kbdWriteStatus_spec (lit : Bool) :
    Meets (fx.kbdWriteStatus lit) c (only [.file]) fun _ c' => c' = c := by
  simp [Effectors.kbdWriteStatus, only]

/-- The keyboard policy check never arms or releases the override. -/
theorem kbdPolicyCheck_spec (sample : Bool) :
    Meets (fx.kbdPolicyCheck sample) c (only [.query, .light, .file])
      fun _ c' => onlyKbd c c' := by
  simp only [Effectors.kbdPolicyCheck, meets_bind, meets_get, meets_when]
  have hrest : ∀ k : KbdContext, ∀ lit : Bool, ∀ pct : Nat,
      Meets (do fx.kbdSet pct; fx.kbdWriteStatus lit) { c with kbd := k }
        (only [.query, .light, .file]) fun _ c' => onlyKbd c c' := by
    intro k lit pct
    refine (weaken (kbdSet_spec fx _ pct) (by simp)).bind ?_
    rintro _ _ ⟨k', rfl⟩
    refine (weaken (kbdWriteStatus_spec fx _ lit) (by simp)).imp ?_
    rintro _ _ rfl
    simp
  refine ⟨fun _ => ⟨fun _ => ?_, fun _ => ?_⟩, fun _ => by simp⟩
  · refine (weaken (kbdSample_spec c) (by simp)).imp ?_
    rintro _ _ ⟨k, rfl⟩
    simpa using hrest k _ _
  · simpa using hrest c.kbd _ _

/-- The override's file is removed. -/
theorem kbdReleaseOverride_spec :
    Meets fx.kbdReleaseOverride c (only [.kbdOverride]) fun _ c' => onlyKbd c c' := by
  simp [Effectors.kbdReleaseOverride, only]

/-- The cards in use are read. -/
theorem resolveGpuActual_spec :
    Meets Effectors.resolveGpuActual c (only [.query]) fun _ c' => onlyGpu c c' := by
  simp only [Effectors.resolveGpuActual, meets_bind, meets_ask]
  refine ⟨by simp [only], fun devices => ?_⟩
  split
  · simp
  · simp [only]
  · simp

/-- The mode is read. -/
theorem resolveSessionGpuMode_spec (profileGpu : GpuPref) :
    Meets (Effectors.resolveSessionGpuMode profileGpu) c (only [.query]) fun _ c' => c' = c := by
  simp [Effectors.resolveSessionGpuMode, only]

/-- A notice reads the clock, and is a command. -/
theorem notifyDrift_spec (trigger : String) (desired : List String) (reason : String) :
    Meets (fx.notifyDrift trigger desired reason) c (only [.query, .command])
      fun _ c' => onlyGpu c c' := by
  simp [Effectors.notifyDrift, Effectors.notifyGpuDrift, Effectors.sendCmd, only]

/-- The drift check reads, and may tell the user. -/
theorem checkAndNotifyDrift_spec (trigger : String) (mode : GpuMode) (source : GpuModeSource) :
    Meets (fx.checkAndNotifyDrift trigger mode source) c (only [.query, .command])
      fun _ c' => onlyGpu c c' := by
  have hresolve : Meets (when c.gpu.gpuActualPending Effectors.resolveGpuActual) c
      (only [.query, .command]) fun _ c' => onlyGpu c c' := by
    rw [meets_when]
    exact ⟨fun _ => weaken (resolveGpuActual_spec c) (by simp), fun _ => ⟨c.gpu, rfl⟩⟩
  rw [Effectors.checkAndNotifyDrift, meets_bind, meets_get]
  refine hresolve.bind ?_
  rintro _ _ ⟨g, rfl⟩
  rw [meets_bind, meets_get]
  split
  · rw [meets_bind, meets_ask]
    refine ⟨by simp [only], fun snap => ?_⟩
    split
    · simp
    · rw [meets_ite]
      refine ⟨fun _ => by simp, fun _ => (notifyDrift_spec fx _ _ _ _).imp ?_⟩
      rintro _ _ ⟨g', rfl⟩
      simp
  · simp

/-- So does the whole check. -/
theorem gpuDriftCheck_spec (trigger : String) (profileGpu : GpuPref) :
    Meets (fx.gpuDriftCheck trigger profileGpu) c (only [.query, .command])
      fun _ c' => onlyGpu c c' := by
  refine (weaken (resolveSessionGpuMode_spec c profileGpu) (by simp)).bind ?_
  rintro mode c rfl
  refine (checkAndNotifyDrift_spec fx c _ _ _).bind ?_
  rintro _ c' hc
  exact hc

/-- The pin goes to powerd. -/
theorem syncDgpuPin_spec (awake : Bool) :
    Meets (fx.syncDgpuPin awake) c (only [.powerd])
      fun _ c' => ∃ g p, c' = { c with gpu := g, power := p } := by
  simp only [Effectors.syncDgpuPin, Effectors.powerdUnavailable, meets_bind, meets_get, meets_when,
    meets_ite, meets_pure, meets_ask, meets_modify]
  refine ⟨fun _ => ⟨fun _ => ⟨fun _ => ⟨_, c.power, rfl⟩, fun _ => ⟨c.gpu, _, rfl⟩⟩,
    fun _ => ⟨by simp [only], fun _ => ⟨fun _ => ⟨_, c.power, rfl⟩,
      fun _ => ⟨c.gpu, _, rfl⟩⟩⟩⟩, fun _ => ⟨c.gpu, c.power, rfl⟩⟩

/-- The match is read. -/
theorem currentMatch_spec : Meets Effectors.currentMatch c (only [.query]) fun _ c' => c' = c := by
  simp [Effectors.currentMatch, Hyprctl.monitorSignature, only]

/-- The GPU's part of a turn reads, tells the user and calls powerd. -/
theorem gpuCheck_spec (trigger : String) (chosen : Option MonitorProfile) :
    Meets (fx.gpuCheck trigger chosen) c (only [.query, .command, .powerd])
      fun _ c' => ∃ g p, c' = { c with gpu := g, power := p } := by
  refine (weaken (gpuDriftCheck_spec fx c _ _) (by simp)).bind ?_
  rintro mode _ ⟨g, rfl⟩
  refine (weaken (syncDgpuPin_spec fx _ _) (by simp)).imp ?_
  rintro _ _ ⟨g', p, rfl⟩
  exact ⟨g', p, rfl⟩

/-- The backlight is looked up. -/
theorem discoverBacklight_spec :
    Meets Effectors.discoverBacklight c (only [.query]) fun _ c' => onlyBrightness c c' := by
  simp [Effectors.discoverBacklight, only]

/-- So are the LED and the light sensor. -/
theorem discoverKbd_spec :
    Meets Effectors.discoverKbd c (only [.query]) fun _ c' => onlyKbd c c' := by
  have hrest : ∀ (led : Option (String × Nat)) (k : KbdContext), Meets (do
      let als ← request .findAls
      modify fun c => { c with kbd := { c.kbd with kbdLed := led, kbdAls := als } })
      { c with kbd := k } (only [.query]) fun _ c' => onlyKbd c c' := by
    intro led k
    simp [only]
  simp only [Effectors.discoverKbd]
  rw [meets_bind, meets_ask]
  refine ⟨by simp [only], fun led => ?_⟩
  rw [meets_bind, meets_get, meets_bind, meets_when]
  refine ⟨fun _ => ?_, fun _ => hrest led c.kbd⟩
  cases led with
  | none => exact hrest none _
  | some led => exact ⟨by simp [only], fun raw => hrest (some led) _⟩

/-- The breadcrumb is written or removed. -/
theorem writeGpuBreadcrumb_spec (value : Option GpuPref) :
    Meets (fx.writeGpuBreadcrumb value) c (only [.query, .file]) fun _ c' => c' = c := by
  simp only [Effectors.writeGpuBreadcrumb, meets_when]
  refine ⟨fun _ => ?_, fun _ => by simp⟩
  split <;> simp [only]

/-- The bar is signalled. -/
theorem syncWaybar_spec :
    Meets fx.syncWaybar c (only [.command]) fun _ c' => ∃ v, c' = { c with waybarView := v } := by
  simp only [Effectors.syncWaybar, meets_bind, meets_get, meets_when, meets_set, meets_ask]
  exact ⟨fun _ => ⟨fun _ => ⟨by simp [only], fun _ => ⟨_, rfl⟩⟩, fun _ => ⟨_, rfl⟩⟩,
    fun _ => ⟨c.waybarView, rfl⟩⟩

/-! ## Timers and profiles -/

/-- A task is aborted where there is one. -/
theorem cancelTask_spec (task : Context → Option Handle) (clear : Context → Context) :
    Meets (cancelTask task clear) c
      (fun c' e => c' = clear c ∧ ∃ h, task c = some h ∧ e = .abort h)
      fun _ c' => c' = if (task c).isSome then clear c else c := by
  simp only [cancelTask, meets_bind, meets_get]
  cases h : task c with
  | none => simp
  | some t => simp

/-- So is the grace timer. -/
theorem cancelGraceTimer_spec :
    Meets Effectors.cancelGraceTimer c (only [.abort]) fun _ c' =>
      c' = { c with graceTimer := none } := by
  refine (cancelTask_spec c _ _).mono ?_ ?_
  · rintro _ _ ⟨-, h, -, rfl⟩
    simp [only]
  · rintro _ _ rfl
    cases c with
    | mk => split <;> simp_all

/-- And the watch on a claim. -/
theorem cancelClaimWatch_spec :
    Meets Effectors.cancelClaimWatch c (only [.abort]) fun _ c' =>
      c' = { c with claimWatch := none } := by
  refine (cancelTask_spec c _ _).mono ?_ ?_
  · rintro _ _ ⟨-, h, -, rfl⟩
    simp [only]
  · rintro _ _ rfl
    cases c with
    | mk => split <;> simp_all

/-- Whether a task is done is read. -/
theorem taskLive_spec (task : Context → Option Handle) :
    Meets (taskLive task) c (only [.query]) fun _ c' => c' = c := by
  simp only [taskLive, meets_bind, meets_get]
  cases task c <;> simp [only]

/-- The grace timer is armed anew, or left. -/
theorem startGraceTimer_spec (fresh : Bool) :
    Meets (Effectors.startGraceTimer fresh) c (only [.query, .abort, .graceTimer])
      fun _ c' => ∃ t, c' = { c with graceTimer := t } := by
  have hlive : Meets (if fresh then pure false else taskLive Context.graceTimer : Daemon Bool) c
      (only [.query, .abort, .graceTimer]) fun _ c' => c' = c := by
    rw [meets_ite]
    exact ⟨fun _ => by simp, fun _ => weaken (taskLive_spec c _) (by simp)⟩
  refine hlive.bind ?_
  rintro live c rfl
  rw [meets_when]
  refine ⟨fun _ => ?_, fun _ => ⟨c.graceTimer, rfl⟩⟩
  refine (weaken (cancelGraceTimer_spec c) (by simp)).bind ?_
  rintro _ _ rfl
  simp only [meets_bind, meets_get, meets_ask, meets_modify]
  exact ⟨by simp [only], fun h => ⟨some h, rfl⟩⟩

/-- The watch is started or stopped with the state. -/
theorem enterClaimWatch_spec (state : State) :
    Meets (Effectors.enterClaimWatch state) c (only [.query, .abort, .timer])
      fun _ c' => ∃ w, c' = { c with claimWatch := w } := by
  simp only [Effectors.enterClaimWatch, meets_bind, meets_get, meets_ite]
  refine ⟨fun _ => ?_, fun _ => ?_⟩
  · refine (weaken (taskLive_spec c _) (by simp)).bind ?_
    rintro live c rfl
    simp only [meets_when, meets_bind, meets_ask, meets_modify]
    exact ⟨fun _ => ⟨by simp [only], fun h => ⟨some h, rfl⟩⟩, fun _ => ⟨c.claimWatch, rfl⟩⟩
  · refine (weaken (cancelClaimWatch_spec c) (by simp)).imp ?_
    rintro _ _ rfl
    exact ⟨none, rfl⟩

/-- Aborting a debounce timer. -/
theorem cancelDebounce_spec (task : Context → Option Handle) (clear : Context → Context) :
    Meets (cancelTask task clear) c (only [.abort, .timer])
      fun _ c' => c' = clear c ∨ c' = c := by
  refine (cancelTask_spec c task clear).mono ?_ ?_
  · rintro _ _ ⟨-, h, -, rfl⟩
    simp [only]
  · rintro _ _ rfl
    split
    · exact .inl rfl
    · exact .inr rfl

/-- The debounce of the monitors is armed anew. -/
theorem scheduleProfileReconcile_spec :
    Meets Effectors.scheduleProfileReconcile c (only [.abort, .timer])
      fun _ c' => ∃ t, c' = { c with profileDebounce := t } := by
  refine (cancelDebounce_spec c _ _).bind ?_
  rintro _ c' h
  simp only [meets_bind, meets_ask, meets_modify]
  refine ⟨by simp [only], fun t => ⟨some t, ?_⟩⟩
  rcases h with rfl | rfl <;> rfl

/-- So is that of the AC state. -/
theorem schedulePowerSettle_spec :
    Meets Effectors.schedulePowerSettle c (only [.abort, .timer])
      fun _ c' => ∃ t, c' = { c with powerDebounce := t } := by
  refine (cancelDebounce_spec c _ _).bind ?_
  rintro _ c' h
  simp only [meets_bind, meets_ask, meets_modify]
  refine ⟨by simp [only], fun t => ⟨some t, ?_⟩⟩
  rcases h with rfl | rfl <;> rfl

/-- Only what a monitor profile sets changes. -/
def onlyProfile (c c' : Context) : Prop :=
  ∃ n r e, c' = { c with currentProfile := n, activeProfileRev := r, edpPolicy := e }

/-- Nothing changed. -/
theorem onlyProfile_self : onlyProfile c c :=
  ⟨c.currentProfile, c.activeProfileRev, c.edpPolicy, rfl⟩

/-- The commands of a profile: to apply it, and to run its hooks. -/
theorem profileCmds_spec (profile : MonitorProfile) :
    Meets (when (!fx.shadow) (do
      fx.sendCmd .applyProfile
      profile.hooks.forM fun hook => fx.sendCmd (.runHook hook)) : Daemon Unit) c
      (fun _ e => e = .trySend .applyProfile ∨ ∃ hook, e = .trySend (.runHook hook))
      fun _ c' => c' = c := by
  rw [meets_when]
  refine ⟨fun _ => ?_, fun _ => rfl⟩
  refine ((sendCmd_spec fx c _).mono (fun _ _ h => .inl h.2.1) fun _ _ => id).bind ?_
  rintro _ c rfl
  refine meets_forM (I := fun c' => c' = c) ?_ _ _ rfl
  rintro hook c rfl
  exact (sendCmd_spec fx c _).mono (fun _ _ h => .inr ⟨hook, h.2.1⟩) fun _ _ => id

/-- An apply moves the link, queues the command and the hooks. -/
theorem applyProfile_spec (profile : MonitorProfile) :
    Meets (fx.applyProfile profile) c (only [.query, .file, .profile, .command])
      fun _ c' => onlyProfile c c' := by
  simp only [Effectors.applyProfile]
  rw [meets_bind, meets_ask]
  refine ⟨by simp [only], fun symlinkOk => ?_⟩
  rw [meets_bind, meets_get, meets_when]
  refine ⟨fun _ => ?_, fun _ => onlyProfile_self c⟩
  have hlink : Meets (if fx.shadow then pure true else request (.repointActive profile.name) :
      Daemon Bool) c (only [.query, .file, .profile, .command]) fun _ c' => c' = c := by
    simp [only]
  refine hlink.bind ?_
  rintro repointed c rfl
  rw [meets_when]
  refine ⟨fun _ => ?_, fun _ => onlyProfile_self c⟩
  rw [meets_bind, meets_modify]
  refine (profileCmds_spec fx _ profile).mono ?_ ?_
  · rintro _ _ (rfl | ⟨hook, rfl⟩)
    · simp [only]
    · simp [only]
  · rintro _ _ rfl
    exact ⟨_, _, _, rfl⟩

/-- The link is read, and the profiles. -/
theorem ingestActiveProfile_spec :
    Meets Effectors.ingestActiveProfile c (only [.query]) fun _ c' => onlyProfile c c' := by
  simp only [Effectors.ingestActiveProfile]
  rw [meets_bind, meets_ask]
  refine ⟨by simp [only], fun active => ?_⟩
  cases active with
  | none => exact onlyProfile_self c
  | some name =>
    dsimp only
    rw [meets_bind, meets_get, meets_ite]
    refine ⟨fun _ => onlyProfile_self c, fun _ => ?_⟩
    rw [meets_bind, meets_ask]
    exact ⟨by simp [only], fun profiles => ⟨_, _, _, rfl⟩⟩

end

end Hyprstate
