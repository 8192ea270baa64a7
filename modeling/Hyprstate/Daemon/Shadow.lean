import Hyprstate.Daemon.Run
import Hyprstate.Reactive.Mute

/-!
# Shadow mode

In shadow mode the effectors log what they would do. `Eff.shadowed` says which requests they keep
back and what they go on with in place of an answer; a request file on the daemon's own behalf
counts as never written. Each piece of the dispatcher in shadow mode is the live piece with these
requests cut, so the shadow daemon decides as a live one does whose effects were all answered so
(`run_shadow_iff`), and it touches nothing.

The setup is an exception: there the leftover request file is removed in shadow mode too. Loading
the profiles is a read here, in both modes.
-/

namespace Hyprstate

open Reactive Process

/-- What a request that acts on the machine is taken to be answered in shadow mode; `none` for the
other requests, which it makes. The start clears the request file all the same. -/
def Eff.shadowed (start : Bool) : (e : Eff) → Option e.Ans
  | hyprctlOk _ | inhibitLidSwitch | suspend | setBrightness _ _ _ => some true
  | powerdApplyProfile _ | powerdSetDgpuAwake _ => some true
  | powerOverrideWrite _ | powerOverrideRemove | kbdOverrideRemove => some true
  | edpMarkerWrite | edpMarkerRemove | repointActive _ => some true
  | gpuBreadcrumbRemove | gpuBreadcrumbWrite _ | trySend _ => some true
  | suspendRequestWrite _ | gpuBreadcrumbExists => some false
  | suspendRequestRemove => if start then none else some false
  | suspendRequestRead => some none
  | lock | kbdStatusWrite _ | playerctlPause | notifySend _ _ _ | spawnHook _
  | signalWaybar => some ()
  | _ => none

section

variable (session start : Bool)

/-- The process without the effects. -/
abbrev unseen {α : Type} (x : Daemon α) : Daemon α := mute (Eff.shadowed start) x

/-- The process makes no request that shadow mode keeps back. -/
abbrev Inert {α : Type} (x : Daemon α) : Prop := Avoids (fun e => e.shadowed start ≠ none) x

/-- The shadow piece is the live piece without the effects. -/
abbrev Shadows {α : Type} (x : Effectors → Daemon α) : Prop :=
  x ⟨true, session⟩ = unseen start (x ⟨false, session⟩)

variable {session start}

/-- A request that shadow mode lets through is inert. -/
theorem inert_request {e : Eff} (he : e.shadowed start = none) : Inert start (request e) :=
  .ask (not_not.mpr he)

namespace Shadows

/-- What never looks at the mode and makes inert requests only is its own shadow. -/
theorem of_inert {α : Type} {x : Daemon α} (hx : Inert start x) :
    Shadows session start fun _ => x :=
  (mute_of_avoids hx).symm

/-- Shadows compose, whatever the first part answers. -/
theorem bind {α β : Type} {x : Effectors → Daemon α} {f : Effectors → α → Daemon β}
    (hx : Shadows session start x) (hf : ∀ a, Shadows session start fun fx => f fx a) :
    Shadows session start fun fx => x fx >>= f fx := by
  rw [Shadows, unseen, mute_bind]
  exact congrArg₂ _ hx (funext hf)

/-- To read the context keeps a shadow. -/
theorem get_bind {α : Type} {f : Effectors → Context → Daemon α}
    (hf : ∀ c, Shadows session start fun fx => f fx c) :
    Shadows session start fun fx => get >>= f fx :=
  bind rfl hf

/-- To change the context keeps a shadow: both modes change it alike. -/
theorem modify_bind {α : Type} {g : Context → Context} {f : Effectors → PUnit → Daemon α}
    (hf : Shadows session start fun fx => f fx ⟨⟩) :
    Shadows session start fun fx => modify g >>= f fx :=
  bind rfl fun _ => hf

/-- A shadow under a condition is a shadow. -/
theorem when {x : Effectors → Daemon Unit} (p : Bool) (hx : Shadows session start x) :
    Shadows session start fun fx => Process.when p (x fx) := by
  rw [Shadows, unseen, mute_when]
  exact congrArg _ hx

/-- A condition on the session alone. -/
theorem when_session {x : Effectors → Daemon Unit} (p : Bool → Bool)
    (hx : Shadows session start x) :
    Shadows session start fun fx => Process.when (p fx.session) (x fx) :=
  when (p session) hx

/-- So is a choice between two. -/
theorem ite {α : Type} {p : Prop} [Decidable p] {x y : Effectors → Daemon α}
    (hx : Shadows session start x) (hy : Shadows session start y) :
    Shadows session start fun fx => if p then x fx else y fx := by
  by_cases h : p
  · simpa only [h, if_true] using hx
  · simpa only [h, if_false] using hy

/-- A piece that acts in live mode only. -/
theorem guarded {x : Daemon Unit} (hx : unseen start x = pure ()) :
    Shadows session start fun fx => Process.when (!fx.shadow) x := by
  rw [Shadows, unseen, mute_when]
  exact hx.symm

/-- A request that shadow mode takes to be answered. -/
theorem assumed {e : Eff} {b : e.Ans} (he : e.shadowed start = some b) :
    Shadows session start fun fx => if fx.shadow then pure b else request e := by
  rw [Shadows, unseen, mute_ite]
  exact (mute_ask_of_some he).symm

end Shadows

/-! ## What acts on nothing -/

/-- To abort a task is inert. -/
theorem inert_cancelTask (task : Context → Option Handle) (clear : Context → Context) :
    Inert start (cancelTask task clear) := by
  rw [cancelTask]
  refine .get_bind fun c => ?_
  cases task c with
  | none => exact .pure _
  | some h => exact Avoids.set_bind (inert_request rfl)

/-- To ask whether a task runs is inert. -/
theorem inert_taskLive (task : Context → Option Handle) : Inert start (taskLive task) := by
  rw [taskLive]
  refine .get_bind fun c => ?_
  cases task c with
  | none => exact .pure _
  | some h => exact .bind (inert_request rfl) fun _ => .pure _

/-- The grace timer is armed in shadow mode too. -/
theorem inert_startGraceTimer (fresh : Bool) : Inert start (Effectors.startGraceTimer fresh) := by
  rw [Effectors.startGraceTimer]
  refine .bind (.ite (.pure _) (inert_taskLive _)) fun live => .when _ ?_
  refine .bind (inert_cancelTask _ _) fun _ => .get_bind fun c => ?_
  exact .bind (inert_request rfl) fun h => .modify fun _ => rfl

/-- So is the watch of the claim. -/
theorem inert_enterClaimWatch (state : State) : Inert start (Effectors.enterClaimWatch state) := by
  have hwatch : Inert start Effectors.startClaimWatch := by
    rw [Effectors.startClaimWatch]
    refine .bind (inert_taskLive _) fun live => .when _ (.bind (inert_request rfl) fun h => ?_)
    exact .modify fun _ => rfl
  exact .get_bind fun c => .ite hwatch (inert_cancelTask _ _)

/-- So is a debounce. -/
theorem inert_debounce (task : Context → Option Handle) (clear : Context → Context)
    (keep : Handle → Context → Context) (delay : Nat) (ev : Event) : Inert start (do
      cancelTask task clear
      let h ← request (.spawnTimer delay ev)
      modify (keep h)) :=
  .bind (inert_cancelTask _ _) fun _ => .bind (inert_request rfl) fun _ => .modify fun _ => rfl

/-- The look at the windows is a query. -/
theorem inert_waylandIdleInhibited : Inert start Hyprctl.waylandIdleInhibited :=
  .bind (inert_request rfl) fun _ => .pure _

/-- So is the refresh of the claim. -/
theorem inert_refreshWaylandClaim : Inert start Effectors.refreshWaylandClaim := by
  rw [Effectors.refreshWaylandClaim]
  refine .bind inert_waylandIdleInhibited fun held => ?_
  cases held with
  | none => exact .pure _
  | some held => exact .modify fun _ => rfl

/-- So is the match of the profiles. -/
theorem inert_currentMatch : Inert start Effectors.currentMatch := by
  rw [Effectors.currentMatch]
  refine .bind (.bind (inert_request rfl) fun _ => .pure _) fun signature => ?_
  exact .bind (inert_request rfl) fun profiles => .bind (inert_request rfl) fun _ => .pure _

/-- So is the active profile's link. -/
theorem inert_ingestActiveProfile : Inert start Effectors.ingestActiveProfile := by
  rw [Effectors.ingestActiveProfile]
  refine .bind (inert_request rfl) fun active => ?_
  cases active with
  | none => exact .pure _
  | some name =>
    refine .get_bind fun c => .ite (.pure _) (.bind (inert_request rfl) fun profiles => ?_)
    exact .modify_bind (fun _ => rfl) (.pure _)

/-- So is the level of the backlight. -/
theorem inert_brightnessRead : Inert start Effectors.brightnessRead := by
  rw [Effectors.brightnessRead]
  refine .get_bind fun c => ?_
  cases c.brightness.brightnessDev with
  | none => exact .pure _
  | some dev => exact inert_request rfl

/-- So is the question whether the user took over. -/
theorem inert_brightnessUserTookOver : Inert start Effectors.brightnessUserTookOver := by
  rw [Effectors.brightnessUserTookOver]
  refine .get_bind fun c => ?_
  cases c.brightness.brightnessSet with
  | none => exact .pure _
  | some set =>
    refine .bind inert_brightnessRead fun cur => ?_
    cases cur with
    | none => exact .pure _
    | some cur => exact .pure _

/-- So is the sample of the keys. -/
theorem inert_kbdSample : Inert start Effectors.kbdSample := by
  rw [Effectors.kbdSample]
  refine .get_bind fun c => ?_
  cases c.kbd.kbdAls with
  | none => exact .pure _
  | some als =>
    refine .bind (inert_request rfl) fun lux => ?_
    cases lux with
    | none => exact .pure _
    | some lux => exact fun _ => rfl

/-- So is the mode the session runs in. -/
theorem inert_resolveGpuActual : Inert start Effectors.resolveGpuActual := by
  rw [Effectors.resolveGpuActual]
  refine .bind (inert_request rfl) fun devices => ?_
  cases devices with
  | none => exact .pure _
  | some devices =>
    cases devices with
    | nil => exact .bind (inert_request rfl) fun reason => .modify fun _ => rfl
    | cons d ds => exact .modify fun _ => rfl

/-- So is the discovery of the backlight. -/
theorem inert_discoverBacklight : Inert start Effectors.discoverBacklight := by
  rw [Effectors.discoverBacklight]
  exact .bind (inert_request rfl) fun found => .get_bind fun c => .when _ fun _ => rfl

/-- So is that of the keys' light. -/
theorem inert_discoverKbd : Inert start Effectors.discoverKbd := by
  rw [Effectors.discoverKbd]
  refine .bind (inert_request rfl) fun led => .get_bind fun c => .bind (.when _ ?_) fun _ => ?_
  · cases led with
    | none => exact .modify fun _ => rfl
    | some led => exact .bind (inert_request rfl) fun raw => .modify fun _ => rfl
  · exact .bind (inert_request rfl) fun als => .modify fun _ => rfl

/-! ## The effectors -/

/-- `send_cmd` queues nothing in shadow mode. -/
theorem sendCmd_shadow (cmd : Cmd) : Shadows session start fun fx => fx.sendCmd cmd :=
  .guarded rfl

/-- `set_edp` leaves the panel. -/
theorem setEdp_shadow (on : Bool) : Shadows session start fun fx => fx.setEdp on :=
  .get_bind fun _ => .when _ (sendCmd_shadow _)

/-- `apply_profile` records the profile and hands nothing over. -/
theorem applyProfile_shadow (profile : MonitorProfile) :
    Shadows session start fun fx => fx.applyProfile profile := by
  have hhooks : unseen start (do
      (⟨false, session⟩ : Effectors).sendCmd .applyProfile
      profile.hooks.forM fun hook => (⟨false, session⟩ : Effectors).sendCmd (.runHook hook)) =
        pure () := by
    have hsilent : ∀ hooks : List String,
        (hooks.forM fun _ => (pure () : Daemon PUnit)) = pure () := by
      intro hooks
      induction hooks with
      | nil => rfl
      | cons hook hooks ih => exact ih
    rw [unseen, mute_bind, mute_forM]
    exact hsilent profile.hooks
  refine .bind (.of_inert (inert_request rfl)) fun symlinkOk => .get_bind fun c => .when _ ?_
  refine .bind (.assumed rfl) fun repointed => .when _ (.modify_bind ?_)
  rw [Shadows, unseen, mute_when, ← unseen, hhooks]
  rfl

/-- The breadcrumb is not written. -/
theorem writeGpuBreadcrumb_shadow (value : Option GpuPref) :
    Shadows session start fun fx => fx.writeGpuBreadcrumb value := by
  refine .guarded ?_
  rcases value with _ | pref
  · rfl
  · cases pref <;> rfl

/-- The bar is not signalled. -/
theorem syncWaybar_shadow : Shadows session start Effectors.syncWaybar :=
  .get_bind fun _ => .when _ (.bind rfl fun _ => .guarded rfl)

/-- Powerd is not called. -/
theorem applyPowerProfile_shadow (profile : PowerProfile) :
    Shadows session start fun fx => fx.applyPowerProfile profile := by
  refine .get_bind fun c => .when _ (.bind (.of_inert (inert_request rfl)) fun now =>
    .modify_bind ?_)
  exact .bind (.assumed rfl) fun ok => .ite rfl rfl

/-- Nor for the pin. -/
theorem syncDgpuPin_shadow (awake : Bool) : Shadows session start fun fx => fx.syncDgpuPin awake :=
  .get_bind fun _ => .when _ (.bind (.assumed rfl) fun _ => .ite rfl rfl)

/-- The request for a suspend is assumed written. -/
theorem requestSuspend_shadow : Shadows session start Effectors.requestSuspend := .assumed rfl

/-- Without the body of the file there is nothing of the daemon's own to withdraw. -/
theorem clearBatteryLowRequest_shadow : Shadows session start Effectors.clearBatteryLowRequest :=
  rfl

/-- Its removal is skipped by its guard. -/
theorem clearSuspendRequest_shadow : Shadows session false Effectors.clearSuspendRequest :=
  .guarded rfl

/-- The override's file stays. -/
theorem clearPowerOverride_shadow : Shadows session start Effectors.clearPowerOverride :=
  .modify_bind (.guarded rfl)

/-- An adopted override is not written. -/
theorem adoptPowerOverride_shadow (profile : PowerProfile) :
    Shadows session start fun fx => fx.adoptPowerOverride profile :=
  .modify_bind (.bind (.guarded rfl) fun _ => sendCmd_shadow _)

/-- The backlight is not written. -/
theorem brightnessWrite_shadow (value : Nat) :
    Shadows session start fun fx => fx.brightnessWrite value := by
  refine .get_bind fun c => ?_
  cases c.brightness.brightnessDev with
  | none => rfl
  | some dev =>
    refine .when_session (fun s => s)
      (.bind (.assumed (e := .setBrightness _ _ _) rfl) fun ok => ?_)
    exact .when ok rfl

/-- To yield to the user is a change of the context. -/
theorem inert_brightnessYield : Inert start Effectors.brightnessYield :=
  .modify_bind (fun _ => rfl) (.bind inert_brightnessRead fun _ => .modify fun _ => rfl)

/-- So the cap is recorded alone. -/
theorem brightnessLimit_shadow (save : Bool) (den : Nat) :
    Shadows session start fun fx => fx.brightnessLimit save den := by
  refine .bind (.of_inert inert_brightnessUserTookOver) fun tookOver =>
    .ite (.of_inert inert_brightnessYield) ?_
  refine .bind (.of_inert inert_brightnessRead) fun cur => ?_
  cases cur with
  | none => rfl
  | some cur =>
    refine .bind (.when _ rfl) fun _ => .get_bind fun c => ?_
    exact .when _ (brightnessWrite_shadow _)

/-- And the restore. -/
theorem brightnessRestore_shadow : Shadows session start Effectors.brightnessRestore := by
  refine .get_bind fun c => ?_
  cases c.brightness.brightnessSaved with
  | none => rfl
  | some saved =>
    refine .bind rfl fun _ => .bind (.of_inert inert_brightnessUserTookOver)
      fun tookOver => .ite ?_ ?_
    · exact .of_inert (.bind inert_brightnessRead fun _ => .modify fun _ => rfl)
    · exact brightnessWrite_shadow _

/-- The keys' light is not written. -/
theorem kbdPolicyCheck_shadow (sample : Bool) :
    Shadows session start fun fx => fx.kbdPolicyCheck sample := by
  have hset : ∀ pct, Shadows session start fun fx => fx.kbdSet pct := by
    intro pct
    refine .get_bind fun c => ?_
    cases c.kbd.kbdLed with
    | none => rfl
    | some led =>
      refine .when_session (fun s => _ && s)
        (.bind (.assumed (e := .setBrightness _ _ _) rfl) fun ok => ?_)
      exact .when ok rfl
  refine .get_bind fun c => .when _ (.bind (.when _ (.of_inert inert_kbdSample)) fun _ =>
    .get_bind fun c₁ => ?_)
  exact .bind (hset _) fun _ => .guarded rfl

/-- Nor is its override removed. -/
theorem kbdReleaseOverride_shadow : Shadows session start Effectors.kbdReleaseOverride :=
  .get_bind fun _ => .when _ (.bind rfl fun _ => .guarded rfl)

/-- The lock is asked for with a session proxy only. -/
theorem requestLock_shadow : Shadows session start Effectors.requestLock := by
  cases session <;> rfl

/-! ## The policy checks -/

/-- The power policy, of its parts. -/
theorem powerPolicyCheck_shadow : Shadows session start Effectors.powerPolicyCheck := by
  have hstep : ∀ base, Shadows session start fun fx => fx.powerOverrideStep base := by
    intro base
    refine .get_bind fun c => ?_
    cases c.power.powerOverride with
    | none => rfl
    | some p =>
      cases c.power.powerOverrideBase with
      | none => rfl
      | some stamped => exact .when _ (.bind clearPowerOverride_shadow fun _ => sendCmd_shadow _)
  have hedge : ∀ prev base, Shadows session start fun fx => fx.brightnessEdge prev base := by
    intro prev base
    refine .when _ (.bind (.when _ (brightnessLimit_shadow _ _)) fun _ => ?_)
    exact .bind (.when _ (brightnessLimit_shadow _ _)) fun _ => .when _ brightnessRestore_shadow
  refine .get_bind fun c => .bind (hstep _) fun _ => .get_bind fun c₁ => ?_
  refine .bind (applyPowerProfile_shadow _) fun _ => .get_bind fun c₂ => .bind rfl fun _ => ?_
  cases c₂.power.powerLastBase with
  | none => rfl
  | some prev => exact hedge prev _

/-- The mode of the session is read. -/
theorem inert_resolveSessionGpuMode (pref : GpuPref) :
    Inert start (Effectors.resolveSessionGpuMode pref) := by
  rw [Effectors.resolveSessionGpuMode]
  exact .bind (inert_request rfl) fun word => .bind (inert_request rfl) fun platform => .pure _

/-- The notice is not shown, and is recorded as shown. -/
theorem checkAndNotifyDrift_shadow (trigger : String) (mode : GpuMode) (source : GpuModeSource) :
    Shadows session start fun fx => fx.checkAndNotifyDrift trigger mode source := by
  have hnotify : ∀ desired reason, Shadows session start fun fx =>
      fx.notifyDrift trigger desired reason := by
    intro desired reason
    refine .get_bind fun c => .when _ (.bind (.of_inert (inert_request rfl)) fun now => .when _ ?_)
    exact .bind rfl fun _ => sendCmd_shadow _
  refine .get_bind fun c => .bind (.when _ (.of_inert inert_resolveGpuActual)) fun _ =>
    .get_bind fun c₁ => ?_
  rcases c₁.gpu.gpuActualPending with _ | _ <;> rcases c₁.gpu.gpuActual with _ | actual
  · rfl
  · refine .bind (.of_inert (inert_request rfl)) fun snap => ?_
    rcases gpuDesired snap mode source with ⟨_ | desired, reason⟩
    · rfl
    · exact .ite rfl (hnotify desired reason)
  · rfl
  · rfl

/-- The check of the GPU, of its parts. -/
theorem gpuCheck_shadow (trigger : String) (chosen : Option MonitorProfile) :
    Shadows session start fun fx => fx.gpuCheck trigger chosen := by
  refine .bind (.bind (.of_inert (inert_resolveSessionGpuMode _)) fun mode =>
    ?_) fun mode => syncDgpuPin_shadow _
  exact .bind (checkAndNotifyDrift_shadow _ _ _) fun _ => rfl

/-! ## The dispatcher -/

/-- The entry of a state, of its parts. -/
theorem onEnter_shadow (state : State) (fresh : Bool) :
    Shadows session start fun fx => fx.onEnter state fresh := by
  have hheld : Inert start Hyprctl.sessionIsLocked := .bind (inert_request rfl) fun _ => .pure _
  have hlive : Shadows session start Effectors.liveLocker := by
    have hask : Inert start (do
        let hint ← request .lockedHint
        if hint = some true then do
          let held ← Hyprctl.sessionIsLocked
          pure (decide (held = some true))
        else pure false) :=
      .bind (inert_request rfl) fun hint => .ite (.bind hheld fun _ => .pure _) (.pure _)
    cases session with
    | false => rfl
    | true => exact (mute_of_avoids hask).symm
  have hwait : Shadows session start Effectors.waitForLock := by
    refine .get_bind fun c => .bind (.ite hlive rfl) fun live => .ite rfl ?_
    exact .of_inert (inert_request rfl)
  have htail : Shadows session start Effectors.suspendingTail := by
    refine .bind hlive fun live => .bind (.ite rfl ?_) fun proven => .ite (.assumed rfl) rfl
    exact .bind requestLock_shadow fun _ => .bind hwait fun engaged => .ite hlive rfl
  refine .bind (.of_inert (inert_enterClaimWatch state)) fun _ => ?_
  have hcancel : Inert start Effectors.cancelGraceTimer := inert_cancelTask _ _
  cases state with
  | lidOpen | docked =>
    exact .bind (.of_inert hcancel) fun _ => .bind (setEdp_shadow _) fun _ => rfl
  | deferred =>
    refine .bind (.of_inert hcancel) fun _ => .bind (setEdp_shadow _) fun _ => .get_bind fun c => ?_
    exact .bind (.when _ (sendCmd_shadow _)) fun _ => rfl
  | countdown =>
    exact .bind (setEdp_shadow _) fun _ => .bind (.of_inert (inert_startGraceTimer _)) fun _ => rfl
  | suspending => exact .bind (.of_inert hcancel) fun _ => htail

/-- The check of the battery, of its parts. -/
theorem batteryLowRequestCheck_shadow : Shadows session start Effectors.batteryLowRequestCheck := by
  refine .get_bind fun c => ?_
  cases batteryLowAction c.lowBattery c.onAc c.onAcSettled c.suspendRequested with
  | request => exact .bind requestSuspend_shadow fun written => .bind (.when _ rfl) fun _ => rfl
  | withdraw =>
    exact .bind clearBatteryLowRequest_shadow fun removed => .bind (.when _ rfl) fun _ => rfl
  | hold => rfl

/-- The evaluation, of its parts. -/
theorem evaluateFsms_shadow (kind : EventKind) :
    Shadows session start fun fx => fx.evaluateFsms kind := by
  refine .get_bind fun c => ?_
  cases desiredState c.state kind c.world with
  | none => rfl
  | some new =>
    refine .when _ (.ite (.bind (onEnter_shadow _ _) fun entered => .ite rfl ?_) ?_)
    · exact .of_inert (inert_startGraceTimer _)
    · exact .modify_bind (.bind (onEnter_shadow _ _) fun _ => rfl)

/-- The arm of the monitors, of its parts. -/
theorem handleMonitorsChanged_shadow : Shadows session start Effectors.handleMonitorsChanged := by
  have hrest : ∀ chosen : Option MonitorProfile, Shadows session start (fun fx => do
      fx.writeGpuBreadcrumb (chosen.map MonitorProfile.gpu)
      fx.gpuCheck "monitors changed" chosen
      fx.powerPolicyCheck
      let c ← get
      when (!Effectors.edpShouldBeOn c && decide (c.extMonCount > 0)) fx.rehomeEdpWorkspaces) := by
    intro chosen
    refine .bind (writeGpuBreadcrumb_shadow _) fun _ => .bind (gpuCheck_shadow _ _) fun _ => ?_
    exact .bind powerPolicyCheck_shadow fun _ => .get_bind fun c => .when _ (sendCmd_shadow _)
  refine .bind (.of_inert inert_currentMatch) fun chosen => ?_
  cases chosen with
  | none => exact .modify_bind (hrest none)
  | some p => exact .bind (applyProfile_shadow p) fun _ => hrest (some p)

/-! ## A reconcile pass -/

/-- The repairs of a tick change the context alone. -/
theorem inert_repairContext (snap : ReconcileSnapshot) :
    Inert start (Effectors.repairContext snap) := by
  rw [Effectors.repairContext]
  refine .get_bind fun c => .modify_bind (fun _ => rfl)
    (.bind (inert_request rfl) fun requestNow => ?_)
  refine .modify_bind (fun _ => rfl) (.bind (.when _ (inert_debounce _ _ _ _ _)) fun _ => ?_)
  refine .modify_bind (fun _ => rfl) (.bind (.when _ (inert_request rfl)) fun _ => ?_)
  exact .modify_bind (fun _ => rfl) (.pure _)

/-- The arm of the tick, of its parts. -/
theorem handleReconcileTick_shadow (snap : ReconcileSnapshot) :
    Shadows session start fun fx => fx.handleReconcileTick snap := by
  have hdrive : ∀ fsm power, Shadows session start fun fx => fx.driveRepairs fsm power := by
    intro fsm power
    refine .bind (.when _ (.modify_bind ?_)) fun _ => .when _ (evaluateFsms_shadow _)
    exact .bind powerPolicyCheck_shadow fun _ => .bind batteryLowRequestCheck_shadow fun _ => rfl
  have henforce : Shadows session start fun fx => fx.enforceEdp snap := by
    refine .get_bind fun c => ?_
    cases snap.edpDisabled with
    | none => rfl
    | some disabled => exact .ite (setEdp_shadow _) (.when _ (setEdp_shadow _))
  have hbackstop : Shadows session start fun fx => fx.dpmsBackstop snap := by
    refine .get_bind fun c => .bind rfl fun _ => ?_
    cases snap.dpmsOff with
    | none => rfl
    | some dpmsOff => exact .when _ (sendCmd_shadow _)
  refine .bind (.of_inert (inert_repairContext snap)) fun drift => .bind (hdrive _ _) fun _ => ?_
  refine .get_bind fun c => .when _ (.bind (.of_inert inert_ingestActiveProfile) fun _ => ?_)
  exact .bind henforce fun _ => hbackstop

/-! ## One turn -/

/-- The re-assert, of its parts. -/
theorem reassert_shadow (trigger : ReconcileTrigger) :
    Shadows session start fun fx => fx.reassert trigger := by
  refine .get_bind fun c => .bind (.when _ ?_) fun _ => .of_inert (inert_request rfl)
  refine .bind (.of_inert inert_ingestActiveProfile) fun _ => .get_bind fun c₁ => ?_
  exact .bind (onEnter_shadow _ _) fun _ => rfl

/-- Every event, once the daemon has started. -/
theorem dispatchUpdate_shadow (ev : Event) :
    Shadows session false fun fx => fx.dispatchUpdate ev := by
  have hkbd : ∀ sample falls : Bool, Shadows session false (fun fx => do
      fx.kbdPolicyCheck sample
      pure falls) := fun sample falls => .bind (kbdPolicyCheck_shadow _) fun _ => rfl
  have hask : ∀ {e : Eff} {α : Type} {f : Effectors → e.Ans → Daemon α}, e.shadowed false = none →
      (∀ b, Shadows session false fun fx => f fx b) →
      Shadows session false fun fx => request e >>= f fx :=
    fun he hf => .bind (.of_inert (inert_request he)) hf
  -- Each arm is put together from its statements' shadows in the order of the source.
  cases ev with
  | configReloaded | profileApplied => exact .bind (reassert_shadow _) fun _ => rfl
  | reconcileTick snap => exact .bind (handleReconcileTick_shadow _) fun _ => rfl
  | monitorsChanged => exact .bind handleMonitorsChanged_shadow fun _ => rfl
  | profilesChanged => exact .bind (.of_inert (inert_debounce _ _ _ _ _)) fun _ => rfl
  | backlightHotplug => exact .bind (.of_inert inert_discoverBacklight) fun _ => rfl
  | sleeping | kbdLevelChanged _ | kbdOverrideChanged _ => exact .modify_bind (hkbd _ _)
  | kbdIdle idle => exact .modify_bind (.bind (.when _ kbdReleaseOverride_shadow) fun _ => hkbd _ _)
  | kbdLedHotplug => exact .bind (.of_inert inert_discoverKbd) fun _ => hkbd _ _
  | lid closed =>
    refine .get_bind fun c => .ite (.modify_bind (.bind (.when _ ?_) fun _ => rfl)) rfl
    exact .of_inert inert_refreshWaylandClaim
  | monitorHotplug added name =>
    refine .get_bind fun c => .bind ?_ fun count => .modify_bind ?_
    · exact .of_inert (.bind (inert_request rfl) fun _ => .pure _)
    · exact .bind (.of_inert (inert_debounce _ _ _ _ _)) fun _ => hask rfl fun _ => rfl
  | inhibitor wayland active => exact .modify_bind rfl
  | lockChanged locked => exact .modify_bind (hask rfl fun _ => hkbd _ _)
  | acChanged onAc =>
    refine .get_bind fun c =>
      .ite rfl (.modify_bind (.bind batteryLowRequestCheck_shadow fun _ => ?_))
    exact .bind (.of_inert (inert_debounce _ _ _ _ _)) fun _ => hask rfl fun _ => rfl
  | powerAcSettled => exact .modify_bind (.bind batteryLowRequestCheck_shadow fun _ => rfl)
  | powerOverrideChanged word =>
    refine .get_bind fun c => ?_
    cases word with
    | none => rfl
    | some w =>
      dsimp only
      cases PowerProfile.parse w with
      | none => rfl
      | some p => exact .bind (.when _ rfl) fun _ => rfl
  | batteryPercent pct =>
    refine .get_bind fun c => .bind rfl fun _ => .bind batteryLowRequestCheck_shadow
      fun changed => ?_
    exact .bind (.when _ (.of_inert (inert_request rfl))) fun _ => rfl
  | platformProfileChanged value =>
    refine hask rfl fun now => .get_bind fun c => .bind rfl fun _ => .bind (.when _ ?_) fun _ => rfl
    exact .bind (adoptPowerOverride_shadow _) fun _ => powerPolicyCheck_shadow
  | gpuOverrideChanged word => rfl
  | powerdAppeared => exact .modify_bind (.modify_bind rfl)
  | suspendRequestChanged word =>
    exact .modify_bind (.bind (.when _ (.of_inert inert_refreshWaylandClaim)) fun _ => rfl)
  | timerExpired =>
    refine .get_bind fun c => .bind (.when _ (hask rfl fun standing => ?_)) fun _ => rfl
    exact .when _ rfl
  | resumed =>
    refine .modify_bind (.bind clearSuspendRequest_shadow fun _ => hask rfl fun _ => ?_)
    exact .modify_bind (hkbd _ _)

/-- The common tail, of its parts. -/
theorem dispatchTail_shadow (ev : Event) : Shadows session start fun fx => fx.dispatchTail ev := by
  have hrearm : Inert start Effectors.brightnessRearm :=
    .get_bind fun c => .when _ (.bind inert_brightnessRead fun _ => .modify fun _ => rfl)
  refine .bind (.when _ (.of_inert hrearm)) fun _ => .bind (.when _ ?_) fun _ => ?_
  · exact .bind (.of_inert inert_currentMatch) fun chosen => gpuCheck_shadow _ _
  · exact .bind (.when _ powerPolicyCheck_shadow) fun _ => evaluateFsms_shadow _

/-- Every event's handler, of its parts. -/
theorem handle_shadow (ev : Event) : Shadows session false fun fx => fx.handle ev := by
  refine .bind (.bind (dispatchUpdate_shadow ev) fun falls => ?_) fun _ => syncWaybar_shadow
  exact .when _ (dispatchTail_shadow ev)

/-! ## The start -/

/-- The setup, where the removal of an old request is not guarded. -/
theorem setup_shadow : Shadows session true Effectors.setup := by
  have hask : ∀ {e : Eff} {α : Type} {f : Effectors → e.Ans → Daemon α}, e.shadowed true = none →
      (∀ b, Shadows session true fun fx => f fx b) →
      Shadows session true fun fx => request e >>= f fx :=
    fun he hf => .bind (.of_inert (inert_request he)) hf
  -- The seeds only ask and record, in either mode.
  have hpower : Inert true Effectors.seedPower := by
    rw [Effectors.seedPower]
    refine .bind (inert_request rfl) fun connected => .bind (.ite ?_ (.pure _)) fun _ =>
      .modify fun _ => rfl
    exact .bind (inert_request rfl) fun _ => .modify_bind (fun _ => rfl) (inert_request rfl)
  have hkbd : ∀ conf, Inert true (Effectors.seedKbd conf) := fun conf =>
    .bind (inert_request rfl) fun _ => .bind (inert_request rfl) fun _ =>
      .modify_bind (fun _ => rfl) inert_discoverKbd
  have hworld : Inert true Effectors.seedWorld := by
    rw [Effectors.seedWorld]
    refine .get_bind fun c => .bind (.ite (inert_request rfl) (.pure _)) fun closed => ?_
    refine .modify_bind (fun _ => rfl) (.bind (.bind (inert_request rfl) fun _ => .pure _)
      fun logind => ?_)
    refine .modify_bind (fun _ => rfl) (.bind inert_waylandIdleInhibited fun wayland => ?_)
    refine .modify_bind (fun _ => rfl) (.bind (.bind (inert_request rfl) fun _ => .pure _)
      fun count => ?_)
    exact .modify fun _ => rfl
  have hprofile : Inert true Effectors.seedProfile := by
    rw [Effectors.seedProfile]
    refine .bind (inert_request rfl) fun active => ?_
    cases active with
    | none => exact .pure _
    | some name =>
      refine .bind (inert_request rfl) fun profiles => ?_
      cases profiles.find? fun p => p.name == name with
      | none => exact fun _ => rfl
      | some p => exact .modify_bind (fun _ => rfl) (.modify fun _ => rfl)
  -- The one seed that may write is the check of the battery, which has its own shadow.
  have hcontext : ∀ conf, Shadows session true fun fx => fx.seedContext conf := by
    intro conf
    refine .bind (.of_inert hpower) fun _ => .bind (.of_inert inert_discoverBacklight) fun _ => ?_
    refine .bind (.of_inert (hkbd conf)) fun _ => .bind batteryLowRequestCheck_shadow fun _ => ?_
    refine .bind (.of_inert hworld) fun _ => .bind (.of_inert hprofile) fun _ =>
      hask rfl fun _ => ?_
    refine hask rfl fun word => hask rfl fun _ => .bind ?_ fun hint => .modify_bind ?_
    · cases session with
      | false => rfl
      | true => exact (mute_of_avoids (inert_request rfl)).symm
    · exact .of_inert (inert_request rfl)
  refine .bind (.of_inert ?_) fun conf => hask rfl fun _ => .get_bind fun c =>
    .bind ?_ fun held => ?_
  · exact .bind (inert_request rfl) fun conf => .modify_bind (fun _ => rfl) (.pure _)
  · cases c.lidPresent <;> rfl
  · exact .bind (.when _ (hcontext conf)) fun _ => rfl

/-- The startup, of its parts. -/
theorem startup_shadow : Shadows session start Effectors.startup := by
  refine .modify_bind (.get_bind fun c => .bind (onEnter_shadow _ _) fun _ => ?_)
  refine .bind (.of_inert inert_currentMatch) fun chosen => ?_
  refine .bind (.of_inert (inert_resolveSessionGpuMode _)) fun mode =>
    .bind (syncDgpuPin_shadow _) fun _ => ?_
  refine .bind syncWaybar_shadow fun _ => .bind (kbdPolicyCheck_shadow _) fun _ => ?_
  exact .of_inert (inert_request rfl)

end

/-! ## Whole runs -/

/-- Each effect of the trace was answered as shadow mode takes it to be. -/
abbrev Pretended (start : Bool) (tr : List DaemonObs) : Prop :=
  Program.Pretends (fun r : Context × Eff => r.2.shadowed start) tr

/-- The trace without the effects. -/
abbrev unseenTrace (start : Bool) (tr : List DaemonObs) : List DaemonObs :=
  Program.heard (fun r : Context × Eff => r.2.shadowed start) tr

/-- The runs of a shadow piece. -/
theorem Shadows.runs {session start : Bool} {α : Type} {x : Effectors → Daemon α}
    (h : Shadows session start x) {c c' : Context} {tr : List DaemonObs} {a : α} :
    Process.Runs (x ⟨true, session⟩) c tr a c' ↔
      ∃ tr', Process.Runs (x ⟨false, session⟩) c tr' a c' ∧ Pretended start tr' ∧
      unseenTrace start tr' = tr := by
  rw [show x ⟨true, session⟩ = _ from h]
  exact runs_mute

/-- The turn without the effects. -/
def Turn.unseen (t : Turn) : Turn := { t with trace := unseenTrace false t.trace }

/-- The runs of a shadow daemon are those of a live one whose effects are answered as shadow mode
takes them to be, without the effects: the events and the contexts are the same throughout. -/
theorem run_shadow_iff {session : Bool} {tr₀ : List DaemonObs} {ts : List Turn} {c : Context} :
    Run ⟨true, session⟩ tr₀ ts c ↔
      ∃ tr₀' ts', Run ⟨false, session⟩ tr₀' ts' c ∧ Pretended true tr₀' ∧
      unseenTrace true tr₀' = tr₀ ∧
        (∀ t ∈ ts', Pretended false t.trace) ∧ ts'.map Turn.unseen = ts := by
  constructor
  · intro h
    induction h with
    | start hsetup hstartup =>
      obtain ⟨tr, hruns, hans, rfl⟩ := setup_shadow.runs.mp hsetup
      have hstarts : Shadows session true Effectors.startup := startup_shadow
      obtain ⟨tr', hruns', hans', rfl⟩ := hstarts.runs.mp hstartup
      exact ⟨tr ++ tr', [], .start hruns hruns', Program.Pretends.append.mpr
        ⟨hans, hans'⟩, by simp, by simp, rfl⟩
    | turn ev _ hturn ih =>
      obtain ⟨tr₀', ts', hrun, hans₀, rfl, hans, rfl⟩ := ih
      obtain ⟨tr', hruns, hans', rfl⟩ := (handle_shadow ev).runs.mp hturn
      refine ⟨tr₀', _, .turn ev hrun hruns, hans₀, rfl, ?_, by simp [Turn.unseen]⟩
      simpa [or_imp, forall_and] using ⟨hans, hans'⟩
  · rintro ⟨tr₀', ts', hrun, hans₀, rfl, hans, rfl⟩
    induction hrun with
    | start hsetup hstartup =>
      obtain ⟨hans, hans'⟩ := Program.Pretends.append.mp hans₀
      rw [unseenTrace, Program.heard_append]
      exact .start (setup_shadow.runs.mpr ⟨_, hsetup, hans, rfl⟩)
        (startup_shadow.runs.mpr ⟨_, hstartup, hans', rfl⟩)
    | turn ev _ hturn ih =>
      rw [List.map_append, List.map_singleton]
      refine .turn ev (ih hans₀ fun t ht => hans t (List.mem_append_left _ ht)) ?_
      have hlast := hans _ (List.mem_append_right _ List.mem_cons_self)
      exact (handle_shadow ev).runs.mpr ⟨_, hturn, hlast, rfl⟩

end Hyprstate
