import Hyprstate.Daemon.Run
import Hyprstate.Daemon.Transition

/-!
# Requests that an event never makes

Most arms of the dispatch are made of a few pieces, beside requests that only read, that light, or
that keep a timer. A family of requests that these pieces avoid (`PiecesAvoid`) is avoided by the
arms, but for the monitors, a reconcile pass, the battery-low check and the request file, which an
arm may meet besides.
-/

namespace Hyprstate

open Reactive Process

/-- What an arm touches outside the pieces. -/
def plainResources : List Resource := [.query, .light, .timer, .graceTimer, .abort, .kbdOverride]

/-- The pieces, and the plain requests, avoid the family. -/
structure PiecesAvoid (fx : Effectors) (R : Eff → Prop) : Prop where
  plain : ∀ e : Eff, e.resource ∈ plainResources → ¬R e
  enter : ∀ state fresh, Avoids R (fx.onEnter state fresh)
  kbd : ∀ sample, Avoids R (fx.kbdPolicyCheck sample)
  power : Avoids R fx.powerPolicyCheck
  adopt : ∀ profile, Avoids R (fx.adoptPowerOverride profile)
  waybar : Avoids R fx.syncWaybar

/-- The pieces avoid the family and keep the view, which sees no more than the cursor of the last
pass. -/
structure PiecesLeave (fx : Effectors) (R : Eff → Prop) {V : Type} (v : Context → V) : Prop where
  view : ∀ c c' : Context, c'.lastCursorPos = c.lastCursorPos → v c' = v c
  plain : ∀ e : Eff, e.resource ∈ plainResources → ¬R e
  enter : ∀ state fresh, Leaves R v (fx.onEnter state fresh)
  kbd : ∀ sample, Leaves R v (fx.kbdPolicyCheck sample)
  power : Leaves R v fx.powerPolicyCheck
  adopt : ∀ profile, Leaves R v (fx.adoptPowerOverride profile)
  waybar : Leaves R v fx.syncWaybar

/-- Pieces that make no request of the kind leave a view of nothing. -/
theorem PiecesAvoid.leave {fx : Effectors} {R : Eff → Prop} (h : PiecesAvoid fx R) :
    PiecesLeave fx R fun _ => () where
  view _ _ _ := rfl
  plain := h.plain
  enter := h.enter
  kbd := h.kbd
  power := h.power
  adopt := h.adopt
  waybar := h.waybar

/-- The events whose arms run the battery-low check. -/
def checksBattery : Event → Bool
  | .acChanged _ | .powerAcSettled | .batteryPercent _ => true
  | _ => false

namespace PiecesLeave

variable {fx : Effectors} {R : Eff → Prop} {V : Type} {v : Context → V} (h : PiecesLeave fx R v)
include h

/-- A piece whose frame is plain leaves the view. -/
theorem only {α : Type} {x : Daemon α} {rs : List Resource} {Q : Context → α → Context → Prop}
    (hx : ∀ c, Meets x c (only rs) (Q c)) (hrs : rs ⊆ plainResources)
    (hQ : ∀ c a c', Q c a c' → c'.lastCursorPos = c.lastCursorPos) : Leaves R v x :=
  .of_meets hx (fun _ _ e he => h.plain e (hrs he)) fun c a c' hc' => h.view c c' (hQ c a c' hc')

/-- So does a query. -/
theorem query {e : Eff} (he : e.resource = .query) : Leaves R v (request e : Daemon e.Ans) :=
  .ask (h.plain e (by rw [he]; decide))

/-- A write beside the cursor. -/
theorem set_bind {α : Type} {c c' : Context} {f : PUnit → Daemon α}
    (hc' : c'.lastCursorPos = c.lastCursorPos) (hf : Leaves R v (f ⟨⟩)) :
    Meets (set c' >>= f) c (fun _ e => ¬R e) fun _ c'' => v c'' = v c :=
  (hf c').imp fun _ _ hkept => hkept.trans (h.view c c' hc')

/-- So does an evaluation. -/
theorem evaluateFsms (kind : EventKind) : Leaves R v (fx.evaluateFsms kind) := by
  rw [Effectors.evaluateFsms]
  refine .get_bind fun c => ?_
  split
  · exact .pure _
  · refine .when _ (.ite (.bind (h.enter _ true) fun entered => .ite ?_ ?_) ?_)
    · exact .modify fun c => h.view c _ rfl
    · exact h.only (fun c => startGraceTimer_spec c true) (by decide)
        (by rintro _ _ _ ⟨t, rfl⟩; rfl)
    · exact .modify_bind (fun c => h.view c _ rfl) (.bind (h.enter _ true) fun _ => .pure _)

/-- So does a re-assert. -/
theorem reassert (trigger : ReconcileTrigger) : Leaves R v (fx.reassert trigger) := by
  rw [Effectors.reassert]
  refine .get_bind fun c => .bind (.when _ ?_) fun _ => h.query rfl
  refine .bind ?_ fun _ => .get_bind fun c₁ => .bind (h.enter _ false) fun _ => .pure _
  exact h.only ingestActiveProfile_spec (by decide) (by rintro _ _ _ ⟨pn, pr, pe, rfl⟩; rfl)

/-- Every arm, where it leaves them in what it meets besides the pieces. -/
theorem dispatchUpdate (ev : Event)
    (hmonitors : ev = .monitorsChanged → Leaves R v fx.handleMonitorsChanged)
    (htick : ∀ snap, ev = .reconcileTick snap → Leaves R v (fx.handleReconcileTick snap))
    (hbattery : checksBattery ev = true → Leaves R v fx.batteryLowRequestCheck)
    (hclear : ev = .resumed → Leaves R v fx.clearSuspendRequest) :
    Leaves R v (fx.dispatchUpdate ev) := by
  have hkbd : ∀ sample falls : Bool, Leaves R v (do fx.kbdPolicyCheck sample; pure falls) :=
    fun sample falls => .bind (h.kbd sample) fun _ => .pure _
  have hclaim : Leaves R v Effectors.refreshWaylandClaim :=
    h.only refreshWaylandClaim_spec (by decide) (by rintro _ _ _ ⟨w, rfl⟩; rfl)
  have hdebounce : Leaves R v Effectors.scheduleProfileReconcile :=
    h.only scheduleProfileReconcile_spec (by decide) (by rintro _ _ _ ⟨t, rfl⟩; rfl)
  -- The four kinds of arm that may leave it are hypotheses; the others are of parts with a plain
  -- footprint.
  rw [Effectors.dispatchUpdate.eq_def]
  cases ev with
  | monitorsChanged => exact .bind (hmonitors rfl) fun _ => .pure _
  | reconcileTick snap => exact .bind (htick snap rfl) fun _ => .pure _
  | configReloaded | profileApplied => exact .bind (h.reassert _) fun _ => .pure _
  | profilesChanged => exact .bind hdebounce fun _ => .pure _
  | backlightHotplug =>
    refine .bind ?_ fun _ => .pure _
    exact h.only discoverBacklight_spec (by decide) (by rintro _ _ _ ⟨b, rfl⟩; rfl)
  | sleeping | kbdLevelChanged _ | kbdOverrideChanged _ =>
    exact .modify_bind (fun c => h.view c _ rfl) (hkbd _ _)
  | kbdIdle idle =>
    refine .modify_bind (fun c => h.view c _ rfl) (.bind (.when _ ?_) fun _ => hkbd _ _)
    exact h.only (kbdReleaseOverride_spec fx) (by decide) (by rintro _ _ _ ⟨k, rfl⟩; rfl)
  | kbdLedHotplug =>
    refine .bind ?_ fun _ => hkbd _ _
    exact h.only discoverKbd_spec (by decide) (by rintro _ _ _ ⟨k, rfl⟩; rfl)
  | lid closed =>
    refine .get_bind fun c => .ite (.modify_bind (fun c => h.view c _ rfl) ?_) (.pure _)
    exact .bind (.when _ hclaim) fun _ => .pure _
  | monitorHotplug added name =>
    refine .get_bind fun c => .bind (.bind (h.query rfl) fun _ => .pure _) fun _ => ?_
    refine .modify_bind (fun c => h.view c _ rfl) (.bind hdebounce fun _ => ?_)
    exact .bind (h.query rfl) fun _ => .pure _
  | inhibitor wayland active =>
    exact .modify_bind (fun c => h.view c _ (by cases wayland <;> rfl)) (.pure _)
  | lockChanged locked =>
    exact .modify_bind (fun c => h.view c _ rfl) (.bind (h.query rfl) fun _ => hkbd _ _)
  | acChanged onAc =>
    refine .get_bind fun c => .ite (.pure _) (.modify_bind (fun c => h.view c _ rfl) ?_)
    refine .bind (hbattery rfl) fun _ => .bind ?_ fun _ => .bind (h.query rfl) fun _ => .pure _
    exact h.only schedulePowerSettle_spec (by decide) (by rintro _ _ _ ⟨t, rfl⟩; rfl)
  | powerAcSettled =>
    exact .modify_bind (fun c => h.view c _ rfl) (.bind (hbattery rfl) fun _ => .pure _)
  | powerOverrideChanged word =>
    intro c
    rw [meets_bind, meets_get]
    cases word with
    | none => exact h.set_bind rfl (.pure _)
    | some w =>
      dsimp only
      cases PowerProfile.parse w with
      | none => exact Leaves.pure _ c
      | some p =>
        dsimp only
        rw [meets_bind, meets_when]
        exact ⟨fun _ => h.view c _ rfl, fun _ => rfl⟩
  | batteryPercent pct =>
    intro c
    rw [meets_bind, meets_get]
    refine h.set_bind rfl (.bind (hbattery rfl) fun changed => ?_)
    exact .bind (.when _ (h.query rfl)) fun _ => .pure _
  | platformProfileChanged value =>
    refine .bind (h.query rfl) fun now c => ?_
    rw [meets_bind, meets_get]
    refine h.set_bind rfl (.bind (.when _ ?_) fun _ => .pure _)
    exact .bind (h.adopt _) fun _ => h.power
  | gpuOverrideChanged word => exact .pure _
  | powerdAppeared =>
    refine .modify_bind (fun c => h.view c _ ?_) (.modify_bind (fun c => h.view c _ rfl) (.pure _))
    split <;> rfl
  | suspendRequestChanged word =>
    exact .modify_bind (fun c => h.view c _ rfl) (.bind (.when _ hclaim) fun _ => .pure _)
  | timerExpired =>
    refine .get_bind fun c => .bind (.when _ ?_) fun _ => .pure _
    exact .bind (h.query rfl) fun standing => .when _ (.modify fun c => h.view c _ rfl)
  | resumed =>
    refine .modify_bind (fun c => h.view c _ rfl) (.bind (hclear rfl) fun _ =>
      .bind (h.query rfl) fun _ => ?_)
    exact .modify_bind (fun c => h.view c _ rfl) (hkbd _ _)

/-- So does the startup, where the pin does. -/
theorem startup (hpin : ∀ awake, Leaves R v (fx.syncDgpuPin awake)) : Leaves R v fx.startup := by
  rw [Effectors.startup]
  refine .modify_bind (fun c => h.view c _ rfl) (.get_bind fun c => .bind (h.enter _ _) fun _ => ?_)
  refine .bind (h.only currentMatch_spec (by decide) (by rintro _ _ _ rfl; rfl)) fun chosen => ?_
  refine .bind (h.only (fun c => resolveSessionGpuMode_spec c _) (by decide)
    (by rintro _ _ _ rfl; rfl))
    fun mode => ?_
  refine .bind (hpin _) fun _ => .bind h.waybar fun _ => .bind (h.kbd _) fun _ => h.query rfl

end PiecesLeave

namespace PiecesAvoid

variable {fx : Effectors} {R : Eff → Prop} (h : PiecesAvoid fx R)
include h

/-- An evaluation makes no such request. -/
theorem evaluateFsms (kind : EventKind) : Avoids R (fx.evaluateFsms kind) :=
  h.leave.evaluateFsms kind

/-- Every arm, where it avoids the family in what it meets besides the pieces. -/
theorem dispatchUpdate (ev : Event)
    (hmonitors : ev = .monitorsChanged → Avoids R fx.handleMonitorsChanged)
    (htick : ∀ snap, ev = .reconcileTick snap → Avoids R (fx.handleReconcileTick snap))
    (hbattery : checksBattery ev = true → Avoids R fx.batteryLowRequestCheck)
    (hclear : ev = .resumed → Avoids R fx.clearSuspendRequest) : Avoids R (fx.dispatchUpdate ev) :=
  h.leave.dispatchUpdate ev hmonitors htick hbattery hclear

/-- Nor does the startup, where the pin makes none. -/
theorem startup (hpin : ∀ awake, Avoids R (fx.syncDgpuPin awake)) : Avoids R fx.startup :=
  h.leave.startup hpin

end PiecesAvoid

/-! ## Commands and files -/

/-- To send another command makes none. -/
theorem sendCmd_avoids {R : Eff → Prop} (fx : Effectors) {cmd : Cmd} (hcmd : ¬R (.trySend cmd)) :
    Avoids R (fx.sendCmd cmd) := by
  refine .of_meets (fun c => sendCmd_spec fx c cmd) ?_
  rintro _ _ _ ⟨-, rfl, -⟩
  exact hcmd

/-- The requests of the pieces that are for a command or a file. -/
def Eff.routine : Eff → Bool
  | .trySend .pauseMedia | .kbdStatusWrite _ | .signalWaybar => true
  | .trySend (.notify _ _ tag) => tag == "hyprstate-power"
  | _ => false

/-- The family is of commands and files, and no request of the pieces is in it. -/
structure PiecesApart (R : Eff → Prop) : Prop where
  plain : ∀ e : Eff, e.resource ≠ .file → e.resource ≠ .command → ¬R e
  routine : ∀ e : Eff, e.routine = true → ¬R e

namespace PiecesApart

variable {R : Eff → Prop} (h : PiecesApart R) (fx : Effectors)
include h

/-- A request of another resource is none of them. -/
theorem of_mem {e : Eff} {rs : List Resource} (he : e.resource ∈ rs)
    (hrs : Resource.file ∉ rs ∧ Resource.command ∉ rs) : ¬R e :=
  h.plain e (fun heq => hrs.1 (heq ▸ he)) fun heq => hrs.2 (heq ▸ he)

/-- A piece whose frame has neither files nor commands makes none. -/
theorem only {α : Type} {x : Daemon α} {rs : List Resource} {Q : Context → α → Context → Prop}
    (hx : ∀ c, Meets x c (only rs) (Q c)) (hrs : Resource.file ∉ rs ∧ Resource.command ∉ rs) :
    Avoids R x :=
  .of_meets hx fun _ _ _ he => h.of_mem he hrs

/-- A panel command is none of them. -/
theorem setEdp (on : Bool) : Avoids R (fx.setEdp on) :=
  .get_bind fun _ => .when _ (sendCmd_avoids fx (h.plain _ (by simp) (by simp)))

/-- Nor does an entry make one. -/
theorem onEnter (state : State) (fresh : Bool) : Avoids R (fx.onEnter state fresh) := by
  have hcancel : Avoids R Effectors.cancelGraceTimer := h.only cancelGraceTimer_spec (by decide)
  rw [Effectors.onEnter.eq_def]
  refine .bind (h.only (fun c => enterClaimWatch_spec c state) (by decide)) fun _ => ?_
  cases state with
  | lidOpen | docked => exact .bind hcancel fun _ => .bind (h.setEdp fx _) fun _ => .pure _
  | deferred =>
    refine .bind hcancel fun _ => .bind (h.setEdp fx _) fun _ => .get_bind fun c => ?_
    exact .bind (.when _ (sendCmd_avoids fx (h.routine _ rfl))) fun _ => .pure _
  | countdown =>
    refine .bind (h.setEdp fx _) fun _ => .bind ?_ fun _ => .pure _
    exact h.only (fun c => startGraceTimer_spec c fresh) (by decide)
  | suspending => exact .bind hcancel fun _ => h.only (suspendingTail_spec fx) (by decide)

/-- Nor does the adoption of an override. -/
theorem adoptPowerOverride (profile : PowerProfile) : Avoids R (fx.adoptPowerOverride profile) := by
  rw [Effectors.adoptPowerOverride]
  refine .modify_bind (fun _ => rfl) (.bind (.when _ ?_) fun _ =>
    sendCmd_avoids fx (h.routine _ rfl))
  exact .bind (.ask (h.plain _ (by simp) (by simp))) fun _ => .pure _

/-- Nor does the power policy. -/
theorem powerPolicyCheck : Avoids R fx.powerPolicyCheck := by
  have hstep : ∀ base, Avoids R (fx.powerOverrideStep base) := by
    intro base
    rw [Effectors.powerOverrideStep]
    refine .get_bind fun c => ?_
    split
    · exact .pure _
    · exact fun _ => rfl
    · refine .when _ (.bind (h.only (clearPowerOverride_spec fx) (by decide)) fun _ => ?_)
      exact sendCmd_avoids fx (h.routine _ rfl)
  rw [Effectors.powerPolicyCheck]
  refine .get_bind fun c => .bind (hstep _) fun _ => .get_bind fun c₁ => ?_
  refine .bind (h.only (fun c => applyPowerProfile_spec fx c _) (by decide)) fun _ => ?_
  refine .get_bind fun c₂ => Avoids.set_bind ?_
  cases c₂.power.powerLastBase with
  | none => exact .pure _
  | some prev => exact h.only (fun c => brightnessEdge_spec fx c prev _) (by decide)

/-- Nor does the keyboard's check. -/
theorem kbdPolicyCheck (sample : Bool) : Avoids R (fx.kbdPolicyCheck sample) := by
  have hstatus : ∀ lit, Avoids R (fx.kbdWriteStatus lit) := by
    intro lit
    rw [Effectors.kbdWriteStatus]
    exact .when _ (.get_bind fun c => .ask (h.routine _ rfl))
  rw [Effectors.kbdPolicyCheck]
  refine .get_bind fun c => .when _ (.bind (.when _ ?_) fun _ => .get_bind fun c₁ => ?_)
  · exact h.only kbdSample_spec (by decide)
  · exact .bind (h.only (fun c => kbdSet_spec fx c _) (by decide)) fun _ => hstatus _

/-- Nor does the bar. -/
theorem syncWaybar : Avoids R fx.syncWaybar := by
  rw [Effectors.syncWaybar]
  exact .get_bind fun c => .when _ (Avoids.set_bind (.when _ (.ask (h.routine _ rfl))))

/-- So no piece that the turns share makes one. -/
theorem pieces : PiecesAvoid fx R where
  plain _ he := h.of_mem he (by decide)
  enter := h.onEnter fx
  kbd := h.kbdPolicyCheck fx
  power := h.powerPolicyCheck fx
  adopt := h.adoptPowerOverride fx
  waybar := h.syncWaybar fx

/-- The setup makes none, and moves the cursor's baseline alone. -/
theorem setup {V : Type} {v : Context → V}
    (hv : ∀ c c' : Context, c'.lastCursorPos = c.lastCursorPos → v c' = v c) :
    Leaves R v fx.setup := by
  have honly : ∀ {α : Type} {x : Daemon α} {rs : List Resource} {Q : Context → α → Context → Prop},
      (∀ c, Meets x c (Hyprstate.only rs) (Q c)) → Resource.file ∉ rs ∧ Resource.command ∉ rs →
      (∀ c a c', Q c a c' → c'.lastCursorPos = c.lastCursorPos) → Leaves R v x :=
    fun hx hrs hQ => .of_meets hx (fun _ _ _ he => h.of_mem he hrs) fun c a c' hc' =>
      hv c c' (hQ c a c' hc')
  have hask : ∀ e : Eff, e.resource ≠ .file → e.resource ≠ .command → Leaves R v (request e) :=
    fun e hfile hcommand => .ask (h.plain e hfile hcommand)
  -- The seeds in their order; each asks elsewhere and leaves the cursor.
  have hseed : ∀ conf, Leaves R v (fx.seedContext conf) := by
    intro conf
    rw [Effectors.seedContext]
    refine .bind (honly seedPower_spec (by decide) (by rintro _ _ _ ⟨ac, acs, pct, low, rfl⟩; rfl))
      fun _ => ?_
    refine .bind (honly discoverBacklight_spec (by decide) (by rintro _ _ _ ⟨b, rfl⟩; rfl))
      fun _ => ?_
    refine .bind (honly (fun c => seedKbd_spec c conf) (by decide) (by rintro _ _ _ ⟨k, rfl⟩; rfl))
      fun _ => ?_
    refine .bind
      (honly (batteryLowRequestCheck_spec fx) (by decide) (by rintro _ _ _ ⟨r, rfl, -⟩; rfl))
      fun _ => ?_
    refine .bind (honly seedWorld_exact (by decide)
      (by rintro _ _ _ ⟨closed, logind, wayland, count, rfl, -⟩; rfl)) fun _ => ?_
    refine .bind (honly seedProfile_spec (by decide) (by rintro _ _ _ ⟨n, r, e, rfl⟩; rfl))
      fun _ => ?_
    refine .bind (hask _ (by simp) (by simp)) fun _ => .bind (hask _ (by simp) (by simp))
      fun word => ?_
    refine .bind (hask _ (by simp) (by simp)) fun _ => ?_
    refine .bind (.ite (hask _ (by simp) (by simp)) (.pure _)) fun hint => ?_
    exact .modify_bind (fun c => hv c _ rfl) (hask _ (by simp) (by simp))
  rw [Effectors.setup, Effectors.loadConf]
  refine .bind (.bind (hask _ (by simp) (by simp)) fun conf => ?_) fun conf => ?_
  · exact .modify_bind (fun c => hv c _ rfl) (.pure _)
  refine .bind (hask _ (by simp) (by simp)) fun _ => .get_bind fun c => ?_
  refine .bind (.ite (.pure _) (hask _ (by simp) (by simp))) fun held => ?_
  exact .bind (.when _ (hseed conf)) fun _ => .pure _

end PiecesApart

/-! ## The monitors -/

/-- The handler of a monitor change, by its parts. -/
theorem handleMonitorsChanged_leaves (fx : Effectors) {R : Eff → Prop} {V : Type}
    {v : Context → V} (hmatch : Leaves R v Effectors.currentMatch)
    (hview : ∀ c : Context, v { c with activeProfileRev := none } = v c)
    (happly : ∀ p, Leaves R v (fx.applyProfile p))
    (hcrumb : ∀ pref, Leaves R v (fx.writeGpuBreadcrumb pref))
    (hgpu : ∀ chosen, Leaves R v (fx.gpuCheck "monitors changed" chosen))
    (hpower : Leaves R v fx.powerPolicyCheck) (hrehome : Leaves R v fx.rehomeEdpWorkspaces) :
    Leaves R v fx.handleMonitorsChanged := by
  have hrest : ∀ chosen : Option MonitorProfile, Leaves R v (do
      fx.writeGpuBreadcrumb (chosen.map MonitorProfile.gpu)
      fx.gpuCheck "monitors changed" chosen
      fx.powerPolicyCheck
      let c ← get
      when (!Effectors.edpShouldBeOn c && decide (c.extMonCount > 0)) fx.rehomeEdpWorkspaces) := by
    intro chosen
    refine .bind (hcrumb _) fun _ => .bind (hgpu chosen) fun _ => .bind hpower fun _ => ?_
    exact .get_bind fun c => .when _ hrehome
  rw [Effectors.handleMonitorsChanged]
  refine .bind hmatch fun chosen => ?_
  cases chosen with
  | none => exact .modify_bind hview (hrest none)
  | some p => exact .bind (happly p) fun _ => hrest (some p)

/-! ## The drift check -/

/-- The drift check asks, and notifies; of the context it moves its own bookkeeping. -/
theorem checkAndNotifyDrift_leaves (fx : Effectors) {R : Eff → Prop} {V : Type} {v : Context → V}
    (hquery : ∀ e : Eff, e.resource = .query → ¬R e)
    (hnotify : ∀ summary body, ¬R (.trySend (.notify summary body "hyprstate-gpu")))
    (hview : ∀ (c : Context) (gpu : GpuContext), gpu.dgpuPinned = c.gpu.dgpuPinned →
      v { c with gpu := gpu } = v c)
    (trigger : String) (mode : GpuMode) (source : GpuModeSource) :
    Leaves R v (fx.checkAndNotifyDrift trigger mode source) := by
  -- The list in use is resolved while it is pending.
  have hresolve : Leaves R v Effectors.resolveGpuActual := by
    rw [Effectors.resolveGpuActual]
    refine .bind (.ask (hquery _ rfl)) fun devices => ?_
    cases devices with
    | none => exact .pure _
    | some devices =>
      cases devices with
      | nil => exact .bind (.ask (hquery _ rfl)) fun reason => .modify fun c => hview c _ rfl
      | cons d ds => exact .modify fun c => hview c _ rfl
  have hdrift : ∀ (desired : List String) (reason : String),
      Leaves R v (fx.notifyDrift trigger desired reason) := by
    intro desired reason c
    rw [Effectors.notifyDrift, meets_bind, meets_get, meets_when]
    refine ⟨fun _ => ?_, fun _ => rfl⟩
    rw [meets_bind, meets_ask]
    refine ⟨hquery _ rfl, fun now => ?_⟩
    rw [meets_when]
    refine ⟨fun _ => ?_, fun _ => rfl⟩
    rw [meets_bind, meets_set, Effectors.notifyGpuDrift]
    refine (sendCmd_spec fx _ _).mono ?_ ?_
    · rintro _ _ ⟨-, rfl, -⟩
      exact hnotify _ _
    · rintro _ _ rfl
      exact hview c _ rfl
  rw [Effectors.checkAndNotifyDrift]
  refine .get_bind fun c => .bind (.when _ hresolve) fun _ => .get_bind fun c₁ => ?_
  split
  · refine .bind (.ask (hquery _ rfl)) fun snap => ?_
    split
    · exact .pure _
    · exact .ite (.modify fun c => hview c _ rfl) (hdrift _ _)
  · exact .pure _

end Hyprstate
