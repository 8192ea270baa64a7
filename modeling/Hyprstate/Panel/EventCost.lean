import Hyprstate.Daemon.Transition
import Hyprstate.Panel.Loop

/-!
# What an event costs

The requests of the dispatcher that the loop of `Panel/Loop.lean` may answer with reloads are the
panel commands, the applies and the timers. A turn makes at most three commands (`handle_costs`),
and arms no timer that is worth anything but the one that follows a flip of the AC state.
-/

namespace Hyprstate

open Reactive Process

namespace Loop

/-- The panel commands and the applies, and what a timer will send. No timer sends a re-assert. -/
def cost : Eff → Nat
  | .spawnTimer _ ev => if reasserts ev then 56 else worth ev
  | e =>
    match e.resource with
    | .panel | .profile => 1
    | _ => 0

/-- A request costs nothing that is no panel command, no apply and no timer but that of the
grace. -/
theorem cost_eq_zero {e : Eff} (hpanel : e.resource ≠ .panel) (hprofile : e.resource ≠ .profile)
    (htimer : e.resource ≠ .timer) : cost e = 0 := by
  cases e with
  | spawnTimer delay ev =>
    by_cases hev : ev = .timerExpired
    · subst hev
      rfl
    · exact absurd (if_neg hev) htimer
  | trySend cmd =>
    cases cmd with
    | setEdp on => exact absurd rfl hpanel
    | applyProfile => exact absurd rfl hprofile
    | _ => rfl
  | _ => rfl

/-- A piece that makes no such request is free. -/
theorem free_of_only {α : Type} {x : Daemon α} {rs : List Resource}
    {Q : Context → α → Context → Prop} (hx : ∀ c, Meets x c (only rs) (Q c))
    (hpanel : Resource.panel ∉ rs) (hprofile : Resource.profile ∉ rs)
    (htimer : Resource.timer ∉ rs) : Costs cost 0 x :=
  Costs.of_meets (G := fun _ => only rs) hx fun _ _ _ he => cost_eq_zero
    (fun h => hpanel (h ▸ he)) (fun h => hprofile (h ▸ he)) fun h => htimer (h ▸ he)

section

variable (fx : Effectors)

/-- A command costs what its request does. -/
theorem sendCmd_costs {n : Nat} (cmd : Cmd) (h : cost (.trySend cmd) ≤ n) :
    Costs cost n (fx.sendCmd cmd) := .when _ (.bind_free (.ask h) fun _ => .pure ())

/-- A panel command costs one. -/
theorem setEdp_costs (on : Bool) : Costs cost 1 (fx.setEdp on) :=
  .get_bind fun _ => .when _ (sendCmd_costs fx _ (Nat.le_refl 1))

/-- To abort a task costs nothing. -/
theorem cancelTask_free (task : Context → Option Handle) (clear : Context → Context) :
    Costs cost 0 (cancelTask task clear) := by
  rw [cancelTask]
  refine .get_bind fun c => ?_
  cases task c with
  | none => exact .pure _
  | some h => exact .set_bind (.ask (Nat.le_refl 0))

/-- The watch on a claim sends what clients do: it is no timer. -/
theorem enterClaimWatch_free (state : State) : Costs cost 0 (Effectors.enterClaimWatch state) := by
  rw [Effectors.enterClaimWatch]
  refine .get_bind fun c => .ite ?_ (cancelTask_free _ _)
  rw [Effectors.startClaimWatch]
  refine .free_bind (free_of_only (fun c => taskLive_spec c _) (by simp) (by simp) (by simp))
    fun _ => ?_
  exact .when _ (.free_bind (.ask (Nat.le_refl 0)) fun _ => .modify)

/-- The debounce of the hotplugs costs nothing. -/
theorem scheduleProfileReconcile_free : Costs cost 0 Effectors.scheduleProfileReconcile :=
  .free_bind (cancelTask_free _ _) fun _ => .free_bind (.ask (Nat.le_refl 0)) fun _ => .modify

/-- The debounce of the AC state costs what its settling is worth. -/
theorem schedulePowerSettle_costs : Costs cost 28 Effectors.schedulePowerSettle :=
  .free_bind (cancelTask_free _ _) fun _ => .bind_free (.ask (Nat.le_refl 28)) fun _ => .modify

/-- The entry into suspend makes none. -/
theorem onEnter_suspending_free (fresh : Bool) : Costs cost 0 (fx.onEnter .suspending fresh) := by
  refine .free_bind (enterClaimWatch_free _) fun _ => .free_bind ?_ fun _ => ?_
  · exact free_of_only cancelGraceTimer_spec (by simp) (by simp) (by simp)
  · exact free_of_only (suspendingTail_spec fx) (by simp) (by simp) (by simp)

/-- An entry makes one command at most. -/
theorem onEnter_costs (state : State) (fresh : Bool) : Costs cost 1 (fx.onEnter state fresh) := by
  by_cases hs : state = .suspending
  case pos =>
    subst hs
    exact (onEnter_suspending_free fx fresh).mono (Nat.zero_le 1)
  refine .free_bind (enterClaimWatch_free state) fun _ => ?_
  have hcancel : Costs cost 0 Effectors.cancelGraceTimer :=
    free_of_only cancelGraceTimer_spec (by simp) (by simp) (by simp)
  cases state with
  | lidOpen
  | docked => exact .free_bind hcancel fun _ => .bind_free (setEdp_costs fx _) fun _ => .pure _
  | deferred =>
    refine .free_bind hcancel fun _ => .bind_free (setEdp_costs fx _) fun _ => .get_bind fun c => ?_
    exact .bind_free (.when _ (sendCmd_costs fx _ (Nat.le_refl 0))) fun _ => .pure _
  | countdown =>
    refine .bind_free (setEdp_costs fx _) fun _ => .bind_free ?_ fun _ => .pure _
    exact free_of_only (fun c => startGraceTimer_spec c fresh) (by simp) (by simp) (by simp)
  | suspending => exact absurd rfl hs

/-- An evaluation enters one state at most. -/
theorem evaluateFsms_costs (kind : EventKind) : Costs cost 1 (fx.evaluateFsms kind) := by
  refine .get_bind fun c => ?_
  cases desiredState c.state kind c.world with
  | none => exact (Costs.pure ()).mono (Nat.zero_le 1)
  | some new =>
    refine .when _ (.ite ?_ (.modify_bind (.bind_free (onEnter_costs fx _ _) fun _ => .pure _)))
    refine .bind_free (onEnter_costs fx _ _) fun entered => .ite .modify ?_
    exact free_of_only (fun c => startGraceTimer_spec c true) (by simp) (by simp) (by simp)

/-- The hooks of a profile are free. -/
theorem runHooks_free (hooks : List String) :
    Costs cost 0 (hooks.forM fun hook => fx.sendCmd (.runHook hook)) := by
  have hhooks : ∀ c, Meets (hooks.forM fun hook => fx.sendCmd (.runHook hook)) c (only [.command])
      fun _ _ => True := fun c => meets_forM (fun hook c _ => (sendCmd_spec fx c _).mono
    (by rintro _ _ ⟨-, rfl, -⟩; simp [only]) fun _ _ _ => trivial) _ _ trivial
  exact free_of_only hhooks (by simp) (by simp) (by simp)

/-- A profile is applied by one command. -/
theorem applyProfile_costs (profile : MonitorProfile) : Costs cost 1 (fx.applyProfile profile) := by
  refine .free_bind (.ask (Nat.le_refl 0)) fun symlinkOk => .get_bind fun c => .when _ ?_
  refine .free_bind (.ite (.pure _) (.ask (Nat.le_refl 0))) fun repointed => .when _ ?_
  refine .modify_bind (.when _ (.bind_free ?_ fun _ => runHooks_free fx _))
  exact sendCmd_costs fx _ (Nat.le_refl 1)

/-- The power policy asks for no reload. -/
theorem powerPolicyCheck_free : Costs cost 0 fx.powerPolicyCheck :=
  free_of_only (powerPolicyCheck_spec fx) (by simp) (by simp) (by simp)

/-- Nor does the check of the battery. -/
theorem batteryLowRequestCheck_free : Costs cost 0 fx.batteryLowRequestCheck :=
  free_of_only (batteryLowRequestCheck_spec fx) (by simp) (by simp) (by simp)

/-- Nor that of the keys' light. -/
theorem kbdPolicyCheck_free (sample : Bool) : Costs cost 0 (fx.kbdPolicyCheck sample) :=
  free_of_only (fun c => kbdPolicyCheck_spec fx c sample) (by simp) (by simp) (by simp)

/-- Nor the refresh of the claim. -/
theorem refreshWaylandClaim_free : Costs cost 0 Effectors.refreshWaylandClaim :=
  free_of_only refreshWaylandClaim_spec (by simp) (by simp) (by simp)

/-- Nor the read of the active profile's link. -/
theorem ingestActiveProfile_free : Costs cost 0 Effectors.ingestActiveProfile :=
  free_of_only ingestActiveProfile_spec (by simp) (by simp) (by simp)

/-- To ask for a pass is free. -/
theorem requestReconcile_free (trigger : ReconcileTrigger) :
    Costs cost 0 (Effectors.requestReconcile trigger) :=
  free_of_only (fun c => requestReconcile_spec c trigger) (by simp) (by simp) (by simp)

/-- A change of the monitors makes one command at most: to apply the profile that matches. -/
theorem handleMonitorsChanged_costs : Costs cost 1 fx.handleMonitorsChanged := by
  have hrest : ∀ chosen : Option MonitorProfile, Costs cost 0 (do
      fx.writeGpuBreadcrumb (chosen.map MonitorProfile.gpu)
      fx.gpuCheck "monitors changed" chosen
      fx.powerPolicyCheck
      let c ← get
      when (!Effectors.edpShouldBeOn c && decide (c.extMonCount > 0)) fx.rehomeEdpWorkspaces) := by
    intro chosen
    refine .bind_free (free_of_only (fun c => writeGpuBreadcrumb_spec fx c _) (by simp) (by simp)
      (by simp)) fun _ => ?_
    refine .bind_free (free_of_only (fun c => gpuCheck_spec fx c _ _) (by simp) (by simp) (by simp))
      fun _ => ?_
    refine .bind_free (powerPolicyCheck_free fx) fun _ => .get_bind fun c => .when _ ?_
    exact sendCmd_costs fx _ (Nat.le_refl 0)
  refine .free_bind (free_of_only currentMatch_spec (by simp) (by simp) (by simp)) fun chosen => ?_
  cases chosen with
  | none => exact .modify_bind ((hrest none).mono (Nat.zero_le 1))
  | some p => exact .bind_free (applyProfile_costs fx p) fun _ => hrest (some p)

/-- A pass enforces the panel by one command. -/
theorem enforceEdp_costs (snap : ReconcileSnapshot) : Costs cost 1 (fx.enforceEdp snap) := by
  refine .get_bind fun c => ?_
  dsimp only
  cases snap.edpDisabled with
  | none => exact (Costs.pure ()).mono (Nat.zero_le 1)
  | some disabled => exact .ite (setEdp_costs fx true) (.when _ (setEdp_costs fx false))

/-- The repair of the context is free: the debounce is all that it arms. -/
theorem repairContext_free (snap : ReconcileSnapshot) :
    Costs cost 0 (Effectors.repairContext snap) := by
  refine .get_bind fun c => .modify_bind (.free_bind (.ask (Nat.le_refl 0)) fun _ =>
    .modify_bind ?_)
  refine .free_bind (.when _ scheduleProfileReconcile_free) fun _ => .modify_bind ?_
  exact .free_bind (.when _ (.ask (Nat.le_refl 0))) fun _ => .modify_bind (.pure _)

/-- A pass makes two commands at most: where it drives a repair, and where it enforces the panel. -/
theorem handleReconcileTick_costs (snap : ReconcileSnapshot) :
    Costs cost 2 (fx.handleReconcileTick snap) := by
  refine .free_bind (repairContext_free snap) fun drift => ?_
  have hdrive : Costs cost 1 (fx.driveRepairs drift.1 drift.2) := by
    refine .free_bind (.when _ (.modify_bind (.bind_free (powerPolicyCheck_free fx) fun _ => ?_)))
      fun _ =>
      .when _ (evaluateFsms_costs fx _)
    exact .bind_free (batteryLowRequestCheck_free fx) fun _ => .pure _
  refine Costs.bind (m := 1) hdrive fun _ => .get_bind fun c => .when _ ?_
  refine .free_bind ingestActiveProfile_free fun _ =>
    .bind_free (enforceEdp_costs fx snap) fun _ => ?_
  exact free_of_only (fun c => dpmsBackstop_spec fx c snap) (by simp) (by simp) (by simp)

/-- A re-assert enters the present state. -/
theorem reassert_costs (trigger : ReconcileTrigger) : Costs cost 1 (fx.reassert trigger) := by
  refine .get_bind fun c => .bind_free (.when _ ?_) fun _ => requestReconcile_free trigger
  refine .free_bind ingestActiveProfile_free fun _ => .get_bind fun c => ?_
  exact .bind_free (onEnter_costs fx _ _) fun _ => .pure _

/-- What the arm of an event may cost: two commands, and the settling of the AC state. -/
def armBudget : Event → Nat
  | .acChanged _ => 28
  | _ => 2

/-- No arm costs more: a pass of the reconciler makes two commands, a flip of the AC state none. -/
theorem dispatchUpdate_costs (ev : Event) : Costs cost (armBudget ev) (fx.dispatchUpdate ev) := by
  have hone : ∀ {x : Daemon Unit} {falls : Bool}, Costs cost 1 x →
      Costs cost 2 (do x; pure falls) := fun h =>
    (h.bind_free fun _ => .pure _).mono (Nat.le_succ 1)
  have hfree : ∀ {x : Daemon Bool}, Costs cost 0 x → Costs cost 2 x :=
    fun h => h.mono (Nat.zero_le 2)
  have hkbd : ∀ (sample : Bool) {falls : Bool},
      Costs cost 0 (do fx.kbdPolicyCheck sample; pure falls) := fun sample _ =>
    .free_bind (kbdPolicyCheck_free fx sample) fun _ => .pure _
  -- Only a re-assert, the tick, the monitors and a flip of the AC state cost anything.
  cases ev with
  | configReloaded | profileApplied => exact hone (reassert_costs fx _)
  | reconcileTick snap => exact .bind_free (handleReconcileTick_costs fx snap) fun _ => .pure _
  | monitorsChanged => exact hone (handleMonitorsChanged_costs fx)
  | profilesChanged => exact hfree (.free_bind scheduleProfileReconcile_free fun _ => .pure _)
  | backlightHotplug =>
    refine hfree (.free_bind (free_of_only discoverBacklight_spec ?_ ?_ ?_) fun _ =>
      .pure _) <;> simp
  | sleeping | kbdLevelChanged _ | kbdOverrideChanged _ => exact hfree (.modify_bind (hkbd _))
  | kbdIdle idle =>
    refine hfree (.modify_bind (.free_bind (.when _ ?_) fun _ => hkbd _))
    exact free_of_only (kbdReleaseOverride_spec fx) (by simp) (by simp) (by simp)
  | kbdLedHotplug =>
    exact hfree (.free_bind (free_of_only discoverKbd_spec (by simp) (by simp) (by simp))
      fun _ => hkbd _)
  | lid closed =>
    refine hfree (.get_bind fun c => .ite (.modify_bind ?_) (.pure _))
    exact .free_bind (.when _ refreshWaylandClaim_free) fun _ => .pure _
  | monitorHotplug added name =>
    refine hfree (.get_bind fun c => .free_bind ?_ fun _ => .modify_bind ?_)
    · exact .free_bind (.ask (Nat.le_refl 0)) fun _ => .pure _
    · exact .free_bind scheduleProfileReconcile_free fun _ =>
        .free_bind (requestReconcile_free _) fun _ => .pure _
  | inhibitor wayland active => exact hfree (.modify_bind (.pure _))
  | lockChanged locked =>
    exact hfree (.modify_bind (.free_bind (requestReconcile_free _) fun _ => hkbd _))
  | acChanged onAc =>
    refine .get_bind fun c => .ite ((Costs.pure _).mono (Nat.zero_le 28)) (.modify_bind ?_)
    refine .free_bind (batteryLowRequestCheck_free fx) fun _ =>
      .bind_free schedulePowerSettle_costs fun _ => ?_
    exact .free_bind (requestReconcile_free _) fun _ => .pure _
  | powerAcSettled =>
    exact hfree (.modify_bind (.free_bind (batteryLowRequestCheck_free fx) fun _ => .pure _))
  | powerOverrideChanged word =>
    refine hfree (.get_bind fun c => ?_)
    cases word with
    | none => exact .set_bind (.pure _)
    | some w =>
      dsimp only
      cases PowerProfile.parse w with
      | none => exact .pure _
      | some p => exact .free_bind (.when _ (.set_bind (.pure _))) fun _ => .pure _
  | batteryPercent pct =>
    refine hfree
      (.get_bind fun c => .set_bind (.free_bind (batteryLowRequestCheck_free fx) fun _ => ?_))
    exact .free_bind (.when _ (requestReconcile_free _)) fun _ => .pure _
  | platformProfileChanged value =>
    refine hfree (.free_bind (.ask (Nat.le_refl 0)) fun now => .get_bind fun c => .set_bind ?_)
    refine .free_bind (.when _ (.free_bind ?_ fun _ => powerPolicyCheck_free fx)) fun _ => .pure _
    exact free_of_only (fun c => adoptPowerOverride_spec fx c _) (by simp) (by simp) (by simp)
  | gpuOverrideChanged word => exact hfree (.pure _)
  | powerdAppeared => exact hfree (.modify_bind (.modify_bind (.pure _)))
  | suspendRequestChanged word =>
    refine hfree (.modify_bind (.free_bind (.when _ refreshWaylandClaim_free) fun _ => .pure _))
  | timerExpired =>
    refine hfree
      (.get_bind fun c => .free_bind (.when _ (.free_bind (.ask (Nat.le_refl 0)) fun _ => ?_))
      fun _ => .pure _)
    exact .when _ .modify
  | resumed =>
    refine hfree
      (.modify_bind (.free_bind (.when _ (.free_bind (.ask (Nat.le_refl 0)) fun _ => .pure _))
      fun _ => .free_bind (requestReconcile_free _) fun _ => .modify_bind (hkbd _)))

/-- The checks of the tail are free. -/
theorem tailChecks_free (ev : Event) : Costs cost 0 (fx.tailChecks ev) := by
  have hgpu : Costs cost 0 (do
      let chosen ← Effectors.currentMatch
      fx.gpuCheck ev.label chosen) :=
    .free_bind (free_of_only currentMatch_spec (by simp) (by simp) (by simp)) fun chosen =>
      free_of_only (fun c => gpuCheck_spec fx c _ _) (by simp) (by simp) (by simp)
  refine .free_bind (.when _ (free_of_only brightnessRearm_spec (by simp) (by simp) (by simp)))
    fun _ => ?_
  exact .free_bind (.when _ hgpu) fun _ => .when _ (powerPolicyCheck_free fx)

/-- What an event may cost: its arm, and the command of an evaluation. -/
theorem handle_costs (ev : Event) : Costs cost (armBudget ev + 1) (fx.handle ev) := by
  have htail : Costs cost 1 (fx.dispatchTail ev) := by
    rw [dispatchTail_eq]
    exact .free_bind (tailChecks_free fx ev) fun _ => evaluateFsms_costs fx _
  refine .bind_free ((dispatchUpdate_costs fx ev).bind fun falls => .when falls htail) fun _ => ?_
  exact free_of_only (syncWaybar_spec fx) (by simp) (by simp) (by simp)

end

end Loop

end Hyprstate
