import Hyprstate.Daemon.Transition

/-!
# What leaves the records alone

Each subsystem beside the main machine keeps a record of its own in the context. The machine, the
profile and the tasks move none of them and make no request for a light (`LeavesRecords`), so a
property of the records needs a look at the few pieces and events that are left (`movesRecords`).
-/

namespace Hyprstate

open Reactive Process

/-- The records of the subsystems, and the lock that the keyboard light reads. -/
structure Records where
  gpu : GpuContext
  power : PowerContext
  brightness : BrightnessContext
  kbd : KbdContext
  locked : Bool

/-- The records that policies keep of what they wrote. -/
def Context.records (c : Context) : Records where
  gpu := c.gpu
  power := c.power
  brightness := c.brightness
  kbd := c.kbd
  locked := c.locked

/-- A piece that moves no record and makes no request for a light. -/
abbrev LeavesRecords {α : Type} (x : Daemon α) : Prop :=
  Leaves (fun e => e.resource = .light) Context.records x

/-- A piece without a light, whose frame keeps the records, leaves them. -/
theorem leavesRecords_of_only {α : Type} {x : Daemon α} {rs : List Resource}
    {Q : Context → α → Context → Prop} (h : ∀ c, Meets x c (only rs) (Q c))
    (hrs : Resource.light ∉ rs) (hQ : ∀ c a c', Q c a c' → c'.records = c.records) :
    LeavesRecords x :=
  .of_meets h (fun _ _ _ he hlight => hrs (hlight ▸ he)) hQ

/-- The same of a frame with panel commands. -/
theorem leavesRecords_of_within {α : Type} {x : Daemon α} {rs : List Resource} {n : Context → Nat}
    {Q : Context → α → Context → Prop} (h : ∀ c, Meets x c (within rs (n c)) (Q c))
    (hrs : Resource.light ∉ rs) (hQ : ∀ c a c', Q c a c' → c'.records = c.records) :
    LeavesRecords x :=
  .of_meets h (fun _ _ _ he hlight => hrs (hlight ▸ he.1)) hQ

/-- What leaves the records leaves every view of them. -/
theorem LeavesRecords.view {α V : Type} {x : Daemon α} {R : Eff → Prop} {v : Context → V}
    (h : LeavesRecords x) (hR : ∀ e, R e → e.resource = .light)
    (hv : ∀ c c' : Context, c'.records = c.records → v c' = v c) : Leaves R v x :=
  .of_meets h (fun _ _ _ he hr => he (hR _ hr)) fun c _ c' => hv c c'

section

variable (fx : Effectors)

/-- The match leaves them. -/
theorem currentMatch_records : LeavesRecords Effectors.currentMatch :=
  leavesRecords_of_only currentMatch_spec (by decide) (by rintro _ _ _ rfl; rfl)

/-- So does the low-battery check. -/
theorem batteryLowRequestCheck_records : LeavesRecords fx.batteryLowRequestCheck :=
  leavesRecords_of_only (batteryLowRequestCheck_spec fx) (by decide)
    (by rintro _ _ _ ⟨r, rfl, -⟩; rfl)

/-- So does the claim's refresh. -/
theorem refreshWaylandClaim_records : LeavesRecords Effectors.refreshWaylandClaim :=
  leavesRecords_of_only refreshWaylandClaim_spec (by decide) (by rintro _ _ _ ⟨w, rfl⟩; rfl)

/-- So does the debounce of the monitors. -/
theorem scheduleProfileReconcile_records : LeavesRecords Effectors.scheduleProfileReconcile :=
  leavesRecords_of_only scheduleProfileReconcile_spec (by decide) (by rintro _ _ _ ⟨t, rfl⟩; rfl)

/-- So does that of the AC state. -/
theorem schedulePowerSettle_records : LeavesRecords Effectors.schedulePowerSettle :=
  leavesRecords_of_only schedulePowerSettle_spec (by decide) (by rintro _ _ _ ⟨t, rfl⟩; rfl)

/-- So does the reading of the link. -/
theorem ingestActiveProfile_records : LeavesRecords Effectors.ingestActiveProfile :=
  leavesRecords_of_only ingestActiveProfile_spec (by decide)
    (by rintro _ _ _ ⟨pn, pr, pe, rfl⟩; rfl)

/-- So does an apply. -/
theorem applyProfile_records (profile : MonitorProfile) : LeavesRecords (fx.applyProfile profile) :=
  leavesRecords_of_only (fun c => applyProfile_spec fx c profile) (by decide)
    (by rintro _ _ _ ⟨pn, pr, pe, rfl⟩; rfl)

/-- So does the breadcrumb. -/
theorem writeGpuBreadcrumb_records (value : Option GpuPref) :
    LeavesRecords (fx.writeGpuBreadcrumb value) :=
  leavesRecords_of_only (fun c => writeGpuBreadcrumb_spec fx c value) (by decide)
    (by rintro _ _ _ rfl; rfl)

/-- So does the bar. -/
theorem syncWaybar_records : LeavesRecords fx.syncWaybar :=
  leavesRecords_of_only (syncWaybar_spec fx) (by decide) (by rintro _ _ _ ⟨v, rfl⟩; rfl)

/-- So do the workspaces. -/
theorem rehomeEdpWorkspaces_records : LeavesRecords fx.rehomeEdpWorkspaces :=
  .of_meets (fun c => sendCmd_spec fx c _) (by rintro _ _ _ ⟨-, rfl, -⟩; simp)
    (by rintro _ _ _ rfl; rfl)

/-- So does an entry. -/
theorem onEnter_records (state : State) (fresh : Bool) :
    LeavesRecords (fx.onEnter state fresh) := by
  by_cases hs : state = .suspending
  · subst hs
    exact leavesRecords_of_only (fun c => onEnter_suspending_spec fx c fresh) (by decide)
      (by rintro _ _ _ ⟨t, w, rfl⟩; rfl)
  · exact leavesRecords_of_within (fun c => onEnter_spec fx c state fresh hs) (by decide)
      (by rintro _ _ _ ⟨-, t, w, rfl⟩; rfl)

/-- So does an evaluation. -/
theorem evaluateFsms_records (kind : EventKind) : LeavesRecords (fx.evaluateFsms kind) := by
  by_cases hk : kind = .timerExpired
  · subst hk
    exact leavesRecords_of_within (evaluateFsms_timerExpired_spec fx) (by decide)
      (by rintro _ _ _ ⟨t, w, s, rfl, -⟩; rfl)
  · exact leavesRecords_of_within (fun c => evaluateFsms_spec fx c kind hk) (by decide)
      (by rintro _ _ _ ⟨t, w, rfl⟩; rfl)

/-- So does a re-assert. -/
theorem reassert_records (trigger : ReconcileTrigger) : LeavesRecords (fx.reassert trigger) := by
  rw [Effectors.reassert]
  refine .get_bind fun c => .bind (.when _ ?_) fun _ => .ask (by simp)
  refine .bind ingestActiveProfile_records fun _ => .get_bind fun c₁ => ?_
  exact .bind (onEnter_records fx _ false) fun _ => .pure _

/-- So does the enforcement of the panel. -/
theorem enforceEdp_records (snap : ReconcileSnapshot) : LeavesRecords (fx.enforceEdp snap) :=
  leavesRecords_of_within (fun c => enforceEdp_spec fx c snap) (by decide)
    (by rintro _ _ _ rfl; rfl)

/-- So does the backstop of the screens. -/
theorem dpmsBackstop_records (snap : ReconcileSnapshot) : LeavesRecords (fx.dpmsBackstop snap) :=
  leavesRecords_of_only (fun c => dpmsBackstop_spec fx c snap) (by decide)
    (by rintro _ _ _ rfl; rfl)

/-- The events whose arms move a record. -/
def movesRecords : Event → Bool
  | .reconcileTick _ | .monitorsChanged | .backlightHotplug | .sleeping | .kbdIdle _ => true
  | .kbdLevelChanged _ | .kbdOverrideChanged _ | .kbdLedHotplug | .lockChanged _ | .resumed => true
  | .powerOverrideChanged _ | .platformProfileChanged _ | .powerdAppeared => true
  | _ => false

/-- The other arms leave them. -/
theorem dispatchUpdate_records (ev : Event) (hev : movesRecords ev = false) :
    LeavesRecords (fx.dispatchUpdate ev) := by
  rw [Effectors.dispatchUpdate.eq_def]
  -- The arms that are said to move a record are excluded; every other one leaves them all.
  cases ev with
  | reconcileTick _ | monitorsChanged | backlightHotplug | sleeping | kbdIdle _ | kbdLevelChanged _
  | kbdOverrideChanged _ | kbdLedHotplug | lockChanged _ | resumed | powerOverrideChanged _
  | platformProfileChanged _ | powerdAppeared => exact absurd hev (by simp [movesRecords])
  | configReloaded | profileApplied => exact .bind (reassert_records fx _) fun _ => .pure _
  | profilesChanged => exact .bind scheduleProfileReconcile_records fun _ => .pure _
  | lid closed =>
    refine .get_bind fun c => .ite (.modify_bind (fun _ => rfl) ?_) (.pure _)
    exact .bind (.when _ refreshWaylandClaim_records) fun _ => .pure _
  | monitorHotplug added name =>
    refine .get_bind fun c => .bind (.bind (.ask (by simp)) fun _ => .pure _) fun _ => ?_
    refine .modify_bind (fun _ => rfl) (.bind scheduleProfileReconcile_records fun _ => ?_)
    exact .bind (.ask (by simp)) fun _ => .pure _
  | inhibitor wayland active =>
    exact .modify_bind (fun c => by cases wayland <;> rfl) (.pure _)
  | acChanged onAc =>
    refine .get_bind fun c => .ite (.pure _) (.modify_bind (fun _ => rfl) ?_)
    refine .bind (batteryLowRequestCheck_records fx) fun _ => ?_
    refine .bind schedulePowerSettle_records fun _ => .bind (.ask (by simp)) fun _ => .pure _
  | powerAcSettled =>
    exact .modify_bind (fun _ => rfl) (.bind (batteryLowRequestCheck_records fx) fun _ => .pure _)
  | batteryPercent pct =>
    refine .get_set_bind (fun _ => rfl) fun c => ?_
    refine .bind (batteryLowRequestCheck_records fx) fun changed => ?_
    exact .bind (.when _ (.ask (by simp))) fun _ => .pure _
  | gpuOverrideChanged word => exact .pure _
  | suspendRequestChanged word =>
    exact .modify_bind (fun _ => rfl) (.bind (.when _ refreshWaylandClaim_records) fun _ => .pure _)
  | timerExpired =>
    refine .get_bind fun c => .bind (.when _ ?_) fun _ => .pure _
    exact .bind (.ask (by simp)) fun standing => .when _ (.modify fun _ => rfl)

end

end Hyprstate
