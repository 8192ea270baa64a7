import Hyprstate.Daemon.Footprint

/-!
# Transitions

What one event does to the main machine: the entry effects of a state, the evaluation of the
transition map, and each arm of `dispatchUpdate`. The main machine reads the `inputs` of a context
and its state. The checks beside it keep both, so an arm's effect on the machine is what it assigns.
-/

namespace Hyprstate

open Reactive Process

/-- The fields of the context that decide where the main machine rests. -/
structure Inputs where
  lidClosed : Bool
  lidPresent : Bool
  lidAc : LidAcPolicy
  extMonCount : Nat
  logindInhibitor : Bool
  waylandInhibitor : Bool
  locked : Bool
  onAc : Bool
  suspendRequested : Bool
  onAcSettled : Bool
  lowBattery : Bool

/-- What of the context `world_state` looks at. -/
def Context.inputs (c : Context) : Inputs where
  lidClosed := c.lidClosed
  lidPresent := c.lidPresent
  lidAc := c.lidAc
  extMonCount := c.extMonCount
  logindInhibitor := c.logindInhibitor
  waylandInhibitor := c.waylandInhibitor
  locked := c.locked
  onAc := c.onAc
  suspendRequested := c.suspendRequested
  onAcSettled := c.onAcSettled
  lowBattery := c.lowBattery

/-- The world is a function of the inputs. -/
theorem world_eq_of_inputs_eq {c c' : Context} (h : c'.inputs = c.inputs) : c'.world = c.world := by
  cases c; cases c'
  simp only [Context.inputs, Inputs.mk.injEq] at h
  obtain ⟨rfl, rfl, rfl, rfl, rfl, rfl, rfl, rfl, rfl, rfl, rfl⟩ := h
  rfl

/-- The main machine is where it was, over the inputs it had. -/
def keepsMain (c c' : Context) : Prop := c'.inputs = c.inputs ∧ c'.state = c.state

/-- A context keeps its own state and policy. -/
@[refl] theorem keepsMain_refl (c : Context) : keepsMain c c := ⟨rfl, rfl⟩

/-- They are kept from turn to turn. -/
theorem keepsMain.trans {c₁ c₂ c₃ : Context} (h : keepsMain c₁ c₂) (h' : keepsMain c₂ c₃) :
    keepsMain c₁ c₃ :=
  ⟨h'.1.trans h.1, h'.2.trans h.2⟩

/-! ## Entering a state -/

section

variable (fx : Effectors) (c : Context)

/-- `live_locker` asks, and changes nothing. -/
theorem liveLocker_spec : Meets fx.liveLocker c (only [.query]) fun _ c' => c' = c := by
  simp [Effectors.liveLocker, Hyprctl.sessionIsLocked, only]

/-- `request_lock` makes lock calls alone. -/
theorem requestLock_spec : Meets fx.requestLock c (only [.lock]) fun _ c' => c' = c := by
  simp [Effectors.requestLock, only]

/-- `wait_for_lock` asks alone. -/
theorem waitForLock_spec : Meets fx.waitForLock c (only [.query]) fun _ c' => c' = c := by
  simp only [Effectors.waitForLock, meets_bind, meets_get, meets_ite]
  refine ⟨fun _ => (liveLocker_spec fx c).imp ?_, fun _ => by simp [only]⟩
  rintro live c rfl
  simp [only]

/-- `lockAndProve` asks and locks. -/
theorem lockAndProve_spec : Meets fx.lockAndProve c (only [.query, .lock]) fun _ c' => c' = c := by
  refine (weaken (requestLock_spec fx c) (by simp)).bind ?_
  rintro _ c rfl
  refine (weaken (waitForLock_spec fx c) (by simp)).bind ?_
  rintro engaged c rfl
  rw [meets_ite]
  exact ⟨fun _ => weaken (liveLocker_spec fx c) (by simp), fun _ => by simp⟩

/-- `suspending_tail` asks, locks and calls for the suspend. -/
theorem suspendingTail_spec :
    Meets fx.suspendingTail c (only [.query, .lock, .suspend]) fun _ c' => c' = c := by
  refine (weaken (liveLocker_spec fx c) (by simp)).bind ?_
  rintro live c rfl
  have hproven : Meets (if live then pure true else fx.lockAndProve : Daemon Bool) c
      (only [.query, .lock, .suspend]) fun _ c' => c' = c := by
    rw [meets_ite]
    exact ⟨fun _ => by simp, fun _ => weaken (lockAndProve_spec fx c) (by simp)⟩
  refine hproven.bind ?_
  rintro proven c rfl
  simp [Effectors.doSuspend, only]

/-- What the entry into a state may touch, but for the entry into `suspending`. -/
def entryResources : List Resource := [.query, .abort, .timer, .graceTimer, .panel, .command]

/-- What the entry into `suspending` may touch. -/
def suspendResources : List Resource := [.query, .abort, .timer, .lock, .suspend]

/-- A panel command, and never a disable without another monitor. -/
theorem setEdp_within (on : Bool) :
    Meets (fx.setEdp on) c (within [.panel] c.extMonCount) fun _ c' => c' = c := by
  refine (setEdp_spec fx c on).mono ?_ fun _ _ => id
  rintro _ _ ⟨rfl, rfl, -, h⟩
  refine ⟨by simp, fun on' heq => ⟨rfl, ?_⟩⟩
  obtain rfl : _ = on' := by simpa using heq
  exact h

/-- Entering any state but `suspending` succeeds, and moves only the handles of its timers. -/
theorem onEnter_spec (state : State) (fresh : Bool) (hne : state ≠ .suspending) :
    Meets (fx.onEnter state fresh) c (within entryResources c.extMonCount)
      fun ok c' => ok = true ∧ onlyTimers c c' := by
  have hedp : ∀ c on, Meets (fx.setEdp on) c (within entryResources c.extMonCount)
      fun _ c' => c' = c := fun c on =>
    (setEdp_within fx c on).mono (fun _ _ => within_mono (by simp [entryResources])) fun _ _ => id
  have hcancel : ∀ c n, Meets Effectors.cancelGraceTimer c (within entryResources n)
      fun _ c' => c' = { c with graceTimer := none } := fun c n =>
    widen (cancelGraceTimer_spec c) (by simp [entryResources]) (by simp)
  -- The watch is told first, and then each state cancels or arms its timer and sets the panel.
  refine (widen (enterClaimWatch_spec c state) (by simp [entryResources]) (by simp)).bind ?_
  rintro _ _ ⟨w, rfl⟩
  cases state with
  | lidOpen | docked =>
    refine (hcancel _ _).bind ?_
    rintro _ _ rfl
    refine (hedp _ _).bind ?_
    rintro _ _ rfl
    exact ⟨rfl, _, _, rfl⟩
  | deferred =>
    refine (hcancel _ _).bind ?_
    rintro _ _ rfl
    refine (hedp _ _).bind ?_
    rintro _ _ rfl
    simp only [Effectors.pauseMedia, meets_bind, meets_get, meets_when, meets_pure]
    refine ⟨fun _ => (sendCmd_spec fx _ _).mono ?_ ?_, fun _ => ⟨trivial, _, _, rfl⟩⟩
    · rintro _ _ ⟨-, rfl, -⟩
      exact ⟨by simp [entryResources], by simp⟩
    · rintro _ _ rfl
      exact ⟨trivial, _, _, rfl⟩
  | countdown =>
    refine (hedp _ _).bind ?_
    rintro _ _ rfl
    refine (widen (startGraceTimer_spec _ fresh) (by simp [entryResources]) (by simp)).bind ?_
    rintro _ _ ⟨t, rfl⟩
    exact ⟨rfl, _, _, rfl⟩
  | suspending => exact absurd rfl hne

/-- The entry of a suspend moves the timers alone. -/
theorem onEnter_suspending_spec (fresh : Bool) :
    Meets (fx.onEnter .suspending fresh) c (only suspendResources) fun _ c' => onlyTimers c c' := by
  refine (weaken (enterClaimWatch_spec c _) (by simp [suspendResources])).bind ?_
  rintro _ _ ⟨w, rfl⟩
  refine (weaken (cancelGraceTimer_spec _) (by simp [suspendResources])).bind ?_
  rintro _ _ rfl
  refine (weaken (suspendingTail_spec fx _) (by simp [suspendResources])).imp ?_
  rintro _ _ rfl
  exact ⟨_, _, rfl⟩

/-! ## The transition map -/

/-- Where the transition map wants the machine after an event kind. -/
def settled (kind : EventKind) (c : Context) : State :=
  (desiredState c.state kind c.world).getD c.state

/-- Off the timer and the resume, the machine settles where the world rests. -/
theorem settled_eq {kind : EventKind} (ht : kind ≠ .timerExpired) (hr : kind ≠ .resumed) :
    settled kind c = if c.state = .suspending then .suspending else worldState c.world := by
  rw [settled, desiredState_of_world c.world ht hr]
  by_cases hs : c.state = .suspending
  · simp [hs]
  · by_cases hw : worldState c.world = c.state <;> simp [hs, hw]

/-- On a kind that is no timer expiry the machine settles where the map wants it, and nothing else
of the machine moves. -/
theorem evaluateFsms_spec (kind : EventKind) (hk : kind ≠ .timerExpired) :
    Meets (fx.evaluateFsms kind) c (within entryResources c.extMonCount)
      fun _ c' => ∃ t w, c' =
        { c with graceTimer := t, claimWatch := w, state := settled kind c } := by
  have hsettled : desiredState c.state kind c.world ≠ some .suspending := fun h =>
    hk ((desiredState_eq_suspending_iff _ _ _).mp h).1
  simp only [Effectors.evaluateFsms, meets_bind, meets_get, settled]
  cases hd : desiredState c.state kind c.world with
  | none => exact ⟨c.graceTimer, c.claimWatch, rfl⟩
  | some new =>
    have hnew : new ≠ .suspending := fun h => hsettled (by rw [hd, h])
    simp only [meets_when, hnew, if_false, meets_bind, meets_modify]
    refine ⟨fun _ => ?_, fun h => ?_⟩
    · refine (onEnter_spec fx _ new true hnew).imp ?_
      rintro _ _ ⟨-, t, w, rfl⟩
      exact ⟨t, w, rfl⟩
    · obtain rfl : new = c.state := by simpa using h
      exact ⟨c.graceTimer, c.claimWatch, rfl⟩

/-- On a timer expiry the machine settles where the map wants it, or stays in the countdown when a
suspend is rejected. -/
theorem evaluateFsms_timerExpired_spec :
    Meets (fx.evaluateFsms .timerExpired) c
      (within (entryResources ++ suspendResources) c.extMonCount)
      fun _ c' => ∃ t w s, c' = { c with graceTimer := t, claimWatch := w, state := s } ∧
        (s = settled .timerExpired c ∨ settled .timerExpired c = .suspending ∧ s = c.state) := by
  simp only [Effectors.evaluateFsms, meets_bind, meets_get, settled]
  cases hd : desiredState c.state .timerExpired c.world with
  | none => exact ⟨c.graceTimer, c.claimWatch, c.state, rfl, .inl rfl⟩
  | some new =>
    simp only [meets_when, meets_ite, meets_bind, meets_modify]
    refine ⟨fun _ => ⟨fun hnew => ?_, fun hnew => ?_⟩, fun h => ?_⟩
    · subst hnew
      -- A suspend that fails leaves the state as it was, with a new grace timer.
      refine (widen (onEnter_suspending_spec fx c true) (by simp)
        (by simp [suspendResources])).imp ?_
      rintro entered _ ⟨t, w, rfl⟩
      refine ⟨fun _ => ⟨t, w, _, rfl, .inl rfl⟩, fun _ => ?_⟩
      refine (widen (startGraceTimer_spec _ true) (by simp [entryResources]) (by simp)).imp ?_
      rintro _ _ ⟨t', rfl⟩
      exact ⟨t', w, _, rfl, .inr ⟨rfl, rfl⟩⟩
    · refine ((onEnter_spec fx _ new true hnew).mono (fun _ _ he => ?_) fun _ _ => id).imp ?_
      · exact ⟨List.mem_append_left _ he.1, he.2⟩
      rintro _ _ ⟨-, t, w, rfl⟩
      exact ⟨t, w, _, rfl, .inl rfl⟩
    · obtain rfl : new = c.state := by simpa using h
      exact ⟨c.graceTimer, c.claimWatch, c.state, rfl, .inl rfl⟩

/-- `request_suspend` writes its file. -/
theorem requestSuspend_spec :
    Meets fx.requestSuspend c (only [.query, .requestFile]) fun _ c' => c' = c := by
  simp [Effectors.requestSuspend, only]

/-- The request of a low battery is removed where there is one. -/
theorem clearBatteryLowRequest_spec :
    Meets fx.clearBatteryLowRequest c (only [.query, .requestFile]) fun _ c' => c' = c := by
  simp [Effectors.clearBatteryLowRequest, only]

/-- The battery-low check moves the request only, and says so. -/
theorem batteryLowRequestCheck_spec :
    Meets fx.batteryLowRequestCheck c (only [.query, .requestFile])
      fun changed c' => ∃ r, c' = { c with suspendRequested := r } ∧
        (changed = false → r = c.suspendRequested) := by
  simp only [Effectors.batteryLowRequestCheck, meets_bind, meets_get]
  cases batteryLowAction c.lowBattery c.onAc c.onAcSettled c.suspendRequested with
  | request =>
    refine (requestSuspend_spec fx c).bind ?_
    rintro written c rfl
    cases written
    · exact ⟨c.suspendRequested, rfl, fun _ => rfl⟩
    · exact ⟨true, rfl, by simp⟩
  | withdraw =>
    refine (clearBatteryLowRequest_spec fx c).bind ?_
    rintro removed c rfl
    cases removed
    · exact ⟨c.suspendRequested, rfl, fun _ => rfl⟩
    · exact ⟨false, rfl, by simp⟩
  | hold => exact ⟨c.suspendRequested, rfl, fun _ => rfl⟩

/-- The refresh of the claim moves the claim alone. -/
theorem refreshWaylandClaim_spec :
    Meets Effectors.refreshWaylandClaim c (only [.query])
      fun _ c' => ∃ w, c' = { c with waylandInhibitor := w } := by
  simp only [Effectors.refreshWaylandClaim, Hyprctl.waylandIdleInhibited, meets_bind, meets_ask,
    meets_pure]
  refine ⟨by simp [only], fun clients => ?_⟩
  cases clients with
  | none => exact ⟨c.waylandInhibitor, rfl⟩
  | some clients => exact ⟨_, rfl⟩

/-! ## The arms of the dispatch -/

/-- What an event may touch, but for a suspend attempt. -/
def eventResources : List Resource :=
  [.query, .light, .powerd, .requestFile, .powerOverride, .kbdOverride, .file, .graceTimer, .timer,
    .abort, .panel, .profile, .command]

/-- What an event may touch where its arm enters no state by itself. -/
def checkResources : List Resource :=
  [.query, .light, .powerd, .requestFile, .powerOverride, .kbdOverride, .file, .timer, .abort,
    .profile, .command]

/-- What the checks touch is among what an event touches. -/
theorem checkResources_subset : checkResources ⊆ eventResources := by
  simp [checkResources, eventResources]

/-- So is what an entry touches. -/
theorem entryResources_subset : entryResources ⊆ eventResources := by
  simp [entryResources, eventResources]

/-- A contract with few resources, none of them the panel, inside an event. -/
theorem inEvent {α : Type} {x : Daemon α} {c : Context} {rs : List Resource} {n : Nat}
    {Q : α → Context → Prop} (h : Meets x c (only rs) Q) (hrs : rs ⊆ eventResources)
    (hp : Resource.panel ∉ rs) : Meets x c (within eventResources n) Q :=
  widen h hrs hp

/-- The same inside an arm that enters no state. -/
theorem inCheck {α : Type} {x : Daemon α} {c : Context} {rs : List Resource} {n : Nat}
    {Q : α → Context → Prop} (h : Meets x c (only rs) Q) (hrs : rs ⊆ checkResources) :
    Meets x c (within checkResources n) Q :=
  widen h hrs fun hp => absurd (hrs hp) (by simp [checkResources])

/-- The arm of the monitors leaves the state, the policy and the grace timer. -/
theorem handleMonitorsChanged_spec (n : Nat) :
    Meets fx.handleMonitorsChanged c (within checkResources n)
      fun _ c' => keepsMain c c' ∧ c'.graceTimer = c.graceTimer := by
  -- What follows the apply is the same whether a profile matched or none did.
  have hrest : ∀ (chosen : Option MonitorProfile) (c₀ : Context),
      keepsMain c c₀ ∧ c₀.graceTimer = c.graceTimer → Meets (do
      fx.writeGpuBreadcrumb (chosen.map MonitorProfile.gpu)
      fx.gpuCheck "monitors changed" chosen
      fx.powerPolicyCheck
      let c ← get
      when (!Effectors.edpShouldBeOn c && decide (c.extMonCount > 0)) fx.rehomeEdpWorkspaces) c₀
      (within checkResources n) fun _ c' => keepsMain c c' ∧ c'.graceTimer = c.graceTimer := by
    intro chosen c₀ h₀
    refine (inCheck (writeGpuBreadcrumb_spec fx c₀ _) (by simp [checkResources])).bind ?_
    rintro _ c₀ rfl
    refine (inCheck (gpuCheck_spec fx c₀ _ _) (by simp [checkResources])).bind ?_
    rintro _ _ ⟨g, p, rfl⟩
    refine (inCheck (powerPolicyCheck_spec fx _) (by simp [checkResources])).bind ?_
    rintro _ _ ⟨p', b, rfl⟩
    simp only [Effectors.rehomeEdpWorkspaces, meets_bind, meets_get, meets_when]
    refine ⟨fun _ => (sendCmd_spec fx _ _).mono ?_ ?_, fun _ => h₀⟩
    · rintro _ _ ⟨-, rfl, -⟩
      exact ⟨by simp [checkResources], by simp⟩
    · rintro _ _ rfl
      exact h₀
  refine (inCheck (currentMatch_spec c) (by simp [checkResources])).bind ?_
  rintro chosen c rfl
  cases chosen with
  | none => exact hrest none _ ⟨⟨rfl, rfl⟩, rfl⟩
  | some p =>
    refine (inCheck (applyProfile_spec fx c p) (by simp [checkResources])).bind ?_
    rintro _ _ ⟨pn, pr, pe, rfl⟩
    exact hrest (some p) _ ⟨⟨rfl, rfl⟩, rfl⟩

/-- So does the re-assert, the timer apart. -/
theorem reassert_spec (trigger : ReconcileTrigger) :
    Meets (fx.reassert trigger) c (within eventResources c.extMonCount)
      fun _ c' => keepsMain c c' := by
  simp only [Effectors.reassert]
  rw [meets_bind, meets_get, meets_bind, meets_when]
  refine ⟨fun hs => ?_, fun _ => ?_⟩
  · refine (inEvent (ingestActiveProfile_spec c) (by simp [eventResources]) (by simp)).bind ?_
    rintro _ _ ⟨pn, pr, pe, rfl⟩
    rw [meets_bind, meets_get]
    refine ((onEnter_spec fx _ _ false (by simpa using hs)).mono
      (fun _ _ => within_mono entryResources_subset) fun _ _ => id).bind ?_
    rintro _ _ ⟨-, t, w, rfl⟩
    exact ⟨⟨by simp [eventResources], by simp⟩, fun _ => ⟨rfl, rfl⟩⟩
  · exact ⟨⟨by simp [eventResources], by simp⟩, fun _ => keepsMain_refl c⟩

/-! ### The reconcile tick -/

/-- The context a snapshot repairs to, given whether the request file stands. -/
def repaired (snap : ReconcileSnapshot) (requestNow : Bool) (c : Context) : Context :=
  { c with
    lidClosed := if c.lidPresent then snap.lidClosed else c.lidClosed
    suspendRequested := requestNow
    extMonCount := snap.extMonCount
    logindInhibitor := snap.logindInhibitor
    waylandInhibitor := snap.waylandInhibitor.getD c.waylandInhibitor
    locked := snap.locked.getD c.locked
    onAc := snap.onAc.getD c.onAc }

/-- The repair, once it has found that the request file stands or not. -/
theorem repairFound_spec (snap : ReconcileSnapshot) (req : Bool) :
    Meets (do
      modify fun c => { c with suspendRequested := req, extMonCount := snap.extMonCount }
      when (decide (snap.extMonCount ≠ c.extMonCount)) Effectors.scheduleProfileReconcile
      modify fun c => { c with
        logindInhibitor := snap.logindInhibitor
        waylandInhibitor := snap.waylandInhibitor.getD c.waylandInhibitor
        locked := snap.locked.getD c.locked }
      when (decide (snap.locked.getD c.locked ≠ c.locked))
        (request (.lockedSend (snap.locked.getD c.locked)))
      modify fun c => { c with onAc := snap.onAc.getD c.onAc }
      pure (Effectors.fsmDrift snap c req, Effectors.powerDrift snap c) : Daemon (Bool × Bool))
      { c with lidClosed := if c.lidPresent then snap.lidClosed else c.lidClosed }
      (only [.query, .abort, .timer]) fun drift c' =>
        (∃ t, c' = { repaired snap req c with profileDebounce := t }) ∧
          drift = (Effectors.fsmDrift snap c req, Effectors.powerDrift snap c) := by
  -- Whether the count moved decides about the debounce alone; the rest is the same for any timer.
  have hrest : ∀ t : Option Handle, Meets (do
      modify fun c => { c with
        logindInhibitor := snap.logindInhibitor
        waylandInhibitor := snap.waylandInhibitor.getD c.waylandInhibitor
        locked := snap.locked.getD c.locked }
      when (decide (snap.locked.getD c.locked ≠ c.locked))
        (request (.lockedSend (snap.locked.getD c.locked)))
      modify fun c => { c with onAc := snap.onAc.getD c.onAc }
      pure (Effectors.fsmDrift snap c req, Effectors.powerDrift snap c) : Daemon (Bool × Bool))
      { c with
        lidClosed := if c.lidPresent then snap.lidClosed else c.lidClosed
        suspendRequested := req
        extMonCount := snap.extMonCount
        profileDebounce := t }
      (only [.query, .abort, .timer]) fun drift c' =>
        (∃ t, c' = { repaired snap req c with profileDebounce := t }) ∧
          drift = (Effectors.fsmDrift snap c req, Effectors.powerDrift snap c) := by
    intro t
    simp only [meets_bind, meets_modify, meets_when, meets_ask, meets_pure]
    exact ⟨fun _ => ⟨by simp [only], fun _ => ⟨⟨t, rfl⟩, trivial⟩⟩, fun _ => ⟨⟨t, rfl⟩, trivial⟩⟩
  rw [meets_bind, meets_modify, meets_bind, meets_when]
  refine ⟨fun _ => ?_, fun _ => hrest c.profileDebounce⟩
  refine (weaken (scheduleProfileReconcile_spec _) (by simp)).imp ?_
  rintro _ _ ⟨t, rfl⟩
  exact hrest t

/-- The repair assigns what the snapshot says, and reports the drift of both kinds. -/
theorem repairContext_spec (snap : ReconcileSnapshot) :
    Meets (Effectors.repairContext snap) c (only [.query, .abort, .timer]) fun drift c' =>
      ∃ req t, c' = { repaired snap req c with profileDebounce := t } ∧
        drift = (Effectors.fsmDrift snap c req, Effectors.powerDrift snap c) := by
  simp only [Effectors.repairContext]
  rw [meets_bind, meets_get, meets_bind, meets_modify, meets_bind, meets_ask]
  refine ⟨by simp [only], fun req => (repairFound_spec c snap req).imp ?_⟩
  rintro drift c' ⟨⟨t, hc'⟩, hdrift⟩
  exact ⟨req, t, hc', hdrift⟩

/-- The tick's enforcement of the panel sends at most a panel command. -/
theorem enforceEdp_spec (snap : ReconcileSnapshot) :
    Meets (fx.enforceEdp snap) c (within [.panel] c.extMonCount) fun _ c' => c' = c := by
  simp only [Effectors.enforceEdp, meets_bind, meets_get]
  cases snap.edpDisabled with
  | none => rfl
  | some disabled =>
    simp only [meets_ite, meets_when]
    exact ⟨fun _ => setEdp_within fx c true, fun _ => ⟨fun _ => setEdp_within fx c false,
      fun _ => trivial⟩⟩

/-- The tick's backstop keeps the new cursor's place. -/
theorem dpmsBackstop_spec (snap : ReconcileSnapshot) :
    Meets (fx.dpmsBackstop snap) c (only [.command])
      fun _ c' => c' = { c with lastCursorPos := snap.cursorPos } := by
  simp only [Effectors.dpmsBackstop, Effectors.dpmsOn]
  rw [meets_bind, meets_get, meets_bind, meets_set]
  cases snap.dpmsOff with
  | none => rfl
  | some dpmsOff =>
    dsimp only
    rw [meets_when]
    refine ⟨fun _ => (sendCmd_spec fx _ _).mono ?_ fun _ _ => id, fun _ => rfl⟩
    rintro _ _ ⟨-, rfl, -⟩
    simp [only]

/-- What the repairs drive, by the input that the evaluation goes by. -/
theorem driveRepairs_spec (fsm power : Bool) :
    Meets (fx.driveRepairs fsm power) c (within eventResources c.extMonCount) fun _ c' =>
      c'.edpPolicy = c.edpPolicy ∧ c'.currentProfile = c.currentProfile ∧
      ∃ ac r, c'.inputs = { c.inputs with onAcSettled := ac, suspendRequested := r } ∧
        (power = false → ac = c.onAcSettled ∧ r = c.suspendRequested) := by
  -- The evaluation moves the state only, from whatever the checks before it left.
  have hfsm : ∀ c₁ : Context, c₁.extMonCount = c.extMonCount → c₁.edpPolicy = c.edpPolicy →
      c₁.currentProfile = c.currentProfile →
      Meets (when fsm (fx.evaluateFsms .ctxRepaired)) c₁
        (within eventResources c.extMonCount) fun _ c' => c'.edpPolicy = c.edpPolicy ∧
          c'.currentProfile = c.currentProfile ∧ c'.inputs = c₁.inputs := by
    intro c₁ hext hedp hprof
    rw [meets_when]
    refine ⟨fun _ => ?_, fun _ => ⟨hedp, hprof, rfl⟩⟩
    rw [← hext]
    refine ((evaluateFsms_spec fx c₁ _ (by simp)).mono
      (fun _ _ => within_mono entryResources_subset) fun _ _ => id).imp ?_
    rintro _ _ ⟨t, w, rfl⟩
    exact ⟨hedp, hprof, rfl⟩
  simp only [Effectors.driveRepairs]
  rw [meets_bind, meets_when]
  refine ⟨fun hp => ?_, fun _ => ?_⟩
  · rw [meets_bind, meets_modify]
    refine (inEvent (powerPolicyCheck_spec fx _) (by simp [eventResources]) (by simp)).bind ?_
    rintro _ _ ⟨p, b, rfl⟩
    refine (inEvent (batteryLowRequestCheck_spec fx _) (by simp [eventResources]) (by simp)).bind ?_
    rintro _ _ ⟨r, rfl, -⟩
    rw [meets_pure]
    refine (hfsm _ (by rfl) (by rfl) (by rfl)).imp ?_
    rintro _ c' ⟨hedp, hprof, hin⟩
    exact ⟨hedp, hprof, c.onAc, r, hin, by simp [hp]⟩
  · refine (hfsm c rfl rfl rfl).imp ?_
    rintro _ c' ⟨hedp, hprof, hin⟩
    exact ⟨hedp, hprof, c.onAcSettled, c.suspendRequested, hin, fun _ => ⟨rfl, rfl⟩⟩

/-- After a tick the inputs are what the snapshot says, but for the settled AC axis and the request,
which the power policy's repair may move. -/
theorem handleReconcileTick_spec (snap : ReconcileSnapshot) :
    Meets (fx.handleReconcileTick snap) c (within eventResources snap.extMonCount) fun _ c' =>
      ∃ req ac r, c'.inputs =
        { (repaired snap req c).inputs with onAcSettled := ac, suspendRequested := r } := by
  refine (inEvent (repairContext_spec c snap) (by simp [eventResources]) (by simp)).bind ?_
  rintro drift _ ⟨req, t, rfl, -⟩
  refine (driveRepairs_spec fx _ drift.1 drift.2).bind ?_
  rintro _ c₁ ⟨-, -, ac, r, hin, -⟩
  have hext : c₁.extMonCount = snap.extMonCount := congrArg Inputs.extMonCount hin
  rw [meets_bind, meets_get, meets_when]
  refine ⟨fun _ => ?_, fun _ => ⟨req, ac, r, hin⟩⟩
  refine (inEvent (ingestActiveProfile_spec c₁) (by simp [eventResources]) (by simp)).bind ?_
  rintro _ _ ⟨pn, pr, pe, rfl⟩
  show Meets _ _ (within eventResources snap.extMonCount) _
  rw [← hext]
  refine ((enforceEdp_spec fx _ snap).mono
    (fun _ _ => within_mono (by simp [eventResources])) fun _ _ => id).bind ?_
  rintro _ _ rfl
  refine (inEvent (dpmsBackstop_spec fx _ snap) (by simp [eventResources]) (by simp)).imp ?_
  rintro _ _ rfl
  exact ⟨req, ac, r, hin⟩

/-! ### Every event -/

/-- What one event does to the inputs and the state before the machine is evaluated, and whether it
falls through to that. The tick alone evaluates the machine by itself. -/
def Arm (c : Context) : Event → Bool → Context → Prop
  | .reconcileTick snap, falls, c' =>
    falls = false ∧ ∃ req ac r, c'.inputs =
      { (repaired snap req c).inputs with onAcSettled := ac, suspendRequested := r }
  | .lid closed, falls, c' =>
    c'.state = c.state ∧ falls = c.lidPresent ∧
      if c.lidPresent then
        ∃ w, c'.inputs = { c.inputs with lidClosed := closed, waylandInhibitor := w }
      else c'.inputs = c.inputs
  | .monitorHotplug _ _, falls, c' =>
    c'.state = c.state ∧ falls = true ∧ ∃ n, c'.inputs = { c.inputs with extMonCount := n }
  | .inhibitor true active, falls, c' =>
    c'.state = c.state ∧ falls = true ∧ c'.inputs = { c.inputs with waylandInhibitor := active }
  | .inhibitor false active, falls, c' =>
    c'.state = c.state ∧ falls = true ∧ c'.inputs = { c.inputs with logindInhibitor := active }
  | .lockChanged locked, falls, c' =>
    c'.state = c.state ∧ falls = true ∧ c'.inputs = { c.inputs with locked := locked }
  | .acChanged onAc, falls, c' =>
    c'.state = c.state ∧ falls = decide (onAc ≠ c.onAc) ∧
      if onAc = c.onAc then c'.inputs = c.inputs
      else ∃ r, c'.inputs = { c.inputs with onAc := onAc, suspendRequested := r }
  | .powerAcSettled, falls, c' =>
    c'.state = c.state ∧ falls = true ∧
      ∃ r, c'.inputs = { c.inputs with onAcSettled := c.onAc, suspendRequested := r }
  | .batteryPercent pct, falls, c' =>
    c'.state = c.state ∧
      ∃ r, c'.inputs =
          { c.inputs with
            lowBattery := batteryLowStep c.lowBattery pct c.batteryLowPct
            suspendRequested := r } ∧
        (falls = false → c'.inputs = c.inputs)
  | .powerdAppeared, falls, c' =>
    c'.state = c.state ∧ falls = true ∧ c'.inputs = { c.inputs with onAcSettled := c.onAc }
  | .suspendRequestChanged word, falls, c' =>
    c'.state = c.state ∧ falls = true ∧
      ∃ w, c'.inputs = { c.inputs with suspendRequested := word.isSome, waylandInhibitor := w }
  | .timerExpired, falls, c' =>
    c'.state = c.state ∧ falls = true ∧ ∃ r, c'.inputs = { c.inputs with suspendRequested := r }
  | .resumed, falls, c' =>
    c'.state = c.state ∧ falls = true ∧ c'.inputs = { c.inputs with suspendRequested := false }
  | .platformProfileChanged _, falls, c' | .gpuOverrideChanged _, falls, c'
  | .powerOverrideChanged _, falls, c' => falls = true ∧ keepsMain c c'
  | _, falls, c' => falls = false ∧ keepsMain c c'

/-- What an event's arm may touch: the tick and the re-assertions enter states by themselves. -/
def armResources : Event → List Resource
  | .reconcileTick _ | .configReloaded | .profileApplied => eventResources
  | _ => checkResources

/-- What an arm touches is among what an event touches. -/
theorem armResources_subset (ev : Event) : armResources ev ⊆ eventResources := by
  cases ev <;> first | exact fun _ => id | exact checkResources_subset

/-- Whether an event's arm keeps the handle of the grace timer. -/
def ArmKeepsTimer (c c' : Context) : Event → Prop
  | .reconcileTick _ | .configReloaded | .profileApplied => True
  | _ => c'.graceTimer = c.graceTimer

/-- The count of external monitors that the panel commands of an event's arm are made with; an arm
that makes none has any. -/
def ArmCount (c : Context) (n : Nat) : Event → Prop
  | .reconcileTick snap => n = snap.extMonCount
  | .configReloaded | .profileApplied => n = c.extMonCount
  | _ => True

/-- Every event has the count of monitors that its arm goes by. -/
theorem exists_armCount (ev : Event) : ∃ n, ArmCount c n ev := by
  cases ev
  case reconcileTick snap => exact ⟨snap.extMonCount, rfl⟩
  case configReloaded | profileApplied => exact ⟨c.extMonCount, rfl⟩
  all_goals exact ⟨0, trivial⟩

/-- The keyboard check inside an event. -/
theorem kbdPolicyCheck_event (sample : Bool) (n : Nat) :
    Meets (fx.kbdPolicyCheck sample) c (within checkResources n) fun _ c' => onlyKbd c c' :=
  inCheck (kbdPolicyCheck_spec fx c sample) (by simp [checkResources])

/-- The battery-low check inside an event. -/
theorem batteryLowRequestCheck_event (n : Nat) :
    Meets fx.batteryLowRequestCheck c (within checkResources n) fun changed c' =>
      ∃ r, c' = { c with suspendRequested := r } ∧ (changed = false → r = c.suspendRequested) :=
  inCheck (batteryLowRequestCheck_spec fx c) (by simp [checkResources])

/-- The claim sample inside an event. -/
theorem refreshWaylandClaim_event (n : Nat) :
    Meets Effectors.refreshWaylandClaim c (within checkResources n)
      fun _ c' => ∃ w, c' = { c with waylandInhibitor := w } :=
  inCheck (refreshWaylandClaim_spec c) (by simp [checkResources])

/-- To ask for a pass changes nothing. -/
theorem requestReconcile_event (trigger : ReconcileTrigger) (n : Nat) :
    Meets (Effectors.requestReconcile trigger) c (within checkResources n) fun _ c' => c' = c :=
  inCheck (requestReconcile_spec c trigger) (by simp [checkResources])

/-- Each arm of the dispatch does what `Arm` says, and attempts no suspend. The grace timer is left
alone by an arm that enters no state. -/
theorem dispatchUpdate_spec (ev : Event) {n : Nat} (hn : ArmCount c n ev) :
    Meets (fx.dispatchUpdate ev) c (within (armResources ev) n)
      fun falls c' => Arm c ev falls c' ∧ ArmKeepsTimer c c' ev := by
  cases ev with
  -- The tick and the re-asserts enter states themselves, so their own lemmas say what is left.
  | reconcileTick snap =>
    subst hn
    refine (handleReconcileTick_spec fx c snap).bind ?_
    rintro _ c' h
    exact ⟨⟨rfl, h⟩, trivial⟩
  | configReloaded | profileApplied =>
    subst hn
    refine (reassert_spec fx c _).bind ?_
    rintro _ c' h
    exact ⟨⟨rfl, h⟩, trivial⟩
  -- The arms that only check: none of the inputs moves.
  | monitorsChanged =>
    refine (handleMonitorsChanged_spec fx c _).bind ?_
    rintro _ c' ⟨h, ht⟩
    exact ⟨⟨rfl, h⟩, ht⟩
  | profilesChanged =>
    refine (inCheck (scheduleProfileReconcile_spec c) (by simp [checkResources])).bind ?_
    rintro _ _ ⟨t, rfl⟩
    exact ⟨⟨rfl, rfl, rfl⟩, rfl⟩
  | backlightHotplug =>
    refine (inCheck (discoverBacklight_spec c) (by simp [checkResources])).bind ?_
    rintro _ _ ⟨b, rfl⟩
    exact ⟨⟨rfl, rfl, rfl⟩, rfl⟩
  | sleeping | kbdLevelChanged level | kbdOverrideChanged armed =>
    simp only [Effectors.dispatchUpdate]
    rw [meets_bind, meets_modify]
    refine (kbdPolicyCheck_event fx _ _ _).bind ?_
    rintro _ _ ⟨k, rfl⟩
    exact ⟨⟨rfl, rfl, rfl⟩, rfl⟩
  | kbdIdle idle =>
    simp only [Effectors.dispatchUpdate]
    have hcheck : ∀ k, Meets (do fx.kbdPolicyCheck (!idle); pure false) { c with kbd := k }
        (within checkResources n)
        fun falls c' => Arm c (.kbdIdle idle) falls c' ∧ ArmKeepsTimer c c' (.kbdIdle idle) := by
      intro k
      refine (kbdPolicyCheck_event fx _ _ _).bind ?_
      rintro _ _ ⟨k', rfl⟩
      exact ⟨⟨rfl, rfl, rfl⟩, rfl⟩
    rw [meets_bind, meets_modify, meets_bind, meets_when]
    refine ⟨fun _ => ?_, fun _ => hcheck _⟩
    refine (inCheck (kbdReleaseOverride_spec fx _) (by simp [checkResources])).imp ?_
    rintro _ _ ⟨k, rfl⟩
    exact hcheck k
  | kbdLedHotplug =>
    refine (inCheck (discoverKbd_spec c) (by simp [checkResources])).bind ?_
    rintro _ _ ⟨k, rfl⟩
    refine (kbdPolicyCheck_event fx _ _ _).bind ?_
    rintro _ _ ⟨k', rfl⟩
    exact ⟨⟨rfl, rfl, rfl⟩, rfl⟩
  -- The arms that move an input, each read off its statements.
  | lid closed =>
    simp only [Effectors.dispatchUpdate]
    rw [meets_bind, meets_get, meets_ite]
    refine ⟨fun hp => ?_, fun hp => ?_⟩
    · rw [meets_bind, meets_modify, meets_bind, meets_when]
      refine ⟨fun _ => (refreshWaylandClaim_event _ _).imp ?_, fun _ => ?_⟩
      · rintro _ _ ⟨w, rfl⟩
        exact ⟨⟨rfl, hp.symm, by rw [if_pos hp]; exact ⟨w, rfl⟩⟩, rfl⟩
      · exact ⟨⟨rfl, hp.symm, by rw [if_pos hp]; exact ⟨c.waylandInhibitor, rfl⟩⟩, rfl⟩
    · exact ⟨⟨rfl, by simpa using hp, by rw [if_neg hp]⟩, rfl⟩
  | monitorHotplug added name =>
    simp only [Effectors.dispatchUpdate, Hyprctl.extMonitorCount]
    rw [meets_bind, meets_get, meets_bind, meets_bind, meets_ask]
    refine ⟨⟨by simp [armResources, checkResources], by simp⟩, fun monitors => ?_⟩
    rw [meets_pure, meets_bind, meets_modify]
    refine (inCheck (scheduleProfileReconcile_spec _) (by simp [checkResources])).bind ?_
    rintro _ _ ⟨t, rfl⟩
    refine (requestReconcile_event _ _ _).bind ?_
    rintro _ _ rfl
    exact ⟨⟨rfl, rfl, _, rfl⟩, rfl⟩
  | inhibitor wayland active => cases wayland <;> exact ⟨⟨rfl, rfl, rfl⟩, rfl⟩
  | lockChanged locked =>
    simp only [Effectors.dispatchUpdate]
    rw [meets_bind, meets_modify]
    refine (requestReconcile_event _ _ _).bind ?_
    rintro _ _ rfl
    refine (kbdPolicyCheck_event fx _ _ _).bind ?_
    rintro _ _ ⟨k, rfl⟩
    exact ⟨⟨rfl, rfl, rfl⟩, rfl⟩
  -- A flip that changes nothing returns before the checks.
  | acChanged onAc =>
    simp only [Effectors.dispatchUpdate]
    rw [meets_bind, meets_get, meets_ite]
    refine ⟨fun h => ⟨⟨rfl, by simp [h], by rw [if_pos h]⟩, rfl⟩, fun h => ?_⟩
    rw [meets_bind, meets_modify]
    refine (batteryLowRequestCheck_event fx _ _).bind ?_
    rintro _ _ ⟨r, rfl, -⟩
    refine (inCheck (schedulePowerSettle_spec _) (by simp [checkResources])).bind ?_
    rintro _ _ ⟨t, rfl⟩
    refine (requestReconcile_event _ _ _).bind ?_
    rintro _ _ rfl
    exact ⟨⟨rfl, by simp [h], by rw [if_neg h]; exact ⟨r, rfl⟩⟩, rfl⟩
  | powerAcSettled =>
    simp only [Effectors.dispatchUpdate]
    rw [meets_bind, meets_modify]
    refine (batteryLowRequestCheck_event fx _ _).bind ?_
    rintro _ _ ⟨r, rfl, -⟩
    exact ⟨⟨rfl, rfl, r, rfl⟩, rfl⟩
  | powerOverrideChanged word =>
    simp only [Effectors.dispatchUpdate]
    rw [meets_bind, meets_get]
    cases word with
    | none => exact ⟨⟨rfl, rfl, rfl⟩, rfl⟩
    | some w =>
      dsimp only
      cases PowerProfile.parse w with
      | none => exact ⟨⟨rfl, rfl, rfl⟩, rfl⟩
      | some p =>
        rw [meets_bind, meets_when]
        exact ⟨fun _ => ⟨⟨rfl, rfl, rfl⟩, rfl⟩, fun _ => ⟨⟨rfl, rfl, rfl⟩, rfl⟩⟩
  -- Where neither the flag nor the request flips, the arm reads as if nothing came.
  | batteryPercent pct =>
    simp only [Effectors.dispatchUpdate]
    rw [meets_bind, meets_get, meets_bind, meets_set]
    refine (batteryLowRequestCheck_event fx _ _).bind ?_
    rintro changed _ ⟨r, rfl, hr⟩
    generalize hlow : batteryLowStep c.lowBattery pct c.batteryLowPct = low
    have hpost : Arm c (.batteryPercent pct) (decide (low ≠ c.lowBattery) || changed)
        { c with batteryPercent := some pct, lowBattery := low, suspendRequested := r } ∧
        ArmKeepsTimer c
          { c with batteryPercent := some pct, lowBattery := low, suspendRequested := r }
          (.batteryPercent pct) := by
      refine ⟨⟨rfl, r, by rw [hlow]; rfl, fun h => ?_⟩, rfl⟩
      simp only [Bool.or_eq_false_iff, decide_eq_false_iff_not, ne_eq, not_not] at h
      obtain rfl := hr h.2
      rw [h.1]
      rfl
    rw [meets_bind, meets_when]
    exact ⟨fun _ => ⟨⟨by simp [checkResources], by simp⟩, fun _ => hpost⟩, fun _ => hpost⟩
  | platformProfileChanged value =>
    simp only [Effectors.dispatchUpdate]
    rw [meets_bind, meets_ask]
    refine ⟨⟨by simp [armResources, checkResources], by simp⟩, fun now => ?_⟩
    rw [meets_bind, meets_get, meets_bind, meets_set, meets_bind, meets_when]
    refine ⟨fun _ => ?_, fun _ => ⟨⟨rfl, rfl, rfl⟩, rfl⟩⟩
    refine (inCheck (adoptPowerOverride_spec fx _ _) (by simp [checkResources])).bind ?_
    rintro _ _ ⟨p, rfl⟩
    refine (inCheck (powerPolicyCheck_spec fx _) (by simp [checkResources])).imp ?_
    rintro _ _ ⟨p', b, rfl⟩
    exact ⟨⟨rfl, rfl, rfl⟩, rfl⟩
  | gpuOverrideChanged word => exact ⟨⟨rfl, rfl, rfl⟩, rfl⟩
  | powerdAppeared =>
    simp only [Effectors.dispatchUpdate]
    rw [meets_bind, meets_modify]
    split
    · exact ⟨⟨rfl, rfl, rfl⟩, rfl⟩
    · exact ⟨⟨rfl, rfl, rfl⟩, rfl⟩
  | suspendRequestChanged word =>
    simp only [Effectors.dispatchUpdate]
    rw [meets_bind, meets_modify, meets_bind, meets_when]
    refine ⟨fun _ => (refreshWaylandClaim_event _ _).imp ?_, fun _ => ⟨⟨rfl, rfl, _, rfl⟩, rfl⟩⟩
    rintro _ _ ⟨w, rfl⟩
    exact ⟨⟨rfl, rfl, w, rfl⟩, rfl⟩
  -- A request whose file is gone is dropped before the evaluation.
  | timerExpired =>
    simp only [Effectors.dispatchUpdate]
    rw [meets_bind, meets_get, meets_bind, meets_when]
    refine ⟨fun _ => ?_, fun _ => ⟨⟨rfl, rfl, c.suspendRequested, rfl⟩, rfl⟩⟩
    rw [meets_bind, meets_ask]
    refine ⟨⟨by simp [armResources, checkResources], by simp⟩, fun standing => ?_⟩
    rw [meets_when]
    exact ⟨fun _ => ⟨⟨rfl, rfl, false, rfl⟩, rfl⟩,
      fun _ => ⟨⟨rfl, rfl, c.suspendRequested, rfl⟩, rfl⟩⟩
  | resumed =>
    simp only [Effectors.dispatchUpdate, Effectors.clearSuspendRequest]
    have hcheck : Meets (do
        Effectors.requestReconcile .resumed
        modify fun c => { c with kbd := { c.kbd with kbdSleeping := false } }
        fx.kbdPolicyCheck false
        pure true) { c with suspendRequested := false }
        (within checkResources n)
        fun falls c' => Arm c .resumed falls c' ∧ ArmKeepsTimer c c' .resumed := by
      refine (requestReconcile_event _ _ _).bind ?_
      rintro _ _ rfl
      rw [meets_bind, meets_modify]
      refine (kbdPolicyCheck_event fx _ _ _).bind ?_
      rintro _ _ ⟨k, rfl⟩
      exact ⟨⟨rfl, rfl, rfl⟩, rfl⟩
    rw [meets_bind, meets_modify, meets_bind, meets_when]
    exact ⟨fun _ => ⟨⟨by simp [armResources, checkResources], by simp⟩, fun _ => hcheck⟩,
      fun _ => hcheck⟩

/-! ### The tail -/

/-- The checks of the tail, before the machine is evaluated. -/
def Effectors.tailChecks (ev : Event) : Daemon Unit := do
  when (decide (ev.kind = .resumed)) Effectors.brightnessRearm
  when (decide (ev.kind = .acPlugged ∨ ev.kind = .acUnplugged ∨
      ev.kind = .platformProfileChanged ∨ ev.kind = .gpuOverrideChanged)) do
    let chosen ← Effectors.currentMatch
    fx.gpuCheck ev.label chosen
  when (decide (ev.kind = .batteryLowChanged ∨ ev.kind = .powerOverrideChanged ∨
      ev.kind = .powerAcSettled)) fx.powerPolicyCheck

/-- The common tail is its checks and the evaluation. -/
theorem dispatchTail_eq (ev : Event) :
    fx.dispatchTail ev = fx.tailChecks ev >>= fun _ => fx.evaluateFsms ev.kind := by
  simp only [Effectors.dispatchTail, Effectors.tailChecks, bind_assoc]

/-- The checks move their own records only. -/
theorem tailChecks_spec (ev : Event) :
    Meets (fx.tailChecks ev) c (only checkResources) fun _ c' =>
      ∃ g p b, c' = { c with gpu := g, power := p, brightness := b } := by
  have hrearm : Meets (when (decide (ev.kind = .resumed)) Effectors.brightnessRearm) c
      (only checkResources) fun _ c' => onlyBrightness c c' := by
    rw [meets_when]
    exact ⟨fun _ => weaken (brightnessRearm_spec c) (by simp [checkResources]),
      fun _ => onlyBrightness_self c⟩
  -- Each of the three checks touches its own record, whether its gate opens or not.
  have hgpu : ∀ c₁ : Context, Meets (when (decide (ev.kind = .acPlugged ∨ ev.kind = .acUnplugged ∨
      ev.kind = .platformProfileChanged ∨ ev.kind = .gpuOverrideChanged)) do
        let chosen ← Effectors.currentMatch
        fx.gpuCheck ev.label chosen) c₁ (only checkResources)
      fun _ c' => ∃ g p, c' = { c₁ with gpu := g, power := p } := by
    intro c₁
    rw [meets_when]
    refine ⟨fun _ => ?_, fun _ => ⟨c₁.gpu, c₁.power, rfl⟩⟩
    refine (weaken (currentMatch_spec c₁) (by simp [checkResources])).bind ?_
    rintro chosen _ rfl
    exact weaken (gpuCheck_spec fx _ _ _) (by simp [checkResources])
  refine hrearm.bind ?_
  rintro _ _ ⟨b, rfl⟩
  refine (hgpu _).bind ?_
  rintro _ _ ⟨g, p, rfl⟩
  rw [meets_when]
  refine ⟨fun _ => ?_, fun _ => ⟨g, p, b, rfl⟩⟩
  refine (weaken (powerPolicyCheck_spec fx _) (by simp [checkResources])).imp ?_
  rintro _ _ ⟨p', b', rfl⟩
  exact ⟨g, p', b', rfl⟩

/-- After the tail the machine has settled over the inputs it found. -/
theorem dispatchTail_spec (ev : Event) (hev : ev ≠ .timerExpired) :
    Meets (fx.dispatchTail ev) c (within eventResources c.extMonCount) fun _ c' =>
      c'.inputs = c.inputs ∧ c'.state = settled ev.kind c ∧ c'.edpPolicy = c.edpPolicy := by
  rw [dispatchTail_eq]
  refine (inEvent (tailChecks_spec fx c ev) checkResources_subset
    (by simp [checkResources])).bind ?_
  rintro _ _ ⟨g, p, b, rfl⟩
  refine ((evaluateFsms_spec fx _ ev.kind
    fun h => hev ((Event.kind_eq_timerExpired_iff ev).mp h)).mono
    (fun _ _ => within_mono entryResources_subset) fun _ _ => id).imp ?_
  rintro _ _ ⟨t, w, rfl⟩
  exact ⟨rfl, rfl, rfl⟩

/-- An expiry meets none of the checks. -/
theorem dispatchTail_timerExpired :
    fx.dispatchTail .timerExpired = fx.evaluateFsms .timerExpired := rfl

/-- The tail at an expiry: the state is what `desired_state` says, or the suspend failed. -/
theorem dispatchTail_timerExpired_spec :
    Meets (fx.dispatchTail .timerExpired) c
      (within (eventResources ++ [.lock, .suspend]) c.extMonCount) fun _ c' =>
      c'.inputs = c.inputs ∧ c'.edpPolicy = c.edpPolicy ∧
        (c'.state = settled .timerExpired c ∨
          settled .timerExpired c = .suspending ∧ c'.state = c.state) := by
  have hsub : entryResources ++ suspendResources ⊆ eventResources ++ [.lock, .suspend] := by
    simp [entryResources, suspendResources, eventResources]
  rw [dispatchTail_timerExpired]
  refine ((evaluateFsms_timerExpired_spec fx c).mono (fun _ _ h => ⟨hsub h.1, h.2⟩)
    fun _ _ => id).imp ?_
  rintro _ _ ⟨t, w, s, rfl, hs⟩
  exact ⟨rfl, rfl, hs⟩

/-! ### The dispatch -/

/-- Only these resources, and the panel is turned off only with an external monitor on record. -/
def safely (rs : List Resource) (c : Context) (e : Eff) : Prop :=
  e.resource ∈ rs ∧ ∀ on, e = .trySend (.setEdp on) → on = true ∨ 0 < c.extMonCount

/-- A footprint is a safe one, with more resources allowed. -/
theorem safely_of_within {rs rs' : List Resource} {n : Nat} (hrs : rs ⊆ rs') (c : Context) (e : Eff)
    (h : within rs n c e) : safely rs' c e := by
  refine ⟨hrs h.1, fun on heq => ?_⟩
  obtain ⟨rfl, hon⟩ := h.2 on heq
  exact hon

/-- An event moves the context by its arm, and then, where it falls through, settles the machine. -/
def Dispatched (c : Context) (ev : Event) (c' : Context) : Prop :=
  ∃ falls c₁, Arm c ev falls c₁ ∧ c'.inputs = c₁.inputs ∧
    if falls then
      c'.state = settled ev.kind c₁ ∨
        ev = .timerExpired ∧ settled ev.kind c₁ = .suspending ∧ c'.state = c₁.state
    else c'.state = c₁.state

/-- One dispatch of an event that is no expiry, from its arm and its tail. -/
theorem dispatch_spec (ev : Event) (hev : ev ≠ .timerExpired) :
    Meets (fx.dispatch ev) c (safely eventResources) fun _ c' => Dispatched c ev c' := by
  obtain ⟨n, hn⟩ := exists_armCount c ev
  refine ((dispatchUpdate_spec fx c ev hn).mono (safely_of_within (armResources_subset ev))
    fun _ _ => id).bind ?_
  rintro falls c₁ ⟨harm, -⟩
  rw [meets_when]
  refine ⟨fun hf => ?_, fun hf => ⟨falls, c₁, harm, rfl, by simp [hf]⟩⟩
  refine ((dispatchTail_spec fx c₁ ev hev).mono (safely_of_within fun _ => id) fun _ _ => id).imp ?_
  rintro _ c' ⟨hin, hst, -⟩
  exact ⟨falls, c₁, harm, hin, by simp [hf, hst]⟩

/-- One dispatch of an expiry, which may lock and suspend. -/
theorem dispatch_timerExpired_spec :
    Meets (fx.dispatch .timerExpired) c (safely (eventResources ++ [.lock, .suspend]))
      fun _ c' => Dispatched c .timerExpired c' := by
  refine ((dispatchUpdate_spec fx c .timerExpired (n := 0) trivial).mono
    (safely_of_within fun _ h => List.mem_append_left _ (armResources_subset _ h))
    fun _ _ => id).bind ?_
  rintro falls c₁ ⟨harm, -⟩
  rw [meets_when]
  refine ⟨fun hf => ?_, fun hf => ⟨falls, c₁, harm, rfl, by simp [hf]⟩⟩
  refine ((dispatchTail_timerExpired_spec fx c₁).mono (safely_of_within fun _ => id)
    fun _ _ => id).imp ?_
  rintro _ c' ⟨hin, -, hst⟩
  refine ⟨falls, c₁, harm, hin, ?_⟩
  rw [if_pos hf]
  exact hst.imp id fun h => ⟨rfl, h⟩

/-- What one turn of the loop asks and does. -/
theorem handle_spec (ev : Event) :
    Meets (fx.handle ev) c
      (safely (if ev = .timerExpired then eventResources ++ [.lock, .suspend] else eventResources))
      fun _ c' => Dispatched c ev c' := by
  have hbar : ∀ (c₁ : Context) (rs : List Resource), eventResources ⊆ rs → Dispatched c ev c₁ →
      Meets fx.syncWaybar c₁ (safely rs) fun _ c' => Dispatched c ev c' := by
    intro c₁ rs hrs h
    refine ((inEvent (n := 0) (syncWaybar_spec fx c₁) (by simp [eventResources]) (by simp)).mono
      (safely_of_within hrs) fun _ _ => id).imp ?_
    rintro _ _ ⟨v, rfl⟩
    exact h
  by_cases hev : ev = .timerExpired
  · rw [if_pos hev]
    subst hev
    exact (dispatch_timerExpired_spec fx c).bind fun _ c₁ h =>
      hbar c₁ _ (List.subset_append_left _ _) h
  · rw [if_neg hev]
    exact (dispatch_spec fx c ev hev).bind fun _ c₁ h => hbar c₁ _ (fun _ => id) h

/-! ## Startup -/

/-- A context in which a machine without a lid has it open. -/
def lidConsistent (c : Context) : Prop := c.lidPresent = false → c.lidClosed = false

/-- No event moves whether there is a lid, and none moves the lid where there is none. -/
theorem Arm.keepsLid {c c' : Context} {ev : Event} {falls : Bool} (h : Arm c ev falls c') :
    c'.lidPresent = c.lidPresent ∧ (c.lidPresent = false → c'.lidClosed = c.lidClosed) := by
  -- All arms but the lid's and the tick's leave both fields, by what they leave of the inputs.
  have of_inputs : ∀ {i : Inputs}, c'.inputs = i → i.lidPresent = c.lidPresent →
      i.lidClosed = c.lidClosed →
      c'.lidPresent = c.lidPresent ∧ (c.lidPresent = false → c'.lidClosed = c.lidClosed) := by
    rintro _ rfl hp hl
    exact ⟨hp, fun _ => hl⟩
  cases ev with
  | reconcileTick snap =>
    obtain ⟨-, req, ac, r, hin⟩ := h
    refine ⟨congrArg Inputs.lidPresent hin, fun hp => ?_⟩
    exact (congrArg Inputs.lidClosed hin).trans (by simp [repaired, Context.inputs, hp])
  | lid closed =>
    obtain ⟨-, -, h⟩ := h
    split_ifs at h with hp
    · obtain ⟨w, hin⟩ := h
      exact ⟨congrArg Inputs.lidPresent hin, fun hn => absurd hp (by simp [hn])⟩
    · exact of_inputs h rfl rfl
  | inhibitor wayland active => cases wayland <;> exact of_inputs h.2.2 rfl rfl
  | acChanged onAc =>
    obtain ⟨-, -, h⟩ := h
    split_ifs at h with hac
    · exact of_inputs h rfl rfl
    · obtain ⟨r, hin⟩ := h
      exact of_inputs hin rfl rfl
  | batteryPercent pct =>
    obtain ⟨-, r, hin, -⟩ := h
    exact of_inputs hin rfl rfl
  | monitorHotplug _ _ | powerAcSettled | suspendRequestChanged _ | timerExpired =>
    obtain ⟨-, -, _, hin⟩ := h
    exact of_inputs hin rfl rfl
  | lockChanged _ | powerdAppeared | resumed => exact of_inputs h.2.2 rfl rfl
  | configReloaded | profileApplied | monitorsChanged | profilesChanged | backlightHotplug
  | sleeping | kbdIdle _ | kbdLevelChanged _ | kbdOverrideChanged _ | kbdLedHotplug
  | platformProfileChanged _ | gpuOverrideChanged _ | powerOverrideChanged _ =>
    exact of_inputs h.2.1 rfl rfl

/-- No dispatch moves the presence of a lid. -/
theorem Dispatched.lidPresent {c c' : Context} {ev : Event} (h : Dispatched c ev c') :
    c'.lidPresent = c.lidPresent := by
  obtain ⟨falls, c₁, harm, hin, -⟩ := h
  have hpresent : c'.lidPresent = c₁.lidPresent := congrArg Inputs.lidPresent hin
  exact hpresent.trans harm.keepsLid.1

/-- A machine without a lid never has it shut, from turn to turn. -/
theorem Dispatched.lidConsistent {c c' : Context} {ev : Event} (h : Dispatched c ev c')
    (hc : lidConsistent c) : lidConsistent c' := by
  intro hp
  have hp₁ : c.lidPresent = false := h.lidPresent.symm.trans hp
  obtain ⟨falls, c₁, harm, hin, -⟩ := h
  calc c'.lidClosed = c₁.lidClosed := congrArg Inputs.lidClosed hin
    _ = c.lidClosed := harm.keepsLid.2 hp₁
    _ = false := hc hp₁

/-- The startup's seed of the power supply. -/
theorem seedPower_spec :
    Meets Effectors.seedPower c (only [.query]) fun _ c' =>
      ∃ ac acs pct low, c' =
        { c with onAc := ac, onAcSettled := acs, batteryPercent := pct, lowBattery := low } := by
  simp only [Effectors.seedPower]
  rw [meets_bind, meets_ask]
  refine ⟨by simp [only], fun connected => ?_⟩
  have hread : Meets (if connected then do
      let onBattery ← request .onBattery
      modify fun c => { c with
        onAc := (onBattery.map not).getD c.onAc
        onAcSettled := (onBattery.map not).getD c.onAcSettled }
      request .batteryInitial
    else pure none : Daemon (Option Rat)) c (only [.query])
      fun _ c' => ∃ ac acs, c' = { c with onAc := ac, onAcSettled := acs } := by
    rw [meets_ite]
    refine ⟨fun _ => ?_, fun _ => ⟨c.onAc, c.onAcSettled, rfl⟩⟩
    rw [meets_bind, meets_ask]
    exact ⟨by simp [only], fun _ => ⟨by simp [only], fun _ => ⟨_, _, rfl⟩⟩⟩
  refine hread.bind ?_
  rintro pct _ ⟨ac, acs, rfl⟩
  exact ⟨ac, acs, _, _, rfl⟩

/-- Its seed of the keys' light. -/
theorem seedKbd_spec (conf : PowerConf) :
    Meets (Effectors.seedKbd conf) c (only [.query, .kbdOverride]) fun _ c' => onlyKbd c c' := by
  simp only [Effectors.seedKbd]
  rw [meets_bind, meets_ask]
  refine ⟨by simp [only], fun level => ?_⟩
  rw [meets_bind, meets_ask]
  refine ⟨by simp [only], fun override => ?_⟩
  rw [meets_bind, meets_modify]
  refine (weaken (discoverKbd_spec _) (by simp)).imp ?_
  rintro _ _ ⟨k, rfl⟩
  simp

/-- The first snapshot of the world, with the lid open on a machine without one. -/
theorem seedWorld_exact :
    Meets Effectors.seedWorld c (only [.query]) fun _ c' =>
      ∃ closed logind wayland count, c' = { c with
        lidClosed := closed, logindInhibitor := logind, waylandInhibitor :=
          wayland, extMonCount := count } ∧
        (c.lidPresent = false → closed = false) := by
  simp only [Effectors.seedWorld, logindRealInhibitorActive, Hyprctl.waylandIdleInhibited,
    Hyprctl.extMonitorCount]
  rw [meets_bind, meets_get]
  have hread : Meets (if c.lidPresent then request .lidClosed else pure (some false) :
      Daemon (Option Bool)) c (only [.query])
      fun closed c' => c' = c ∧ (c.lidPresent = false → closed = some false) := by
    rw [meets_ite]
    refine ⟨fun h => ⟨by simp [only], fun _ => ⟨rfl, by simp [h]⟩⟩, fun _ => ⟨rfl, fun _ => rfl⟩⟩
  refine hread.bind ?_
  rintro closed c ⟨rfl, hclosed⟩
  simp only [meets_bind, meets_modify, meets_ask, meets_pure]
  refine ⟨by simp [only], fun _ => ⟨by simp [only], fun _ => ⟨by simp [only], fun _ => ?_⟩⟩⟩
  exact ⟨closed.getD false, _, _, _, rfl, fun hlid => by rw [hclosed hlid]; rfl⟩

/-- Its seed of the lid, the monitors and the claims. -/
theorem seedWorld_spec :
    Meets Effectors.seedWorld c (only [.query]) fun _ c' => lidConsistent c' := by
  refine (seedWorld_exact c).imp ?_
  rintro _ _ ⟨closed, logind, wayland, count, rfl, hclosed⟩
  exact hclosed

/-- Its seed of the profile. -/
theorem seedProfile_spec :
    Meets Effectors.seedProfile c (only [.query]) fun _ c' => onlyProfile c c' := by
  simp only [Effectors.seedProfile]
  rw [meets_bind, meets_ask]
  refine ⟨by simp [only], fun active => ?_⟩
  cases active with
  | none => exact onlyProfile_self c
  | some name =>
    dsimp only
    rw [meets_bind, meets_ask]
    refine ⟨by simp [only], fun profiles => ?_⟩
    cases profiles.find? fun p => p.name == name with
    | none => exact ⟨_, c.activeProfileRev, c.edpPolicy, rfl⟩
    | some p => exact ⟨_, _, _, rfl⟩

/-- What the setup may touch. -/
@[simp] def setupResources : List Resource :=
  [.query, .requestFile, .powerOverride, .kbdOverride, .queue]

/-- What the startup's first part touches is among what the setup touches. -/
theorem setupResources_begins : [Resource.query, .requestFile] ⊆ setupResources := by decide

/-- The context that the startup begins with. -/
theorem seedContext_spec (conf : PowerConf) :
    Meets (fx.seedContext conf) c (only setupResources)
      fun _ c' => lidConsistent c' := by
  simp only [Effectors.seedContext]
  refine (weaken (seedPower_spec c) (by simp)).bind ?_
  rintro _ c₁ -
  refine (weaken (discoverBacklight_spec c₁) (by simp)).bind ?_
  rintro _ c₂ -
  refine (weaken (seedKbd_spec c₂ conf) (by simp)).bind ?_
  rintro _ c₃ -
  refine (weaken (batteryLowRequestCheck_spec fx c₃) (by simp)).bind ?_
  rintro _ c₄ -
  refine (weaken (seedWorld_spec c₄) (by simp)).bind ?_
  rintro _ c₅ h₅
  refine (weaken (seedProfile_spec c₅) (by simp)).bind ?_
  rintro _ _ ⟨n, r, e, rfl⟩
  simp only [meets_bind, meets_ask, meets_ite, meets_pure, meets_modify]
  exact ⟨by simp [only], fun _ => ⟨by simp [only], fun _ => ⟨by simp [only], fun _ =>
    ⟨fun _ => ⟨by simp [only], fun _ => ⟨by simp [only], fun _ => h₅⟩⟩,
      fun _ => ⟨by simp [only], fun _ => h₅⟩⟩⟩⟩⟩

/-- The setup, by its parts: the configuration is read into the context, the request file goes and
the lid inhibitor is taken; then the context is seeded, or the daemon does not run. -/
theorem setup_meets {P : Context → Eff → Prop} {I : Context → Prop} {Q : Bool → Context → Prop}
    (hask : ∀ c e, e.resource ∈ [Resource.query, .requestFile] → P c e)
    (hinto : ∀ conf : PowerConf, I { c with
      power := { c.power with powerPolicy := conf.policy }
      batteryLowPct := conf.batteryLowPct
      lidPresent := decide (conf.lid = .present)
      lidGrace := conf.lidGraceSecs * 1000
      lidAc := conf.lidAc })
    (hseed : ∀ conf c₁, I c₁ → Meets (fx.seedContext conf) c₁ P fun _ c' => Q true c')
    (hstop : ∀ c₁, I c₁ → Q false c₁) : Meets fx.setup c P Q := by
  rw [Effectors.setup, Effectors.loadConf, meets_bind, meets_bind, meets_ask]
  refine ⟨hask _ _ (by decide), fun conf => ?_⟩
  rw [meets_bind, meets_modify, meets_pure, meets_bind, meets_ask]
  refine ⟨hask _ _ (by decide), fun _ => ?_⟩
  rw [meets_bind, meets_get]
  -- The inhibitor is taken only where there is a lid, and its answer decides whether the setup goes
  -- on.
  have hheld : ∀ c : Context, Meets (if fx.shadow || !c.lidPresent then pure true
      else request .inhibitLidSwitch : Daemon Bool) c P fun _ c' => c' = c := by
    intro c
    rw [meets_ite]
    exact ⟨fun _ => rfl, fun _ => ⟨hask c .inhibitLidSwitch (by decide), fun _ => rfl⟩⟩
  refine (hheld _).bind ?_
  rintro held _ rfl
  rw [meets_bind, meets_when]
  refine ⟨fun h => ?_, fun h => ?_⟩
  · rw [h]
    exact hseed conf _ (hinto conf)
  · rw [h]
    exact hstop _ (hinto conf)

/-- The daemon's setup asks nothing of logind but reads, and builds a consistent context. -/
theorem setup_spec :
    Meets fx.setup c (only setupResources)
      fun ok c' => ok = true → lidConsistent c' := by
  refine setup_meets fx c (I := fun _ => True) (fun _ _ he => setupResources_begins he)
    (fun _ => trivial)
    (fun conf c₁ _ => ?_) fun _ _ h => absurd h (by decide)
  exact (seedContext_spec fx c₁ conf).imp fun _ _ h _ => h

/-- The prologue of the loop enters the state where the world rests, which is no suspend. -/
theorem startup_spec :
    Meets fx.startup c (within eventResources c.extMonCount) fun _ c' =>
      c'.inputs = c.inputs ∧ c'.state = worldState c.world := by
  simp only [Effectors.startup]
  rw [meets_bind, meets_modify, meets_bind, meets_get]
  refine ((onEnter_spec fx _ _ true (worldState_ne_suspending _)).mono
    (fun _ _ => within_mono entryResources_subset) fun _ _ => id).bind ?_
  rintro _ _ ⟨-, t, w, rfl⟩
  refine (inEvent (currentMatch_spec _) (by simp [eventResources]) (by simp)).bind ?_
  rintro chosen _ rfl
  refine (inEvent (resolveSessionGpuMode_spec _ _) (by simp [eventResources]) (by simp)).bind ?_
  rintro mode _ rfl
  refine (inEvent (syncDgpuPin_spec fx _ _) (by simp [eventResources]) (by simp)).bind ?_
  rintro _ _ ⟨g, p, rfl⟩
  refine (inEvent (syncWaybar_spec fx _) (by simp [eventResources]) (by simp)).bind ?_
  rintro _ _ ⟨v, rfl⟩
  refine ((kbdPolicyCheck_event fx _ _ _).mono (fun _ _ => within_mono checkResources_subset)
    fun _ _ => id).bind ?_
  rintro _ _ ⟨k, rfl⟩
  refine ((requestReconcile_event _ _ _).mono (fun _ _ => within_mono checkResources_subset)
    fun _ _ => id).imp ?_
  rintro _ _ rfl
  exact ⟨rfl, rfl⟩

end

end Hyprstate
