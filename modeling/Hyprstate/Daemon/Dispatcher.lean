import Hyprstate.Daemon.Policies

/-!
# The dispatcher

`daemon/dispatcher.rs`: what each event does to the context, the two-way routing of reconcile drift,
and the effects of entering a state. `dispatchUpdate` is the match on the event; it returns whether
the event falls through to the checks and the machine that follow it (`dispatchTail`), which the
source writes as an early return.
-/

namespace Hyprstate

open Reactive Process

/-- What a low battery wants done with the suspend request. -/
inductive BatteryLowAction
  | request
  | withdraw
  | hold
  deriving DecidableEq

/-- Request only when discharging low on both AC axes; withdraw the moment the reason is gone. -/
def batteryLowAction (lowBattery onAc onAcSettled requestStanding : Bool) : BatteryLowAction :=
  if lowBattery && !onAc && !onAcSettled && !requestStanding then .request
  else if requestStanding && (onAc || !lowBattery) then .withdraw
  else .hold

namespace Effectors

variable (fx : Effectors)

/-- Prove a locker that was asked for just now. -/
def lockAndProve : Daemon Bool := do
  fx.requestLock
  let engaged ← fx.waitForLock
  if engaged then fx.liveLocker else pure false

/-- Lock before suspend: proceed only once a live locker is proven. -/
def suspendingTail : Daemon Bool := do
  let live ← fx.liveLocker
  let proven ← (if live then pure true else fx.lockAndProve : Daemon Bool)
  if proven then fx.doSuspend else pure false

/-- The claim watch runs only while `deferred` holds a Wayland claim. -/
def enterClaimWatch (state : State) : Daemon Unit := do
  let c ← get
  if decide (state = .deferred) && c.waylandInhibitor then startClaimWatch else cancelClaimWatch

/-- Effects of entering a state, afresh or on a re-assert; whether the entry succeeded. -/
def onEnter (state : State) (fresh : Bool) : Daemon Bool := do
  enterClaimWatch state
  match state with
  | .lidOpen => do
    cancelGraceTimer
    fx.setEdp true
    pure true
  | .docked => do
    cancelGraceTimer
    fx.setEdp false
    pure true
  | .deferred => do
    cancelGraceTimer
    fx.setEdp false
    let c ← get
    when (claimGoverns c.world) fx.pauseMedia
    pure true
  | .countdown => do
    fx.setEdp false
    startGraceTimer fresh
    pure true
  | .suspending => do
    cancelGraceTimer
    fx.suspendingTail

/-- Sample the compositor's idle-inhibit claims. -/
def refreshWaylandClaim : Daemon Unit := do
  let held ← Hyprctl.waylandIdleInhibited
  match held with
  | none => pure ()
  | some held => modify fun c => { c with waylandInhibitor := held }

/-- Request or withdraw a suspend on low battery; whether anything changed. -/
def batteryLowRequestCheck : Daemon Bool := do
  let c ← get
  match batteryLowAction c.lowBattery c.onAc c.onAcSettled c.suspendRequested with
  | .request => do
    let written ← fx.requestSuspend
    when written (modify fun c => { c with suspendRequested := true })
    pure written
  | .withdraw => do
    let removed ← fx.clearBatteryLowRequest
    when removed (modify fun c => { c with suspendRequested := false })
    pure removed
  | .hold => pure false

/-- Run the transition map for one event kind, and the entry effects on a change. -/
def evaluateFsms (kind : EventKind) : Daemon Unit := do
  let c ← get
  match desiredState c.state kind c.world with
  | none => pure ()
  | some new =>
    when (decide (new ≠ c.state)) do
      if new = .suspending then do
        let entered ← fx.onEnter new true
        if entered then
          modify fun c => { c with state := new }
        else
          -- Rejected: stay in the countdown with a fresh grace.
          startGraceTimer true
      else do
        modify fun c => { c with state := new }
        let _ ← fx.onEnter new true

/-- The profile that matches the connected monitors. -/
def currentMatch : Daemon (Option MonitorProfile) := do
  let signature ← Hyprctl.monitorSignature
  let profiles ← request .loadProfiles
  let selected ← request (.selectProfile signature profiles)
  pure (selected.bind fun s => profiles.find? fun p => p.name == s.name)

/-- The GPU part of a monitor or power change: drift advice, then the pin. -/
def gpuCheck (trigger : String) (chosen : Option MonitorProfile) : Daemon Unit := do
  let mode ← fx.gpuDriftCheck trigger ((chosen.map MonitorProfile.gpu).getD .auto)
  fx.syncDgpuPin (dgpuRuntimePmPinned mode)

/-- Whether the panel is meant to be on. -/
def edpShouldBeOn (c : Context) : Bool := c.edpPolicy.resolve (decide (c.state = .lidOpen))

/-- `handle_monitors_changed`: the matching profile is applied, and what hangs on it is checked. -/
def handleMonitorsChanged : Daemon Unit := do
  let chosen ← currentMatch
  match chosen with
  | none => modify fun c => { c with activeProfileRev := none }
  | some p => fx.applyProfile p
  fx.writeGpuBreadcrumb (chosen.map MonitorProfile.gpu)
  fx.gpuCheck "monitors changed" chosen
  fx.powerPolicyCheck
  let c ← get
  when (!edpShouldBeOn c && decide (c.extMonCount > 0)) fx.rehomeEdpWorkspaces

/-! ## Reconcile -/

/-- Whether a snapshot disagrees with the context on an input of the main machine, given whether the
request file stands. -/
def fsmDrift (snap : ReconcileSnapshot) (c : Context) (requestNow : Bool) : Bool :=
  c.lidPresent && decide (snap.lidClosed ≠ c.lidClosed) ||
    decide (requestNow ≠ c.suspendRequested) ||
    decide (snap.extMonCount ≠ c.extMonCount) ||
    decide (snap.logindInhibitor ≠ c.logindInhibitor) ||
    decide (snap.waylandInhibitor.getD c.waylandInhibitor ≠ c.waylandInhibitor) ||
    decide (snap.locked.getD c.locked ≠ c.locked)

/-- Whether a snapshot disagrees with the context on an input of the power policy. -/
def powerDrift (snap : ReconcileSnapshot) (c : Context) : Bool :=
  decide (snap.extMonCount ≠ c.extMonCount) || decide (snap.onAc.getD c.onAc ≠ c.onAc)

/-- Repair the context from a snapshot, and whether the machine's and the power policy's inputs
moved. The request file is read here, not taken from the snapshot. Where a value agrees, assigning
it changes nothing. -/
def repairContext (snap : ReconcileSnapshot) : Daemon (Bool × Bool) := do
  let c ← get
  modify fun c => { c with lidClosed := if c.lidPresent then snap.lidClosed else c.lidClosed }
  let requestNow ← request .suspendRequestExists
  modify fun c => { c with suspendRequested := requestNow, extMonCount := snap.extMonCount }
  when (decide (snap.extMonCount ≠ c.extMonCount)) scheduleProfileReconcile
  modify fun c => { c with
    logindInhibitor := snap.logindInhibitor
    waylandInhibitor := snap.waylandInhibitor.getD c.waylandInhibitor
    locked := snap.locked.getD c.locked }
  let locked := snap.locked.getD c.locked
  when (decide (locked ≠ c.locked)) (request (.lockedSend locked))
  modify fun c => { c with onAc := snap.onAc.getD c.onAc }
  pure (fsmDrift snap c requestNow, powerDrift snap c)

/-- Enforce the panel's resolved state against the observed one. -/
def enforceEdp (snap : ReconcileSnapshot) : Daemon Unit := do
  let c ← get
  let on := edpShouldBeOn c
  match snap.edpDisabled with
  | none => pure ()
  | some disabled =>
    if on && disabled then fx.setEdp true
    else when (!on && !disabled) (fx.setEdp false)

/-- The stuck-screen backstop: light dark screens that nobody owns. -/
def dpmsBackstop (snap : ReconcileSnapshot) : Daemon Unit := do
  let c ← get
  let cursorMoved := match c.lastCursorPos, snap.cursorPos with
    | some prev, some now => decide (prev ≠ now)
    | _, _ => false
  set { c with lastCursorPos := snap.cursorPos }
  match snap.dpmsOff with
  | none => pure ()
  | some dpmsOff => when (dpmsStuckOff c.state ⟨dpmsOff, c.locked, cursorMoved⟩) fx.dpmsOn

/-- Drive the machine and the power policy with what a reconcile pass repaired. -/
def driveRepairs (fsm power : Bool) : Daemon Unit := do
  when power do
    modify fun c => { c with onAcSettled := c.onAc }
    fx.powerPolicyCheck
    let _ ← fx.batteryLowRequestCheck
  when fsm (fx.evaluateFsms .ctxRepaired)

/-- Diff a snapshot against the context, repair, drive the machines, and enforce the panel and
screen invariants. -/
def handleReconcileTick (snap : ReconcileSnapshot) : Daemon Unit := do
  let drift ← repairContext snap
  fx.driveRepairs drift.1 drift.2
  let c ← get
  when (decide (c.state ≠ .suspending)) do
    let _ ← ingestActiveProfile
    fx.enforceEdp snap
    fx.dpmsBackstop snap

/-- Re-assert the present state after a config reload or a profile apply. -/
def reassert (trigger : ReconcileTrigger) : Daemon Unit := do
  let c ← get
  when (decide (c.state ≠ .suspending)) do
    let _ ← ingestActiveProfile
    let c ← get
    let _ ← fx.onEnter c.state false
  requestReconcile trigger

/-! ## One event -/

/-- What an event does to the context; whether it falls through to the machine. -/
def dispatchUpdate : Event → Daemon Bool
  | .configReloaded => do
    fx.reassert .configReloaded
    pure false
  | .profileApplied => do
    fx.reassert .profileApplied
    pure false
  | .reconcileTick snap => do
    fx.handleReconcileTick snap
    pure false
  | .monitorsChanged => do
    fx.handleMonitorsChanged
    pure false
  | .profilesChanged => do
    scheduleProfileReconcile
    pure false
  | .backlightHotplug => do
    discoverBacklight
    pure false
  | .sleeping => do
    modify fun c => { c with kbd := { c.kbd with kbdSleeping := true } }
    fx.kbdPolicyCheck false
    pure false
  | .kbdIdle idle => do
    modify fun c => { c with kbd := { c.kbd with kbdTyping := !idle } }
    when idle fx.kbdReleaseOverride
    fx.kbdPolicyCheck (!idle)
    pure false
  | .kbdLevelChanged level => do
    modify fun c => { c with kbd := { c.kbd with kbdLevel := level.getD defaultKbdLevelPct } }
    fx.kbdPolicyCheck true
    pure false
  | .kbdOverrideChanged armed => do
    modify fun c => { c with kbd := { c.kbd with kbdOverride := armed } }
    fx.kbdPolicyCheck armed
    pure false
  | .kbdLedHotplug => do
    discoverKbd
    fx.kbdPolicyCheck true
    pure false
  | .lid closed => do
    let c ← get
    if c.lidPresent then do
      modify fun c => { c with lidClosed := closed }
      when closed refreshWaylandClaim
      pure true
    else
      pure false
  | .monitorHotplug _ _ => do
    let c ← get
    let count ← Hyprctl.extMonitorCount c.extMonCount
    modify fun c => { c with extMonCount := count }
    scheduleProfileReconcile
    requestReconcile .monitorHotplug
    pure true
  | .inhibitor wayland active => do
    modify fun c =>
      if wayland then { c with waylandInhibitor := active }
        else { c with logindInhibitor := active }
    pure true
  | .lockChanged locked => do
    modify fun c => { c with locked := locked }
    requestReconcile .lockChanged
    fx.kbdPolicyCheck false
    pure true
  | .acChanged onAc => do
    let c ← get
    if onAc = c.onAc then
      pure false
    else do
      modify fun c => { c with onAc := onAc }
      let _ ← fx.batteryLowRequestCheck
      schedulePowerSettle
      requestReconcile .acChanged
      pure true
  | .powerAcSettled => do
    modify fun c => { c with onAcSettled := c.onAc }
    let _ ← fx.batteryLowRequestCheck
    pure true
  | .powerOverrideChanged word => do
    let c ← get
    match word with
    | none =>
      set { c with power := { c.power with powerOverride := none, powerOverrideBase := none } }
    | some w =>
      match PowerProfile.parse w with
      | some p =>
        -- The echo of an own write finds the override there already.
        when (decide (c.power.powerOverride ≠ some p)) do
          set
            { c with power := { c.power with powerOverride := some p, powerOverrideBase := none } }
      | none => pure ()
    pure true
  | .batteryPercent pct => do
    let c ← get
    let newLow := batteryLowStep c.lowBattery pct c.batteryLowPct
    let flipped := decide (newLow ≠ c.lowBattery)
    set { c with batteryPercent := some pct, lowBattery := newLow }
    let changed ← fx.batteryLowRequestCheck
    when flipped (requestReconcile .batteryLowChanged)
    pure (flipped || changed)
  | .platformProfileChanged value => do
    let now ← request .now
    let c ← get
    let own := c.power.selfWrites.isSelfWrite now value
    set { c with power := { c.power with selfWrites := own.2 } }
    when (!own.1) do
      fx.adoptPowerOverride (profileFromPlatformValue value)
      fx.powerPolicyCheck
    pure true
  | .gpuOverrideChanged _ => pure true
  | .powerdAppeared => do
    modify fun c =>
      if c.power.powerdAvailable then c
      else { c with
        power := { c.power with
          powerdAvailable := true
          powerdWarned := false
          powerApplied := none }
        gpu := { c.gpu with dgpuPinned := none } }
    modify fun c => { c with onAcSettled := c.onAc }
    pure true
  | .suspendRequestChanged word => do
    modify fun c => { c with suspendRequested := word.isSome }
    when word.isSome refreshWaylandClaim
    pure true
  | .timerExpired => do
    let c ← get
    when c.suspendRequested do
      let standing ← request .suspendRequestExists
      when (!standing) (modify fun c => { c with suspendRequested := false })
    pure true
  | .resumed => do
    modify fun c => { c with suspendRequested := false }
    fx.clearSuspendRequest
    requestReconcile .resumed
    modify fun c => { c with kbd := { c.kbd with kbdSleeping := false } }
    fx.kbdPolicyCheck false
    pure true

/-- The checks that follow an event that fell through, and the machine last. -/
def dispatchTail (ev : Event) : Daemon Unit := do
  when (decide (ev.kind = .resumed)) brightnessRearm
  when (decide (ev.kind = .acPlugged ∨ ev.kind = .acUnplugged ∨
      ev.kind = .platformProfileChanged ∨ ev.kind = .gpuOverrideChanged)) do
    let chosen ← currentMatch
    fx.gpuCheck ev.label chosen
  when (decide (ev.kind = .batteryLowChanged ∨ ev.kind = .powerOverrideChanged ∨
      ev.kind = .powerAcSettled)) fx.powerPolicyCheck
  fx.evaluateFsms ev.kind

/-- `dispatch`: the arm of the event, and the tail where it falls through. -/
def dispatch (ev : Event) : Daemon Unit := do
  let falls ← fx.dispatchUpdate ev
  when falls (fx.dispatchTail ev)

end Effectors

end Hyprstate
