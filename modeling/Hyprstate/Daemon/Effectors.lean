import Hyprstate.Daemon.Request

/-!
# Effectors

`daemon/effectors.rs`: the narrow world mutations the dispatcher is built from. In shadow mode no
mutation is fired, while the context still updates. A session proxy may be missing.
-/

namespace Hyprstate

open Reactive Process

/-- The configuration of the effectors: shadow mode, and whether there is a session proxy. -/
structure Effectors where
  shadow : Bool
  session : Bool

/-- `take` the handle of a task out of the context and abort it. -/
def cancelTask (task : Context → Option Handle) (clear : Context → Context) : Daemon Unit := do
  let c ← get
  match task c with
  | none => pure ()
  | some h => do
    set (clear c)
    request (.abort h)

/-- Whether a task was spawned and has not finished. -/
def taskLive (task : Context → Option Handle) : Daemon Bool := do
  let c ← get
  match task c with
  | none => pure false
  | some h => do
    let finished ← request (.isFinished h)
    pure (!finished)

/-- `paths::GRACE_SECONDS`, in milliseconds. -/
def graceSeconds : Nat := 30000

/-- `hyprctl::any_client_inhibiting_idle_in`. -/
def anyClientInhibitingIdleIn (clients : List Client) : Bool :=
  clients.any fun c => c.inhibitingIdle == some true

/-- `hyprctl::ext_monitor_count_in`: a failed listing keeps the previous count. -/
def extMonitorCountIn (monitors : Option (List MonitorSnapshot)) (prev : Nat) : Nat :=
  match monitors with
  | some monitors => (monitors.filter fun m => !("eDP".toList.isPrefixOf m.name.toList)).length
  | none => prev

namespace Hyprctl

/-- `hyprctl::wayland_idle_inhibited`. -/
def waylandIdleInhibited : Daemon (Option Bool) := do
  let clients ← request .clients
  pure (clients.map anyClientInhibitingIdleIn)

/-- `hyprctl::ext_monitor_count`: the previous count where the listing fails. -/
def extMonitorCount (prev : Nat) : Daemon Nat := do
  let monitors ← request .monitors
  pure (extMonitorCountIn monitors prev)

/-- Descriptions of the connected monitors; none on failure. -/
def monitorSignature : Daemon (List String) := do
  let monitors ← request .monitors
  pure ((monitors.getD []).map MonitorSnapshot.description)

/-- Whether the compositor holds the session lock; `none` when undeterminable. -/
def sessionIsLocked : Daemon (Option Bool) := do
  let out ← request .hyprctlLocked
  pure (if out = some "true" then some true else if out = some "false" then some false else none)

end Hyprctl

namespace Effectors

variable (fx : Effectors)

/-- `send_cmd`: the worker's queue takes the command or refuses it. -/
def sendCmd (cmd : Cmd) : Daemon Unit :=
  when (!fx.shadow) do
    let _ ← request (.trySend cmd)

/-- Prompt a reconcile pass; a full queue is fine. -/
def requestReconcile (trigger : ReconcileTrigger) : Daemon Unit :=
  request (.requestReconcile trigger)

/-! ## Panel, screens and media -/

/-- The active profile's policy overrides the lid-driven default, and the only output is never
turned off. -/
def setEdp (on : Bool) : Daemon Unit := do
  let c ← get
  let resolved := c.edpPolicy.resolve on
  when (resolved || edpMayDisable c.extMonCount) (fx.sendCmd (.setEdp resolved))

/-- `dpms_on`. -/
def dpmsOn : Daemon Unit := fx.sendCmd .dpmsOn

/-- `rehome_edp_workspaces`. -/
def rehomeEdpWorkspaces : Daemon Unit := fx.sendCmd .rehomeEdpWorkspaces

/-- `pause_media`. -/
def pauseMedia : Daemon Unit := fx.sendCmd .pauseMedia

/-- `notify_power`. -/
def notifyPower (body : String) : Daemon Unit :=
  fx.sendCmd (.notify "Power profile" body "hyprstate-power")

/-- `notify_gpu_drift`: the card that a relog would switch to, by the last part of its path. -/
def notifyGpuDrift (desired : List String) (reason trigger : String) (onAc : Bool) : Daemon Unit :=
  let primary := (desired.head?.map fun d => ((d.splitOn "/").getLast?).getD d).getD ""
  let body := trigger ++ ": a relog would switch rendering to " ++ primary ++ " (" ++ reason ++ ")"
  fx.sendCmd (.notify "GPU selection drift" (if onAc then body else body ++ " — on battery")
    "hyprstate-gpu")

/-! ## Timers -/

/-- `cancel_grace_timer`. -/
def cancelGraceTimer : Daemon Unit :=
  cancelTask Context.graceTimer fun c => { c with graceTimer := none }

/-- Arm the grace timer. A re-assert must not restart a live countdown. -/
def startGraceTimer (fresh : Bool) : Daemon Unit := do
  let live ← (if fresh then pure false else taskLive Context.graceTimer : Daemon Bool)
  when (!live) do
    cancelGraceTimer
    let c ← get
    let grace := if c.suspendRequested then graceSeconds else c.lidGrace
    let h ← request (.spawnTimer grace .timerExpired)
    modify fun c => { c with graceTimer := some h }

/-- Watch a Wayland claim for release, unless it is watched already. -/
def startClaimWatch : Daemon Unit := do
  let live ← taskLive Context.claimWatch
  when (!live) do
    let h ← request .spawnClaimWatch
    modify fun c => { c with claimWatch := some h }

/-- `cancel_claim_watch`. -/
def cancelClaimWatch : Daemon Unit :=
  cancelTask Context.claimWatch fun c => { c with claimWatch := none }

/-- Debounce monitor bursts into one `monitorsChanged`. -/
def scheduleProfileReconcile : Daemon Unit := do
  cancelTask Context.profileDebounce fun c => { c with profileDebounce := none }
  let h ← request (.spawnTimer 500 .monitorsChanged)
  modify fun c => { c with profileDebounce := some h }

/-- Debounce raw AC flips into one `powerAcSettled`. -/
def schedulePowerSettle : Daemon Unit := do
  cancelTask Context.powerDebounce fun c => { c with powerDebounce := none }
  let h ← request (.spawnTimer 5000 .powerAcSettled)
  modify fun c => { c with powerDebounce := some h }

/-! ## Monitor profiles -/

/-- Repoint the active-profile link, apply the profile live and fire its hooks. Idempotent on the
name, the link and the body. -/
def applyProfile (profile : MonitorProfile) : Daemon Unit := do
  let symlinkOk ← request (.activeLinkIs profile.name)
  let c ← get
  let nameSame := decide (c.currentProfile = some profile.name)
  let bodySame := decide (c.activeProfileRev = some profile)
  when (!(symlinkOk && nameSame && bodySame)) do
    let repointed ← (if fx.shadow then pure true
        else request (.repointActive profile.name) : Daemon Bool)
    when repointed do
      modify fun c => { c with
        currentProfile := some profile.name
        activeProfileRev := some profile
        edpPolicy := profile.edp }
      when (!fx.shadow) do
        fx.sendCmd .applyProfile
        profile.hooks.forM fun hook => fx.sendCmd (.runHook hook)

/-- Sync the context with an external repoint of the active-profile link. -/
def ingestActiveProfile : Daemon Bool := do
  let active ← request .activeProfileName
  match active with
  | none => pure false
  | some name => do
    let c ← get
    if c.currentProfile = some name then
      pure false
    else do
      let profiles ← request .loadProfiles
      let matched := profiles.find? fun p => p.name == name
      modify fun c => { c with
        currentProfile := some name
        activeProfileRev := matched
        edpPolicy := (matched.map MonitorProfile.edp).getD .auto }
      pure true

/-- Record the matched profile's GPU preference for the next login. -/
def writeGpuBreadcrumb (value : Option GpuPref) : Daemon Unit :=
  when (!fx.shadow) <|
    match value with
    | none | some .auto => do
      let present ← request .gpuBreadcrumbExists
      when present do
        let _ ← request .gpuBreadcrumbRemove
    | some pref => do
      let _ ← request (.gpuBreadcrumbWrite pref)

/-! ## Power -/

/-- Signal waybar when what its module renders has changed. -/
def syncWaybar : Daemon Unit := do
  let c ← get
  when (decide (c.waybarView ≠ some (WaybarView.of c))) do
    set { c with waybarView := some (WaybarView.of c) }
    when (!fx.shadow) (request .signalWaybar)

/-- Note that powerd did not answer; its next appearance re-enables it. -/
def powerdUnavailable : Daemon Unit :=
  modify fun c =>
    { c with power := { c.power with powerdAvailable := false, powerdWarned := true } }

/-- Ask powerd for a profile, unless it is applied already. The expected platform_profile values are
registered before the call. -/
def applyPowerProfile (profile : PowerProfile) : Daemon Unit := do
  let c ← get
  when (!(decide (c.power.powerApplied = some profile) || !c.power.powerdAvailable)) do
    let now ← request .now
    modify fun c => { c with
      power := { c.power with selfWrites := c.power.selfWrites.register now profile } }
    let ok ← (if fx.shadow then pure true else request (.powerdApplyProfile profile) : Daemon Bool)
    if ok then
      modify fun c => { c with power := { c.power with powerApplied := some profile } }
    else
      powerdUnavailable

/-- Pin or release the discrete GPU's runtime power management. -/
def syncDgpuPin (awake : Bool) : Daemon Unit := do
  let c ← get
  when (!(decide (c.gpu.dgpuPinned = some awake) || !c.power.powerdAvailable)) do
    let ok ← (if fx.shadow then pure true else request (.powerdSetDgpuAwake awake) : Daemon Bool)
    if ok then
      modify fun c => { c with gpu := { c.gpu with dgpuPinned := some awake } }
    else
      powerdUnavailable

/-- Write the request file on the daemon's own behalf; whether it was written. -/
def requestSuspend : Daemon Bool :=
  if fx.shadow then pure false else request (.suspendRequestWrite "battery-low\n")

/-- Whether the request file's body is the daemon's own. -/
def isBatteryLowBody (body : String) : Bool :=
  "battery-low".toList.isPrefixOf body.toList

/-- Withdraw the daemon's own request; whether a file was removed. -/
def clearBatteryLowRequest : Daemon Bool :=
  if fx.shadow then pure false
  else do
    let body ← request .suspendRequestRead
    if (body.map isBatteryLowBody).getD false then request .suspendRequestRemove else pure false

/-- Delete the request file, whoever wrote it. -/
def clearSuspendRequest : Daemon Unit :=
  when (!fx.shadow) do
    let _ ← request .suspendRequestRemove

/-- `clear_power_override`: the record, and the file out of shadow mode. -/
def clearPowerOverride : Daemon Unit := do
  modify fun c => { c with
    power := { c.power with powerOverride := none, powerOverrideBase := none } }
  when (!fx.shadow) do
    let _ ← request .powerOverrideRemove

/-- Adopt an external platform_profile write as the override. -/
def adoptPowerOverride (profile : PowerProfile) : Daemon Unit := do
  modify fun c => { c with
    power := { c.power with powerOverride := some profile, powerOverrideBase := none } }
  when (!fx.shadow) do
    let _ ← request (.powerOverrideWrite profile)
  fx.notifyPower ("Adopted external power change as override: " ++ profile.asStr)

/-! ## Brightness -/

/-- `brightness_read`: nothing without a backlight. -/
def brightnessRead : Daemon (Option Nat) := do
  let c ← get
  match c.brightness.brightnessDev with
  | none => pure none
  | some dev => request (.readBrightness dev)

/-- Whether the panel is off what the daemon last set by more than half a percent. -/
def brightnessUserTookOver : Daemon Bool := do
  let c ← get
  match c.brightness.brightnessSet with
  | none => pure false
  | some set => do
    let cur ← brightnessRead
    match cur with
    | none => pure false
    | some cur =>
      pure (decide (((cur : Int) - (set : Int)).natAbs > c.brightness.brightnessMax / 200))

/-- `brightness_write`: the value is clamped so that the panel is never dark, and recorded where the
write is taken. -/
def brightnessWrite (value : Nat) : Daemon Unit := do
  let c ← get
  match c.brightness.brightnessDev with
  | none => pure ()
  | some dev =>
    when fx.session do
      let value := min (max value 1) c.brightness.brightnessMax
      let ok ← (if fx.shadow then pure true else request (.setBrightness "backlight" dev value) :
        Daemon Bool)
      when ok do
        modify fun c => { c with brightness := { c.brightness with brightnessSet := some value } }

/-- Leave the panel to the user who took it over. -/
def brightnessYield : Daemon Unit := do
  modify fun c => { c with brightness := { c.brightness with brightnessSaved := none } }
  let cur ← brightnessRead
  modify fun c => { c with brightness := { c.brightness with brightnessSet := cur } }

/-- Cap the panel at one `den`-th of its maximum. -/
def brightnessLimit (save : Bool) (den : Nat) : Daemon Unit := do
  let tookOver ← brightnessUserTookOver
  if tookOver then
    brightnessYield
  else do
    let cur ← brightnessRead
    match cur with
    | none => pure ()
    | some cur => do
      when save do
        modify fun c => { c with brightness := { c.brightness with brightnessSaved := some cur } }
      let c ← get
      let cap := c.brightness.brightnessMax / den
      when (decide (cur > cap)) (fx.brightnessWrite cap)

/-- Cap the panel, and save what it was. -/
def brightnessSaveAndCap (den : Nat) : Daemon Unit := fx.brightnessLimit true den

/-- Cap the panel further. -/
def brightnessCap (den : Nat) : Daemon Unit := fx.brightnessLimit false den

/-- `brightness_restore`: back to what was saved, unless the user took over. -/
def brightnessRestore : Daemon Unit := do
  let c ← get
  match c.brightness.brightnessSaved with
  | none => pure ()
  | some saved => do
    set { c with brightness := { c.brightness with brightnessSaved := none } }
    let tookOver ← brightnessUserTookOver
    if tookOver then do
      let cur ← brightnessRead
      modify fun c => { c with brightness := { c.brightness with brightnessSet := cur } }
    else
      fx.brightnessWrite saved

/-- Re-arm the takeover guard on resume. -/
def brightnessRearm : Daemon Unit := do
  let c ← get
  when c.brightness.brightnessDev.isSome do
    let cur ← brightnessRead
    modify fun c => { c with brightness := { c.brightness with brightnessSet := cur } }

/-! ## Keyboard backlight -/

/-- Light the keyboard at `pct`. Idempotent on the raw value last written. -/
def kbdSet (pct : Nat) : Daemon Unit := do
  let c ← get
  match c.kbd.kbdLed with
  | none => pure ()
  | some (name, max) => do
    let raw := levelToRaw pct max
    when (decide (c.kbd.kbdApplied ≠ some raw) && fx.session) do
      let ok ← (if fx.shadow then pure true else request (.setBrightness "leds" name raw) :
        Daemon Bool)
      when ok do
        modify fun c => { c with kbd := { c.kbd with kbdApplied := some raw } }

/-- Typing stopped: the manual override is over. -/
def kbdReleaseOverride : Daemon Unit := do
  let c ← get
  when c.kbd.kbdOverride do
    set { c with kbd := { c.kbd with kbdOverride := false } }
    when (!fx.shadow) do
      let _ ← request .kbdOverrideRemove

/-- `KbdStatus::of`. -/
def kbdStatusOf (c : Context) (lit : Bool) : KbdStatus where
  lit := lit
  level := c.kbd.kbdLevel
  overrideArmed := c.kbd.kbdOverride
  typing := c.kbd.kbdTyping
  dark := c.kbd.kbdDark
  lux := c.kbd.kbdLastLux
  darkLux := c.kbd.kbdDarkLux
  led := (c.kbd.kbdLed.map Prod.fst).getD ""
  sensor := c.kbd.kbdAls.getD ""

/-- `kbd_write_status`. -/
def kbdWriteStatus (lit : Bool) : Daemon Unit :=
  when (!fx.shadow) do
    let c ← get
    request (.kbdStatusWrite (kbdStatusOf c lit))

/-! ## Lock and suspend -/

/-- `request_lock`: of a session's own machine, out of shadow mode. -/
def requestLock : Daemon Unit :=
  when (fx.session && !fx.shadow) (request .lock)

/-- A fresh LockedHint and the compositor's session lock together prove a live locker. -/
def liveLocker : Daemon Bool :=
  if fx.session then do
    let hint ← request .lockedHint
    if hint = some true then do
      let held ← Hyprctl.sessionIsLocked
      pure (decide (held = some true))
    else
      pure false
  else
    pure false

/-- Wait for the lock to engage. -/
def waitForLock : Daemon Bool := do
  let c ← get
  let live ← (if c.locked then fx.liveLocker else pure false : Daemon Bool)
  if live then pure true else request .waitLocked

/-- Whether logind accepted the suspend. -/
def doSuspend : Daemon Bool :=
  if fx.shadow then pure true else request .suspend

end Effectors

end Hyprstate
