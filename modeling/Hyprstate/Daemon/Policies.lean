import Hyprstate.Daemon.Effectors

/-!
# The policy checks

`daemon/power_policy.rs`, `daemon/kbd_policy.rs`, `daemon/gpu_drift.rs` and the device discovery of
`daemon/mod.rs`: what the dispatcher runs beside the main machine. Each is idempotent on unchanged
inputs and writes its own record of the context only.
-/

namespace Hyprstate

open Reactive Process

namespace Effectors

variable (fx : Effectors)

/-! ## Power policy -/

/-- Stamp a new override with the base state it was made in; expire a stamped one on an AC axis flip
or on entering battery-low. -/
def powerOverrideStep (base : BaseState) : Daemon Unit := do
  let c ← get
  match c.power.powerOverride, c.power.powerOverrideBase with
  | none, _ => pure ()
  | some _, none =>
    set { c with power := { c.power with powerOverrideBase := some base } }
  | some _, some stamped =>
    when (decide (acAxis base ≠ acAxis stamped) ||
        (decide (base = .batteryLow) && decide (stamped ≠ .batteryLow))) do
      fx.clearPowerOverride
      fx.notifyPower ("Power override cleared — back to automatic (" ++
        (c.power.powerPolicy.forBase base).asStr ++ " on " ++ base.asStr ++ ")")

/-- Brightness moves on edges of the base state only. -/
def brightnessEdge (prev base : BaseState) : Daemon Unit :=
  when (decide (prev ≠ base)) do
    when (decide (acAxis prev = .ac ∧ acAxis base = .battery)) (fx.brightnessSaveAndCap 2)
    when (decide (base = .batteryLow ∧ prev ≠ .batteryLow)) (fx.brightnessCap 4)
    when (decide (acAxis prev = .battery ∧ acAxis base = .ac)) fx.brightnessRestore

/-- `power_policy_check`: the override expires or not, the profile is applied, and an edge of the AC
axis moves the brightness. -/
def powerPolicyCheck : Daemon Unit := do
  let c ← get
  let base := powerBaseState c.onAcSettled c.extMonCount c.lowBattery
  fx.powerOverrideStep base
  let c ← get
  fx.applyPowerProfile (c.power.powerOverride.getD (c.power.powerPolicy.forBase base))
  let c ← get
  set { c with power := { c.power with powerLastBase := some base } }
  match c.power.powerLastBase with
  | none => pure ()
  | some prev => fx.brightnessEdge prev base

/-! ## Keyboard backlight policy -/

/-- Read the ambient light sensor; an unreadable one keeps the last verdict. -/
def kbdSample : Daemon Unit := do
  let c ← get
  match c.kbd.kbdAls with
  | none => pure ()
  | some als => do
    let lux ← request (.readLux als)
    match lux with
    | none => pure ()
    | some lux =>
      set { c with kbd := { c.kbd with
        kbdLastLux := some lux
        kbdDark := isDark lux c.kbd.kbdDarkLux } }

/-- Decide whether the keys are lit, and light them. -/
def kbdPolicyCheck (sample : Bool) : Daemon Unit := do
  let c ← get
  when c.kbdActive do
    when sample kbdSample
    let c ← get
    let lit := kbdLit
      { locked := c.locked
        sleeping := c.kbd.kbdSleeping
        typing := c.kbd.kbdTyping
        dark := c.kbd.kbdDark
        overrideArmed := c.kbd.kbdOverride }
    fx.kbdSet (if lit then c.kbd.kbdLevel else 0)
    fx.kbdWriteStatus lit

/-! ## GPU drift -/

/-- Lazily resolve the session's actual device list; it stays pending on a failure. -/
def resolveGpuActual : Daemon Unit := do
  let devices ← request .hyprlandAqDevices
  match devices with
  | none => pure ()
  | some [] => do
    let reason ← request .gpuStateReason
    modify fun c => { c with gpu := { c.gpu with
      gpuActualPending := false
      gpuActual :=
        if reason = some "bailed-transient" ∨ reason = some "validation-failed" then some []
        else none } }
  | some (d :: ds) =>
    modify fun c => { c with gpu := { c.gpu with
      gpuActualPending := false
      gpuActual := some (d :: ds) } }

/-- The session's mode, from the override file, the profile's preference and platform_profile. -/
def resolveSessionGpuMode (profileGpu : GpuPref) : Daemon (GpuMode × GpuModeSource) := do
  let overrideWord ← request .gpuOverrideWord
  let platform ← request .platformProfileWord
  let overlay := if profileGpu = .auto then none else some profileGpu.asStr
  pure (resolveGpuMode overrideWord overlay platform)

/-- At most one notification a minute, and one for each drift. -/
def notifyDrift (trigger : String) (desired : List String) (reason : String) : Daemon Unit := do
  let c ← get
  let key := ":".intercalate desired
  when (decide (c.gpu.gpuLastNotified ≠ some key)) do
    let now ← request .now
    let recent := (c.gpu.gpuLastNotifyAt.map fun t => decide (now - t < 60000)).getD false
    when (!recent) do
      set { c with gpu := { c.gpu with
        gpuLastNotified := some key
        gpuLastNotifyAt := some now } }
      fx.notifyGpuDrift desired reason trigger c.onAc

/-- `check_and_notify_drift`: the cards in use are compared with those selected. -/
def checkAndNotifyDrift (trigger : String) (mode : GpuMode) (source : GpuModeSource) :
    Daemon Unit := do
  let c ← get
  when c.gpu.gpuActualPending resolveGpuActual
  let c ← get
  match c.gpu.gpuActualPending, c.gpu.gpuActual with
  | false, some actual => do
    let snap ← request .gpuSnapshot
    match gpuDesired snap mode source with
    | (none, _) => pure ()
    | (some desired, reason) =>
      if desired = actual then
        -- Re-arm: a later drift notifies again.
        modify fun c => { c with gpu := { c.gpu with gpuLastNotified := none } }
      else
        fx.notifyDrift trigger desired reason
  | _, _ => pure ()

/-- Resolve the mode, notify on drift, and return the mode. -/
def gpuDriftCheck (trigger : String) (profileGpu : GpuPref) : Daemon GpuMode := do
  let mode ← resolveSessionGpuMode profileGpu
  fx.checkAndNotifyDrift trigger mode.1 mode.2
  pure mode.1

/-! ## Device discovery -/

/-- The backlight the brightness effects drive. A changed device drops the saved values. -/
def discoverBacklight : Daemon Unit := do
  let found ← request .findBacklight
  let c ← get
  when (decide (found.map Prod.fst ≠ c.brightness.brightnessDev)) do
    set { c with brightness :=
      { brightnessDev := found.map Prod.fst
        brightnessMax := (found.map Prod.snd).getD 0
        brightnessSet := none
        brightnessSaved := none } }

/-- The keyboard LED and the light sensor. A changed LED reseeds the value last written. -/
def discoverKbd : Daemon Unit := do
  let led ← request .findKbdLed
  let c ← get
  when (decide (led ≠ c.kbd.kbdLed)) do
    match led with
    | none => modify fun c => { c with kbd := { c.kbd with kbdApplied := none } }
    | some (name, _) => do
      let raw ← request (.ledBrightness name)
      modify fun c => { c with kbd := { c.kbd with kbdApplied := raw } }
  let als ← request .findAls
  modify fun c => { c with kbd := { c.kbd with kbdLed := led, kbdAls := als } }

end Effectors

end Hyprstate
