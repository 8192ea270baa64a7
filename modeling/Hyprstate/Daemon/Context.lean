import Hyprstate.Fsm.Lid
import Hyprstate.Fsm.Power
import Hyprstate.Fsm.Kbd
import Hyprstate.Fsm.Profiles

/-!
# The daemon's context

`daemon/ctx.rs`: the state that the dispatcher alone owns. The fields that only one subsystem
touches are grouped into a record for each section of the source, so that a subsystem's effect on
the context is an update of its record. A join handle is a number, and a duration is in
milliseconds.
-/

namespace Hyprstate

/-- The handle of a spawned task. -/
abbrev Handle := Nat

/-- GPU drift detection. -/
structure GpuContext where
  /-- `none` is an unmanaged session. -/
  gpuActual : Option (List String) := none
  gpuActualPending : Bool := true
  gpuLastNotified : Option String := none
  gpuLastNotifyAt : Option Nat := none
  /-- Last pin pushed to powerd. -/
  dgpuPinned : Option Bool := none

/-- Power policy. -/
structure PowerContext where
  powerPolicy : PowerPolicy := {}
  powerOverride : Option PowerProfile := none
  powerOverrideBase : Option BaseState := none
  powerApplied : Option PowerProfile := none
  powerLastBase : Option BaseState := none
  selfWrites : SelfWriteTracker := {}
  powerdAvailable : Bool := true
  powerdWarned : Bool := false

/-- The panel's backlight: what was set last, and what was saved before a cap. -/
structure BrightnessContext where
  brightnessDev : Option String := none
  brightnessMax : Nat := 0
  brightnessSet : Option Nat := none
  brightnessSaved : Option Nat := none

/-- Keyboard backlight. -/
structure KbdContext where
  kbdMode : KbdMode := .auto
  kbdIdle : Nat := 10000
  kbdDarkLux : Nat := 10
  /-- Name and maximum of the LED. -/
  kbdLed : Option (String × Nat) := none
  /-- Illuminance attribute of the sensor. -/
  kbdAls : Option String := none
  kbdTyping : Bool := false
  kbdSleeping : Bool := false
  kbdDark : Bool := false
  kbdLastLux : Option Rat := none
  kbdLevel : Nat := defaultKbdLevelPct
  kbdOverride : Bool := false
  /-- Raw value last written to the LED. -/
  kbdApplied : Option Nat := none

/-- What waybar's power-profile module last rendered. -/
structure WaybarView where
  applied : Option PowerProfile
  overrideSet : Bool
  powerdAvailable : Bool
  deriving DecidableEq

/-- The daemon's context. The field defaults are `Context::default`. -/
structure Context where
  lidClosed : Bool := false
  lidPresent : Bool := true
  lidGrace : Nat := 30000
  lidAc : LidAcPolicy := .suspend
  extMonCount : Nat := 0
  logindInhibitor : Bool := false
  waylandInhibitor : Bool := false
  locked : Bool := false
  onAc : Bool := true
  state : State := .lidOpen
  suspendRequested : Bool := false
  onAcSettled : Bool := true
  /-- `none` is no battery. -/
  batteryPercent : Option Rat := some 100
  lowBattery : Bool := false
  batteryLowPct : Nat := defaultBatteryLowPct
  graceTimer : Option Handle := none
  profileDebounce : Option Handle := none
  powerDebounce : Option Handle := none
  /-- The sampler that watches a Wayland claim for release. -/
  claimWatch : Option Handle := none
  lastCursorPos : Option (Int × Int) := none
  currentProfile : Option String := none
  /-- Last applied profile body. -/
  activeProfileRev : Option MonitorProfile := none
  edpPolicy : EdpPolicy := .auto
  gpu : GpuContext := {}
  power : PowerContext := {}
  brightness : BrightnessContext := {}
  waybarView : Option WaybarView := none
  kbd : KbdContext := {}

namespace Context

/-- The keyboard backlight policy acts only in `auto` mode, with an LED and a sensor. -/
def kbdActive (c : Context) : Bool :=
  decide (c.kbd.kbdMode = .auto) && c.kbd.kbdLed.isSome && c.kbd.kbdAls.isSome

/-- `Context::inhibitor`: a claim of either kind. -/
def inhibitor (c : Context) : Bool := c.logindInhibitor || c.waylandInhibitor

/-- The inputs of the main machine. The battery-low bypass reads the settled AC axis and the lid-ac
hold reads the raw one. -/
def world (c : Context) : WorldInputs where
  lidClosed := c.lidClosed
  extMonCount := c.extMonCount
  inhibitor := c.inhibitor
  suspendRequested := c.suspendRequested
  locked := c.locked
  batteryLow := c.lowBattery && !c.onAcSettled
  lidAcHold := decide (c.lidAc = .defer) && c.onAc

end Context

/-- `WaybarView::of`. -/
def WaybarView.of (c : Context) : WaybarView where
  applied := c.power.powerApplied
  overrideSet := c.power.powerOverride.isSome
  powerdAvailable := c.power.powerdAvailable

end Hyprstate
