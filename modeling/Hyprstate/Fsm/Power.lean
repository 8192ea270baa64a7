import Mathlib.Data.Rat.Defs
import Mathlib.Tactic.Common

/-!
# Power policy

`crates/hyprstate-fsm/src/power.rs`: the base states, the map from base state to profile, the
platform_profile values, the battery-low hysteresis, what `power.conf` declares, and the bookkeeping
that tells the daemon's own platform_profile writes from others. Instants and durations are
milliseconds, and a battery percentage is a rational.
-/

namespace Hyprstate

/-- Any further than this above the threshold, a low battery is low no more. -/
def batteryLowExitDelta : Nat := 3

/-- Low-battery threshold without a `power.conf`. -/
def defaultBatteryLowPct : Nat := 15

/-- Adoption suppression window after any apply. -/
def adoptSuppress : Nat := 5000

/-- `power::PowerProfile`. -/
inductive PowerProfile
  | powerSaver
  | balanced
  | performance
  deriving DecidableEq

namespace PowerProfile

/-- The word of a profile. -/
def asStr : PowerProfile → String
  | powerSaver => "power-saver"
  | balanced => "balanced"
  | performance => "performance"

/-- `FromStr`; `none` is the parse error. -/
def parse (s : String) : Option PowerProfile :=
  if s = "power-saver" then some powerSaver
  else if s = "balanced" then some balanced
  else if s = "performance" then some performance
  else none

/-- A profile is read back from its word. -/
@[simp] theorem parse_asStr (p : PowerProfile) : parse p.asStr = some p := by
  cases p <;> rfl

/-- A word parses to a profile exactly when it is the profile's own word. -/
theorem parse_eq_some_iff (s : String) (p : PowerProfile) : parse s = some p ↔ s = p.asStr := by
  constructor
  · unfold parse
    split_ifs with h₁ h₂ h₃ <;> intro h
    · obtain rfl := Option.some.inj h; exact h₁
    · obtain rfl := Option.some.inj h; exact h₂
    · obtain rfl := Option.some.inj h; exact h₃
    · exact absurd h (by simp)
  · rintro rfl
    exact parse_asStr p

end PowerProfile

/-- The platform_profile values a profile may be written as. Any of them counts as our own write. -/
def platformProfileChain : PowerProfile → List String
  | .powerSaver => ["low-power", "quiet"]
  | .balanced => ["balanced"]
  | .performance => ["performance"]

/-- Map an externally written platform_profile value back to a profile. -/
def profileFromPlatformValue (value : Option String) : PowerProfile :=
  if value = some "low-power" ∨ value = some "quiet" then .powerSaver
  else if value = some "performance" then .performance
  else .balanced

/-- `power::BaseState`. -/
inductive BaseState
  | dockedAc
  | ac
  | battery
  | batteryLow
  deriving DecidableEq

/-- The word of a base state. -/
def BaseState.asStr : BaseState → String
  | dockedAc => "docked-ac"
  | ac => "ac"
  | battery => "battery"
  | batteryLow => "battery-low"

/-- The settled AC axis alone decides between the AC and the battery side. -/
def powerBaseState (onAcSettled : Bool) (extMonCount : Nat) (lowBattery : Bool) : BaseState :=
  if onAcSettled then
    if extMonCount ≥ 1 then .dockedAc else .ac
  else if lowBattery then
    .batteryLow
  else
    .battery

/-- The AC axis of a base state. -/
inductive AcAxis
  | ac
  | battery
  deriving DecidableEq

/-- The axis that a base state is on. -/
def acAxis : BaseState → AcAxis
  | .ac | .dockedAc => .ac
  | .battery | .batteryLow => .battery

/-- Battery-low hysteresis: enter at or below the threshold, leave at the threshold and the exit
delta, hold otherwise. -/
def batteryLowStep (low : Bool) (pct : Rat) (threshold : Nat) : Bool :=
  if !low && decide (pct ≤ (threshold : Rat)) then
    true
  else if low && decide (pct ≥ ((threshold + batteryLowExitDelta : Nat) : Rat)) then
    false
  else
    low

/-- The map from base state to profile of `power.conf`. -/
structure PowerPolicy where
  dockedAc : PowerProfile := .balanced
  ac : PowerProfile := .balanced
  battery : PowerProfile := .powerSaver
  batteryLow : PowerProfile := .powerSaver

/-- The profile that the policy has for a base state. -/
def PowerPolicy.forBase (p : PowerPolicy) : BaseState → PowerProfile
  | .dockedAc => p.dockedAc
  | .ac => p.ac
  | .battery => p.battery
  | .batteryLow => p.batteryLow

/-- Whether this machine has a lid at all. -/
inductive LidMode
  | present
  | absent
  deriving DecidableEq

/-- What a lid close does while on AC. -/
inductive LidAcPolicy
  | suspend
  | defer
  deriving DecidableEq

/-- Whether the keyboard backlight is driven. -/
inductive KbdMode
  | auto
  | off
  deriving DecidableEq

/-- Everything `power.conf` declares. -/
structure PowerConf where
  policy : PowerPolicy := {}
  batteryLowPct : Nat := defaultBatteryLowPct
  lid : LidMode := .present
  lidGraceSecs : Nat := 30
  lidAc : LidAcPolicy := .suspend
  kbd : KbdMode := .auto
  kbdIdleSecs : Nat := 10
  kbdDarkLux : Nat := 10

/-- Self-write detection for platform_profile: the values expected of the applies in flight, each
with its expiry, and the time of the last apply. -/
structure SelfWriteTracker where
  entries : List (Nat × List String) := []
  lastApply : Option Nat := none

namespace SelfWriteTracker

/-- A write of the daemon's own is registered with its deadline. -/
def register (t : SelfWriteTracker) (now : Nat) (profile : PowerProfile) : SelfWriteTracker :=
  { entries := t.entries ++ [(now + adoptSuppress, platformProfileChain profile)]
    lastApply := some now }

/-- Whether a platform_profile change is one of our own applies (its entry is consumed) or falls in
the suppression window. -/
def isSelfWrite (t : SelfWriteTracker) (now : Nat) (value : Option String) :
    Bool × SelfWriteTracker :=
  let entries := t.entries.filter fun e => decide (e.1 > now)
  let pos := match value with
    | some v => entries.findIdx? fun e => e.2.contains v
    | none => none
  match pos with
  | some i => (true, { t with entries := entries.eraseIdx i })
  | none =>
    (match t.lastApply with
      | some at' => decide (now - at' < adoptSuppress)
      | none => false, { t with entries := entries })

end SelfWriteTracker

end Hyprstate
