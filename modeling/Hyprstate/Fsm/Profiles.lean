import Mathlib.Tactic.Common

/-!
# Monitor profiles

What the daemon reads of a monitor profile (`sysio/profiles.rs` and the `monitor_profiles` types it
wraps). The layout a profile renders to is one opaque text here: the daemon compares profiles for
equality and never reads a layout.
-/

namespace Hyprstate

/-- What a profile says of the internal panel. -/
inductive EdpPolicy
  | auto
  | enable
  | disable
  deriving DecidableEq

/-- What a profile says of the GPU. -/
inductive GpuPref
  | auto
  | igpu
  | dgpu
  deriving DecidableEq

/-- The word of a GPU preference. -/
def GpuPref.asStr : GpuPref → String
  | auto => "auto"
  | igpu => "igpu"
  | dgpu => "dgpu"

/-- A loaded profile (`TomlProfile`). -/
structure MonitorProfile where
  name : String
  matchRules : List String := []
  edp : EdpPolicy := .auto
  gpu : GpuPref := .auto
  hooks : List String := []
  priority : Int := 0
  layout : String := ""
  deriving DecidableEq

/-- The panel state a policy asks for, where the lid asks for `on`. -/
def EdpPolicy.resolve (policy : EdpPolicy) (on : Bool) : Bool :=
  match policy with
  | .disable => false
  | .enable => true
  | .auto => on

end Hyprstate
