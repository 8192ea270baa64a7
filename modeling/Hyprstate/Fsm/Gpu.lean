import Hyprstate.Fsm.Profiles

/-!
# GPU selection

`crates/hyprstate-fsm/src/gpu.rs`: the mode precedence, the integrated card, and the device list the
session should render with.
-/

namespace Hyprstate

/-- One GPU candidate from `/dev/dri/by-path`. -/
structure GpuCard where
  path : String
  card : String
  bootVga : Nat
  vram : Nat
  /-- Connected connectors that are not eDP. -/
  external : Nat
  /-- Connected eDP connectors. -/
  edp : Nat

/-- The cards of the machine, and what counts besides. -/
structure GpuSnapshot where
  cards : List GpuCard := []
  nonPciDisplay : Bool := false
  lidClosed : Bool := false

/-- `gpu::GpuMode`. -/
inductive GpuMode
  | auto
  | igpu
  | dgpu
  | off
  deriving DecidableEq

/-- Where the mode came from. -/
inductive GpuModeSource
  | override
  | profile
  | platform
  | default
  deriving DecidableEq

/-- The word of a mode's source. -/
def GpuModeSource.asStr : GpuModeSource → String
  | override => "override"
  | profile => "profile"
  | platform => "platform"
  | default => "default"

/-- Mode precedence: override file, profile overlay, platform_profile, auto. -/
def resolveGpuMode (overrideWord overlay platformWord : Option String) : GpuMode × GpuModeSource :=
  if overrideWord = some "igpu" then (.igpu, .override)
  else if overrideWord = some "dgpu" then (.dgpu, .override)
  else if overrideWord = some "off" then (.off, .override)
  else if overlay = some "igpu" then (.igpu, .profile)
  else if overlay = some "dgpu" then (.dgpu, .profile)
  else if platformWord = some "low-power" ∨ platformWord = some "quiet" then (.igpu, .platform)
  else if platformWord = some "performance" then (.dgpu, .platform)
  else (.auto, .default)

/-- Integrated is the card on which boot_vga and the smallest VRAM agree; `none` where they do not.
An index into `cards`. -/
def integratedCard (cards : List GpuCard) : Option Nat :=
  match (cards.map GpuCard.vram).min? with
  | none => none
  | some minVram =>
    let byVram := (List.range cards.length).filter fun i =>
      (cards[i]?.map GpuCard.vram) == some minVram
    let byVga := (List.range cards.length).filter fun i =>
      (cards[i]?.map GpuCard.bootVga) == some 1
    match byVga with
    | [i] => if byVram.contains i then some i else none
    | [] => match byVram with
      | [i] => some i
      | _ => none
    | _ => none

/-- The device node that AQ_DRM_DEVICES lists. -/
def devnode (card : GpuCard) : String := "/dev/dri/" ++ card.card

/-- Only `dgpu` mode pins the discrete GPU's runtime power management awake. -/
def dgpuRuntimePmPinned (mode : GpuMode) : Bool := decide (mode = .dgpu)

/-- The order discrete cards are preferred in: most externals, then most VRAM, then the path. -/
def discreteLe (a b : GpuCard) : Bool :=
  if a.external ≠ b.external then decide (a.external > b.external)
  else if a.vram ≠ b.vram then decide (a.vram > b.vram)
  else decide (a.path ≤ b.path)

/-- The device list the session should render with, primary first, and the reason; `none` leaves the
session unmanaged. -/
def gpuDesired (snap : GpuSnapshot) (mode : GpuMode) (source : GpuModeSource) :
    Option (List String) × String :=
  if mode = .off then (none, "override-off")
  else if snap.cards.length < 2 then (none, "no-multi-gpu")
  else if snap.nonPciDisplay then (none, "non-pci-display-present")
  else
    match integratedCard snap.cards with
    | none => (none, "ambiguous-integrated")
    | some integrated =>
      if snap.lidClosed && !snap.cards.any (fun c => decide (c.external > 0)) then
        (none, "bailed-transient")
      else
        let indexed := (snap.cards.zipIdx).filter fun c => c.2 != integrated
        let discretes := indexed.mergeSort fun a b => discreteLe a.1 b.1
        match snap.cards[integrated]?, discretes with
        | some integratedCard, best :: _ =>
          let displays (c : GpuCard) : Bool := decide (c.external > 0 ∨ c.edp > 0)
          let (primary, reason) : (GpuCard × Nat) × String :=
            match mode with
            | .auto =>
              if displays best.1 then (best, "dgpu-has-display")
              else ((integratedCard, integrated), "dgpu-idle-listed")
            | .igpu => ((integratedCard, integrated), source.asStr ++ "-igpu")
            | _ => (best, source.asStr ++ "-dgpu")
          let keepIdle := decide (mode = .auto)
          let devices := primary ::
            ((if integrated = primary.2 then [] else [(integratedCard, integrated)]) ++
              discretes.filter fun c => c.2 != primary.2 && (keepIdle || displays c.1))
          let usable := devices.any (fun c => decide (c.1.external > 0)) ||
            (!snap.lidClosed && devices.any fun c => decide (c.1.edp > 0))
          if usable then (some (devices.map fun c => devnode c.1), reason)
          else (none, "bailed-transient")
        | _, _ => (none, "ambiguous-integrated")

end Hyprstate
