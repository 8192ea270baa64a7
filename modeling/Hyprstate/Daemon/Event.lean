import Hyprstate.Daemon.Context

/-!
# Events

`daemon/event.rs`: what the sources send to the dispatcher, the reconciler's snapshot, and the
projection of an event to the kind that the transition maps read.
-/

namespace Hyprstate

/-- What a reconcile pass gathered. An optional field whose source failed is `none`. -/
structure ReconcileSnapshot where
  reasons : String := ""
  lidClosed : Bool := false
  extMonCount : Nat := 0
  logindInhibitor : Bool := false
  waylandInhibitor : Option Bool := none
  locked : Option Bool := none
  onAc : Option Bool := none
  edpDisabled : Option Bool := none
  /-- Whether an enabled output reports DPMS off. -/
  dpmsOff : Option Bool := none
  cursorPos : Option (Int × Int) := none
  deriving DecidableEq

/-- `Event`: what the sources send to the dispatcher. -/
inductive Event
  | lid (closed : Bool)
  | monitorHotplug (added : Bool) (name : String)
  | configReloaded
  | profileApplied
  | monitorsChanged
  | profilesChanged
  | inhibitor (wayland active : Bool)
  | lockChanged (locked : Bool)
  | acChanged (onAc : Bool)
  | powerAcSettled
  | timerExpired
  | resumed
  | reconcileTick (snap : ReconcileSnapshot)
  | platformProfileChanged (value : Option String)
  | gpuOverrideChanged (word : Option String)
  | batteryPercent (pct : Rat)
  | powerOverrideChanged (word : Option String)
  | suspendRequestChanged (word : Option String)
  | powerdAppeared
  | backlightHotplug
  | sleeping
  | kbdIdle (idle : Bool)
  | kbdLevelChanged (level : Option Nat)
  | kbdOverrideChanged (armed : Bool)
  | kbdLedHotplug
  deriving DecidableEq

namespace Event

/-- Projection for the transition maps. -/
def kind : Event → EventKind
  | lid true => .lidClose
  | lid false => .lidOpen
  | monitorHotplug true _ => .monitorAdded
  | monitorHotplug false _ => .monitorRemoved
  | configReloaded | profileApplied => .reconcile
  | monitorsChanged | profilesChanged => .monitorsChanged
  | inhibitor _ true => .inhibitorOn
  | inhibitor _ false => .inhibitorOff
  | lockChanged true => .lockEngaged
  | lockChanged false => .lockReleased
  | acChanged true => .acPlugged
  | acChanged false => .acUnplugged
  | powerAcSettled => .powerAcSettled
  | timerExpired => .timerExpired
  | resumed => .resumed
  | reconcileTick _ => .ctxRepaired
  | platformProfileChanged _ => .platformProfileChanged
  | gpuOverrideChanged _ => .gpuOverrideChanged
  | batteryPercent _ => .batteryLowChanged
  | powerOverrideChanged _ => .powerOverrideChanged
  | suspendRequestChanged (some _) => .suspendRequested
  | suspendRequestChanged none => .suspendCancelled
  | powerdAppeared => .powerAcSettled
  | backlightHotplug | sleeping | kbdIdle _ | kbdLevelChanged _ | kbdOverrideChanged _
  | kbdLedHotplug => .ctxRepaired

/-- The log label. -/
def label : Event → String
  | profilesChanged => "ProfilesChanged"
  | backlightHotplug => "BacklightHotplug"
  | sleeping => "Sleeping"
  | kbdIdle true => "KbdIdled"
  | kbdIdle false => "KbdResumed"
  | kbdLevelChanged _ => "KbdLevelChanged"
  | kbdOverrideChanged _ => "KbdOverrideChanged"
  | kbdLedHotplug => "KbdLedHotplug"
  | ev => match ev.kind with
    | .lidClose => "LidClose"
    | .lidOpen => "LidOpen"
    | .monitorAdded => "MonitorAdded"
    | .monitorRemoved => "MonitorRemoved"
    | .inhibitorOn => "InhibitorOn"
    | .inhibitorOff => "InhibitorOff"
    | .lockEngaged => "LockEngaged"
    | .lockReleased => "LockReleased"
    | .acPlugged => "AcPlugged"
    | .acUnplugged => "AcUnplugged"
    | .timerExpired => "TimerExpired"
    | .resumed => "Resumed"
    | .reconcile => "Reconcile"
    | .monitorsChanged => "MonitorsChanged"
    | .ctxRepaired => "CtxRepaired"
    | .platformProfileChanged => "PlatformProfileChanged"
    | .gpuOverrideChanged => "GpuOverrideChanged"
    | .batteryLowChanged => "BatteryLowChanged"
    | .powerOverrideChanged => "PowerOverrideChanged"
    | .powerAcSettled => "PowerAcSettled"
    | .suspendRequested => "SuspendRequested"
    | .suspendCancelled => "SuspendCancelled"

/-- Only the grace timer's own event is a timer expiry. -/
theorem kind_eq_timerExpired_iff (ev : Event) : ev.kind = .timerExpired ↔ ev = .timerExpired := by
  constructor
  · unfold kind
    split <;> intro h <;> first | rfl | exact absurd h (by decide)
  · rintro rfl
    rfl

/-- Only logind's resume is a resume. -/
theorem kind_eq_resumed_iff (ev : Event) : ev.kind = .resumed ↔ ev = .resumed := by
  constructor
  · unfold kind
    split <;> intro h <;> first | rfl | exact absurd h (by decide)
  · rintro rfl
    rfl

end Event

end Hyprstate
