import Mathlib.Tactic.Common

/-!
# The lid and suspend state machine

`crates/hyprstate-fsm/src/fsm.rs`: the states, the event kinds, the world inputs, and the three pure
functions over them. `worldState` says where the machine rests in a world, `desiredState` whether an
event moves it there, and `dpmsStuckOff` whether dark screens must be lit again.
-/

namespace Hyprstate

/-- Main FSM states. -/
inductive State
  | lidOpen
  | docked
  | deferred
  | countdown
  | suspending
  deriving DecidableEq

/-- The projection of an event that the transition maps read. -/
inductive EventKind
  | lidClose
  | lidOpen
  | monitorAdded
  | monitorRemoved
  | inhibitorOn
  | inhibitorOff
  | lockEngaged
  | lockReleased
  | acPlugged
  | acUnplugged
  | timerExpired
  | resumed
  | suspendRequested
  | suspendCancelled
  | reconcile
  | monitorsChanged
  | ctxRepaired
  | platformProfileChanged
  | gpuOverrideChanged
  | batteryLowChanged
  | powerOverrideChanged
  | powerAcSettled
  deriving DecidableEq

/-- The world inputs that `worldState` derives from. -/
structure WorldInputs where
  lidClosed : Bool := false
  extMonCount : Nat := 0
  inhibitor : Bool := false
  suspendRequested : Bool := false
  locked : Bool := false
  batteryLow : Bool := false
  lidAcHold : Bool := false

/-- Whether a keep-awake claim has authority: only on an unlocked machine that is not on a low
battery. -/
def claimGoverns (w : WorldInputs) : Bool :=
  w.inhibitor && !w.locked && !w.batteryLow

/-- Where the machine rests in a world. A standing request outranks the lid. -/
def worldState (w : WorldInputs) : State :=
  let claim := claimGoverns w
  if w.suspendRequested then
    if claim then .deferred else .countdown
  else if w.lidClosed && decide (w.extMonCount ≥ 1) then
    .docked
  else if !w.lidClosed then
    .lidOpen
  else if claim || w.lidAcHold then
    .deferred
  else
    .countdown

/-- The main transition; `none` stays put. -/
def desiredState (state : State) (ev : EventKind) (w : WorldInputs) : Option State :=
  if ev = .timerExpired then
    if state ≠ .countdown then
      none
    else
      -- Re-derive before suspending: a stale timer finds its world gone.
      let target := worldState w
      some (if target = .countdown then .suspending else target)
  else if ev = .resumed then
    if state = .suspending then some (worldState w) else none
  else if state = .suspending then
    none
  else
    let target := worldState w
    if target ≠ state then some target else none

/-- Inputs of the stuck-DPMS backstop. -/
structure StuckScreenInputs where
  dpmsOff : Bool := false
  locked : Bool := false
  cursorMoved : Bool := false

/-- Whether an observed DPMS-off state is unowned and must be repaired. -/
def dpmsStuckOff (main : State) (s : StuckScreenInputs) : Bool :=
  if !s.dpmsOff then
    false
  else if !(main = .lidOpen || main = .docked) then
    false
  else
    !s.locked || s.cursorMoved

/-- Whether the internal panel may be turned off: never when it is the only output. -/
def edpMayDisable (extMonCount : Nat) : Bool := decide (extMonCount > 0)

/-! ## Where the machine rests -/

/-- `worldState` never rests in `suspending`. -/
theorem worldState_ne_suspending (w : WorldInputs) : worldState w ≠ .suspending := by
  unfold worldState
  simp only
  split_ifs <;> simp

/-- The worlds that rest in `countdown`: no claim governs, and either a request stands or the lid
alone wants the machine asleep. -/
theorem worldState_eq_countdown_iff (w : WorldInputs) :
    worldState w = .countdown ↔
      claimGoverns w = false ∧
        (w.suspendRequested = true ∨
          w.lidClosed = true ∧ w.extMonCount = 0 ∧ w.lidAcHold = false) := by
  unfold worldState
  cases w.suspendRequested <;> cases claimGoverns w <;> cases w.lidClosed <;>
    cases w.lidAcHold <;> rcases w.extMonCount with _ | n <;> simp

/-- The only way into `suspending` is an expired timer in `countdown`, in a world that still rests
there. -/
theorem desiredState_eq_suspending_iff (state : State) (ev : EventKind) (w : WorldInputs) :
    desiredState state ev w = some .suspending ↔
      ev = .timerExpired ∧ state = .countdown ∧ worldState w = .countdown := by
  have hne := worldState_ne_suspending w
  unfold desiredState
  simp only
  split_ifs <;> simp_all

/-- On every event but an expired timer and a resume, the machine moves exactly to where its world
rests, unless it is suspending. -/
theorem desiredState_of_world {state : State} {ev : EventKind} (w : WorldInputs)
    (ht : ev ≠ .timerExpired) (hr : ev ≠ .resumed) :
    desiredState state ev w =
      if state = .suspending ∨ worldState w = state then none else some (worldState w) := by
  unfold desiredState
  simp only [ht, hr, if_false]
  split_ifs <;> simp_all

end Hyprstate
