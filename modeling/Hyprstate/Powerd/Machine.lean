import Mathlib.Logic.Function.Basic
import Mathlib.Logic.Relation
import Hyprstate.Fsm.Power

/-!
# The power daemon

`powerd/mod.rs`: the D-Bus object `Power1` and its `ApplyProfile`. Its runtime has one thread, so a
call runs undisturbed from one await to the next, and a `Step` is what it does in between: write the
slot, get the lock, check the slot and apply, emit the signals. Any number of calls are in flight,
and they are told apart by number.

The knob matrix is the log of its runs. What it writes of a profile is `Powerd/Knobs.lean`'s.
-/

namespace Hyprstate

/-- What an `ApplyProfile` that did not fail returns: the results of the rows, or that it was
superseded. The client sees the same type. -/
inductive Reply
  | results
  | coalesced (superseded : String)
  deriving DecidableEq

/-- How far a call of `ApplyProfile` is. -/
inductive Call
  /-- Not made yet. -/
  | idle
  /-- At the lock. -/
  | waiting (profile : PowerProfile)
  /-- The lock is its own. -/
  | holding (profile : PowerProfile)
  /-- It has applied, and emits its signals under the lock. -/
  | signalling (profile : PowerProfile)
  | returned (profile : PowerProfile) (reply : Reply)
  /-- The profile was not one. -/
  | invalid (profile : String)
  deriving DecidableEq

namespace Call

/-- A call that is made and has not returned. -/
def pending : Call → Bool
  | waiting _ | holding _ | signalling _ => true
  | idle | returned _ _ | invalid _ => false

/-- A call that has the lock. -/
def locks : Call → Bool
  | holding _ | signalling _ => true
  | idle | waiting _ | returned _ _ | invalid _ => false

end Call

/-- Who runs the knob matrix. -/
inductive Applier
  | call (i : Nat)
  | startup
  | resume
  deriving DecidableEq

/-- `Power1`, its calls, the persisted profile and the runs of the knob matrix, the last one
first. -/
structure Powerd where
  active : PowerProfile
  latest : Option PowerProfile := none
  /-- The call that has the apply lock. -/
  applyLock : Option Nat := none
  calls : Nat → Call := fun _ => .idle
  persisted : PowerProfile
  knobs : List (Applier × PowerProfile) := []

namespace Powerd

/-- The profile whose knobs were applied last. -/
def applied (s : Powerd) : Option PowerProfile := s.knobs.head?.map Prod.snd

/-- Where a call is. -/
def setCall (s : Powerd) (i : Nat) (call : Call) : Powerd :=
  { s with calls := Function.update s.calls i call }

/-- `knobs::powerd_apply`. -/
def powerdApply (s : Powerd) (who : Applier) (profile : PowerProfile) : Powerd :=
  { s with knobs := (who, profile) :: s.knobs }

/-- `apply_profile` up to its first await: the slot is written. -/
def request (s : Powerd) (i : Nat) (profile : String) : Powerd :=
  match PowerProfile.parse profile with
  | none => s.setCall i (.invalid profile)
  | some parsed => { s with latest := some parsed }.setCall i (.waiting parsed)

/-- `apply_profile` from the lock to the next await or its return: a superseded call gives the lock
back, and the latest applies. -/
def checkAndApply (s : Powerd) (i : Nat) (parsed : PowerProfile) : Powerd :=
  if s.latest ≠ some parsed then
    let superseded := (s.latest.map PowerProfile.asStr).getD "?"
    { s with applyLock := none }.setCall i
      (.returned parsed (.coalesced ("superseded-by:" ++ superseded)))
  else
    { s.powerdApply (.call i) parsed with active := parsed, persisted := parsed }.setCall i
      (.signalling parsed)

/-- One step of one call. The lock has one holder at a time, and any waiter may be next. -/
inductive Step : Powerd → Powerd → Prop
  | request {s : Powerd} {i : Nat} (profile : String) : s.calls i = .idle →
      Step s (s.request i profile)
  | acquire {s : Powerd} {i : Nat} {p : PowerProfile} : s.calls i = .waiting p →
      s.applyLock = none → Step s ({ s with applyLock := some i }.setCall i (.holding p))
  | check {s : Powerd} {i : Nat} {p : PowerProfile} : s.calls i = .holding p →
      Step s (s.checkAndApply i p)
  | signalled {s : Powerd} {i : Nat} {p : PowerProfile} : s.calls i = .signalling p →
      Step s ({ s with applyLock := none }.setCall i (.returned p .results))

/-- Any number of steps. -/
abbrev Reaches : Powerd → Powerd → Prop := Relation.ReflTransGen Step

/-- Before any call, with these values and this log. -/
def start (active persisted : PowerProfile) (knobs : List (Applier × PowerProfile)) : Powerd where
  active := active
  persisted := persisted
  knobs := knobs

/-- A call's progress moves that call alone. -/
@[simp] theorem setCall_calls (s : Powerd) (i : Nat) (call : Call) :
    (s.setCall i call).calls = Function.update s.calls i call := rfl

/-- It leaves the newest generation. -/
@[simp] theorem setCall_latest (s : Powerd) (i : Nat) (call : Call) :
    (s.setCall i call).latest = s.latest := rfl

/-- It leaves the lock. -/
@[simp] theorem setCall_applyLock (s : Powerd) (i : Nat) (call : Call) :
    (s.setCall i call).applyLock = s.applyLock := rfl

/-- It leaves the active profile. -/
@[simp] theorem setCall_active (s : Powerd) (i : Nat) (call : Call) :
    (s.setCall i call).active = s.active := rfl

/-- It leaves the persisted profile. -/
@[simp] theorem setCall_persisted (s : Powerd) (i : Nat) (call : Call) :
    (s.setCall i call).persisted = s.persisted := rfl

/-- It leaves the record of the applies. -/
@[simp] theorem setCall_knobs (s : Powerd) (i : Nat) (call : Call) :
    (s.setCall i call).knobs = s.knobs := rfl

/-! ## What a step can do -/

/-- The values of `Power1` move by an apply alone, which is of the profile in the slot. -/
theorem step_cases {s s' : Powerd} (h : Step s s') :
    (s'.knobs = s.knobs ∧ s'.active = s.active ∧ s'.persisted = s.persisted) ∨
      ∃ i p, s.calls i = .holding p ∧ s.latest = some p ∧ s'.latest = some p ∧
        s'.knobs = (.call i, p) :: s.knobs ∧ s'.active = p ∧ s'.persisted = p := by
  cases h with
  | request profile hi =>
    left
    unfold request
    cases PowerProfile.parse profile <;> simp
  | acquire hi hlock => exact .inl ⟨rfl, rfl, rfl⟩
  | @check i p hi =>
    unfold checkAndApply
    by_cases hlatest : s.latest = some p
    · right
      rw [if_neg (not_not.mpr hlatest)]
      exact ⟨i, p, hi, hlatest, hlatest, rfl, rfl, rfl⟩
    · left
      rw [if_pos hlatest]
      exact ⟨rfl, rfl, rfl⟩
  | signalled hi => exact .inl ⟨rfl, rfl, rfl⟩

/-- What a step does to the call `i`: nothing, where it is another's. -/
theorem step_call {s s' : Powerd} (h : Step s s') (i : Nat) :
    s'.calls i = s.calls i ∨ s.calls i = .idle ∨
      (∃ p, s.calls i = .waiting p ∧ s'.calls i = .holding p) ∨
      (∃ p, s.calls i = .holding p ∧ s.latest = some p ∧ s'.calls i = .signalling p ∧
        (Applier.call i, p) ∈ s'.knobs) ∨
      (∃ p reply, s.calls i = .holding p ∧ s.latest ≠ some p ∧ s'.calls i = .returned p reply) ∨
      ∃ p, s.calls i = .signalling p ∧ s'.calls i = .returned p .results := by
  -- A step moves the call it is about; of another one it leaves the stage as it is.
  cases h with
  | @request j profile hj =>
    by_cases hij : i = j
    · exact .inr (.inl (hij ▸ hj))
    · left
      unfold request
      cases PowerProfile.parse profile <;> exact Function.update_of_ne hij _ _
  | @acquire j p hj hlock =>
    by_cases hij : i = j
    · subst hij
      exact .inr (.inr (.inl ⟨p, hj, Function.update_self i _ _⟩))
    · exact .inl (Function.update_of_ne hij _ _)
  | @check j p hj =>
    unfold checkAndApply
    by_cases hij : i = j
    · subst hij
      by_cases hlatest : s.latest = some p
      · rw [if_neg (not_not.mpr hlatest)]
        exact .inr (.inr (.inr (.inl ⟨p, hj, hlatest, Function.update_self i _ _,
          List.mem_cons_self⟩)))
      · rw [if_pos hlatest]
        exact .inr (.inr (.inr (.inr (.inl ⟨p, _, hj, hlatest, Function.update_self i _ _⟩))))
    · left
      split_ifs <;> exact Function.update_of_ne hij _ _
  | @signalled j p hj =>
    by_cases hij : i = j
    · subst hij
      exact .inr (.inr (.inr (.inr (.inr ⟨p, hj, Function.update_self i _ _⟩))))
    · exact .inl (Function.update_of_ne hij _ _)

end Powerd

end Hyprstate
