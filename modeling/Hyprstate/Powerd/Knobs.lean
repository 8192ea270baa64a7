import Hyprstate.Fsm.Power

/-!
# The platform_profile row

`powerd/knobs.rs`: the row of the knob matrix that writes `platform_profile`, which is the one the
daemon watches. The other rows write attributes that nothing reads back.
-/

namespace Hyprstate

/-- A sysfs attribute as a read finds it, without the blanks around its text. -/
inductive Attr
  | missing
  | text (s : String)
  | unreadable (err : String)
  deriving DecidableEq

/-- How a write to an attribute ends. -/
inductive WriteResult
  | ok
  /-- EBUSY, EPERM or EACCES. -/
  | unsupported
  | failed (err : String)
  deriving DecidableEq

/-- `knob_write`: the attribute afterwards, and what the row reports. -/
def knobWrite (attr : Attr) (value : String) (res : WriteResult) : Attr × String :=
  match attr with
  | .missing => (attr, "skipped-missing")
  | .unreadable err => (attr, "error:" ++ err)
  | .text cur =>
    if cur = value then (attr, "unchanged")
    else
      match res with
      | .ok => (.text value, "written")
      | .unsupported => (attr, "skipped-unsupported")
      | .failed err => (attr, "error:" ++ err)

/-- The value `platform_row` writes: the first of the profile's chain that the firmware offers. -/
def platformTarget (choices : List String) (profile : PowerProfile) : Option String :=
  (platformProfileChain profile).find? fun v => choices.contains v

/-- `platform_row`. -/
def platformRow (choices : List String) (attr : Attr) (profile : PowerProfile) (res : WriteResult) :
    Attr × String :=
  if attr = .missing then (attr, "skipped-missing")
  else
    match platformTarget choices profile with
    | some v => knobWrite attr v res
    | none => (attr, "skipped-unsupported")

/-- A row leaves a value as it is exactly when its write fails, or it has nothing else to write. -/
theorem platformRow_keeps_iff (choices : List String) (v : String) (profile : PowerProfile)
    (res : WriteResult) :
    (platformRow choices (.text v) profile res).1 = .text v ↔
      res ≠ .ok ∨ ∀ t, platformTarget choices profile = some t → t = v := by
  unfold platformRow
  rw [if_neg (by simp)]
  cases platformTarget choices profile with
  | none => simp
  | some t =>
    by_cases hv : v = t
    · subst hv
      simp [knobWrite]
    · cases res <;> simp [knobWrite, hv, Ne.symm hv]

end Hyprstate
