import Hyprstate.Powerd.Client

/-!
# powerd appearing

When powerd gets its bus name the daemon is told, and is to push the profile and the discrete GPU's
pin again. The arm resets its markers only where an earlier call had failed, and the event is
projected to the kind of a settled AC axis, which opens the gate of the power policy but not the
GPU's.
-/

namespace Hyprstate

open Reactive Process

/-- A call that powerd received. -/
inductive PowerdCall
  | applyProfile (profile : PowerProfile)
  | setDgpuAwake (awake : Bool)
  deriving DecidableEq

/-- What powerd received since it appeared, the last call last; it answers them all. -/
abbrev Received := List PowerdCall

namespace Received

/-- Powerd, which takes every call, and what it received. -/
def world : World (Context × Eff) (stamped Eff.Ans) Received where
  drift _ _ := False
  answer
    | (_, .powerdApplyProfile profile), w, ok, w' => ok = true ∧ w' = w ++ [.applyProfile profile]
    | (_, .powerdSetDgpuAwake awake), w, ok, w' => ok = true ∧ w' = w ++ [.setDgpuAwake awake]
    | _, w, _, w' => w' = w

/-- powerd has the desired profile, and the pin that the GPU mode wants. -/
def Pushed (c : Context) (mode : GpuMode) (w : Received) : Prop :=
  .applyProfile (desiredProfile c) ∈ w ∧ .setDgpuAwake (dgpuRuntimePmPinned mode) ∈ w

/-- What the arm does to the context. -/
def appeared (c : Context) : Context :=
  { c with
    onAcSettled := c.onAc
    power :=
      if c.power.powerdAvailable then c.power
      else { c.power with powerdAvailable := true, powerdWarned := false, powerApplied := none }
    gpu := if c.power.powerdAvailable then c.gpu else { c.gpu with dgpuPinned := none } }

/-- A request that is not to powerd leaves what it received. -/
theorem world_frame (c : Context) (e : Eff) (w : Received) (b : stamped Eff.Ans (c, e))
    (w' : Received) (he : e.resource ≠ .powerd) (h : world.answer (c, e) w b w') : w' = w := by
  cases e with
  | powerdApplyProfile _ | powerdSetDgpuAwake _ => exact absurd rfl he
  | _ => exact h

variable (fx : Effectors) (c : Context)

/-- The turn calls powerd for the profile where the check does, and never for the pin. -/
theorem handle_pushes {w : Received} :
    Wp world (fun _ _ _ => True)
      (fun _ c' w' => desiredProfile c' = checkedProfile (appeared c) ∧
        w' = if checkCalls fx (appeared c) then
          w ++ [.applyProfile (checkedProfile (appeared c))] else w)
      (fx.handle .powerdAppeared) c w := by
  have hstill : ∀ w w', ¬world.drift w w' := fun _ _ => id
  have hctx : (fun c : Context => { c with onAcSettled := c.onAc })
      (if c.power.powerdAvailable then c
        else { c with
          power := { c.power with
            powerdAvailable := true
            powerdWarned := false
            powerApplied := none }
          gpu := { c.gpu with dgpuPinned := none } }) = appeared c := by
    unfold appeared
    cases c.power.powerdAvailable <;> rfl
  simp only [Effectors.handle, Effectors.dispatch, Effectors.dispatchUpdate, bind_assoc]
  rw [wp_modify_bind, wp_modify_bind]
  -- The projected kind opens the gate of the power policy.
  show Wp _ _ _ ((fx.powerPolicyCheck >>= fun _ => fx.evaluateFsms .powerAcSettled) >>= fun _ =>
    fx.syncWaybar) ((fun c : Context => { c with onAcSettled := c.onAc }) _) w
  rw [hctx, bind_assoc]
  refine (powerPolicyCheck_asks fx (appeared c) hstill world_frame).bind ?_
  rintro _ _ w₁ ⟨hw, ⟨p, b, rfl⟩, hdes⟩
  refine (unasked _ hstill world_frame ((evaluateFsms_spec fx _ _ (by simp)).mono
    (fun _ _ h => h.1) fun _ _ => id) (by simp [entryResources])).bind ?_
  rintro _ _ w₂ ⟨⟨t, cw, rfl⟩, rfl⟩
  refine (unasked _ hstill world_frame (syncWaybar_spec fx _) (by simp)).mono (fun _ _ _ => id) ?_
  rintro _ _ w₃ ⟨⟨v, rfl⟩, rfl⟩
  refine ⟨hdes, ?_⟩
  split at hw
  · next hcalls =>
    obtain ⟨c₁, ok, -, hw⟩ := hw
    rw [if_pos hcalls, hw]
  · next hcalls =>
    rw [if_neg hcalls, hw]

/-- After the turn powerd has both exactly when it had the pin before, and had the profile or the
check calls for it. -/
theorem pushed_iff {w w' : Received} {mode : GpuMode} {tr : List DaemonObs} {c' : Context}
    (h : Execs world (fx.handle .powerdAppeared) c w tr () c' w') :
    Pushed c' mode w' ↔ .setDgpuAwake (dgpuRuntimePmPinned mode) ∈ w ∧
      (.applyProfile (checkedProfile (appeared c)) ∈ w ∨
        fx.shadow = false ∧ (c.power.powerdAvailable = false ∨
          c.power.powerApplied ≠ some (checkedProfile (appeared c)))) := by
  obtain ⟨hdes, hw⟩ := h.of_wp (handle_pushes fx c)
  have hcalls : checkCalls fx (appeared c) = true ↔
      fx.shadow = false ∧ (c.power.powerdAvailable = false ∨
        c.power.powerApplied ≠ some (checkedProfile (appeared c))) := by
    obtain ⟨o, s, hstep⟩ := (appeared c).power.overrideStep_eq (baseState (appeared c))
    unfold checkCalls PowerContext.calls
    rw [hstep]
    cases havail : c.power.powerdAvailable <;> simp [appeared, havail]
  unfold Pushed
  rw [hdes, hw, ← hcalls]
  cases checkCalls fx (appeared c) <;> simp
  tauto

/-- The world where the machine is quiet, and powerd answers. -/
def answered : (r : Context × Eff) → Received → stamped Eff.Ans r × Received
  | (_, .powerdApplyProfile profile), w => (true, w ++ [.applyProfile profile])
  | (_, .powerdSetDgpuAwake awake), w => (true, w ++ [.setDgpuAwake awake])
  | (_, e), w => (e.quiet, w)

/-- The answers of the run are powerd's. -/
theorem answered_answer (r : Context × Eff) (w : Received) (_ : True) :
    world.answer r w (answered r w).1 (answered r w).2 ∧ True := by
  refine ⟨?_, trivial⟩
  obtain ⟨c, e⟩ := r
  cases e <;> first | rfl | exact ⟨rfl, rfl⟩

/-- A daemon that could not reach powerd, and then pinned the GPU as soon as powerd was there. -/
theorem pushed_iff_pinned : ∃ tr c' w',
    Execs world ((⟨false, true⟩ : Effectors).handle .powerdAppeared)
      { power := { powerdAvailable := false } } [.setDgpuAwake false] tr () c' w' ∧
    Pushed c' .igpu w' := by
  have hexec := Process.execs_exec answered_answer
    ((⟨false, true⟩ : Effectors).handle .powerdAppeared)
    { power := { powerdAvailable := false } } (w := [.setDgpuAwake false]) trivial
  exact ⟨_, _, _, hexec, (pushed_iff ⟨false, true⟩ _ hexec).mpr
    ⟨by decide, .inr ⟨rfl, .inl rfl⟩⟩⟩

/-- powerd appears after the calls to it failed: it is not told the pin. -/
theorem not_pushed : ¬∀ (fx : Effectors) (c : Context) (w w' : Received) (mode : GpuMode)
    (tr : List DaemonObs) (c' : Context),
    Execs world (fx.handle .powerdAppeared) c w tr () c' w' → Pushed c' mode w' := by
  intro h
  have hexec := Process.execs_exec answered_answer
    ((⟨false, true⟩ : Effectors).handle .powerdAppeared)
    { power := { powerdAvailable := false } } (w := []) trivial
  obtain ⟨-, hpin⟩ := h _ _ _ _ .dgpu _ _ hexec
  exact absurd hpin (by decide +kernel)

end Received

end Hyprstate
