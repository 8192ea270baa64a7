import Hyprstate.Reactive.Server
import Hyprstate.Daemon.Run
import Hyprstate.Daemon.Transition

/-!
# Invariants of the grace timer

Few pieces of the dispatcher arm or cancel the grace timer. A `GraceInvariant` relates the handle
that the context holds to a world, and is kept by an arming, by a cancellation, and by every other
request. Then it is kept by every turn (`GraceInvariant.handle`), whatever else the turn does.
-/

namespace Hyprstate

open Reactive Process

/-- The duration of a grace timer that is armed in the context: a standing request keeps the fixed
one. -/
def graceOf (c : Context) : Nat := if c.suspendRequested then graceSeconds else c.lidGrace

section

variable {σ : Type} {W : World (Context × Eff) (stamped Eff.Ans) σ} {I : Option Handle → σ → Prop}

/-- The piece keeps the invariant, in any context and world. -/
def KeepsGrace {α : Type} (W : World (Context × Eff) (stamped Eff.Ans) σ)
    (I : Option Handle → σ → Prop) (x : Daemon α) : Prop :=
  ∀ c w, I c.graceTimer w → Wp W (fun _ _ _ => True) (fun _ c' w' => I c'.graceTimer w') x c w

/-- An invariant of the held grace timer and the world, kept by the world's own moves, by every
request that arms no grace timer, and by the two that move the handle. -/
structure GraceInvariant (W : World (Context × Eff) (stamped Eff.Ans) σ)
    (I : Option Handle → σ → Prop) : Prop where
  drift : ∀ t w w', W.drift w w' → I t w → I t w'
  answer : ∀ t c e w b w', e.resource ≠ Resource.graceTimer → W.answer (c, e) w b w' →
    I t w → I t w'
  /-- Where no timer runs, the context may hold any handle. -/
  unheld : ∀ t w, I none w → I t w
  cancel : ∀ c t w b w', W.answer (c, .abort t) w b w' → I (some t) w → I none w'
  arm : ∀ (c : Context) w (t : Handle) w',
    W.answer (c, .spawnTimer (graceOf c) .timerExpired) w t w' → I none w → I (some t) w'

variable (hI : GraceInvariant W I) (fx : Effectors)
include hI

namespace GraceInvariant

/-- A piece that arms no grace timer keeps the invariant of the handle it found. -/
theorem frame {α : Type} {x : Daemon α} {c : Context} {w : σ} {rs : List Resource}
    {Q : α → Context → Prop} {t : Option Handle} (hx : Meets x c (fun _ e => e.resource ∈ rs) Q)
    (hrs : Resource.graceTimer ∉ rs) (hw : I t w) :
    Wp W (fun _ _ _ => True) (fun a c' w' => Q a c' ∧ I t w') x c w := by
  refine (wp_of_meets (J := I t) hx hw (hI.drift t) ?_).mono (fun _ _ _ _ => trivial)
    fun _ _ _ => id
  intro c' e w₁ b w₂ he
  exact hI.answer t c' e w₁ b w₂ fun hres => hrs (hres ▸ he)

/-- The drift keeps the invariant. -/
theorem drifts {t : Option Handle} {w w' : σ} (hdrift : W.Drifts w w') (hw : I t w) : I t w' :=
  hdrift.keeps (hI.drift t) hw

/-- To cancel the timer keeps it. -/
theorem cancelGraceTimer (c : Context) (w : σ) (hw : I c.graceTimer w) :
    Wp W (fun _ _ _ => True) (fun _ c' w' => c' = { c with graceTimer := none } ∧ I none w')
      Effectors.cancelGraceTimer c w := by
  rw [Effectors.cancelGraceTimer, cancelTask, wp_get_bind]
  cases ht : c.graceTimer with
  -- No timer is held: the context is the same.
  | none =>
    rw [ht] at hw
    rw [wp_pure]
    intro w' hdrift
    refine ⟨?_, hI.drifts hdrift hw⟩
    cases c
    cases ht
    rfl
  | some t =>
    rw [ht] at hw
    rw [wp_set_bind]
    refine (wp_ask (e := Eff.abort t)).mpr fun w₁ h₁ => ⟨trivial, fun b w₂ hans w₃ h₃ => ⟨rfl, ?_⟩⟩
    exact hI.drifts h₃ (hI.cancel _ t w₁ b w₂ hans (hI.drifts h₁ hw))

/-- So does to start one. -/
theorem startGraceTimer (c : Context) (w : σ) (fresh : Bool) (hw : I c.graceTimer w) :
    Wp W (fun _ _ _ => True) (fun _ c' w' => (∃ t, c' = { c with graceTimer := t }) ∧
      I c'.graceTimer w')
      (Effectors.startGraceTimer fresh) c w := by
  have hlive : Meets (if fresh then pure false else taskLive Context.graceTimer : Daemon Bool) c
      (only [.query]) fun _ c' => c' = c := by
    rw [meets_ite]
    exact ⟨fun _ => rfl, fun _ => taskLive_spec c _⟩
  rw [Effectors.startGraceTimer]
  refine (hI.frame hlive (by simp) hw).bind ?_
  rintro live _ w₁ ⟨rfl, hw₁⟩
  -- A timer that still runs is kept, unless the entry is a fresh one.
  rw [wp_when]
  refine ⟨fun _ => ?_, fun _ w₂ hdrift => ⟨⟨_, rfl⟩, hI.drifts hdrift hw₁⟩⟩
  refine (hI.cancelGraceTimer _ w₁ (by exact hw₁)).bind ?_
  rintro _ _ w₂ ⟨rfl, hw₂⟩
  rw [wp_get_bind]
  refine (wp_ask_bind (e := Eff.spawnTimer _ _)).mpr fun w₃ h₃ =>
    ⟨trivial, fun t w₄ hans w₅ h₅ => ?_⟩
  exact ⟨⟨_, rfl⟩, hI.drifts h₅ (hI.arm _ w₃ t w₄ hans (hI.drifts h₃ hw₂))⟩

/-- So does the entry of a state. -/
theorem onEnter (c : Context) (w : σ) (state : State) (fresh : Bool) (hw : I c.graceTimer w) :
    Wp W (fun _ _ _ => True) (fun _ c' w' => onlyTimers c c' ∧ I c'.graceTimer w')
      (fx.onEnter state fresh) c w := by
  have hpanel : ∀ c' on, Meets (fx.setEdp on) c' (fun _ e => e.resource ∈ [Resource.panel])
      fun _ c'' => c'' = c' := fun c' on =>
    (setEdp_within fx c' on).mono (fun _ _ h => h.1) fun _ _ => id
  have hpause : ∀ c', Meets (when (claimGoverns c'.world) fx.pauseMedia) c' (only [.command])
      fun _ c'' => c'' = c' := by
    intro c'
    simp [Effectors.pauseMedia, Effectors.sendCmd, only]
  refine (hI.frame (enterClaimWatch_spec c state) (by simp) hw).bind ?_
  rintro _ _ w₁ ⟨⟨cw, rfl⟩, hw₁⟩
  -- Only the countdown arms the timer; every other state cancels it first.
  cases state with
  | lidOpen | docked =>
    refine (hI.cancelGraceTimer _ w₁ (by exact hw₁)).bind ?_
    rintro _ _ w₂ ⟨rfl, hw₂⟩
    refine (hI.frame (hpanel _ _) (by simp) hw₂).bind ?_
    rintro _ _ w₃ ⟨rfl, hw₃⟩
    exact fun w₄ hdrift => ⟨⟨_, _, rfl⟩, hI.drifts hdrift hw₃⟩
  | deferred =>
    refine (hI.cancelGraceTimer _ w₁ (by exact hw₁)).bind ?_
    rintro _ _ w₂ ⟨rfl, hw₂⟩
    refine (hI.frame (hpanel _ _) (by simp) hw₂).bind ?_
    rintro _ _ w₃ ⟨rfl, hw₃⟩
    rw [wp_get_bind]
    refine (hI.frame (hpause _) (by simp) hw₃).bind ?_
    rintro _ _ w₄ ⟨rfl, hw₄⟩
    exact fun w₅ hdrift => ⟨⟨_, _, rfl⟩, hI.drifts hdrift hw₄⟩
  | countdown =>
    refine (hI.frame (hpanel _ _) (by simp) hw₁).bind ?_
    rintro _ _ w₂ ⟨rfl, hw₂⟩
    refine (hI.startGraceTimer _ w₂ fresh (by exact hw₂)).bind ?_
    rintro _ _ w₃ ⟨⟨t, rfl⟩, hw₃⟩
    exact fun w₄ hdrift => ⟨⟨_, _, rfl⟩, hI.drifts hdrift hw₃⟩
  | suspending =>
    refine (hI.cancelGraceTimer _ w₁ (by exact hw₁)).bind ?_
    rintro _ _ w₂ ⟨rfl, hw₂⟩
    refine (hI.frame (suspendingTail_spec fx _) (by simp) hw₂).mono (fun _ _ _ => id) ?_
    rintro _ _ w₃ ⟨rfl, hw₃⟩
    exact ⟨⟨_, _, rfl⟩, hw₃⟩

/-- So does an evaluation. -/
theorem evaluateFsms (kind : EventKind) : KeepsGrace W I (fx.evaluateFsms kind) := by
  intro c w hw
  have hstay : KeepsGrace W I (pure () : Daemon Unit) := fun c' w' hw' w'' hdrift =>
    hI.drifts hdrift hw'
  rw [Effectors.evaluateFsms, wp_get_bind]
  cases desiredState c.state kind c.world with
  | none => exact hstay c w hw
  | some new =>
    dsimp only
    rw [wp_when, wp_ite]
    refine ⟨fun _ => ⟨fun _ => ?_, fun _ => ?_⟩, fun _ => hstay c w hw⟩
    -- Where the suspend fails, the machine stays in the countdown and arms the timer again.
    · refine (hI.onEnter fx c w new true hw).bind ?_
      rintro entered c' w' ⟨-, hw'⟩
      rw [wp_ite]
      refine ⟨fun _ => fun w'' hdrift => hI.drifts hdrift hw', fun _ => ?_⟩
      exact (hI.startGraceTimer c' w' true hw').mono (fun _ _ _ => id) fun _ _ _ h => h.2
    · rw [wp_modify_bind]
      refine (hI.onEnter fx _ w new true (by exact hw)).bind ?_
      rintro _ c' w' ⟨-, hw'⟩
      exact hstay c' w' hw'

/-- So does the common tail. -/
theorem dispatchTail (ev : Event) : KeepsGrace W I (fx.dispatchTail ev) := by
  intro c w hw
  rw [dispatchTail_eq]
  refine (hI.frame (tailChecks_spec fx c ev) (by simp [checkResources]) hw).bind ?_
  rintro _ _ w₁ ⟨⟨g, p, b, rfl⟩, hw₁⟩
  exact hI.evaluateFsms fx _ _ w₁ (by exact hw₁)

/-- So does a re-assert. -/
theorem reassert (trigger : ReconcileTrigger) : KeepsGrace W I (fx.reassert trigger) := by
  intro c w hw
  have hrequest : KeepsGrace W I (Effectors.requestReconcile trigger) := by
    intro c' w' hw'
    refine (hI.frame (requestReconcile_spec c' trigger) (by simp) hw').mono (fun _ _ _ => id) ?_
    rintro _ _ w'' ⟨rfl, hw''⟩
    exact hw''
  rw [Effectors.reassert, wp_get_bind, wp_bind, wp_when]
  refine ⟨fun _ => ?_, fun _ w' hdrift => hrequest c w' (hI.drifts hdrift hw)⟩
  refine (hI.frame (ingestActiveProfile_spec c) (by simp) hw).bind ?_
  rintro _ _ w₁ ⟨⟨pn, pr, pe, rfl⟩, hw₁⟩
  rw [wp_get_bind]
  refine (hI.onEnter fx _ w₁ _ false (by exact hw₁)).bind ?_
  rintro _ c₂ w₂ ⟨-, hw₂⟩
  exact fun w₃ hdrift => hrequest c₂ w₃ (hI.drifts hdrift hw₂)

/-- So does what the repairs drive. -/
theorem driveRepairs (fsm power : Bool) : KeepsGrace W I (fx.driveRepairs fsm power) := by
  intro c w hw
  have hfsm : KeepsGrace W I (when fsm (fx.evaluateFsms .ctxRepaired)) := by
    intro c' w' hw'
    rw [wp_when]
    exact ⟨fun _ => hI.evaluateFsms fx _ c' w' hw', fun _ w'' hdrift => hI.drifts hdrift hw'⟩
  rw [Effectors.driveRepairs, wp_bind, wp_when]
  refine ⟨fun _ => ?_, fun _ w' hdrift => hfsm _ w' (hI.drifts hdrift (by exact hw))⟩
  rw [wp_modify_bind]
  refine (hI.frame (powerPolicyCheck_spec fx _) (by simp) hw).bind ?_
  rintro _ _ w₂ ⟨⟨p, b, rfl⟩, hw₂⟩
  refine (hI.frame (batteryLowRequestCheck_spec fx _) (by simp) hw₂).bind ?_
  rintro _ _ w₃ ⟨⟨r, rfl, -⟩, hw₃⟩
  exact fun w' hdrift => hfsm _ w' (hI.drifts hdrift (by exact hw₃))

/-- So does the arm of the tick. -/
theorem handleReconcileTick (snap : ReconcileSnapshot) :
    KeepsGrace W I (fx.handleReconcileTick snap) := by
  intro c w hw
  refine (hI.frame (repairContext_spec c snap) (by simp) hw).bind ?_
  rintro drift _ w₁ ⟨⟨req, t, rfl, -⟩, hw₁⟩
  refine (hI.driveRepairs fx _ _ _ w₁ (by exact hw₁)).bind ?_
  rintro _ c₂ w₂ hw₂
  rw [wp_get_bind, wp_when]
  refine ⟨fun _ => ?_, fun _ w' hdrift => hI.drifts hdrift hw₂⟩
  refine (hI.frame (ingestActiveProfile_spec c₂) (by simp) hw₂).bind ?_
  rintro _ _ w₃ ⟨⟨pn, pr, pe, rfl⟩, hw₃⟩
  refine (hI.frame ((enforceEdp_spec fx _ snap).mono (fun _ _ h => h.1) fun _ _ => id) (by simp)
    hw₃).bind ?_
  rintro _ _ w₄ ⟨rfl, hw₄⟩
  refine (hI.frame (dpmsBackstop_spec fx _ snap) (by simp) hw₄).mono (fun _ _ _ => id) ?_
  rintro _ _ w₅ ⟨rfl, hw₅⟩
  exact hw₅

/-- So does every other arm. -/
theorem dispatchUpdate (ev : Event) : KeepsGrace W I (fx.dispatchUpdate ev) := by
  intro c w hw
  have hquiet : armResources ev = checkResources →
      (∀ c', ArmKeepsTimer c c' ev → c'.graceTimer = c.graceTimer) →
      Wp W (fun _ _ _ => True) (fun _ c' w' => I c'.graceTimer w') (fx.dispatchUpdate ev) c w := by
    intro hres hkeep
    obtain ⟨n, hn⟩ := exists_armCount c ev
    refine (hI.frame ((dispatchUpdate_spec fx c ev hn).mono (fun _ _ h => h.1) fun _ _ => id)
      (by simp [hres, checkResources]) hw).mono (fun _ _ _ => id) ?_
    rintro falls c' w' ⟨⟨-, ht⟩, hw'⟩
    rwa [hkeep c' ht]
  have hpure : KeepsGrace W I (pure false : Daemon Bool) := fun c' w' hw' w'' hdrift =>
    hI.drifts hdrift hw'
  cases ev with
  | reconcileTick snap => exact (hI.handleReconcileTick fx snap c w hw).bind fun _ => hpure
  | configReloaded | profileApplied => exact (hI.reassert fx _ c w hw).bind fun _ => hpure
  | _ => exact hquiet rfl fun _ => id

/-- Every turn keeps the invariant. -/
theorem handle (ev : Event) : KeepsGrace W I (fx.handle ev) := by
  intro c w hw
  simp only [Effectors.handle, Effectors.dispatch, bind_assoc]
  refine (hI.dispatchUpdate fx ev c w hw).bind ?_
  intro falls c₁ w₁ hw₁
  have htail : Wp W (fun _ _ _ => True) (fun _ c' w' => I c'.graceTimer w')
      (when falls (fx.dispatchTail ev)) c₁ w₁ := by
    rw [wp_when]
    exact ⟨fun _ => hI.dispatchTail fx ev c₁ w₁ hw₁, fun _ w' hdrift => hI.drifts hdrift hw₁⟩
  refine htail.bind ?_
  intro _ c₂ w₂ hw₂
  refine (hI.frame (syncWaybar_spec fx c₂) (by simp) hw₂).mono (fun _ _ _ => id) ?_
  rintro _ _ w₃ ⟨⟨v, rfl⟩, hw₃⟩
  exact hw₃

/-- The start keeps what holds before any timer is armed. -/
theorem boot {w : σ} (hw : I none w) :
    Wp W (fun _ _ _ => True) (fun _ c' w' => I c'.graceTimer w') fx.boot {} w := by
  refine (hI.frame (setup_spec fx {}) (by simp) hw).bind ?_
  rintro ok c w₁ ⟨-, hw₁⟩
  have hheld : I c.graceTimer w₁ := hI.unheld _ _ hw₁
  rw [wp_when]
  refine ⟨fun _ => ?_, fun _ w₂ hdrift => hI.drifts hdrift hheld⟩
  rw [Effectors.startup, wp_modify_bind, wp_get_bind]
  refine (hI.onEnter fx _ w₁ _ true (by exact hheld)).bind ?_
  rintro _ c₂ w₂ ⟨-, hw₂⟩
  refine (hI.frame (currentMatch_spec c₂) (by simp) hw₂).bind ?_
  rintro chosen _ w₃ ⟨rfl, hw₃⟩
  refine (hI.frame (resolveSessionGpuMode_spec _ _) (by simp) hw₃).bind ?_
  rintro mode _ w₄ ⟨rfl, hw₄⟩
  refine (hI.frame (syncDgpuPin_spec fx _ _) (by simp) hw₄).bind ?_
  rintro _ _ w₅ ⟨⟨g, p, rfl⟩, hw₅⟩
  refine (hI.frame (syncWaybar_spec fx _) (by simp) hw₅).bind ?_
  rintro _ _ w₆ ⟨⟨v, rfl⟩, hw₆⟩
  refine (hI.frame (kbdPolicyCheck_spec fx _ _) (by simp) hw₆).bind ?_
  rintro _ _ w₇ ⟨⟨k, rfl⟩, hw₇⟩
  refine (hI.frame (requestReconcile_spec _ _) (by simp) hw₇).mono (fun _ _ _ => id) ?_
  rintro _ _ w₈ ⟨rfl, hw₈⟩
  exact hw₈

end GraceInvariant

end

end Hyprstate
