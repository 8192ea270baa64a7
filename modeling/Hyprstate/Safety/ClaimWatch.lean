import Hyprstate.Reconcile.Answers
import Hyprstate.Safety.Waiting

/-!
# The watch over a waiting claim

The watch over a Wayland claim is started on the entry into `deferred`. What holds `deferred` may
change while the state does not: a claim that the dispatcher learns of in a `deferred` that
something else holds already finds no entry. `Learns` names those events by the code's own
predicates, and `watch_pending` says that they are all that leaves a waiting claim unwatched.
-/

namespace Hyprstate

open Reactive Process

namespace Tasks

variable (fx : Effectors) {c c' : Context} {w w' : Tasks}

/-! ## Learning of a claim -/

/-- The event tells of a Wayland claim, by itself or by the sample of its dispatch, and over the
inputs that it leaves the machine rests in `deferred`. For a tick these are the inputs that its own
answers leave. -/
def Learns (c : Context) (tr : List DaemonObs) (sampled : Bool) : Event → Prop
  | .inhibitor true true => worldState { c with waylandInhibitor := true }.world = .deferred
  | .lid closed =>
    sampled = true ∧
      worldState { c with lidClosed := closed, waylandInhibitor := true }.world = .deferred
  | .suspendRequestChanged word => sampled = true ∧
    worldState { c with suspendRequested := word.isSome, waylandInhibitor := true }.world =
      .deferred
  | .reconcileTick snap => snap.waylandInhibitor = some true ∧
    ∃ a : TickReads, a.Of tr ∧ worldState (repairedInputs fx a snap c).world = .deferred
  | _ => False

/-- The dispatcher learns of a claim in a `deferred` that stands without one only while a watch of
an earlier claim is not over. -/
def Told (c : Context) (w : Tasks) (ev : Event) (tr : List DaemonObs) (sampled : Bool) : Prop :=
  c.state = .deferred → c.waylandInhibitor = false → Learns fx c tr sampled ev → Pending .watch c w

/-- The events that may move the Wayland axis. -/
def movesClaim : Event → Bool
  | .lid _ | .inhibitor true _ | .suspendRequestChanged _ | .reconcileTick _ => true
  | _ => false

/-- The other events leave it as it was. -/
theorem claim_of_dispatched {ev : Event} (h : Dispatched c ev c') (hev : movesClaim ev = false) :
    c'.waylandInhibitor = c.waylandInhibitor := by
  obtain ⟨falls, c₁, harm, hin, -⟩ := h
  -- The tail leaves the inputs, so the claim after the turn is that after the arm.
  refine (congrArg Inputs.waylandInhibitor hin).trans ?_
  have hof : ∀ {i : Inputs}, c₁.inputs = i → i.waylandInhibitor = c.waylandInhibitor →
      c₁.waylandInhibitor = c.waylandInhibitor := fun h hi =>
    (congrArg Inputs.waylandInhibitor h).trans hi
  cases ev with
  | lid _ | suspendRequestChanged _ | reconcileTick _ => exact absurd hev (by simp [movesClaim])
  | inhibitor wayland _ =>
    cases wayland with
    | true => exact absurd hev (by simp [movesClaim])
    | false => exact hof harm.2.2 rfl
  | acChanged onAc =>
    obtain ⟨-, -, hif⟩ := harm
    split at hif
    · exact hof hif rfl
    · obtain ⟨r, h⟩ := hif
      exact hof h rfl
  | powerAcSettled | monitorHotplug _ _ | timerExpired =>
    obtain ⟨-, -, r, h⟩ := harm
    exact hof h rfl
  | batteryPercent _ =>
    obtain ⟨-, r, h, -⟩ := harm
    exact hof h rfl
  | lockChanged _ | powerdAppeared | resumed => exact hof harm.2.2 rfl
  | _ => exact hof harm.2.1 rfl

/-- Where the machine stays in `deferred` over an event that falls through, its world rests
there. -/
theorem rests_of_dispatched {ev : Event} {c₁ : Context} (hk : ev.kind ≠ .timerExpired)
    (hr : ev.kind ≠ .resumed)
    (hst : c'.state = settled ev.kind c₁ ∨ ev = .timerExpired ∧ settled ev.kind c₁ = .suspending ∧
      c'.state = c₁.state)
    (hdef : c₁.state = .deferred) (hs : c'.state = .deferred) :
    worldState c₁.world = .deferred := by
  rcases hst with hst | ⟨rfl, -⟩
  · rw [settled_eq _ hk hr, if_neg (by simp [hdef])] at hst
    exact hst.symm.trans hs
  · exact absurd rfl hk

/-- An event over which a `deferred` without a claim comes to hold one tells of it. -/
theorem learns_of_turned {ev : Event} {tr : List DaemonObs} (hdisp : Dispatched c ev c')
    (hturn : Turned ev c w c' w') (hruns : Process.Runs (fx.handle ev) c tr () c')
    (hdef : c.state = .deferred) (hnone : c.waylandInhibitor = false) (hs : c'.state = .deferred)
    (hc : c'.waylandInhibitor = true) : Learns fx c tr w'.sampled ev := by
  -- an event that does not move the Wayland axis leaves it without a claim
  by_cases hev : movesClaim ev = false
  · have hsame := claim_of_dispatched hdisp hev
    exact absurd (hsame.symm.trans hc) (by simp [hnone])
  -- So the claim came with the event or was sampled during its dispatch.
  have hclaim : w'.sampled = true ∨ announces ev :=
    (hturn.claim hc).resolve_left (by simp [hnone])
  cases ev with
  | reconcileTick snap =>
    obtain ⟨a, ha⟩ := TickReads.exists_of fx hruns
    obtain ⟨hin, hst⟩ := turn_tick_spec fx hruns ha
    have hway : (repairedInputs fx a snap c).waylandInhibitor = true :=
      (congrArg Inputs.waylandInhibitor hin).symm.trans hc
    rw [(repairedInputs_fields fx a snap c).2.1, hnone] at hway
    have hseen : snap.waylandInhibitor = some true := by
      generalize snap.waylandInhibitor = seen at hway
      cases seen with
      | none => exact absurd hway (by simp)
      | some b => exact congrArg some hway
    refine ⟨hseen, a, ha, ?_⟩
    -- The claim is itself a drift, and so the machine was evaluated.
    have hdrift : Effectors.fsmDrift snap c a.standing = true := by
      simp [Effectors.fsmDrift, hseen, hnone]
    have hstate : (repairedInputs fx a snap c).state = .deferred := by
      refine Eq.trans ?_ hdef
      rw [repairedInputs]
      split <;> rfl
    rw [tickState, if_pos hdrift, settled_eq _ (by simp) (by simp),
      if_neg (by simp [hstate])] at hst
    exact hst.symm.trans hs
  -- The watch's own word: the evaluation that follows stays in the state, so it tells.
  | inhibitor wayland active =>
    cases wayland with
    | false => exact absurd rfl hev
    | true =>
      obtain ⟨falls, c₁, ⟨hst₁, rfl, hin₁⟩, hin, hst⟩ := hdisp
      obtain rfl : active = true := by
        have hway : c₁.waylandInhibitor = active := congrArg Inputs.waylandInhibitor hin₁
        calc active = c₁.waylandInhibitor := hway.symm
          _ = c'.waylandInhibitor := (congrArg Inputs.waylandInhibitor hin).symm
          _ = true := hc
      have hrest := rests_of_dispatched (by simp [Event.kind]) (by simp [Event.kind]) hst
        (hst₁.trans hdef) hs
      rwa [world_eq_of_inputs_eq (c := { c with waylandInhibitor := true }) hin₁] at hrest
  | lid closed =>
    have hsampled : w'.sampled = true := hclaim.resolve_right fun h => by simp [announces] at h
    obtain ⟨falls, c₁, ⟨hst₁, rfl, hin₁⟩, hin, hst⟩ := hdisp
    have hway : c₁.waylandInhibitor = true := (congrArg Inputs.waylandInhibitor hin).symm.trans hc
    by_cases hp : c.lidPresent = true
    · rw [if_pos hp] at hin₁ hst
      obtain ⟨b, hin₁⟩ := hin₁
      obtain rfl : b = true := (congrArg Inputs.waylandInhibitor hin₁).symm.trans hway
      have hrest := rests_of_dispatched (by cases closed <;> simp [Event.kind])
        (by cases closed <;> simp [Event.kind]) hst (hst₁.trans hdef) hs
      rw [world_eq_of_inputs_eq
        (c := { c with lidClosed := closed, waylandInhibitor := true }) hin₁]
        at hrest
      exact ⟨hsampled, hrest⟩
    · rw [if_neg hp] at hin₁
      exact absurd ((congrArg Inputs.waylandInhibitor hin₁).symm.trans hway)
        (by simp [Context.inputs, hnone])
  | suspendRequestChanged word =>
    have hsampled : w'.sampled = true := hclaim.resolve_right fun h => by simp [announces] at h
    obtain ⟨falls, c₁, ⟨hst₁, rfl, b, hin₁⟩, hin, hst⟩ := hdisp
    have hway : c₁.waylandInhibitor = true := (congrArg Inputs.waylandInhibitor hin).symm.trans hc
    obtain rfl : b = true := (congrArg Inputs.waylandInhibitor hin₁).symm.trans hway
    have hrest := rests_of_dispatched (by cases word <;> simp [Event.kind])
      (by cases word <;> simp [Event.kind]) hst (hst₁.trans hdef) hs
    rw [world_eq_of_inputs_eq
      (c := { c with suspendRequested := word.isSome, waylandInhibitor := true }) hin₁] at hrest
    exact ⟨hsampled, hrest⟩
  | _ => exact absurd rfl hev

/-! ## Runs -/

/-- In every run in which the dispatcher learns of no claim in an unwatched `deferred`, a claim that
`deferred` waits for is watched, or its release is queued. -/
theorem watch_pending (h : Run fx (Told fx) c w) (hs : c.state = .deferred)
    (hc : c.waylandInhibitor = true) : Pending .watch c w := by
  induction h with
  | start hsetup hstart =>
    obtain ⟨hun, hw⟩ := hsetup.of_wp (setup_does fx)
    exact (hstart.of_wp (startup_does fx hun hw)).2 hs hc
  | @turn c c' w w₁ w' ev tr hrun hdrift hhead hturn htold ih =>
    have hwaits := hrun.waits.drifts hdrift
    obtain ⟨hturned, hdisp⟩ :=
      hturn.of_wp ((handle_does fx ev (hwaits.taken hhead)).and_meets (handle_spec fx c ev))
    -- The release takes the claim with it.
    have hev : ev ≠ Slot.watch.sends := by
      rintro rfl
      obtain ⟨falls, c₁, ⟨-, -, hin₁⟩, hin, -⟩ := hdisp
      have hway : c'.waylandInhibitor = false :=
        (congrArg Inputs.waylandInhibitor hin).trans (congrArg Inputs.waylandInhibitor hin₁)
      exact absurd (hway.symm.trans hc) (by simp)
    refine hturned.watch hs hc fun hdef => ?_
    have hpend : Pending .watch c w₁ := by
      by_cases hclaim : c.waylandInhibitor = true
      · exact (hrun.waits.owned.drifts hdrift).pending .watch (by simp) (ih hdef hclaim)
      · rw [Bool.not_eq_true] at hclaim
        exact htold hdef hclaim (learns_of_turned fx hdisp hturned hturn.runs hdef hclaim hs hc)
    exact hpend.taken hhead hev

/-! ## A shut laptop on its charger -/

/-- A laptop that is shut on its charger stays awake. -/
def onCharger : PowerConf := { lidAc := .defer }

/-- The pass finds the lid shut, and a claim or none. -/
def pass (claim : Bool) : Event :=
  .reconcileTick { lidClosed := true, waylandInhibitor := some claim }

/-- The daemon has started over a video, and two passes are queued: the video was over, and plays
again. -/
def replaying : Context × Tasks :=
  ((booted onCharger (some [⟨some true⟩])).1,
    ((booted onCharger (some [⟨some true⟩])).2.send (pass false)).send (pass true))

/-- The turns of the startup's events, and two ticks: one without a claim and one with it. -/
def replayed : Context × Tasks :=
  turn onCharger none (pass true) (turn onCharger none (pass false)
    (turn onCharger none (.powerOverrideChanged none)
      (turn onCharger none .monitorsChanged replaying)))

/-- The claim is learned of while the watch over the earlier one still runs. -/
theorem watch_pending_replayed : ∃ c w, Run ⟨false, true⟩ (Told ⟨false, true⟩) c w ∧
    (c.state = .deferred ∧ c.waylandInhibitor = true) ∧ Pending .watch c w := by
  have hmonitors := run_turn onCharger none .monitorsChanged replaying
    (run_booted (Told ⟨false, true⟩) onCharger (some [⟨some true⟩]) (by decide +kernel))
    (.tail (.single (.send (pass false))) (.send (pass true))) (by decide +kernel)
      fun _ _ h => h.elim
  have hoverride := run_turn onCharger none (.powerOverrideChanged none) _ hmonitors .refl
    (by decide +kernel)
    fun _ _ h => h.elim
  have hpass := run_turn onCharger none (pass false) _ hoverride .refl (by decide +kernel)
    fun _ hnone _ => absurd hnone (by decide +kernel)
  have hrun : Run ⟨false, true⟩ (Told ⟨false, true⟩) replayed.1 replayed.2 :=
    run_turn onCharger none (pass true) _ hpass .refl (by decide +kernel)
      fun _ _ _ => .inl ⟨0, by decide +kernel, by decide +kernel⟩
  have hstate : replayed.1.state = .deferred := by decide +kernel
  have hclaim : replayed.1.waylandInhibitor = true := by decide +kernel
  exact ⟨_, _, hrun, ⟨hstate, hclaim⟩, watch_pending ⟨false, true⟩ hrun hstate hclaim⟩

/-- The daemon has started on the charger alone, and a pass finds a video. -/
def starting : Context × Tasks :=
  ((booted onCharger none).1, (booted onCharger none).2.send (pass true))

/-- The turns of the startup's events, and a tick with a claim. -/
def started : Context × Tasks :=
  turn onCharger none (pass true)
    (turn onCharger none (.powerOverrideChanged none)
      (turn onCharger none .monitorsChanged starting))

/-- A pass that finds a claim in a `deferred` of the charger's starts no watch. -/
theorem not_watched :
    ¬∀ (fx : Effectors) (c : Context) (w : Tasks), Run fx (fun _ _ _ _ _ => True) c w →
    c.state = .deferred → c.waylandInhibitor = true → Pending .watch c w := by
  intro h
  have hmonitors := run_turn onCharger none .monitorsChanged starting
    (run_booted (fun _ _ _ _ _ => True) onCharger none (by decide +kernel))
      (.single (.send (pass true)))
    (by decide +kernel) trivial
  have hoverride := run_turn onCharger none (.powerOverrideChanged none) _ hmonitors .refl
    (by decide +kernel)
    trivial
  have hrun : Run ⟨false, true⟩ (fun _ _ _ _ _ => True) started.1 started.2 :=
    run_turn onCharger none (pass true) _ hoverride .refl (by decide +kernel) trivial
  have hidle : started.2.running = [] ∧ started.2.queue = [] := by decide +kernel
  rcases h _ _ _ hrun (by decide +kernel) (by decide +kernel) with ⟨t, -, hmem⟩ | hmem
  · rw [hidle.1] at hmem
    exact absurd hmem List.not_mem_nil
  · rw [hidle.2] at hmem
    exact absurd hmem List.not_mem_nil

end Tasks

end Hyprstate
