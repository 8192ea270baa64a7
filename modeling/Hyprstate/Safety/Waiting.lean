import Hyprstate.Daemon.Avoidance
import Hyprstate.Safety.Tasks

/-!
# No wait for a timer that is not there

Between turns the countdown waits for its grace timer, and an AC axis that has not settled for the
settle timer. `Armed` says what the arm of an event leaves of the tasks, and `Turned` what a whole
turn does. Over any run, whatever fires at whatever moment, what the machine waits for is pending
(`timers_pending`).
-/

namespace Hyprstate

open Reactive Process

namespace Tasks

variable (fx : Effectors) {c c' c₁ : Context} {w w' w₁ : Tasks}

/-- What holds of the dispatcher and its tasks between turns. -/
structure Waits (c : Context) (w : Tasks) : Prop where
  owned : Owned c w
  grace : c.state = .countdown → Pending .grace c w
  settle : c.onAc ≠ c.onAcSettled → Pending .settle c w
  unwatched : c.state ≠ .deferred → c.claimWatch = none

/-- The event that was taken is pending no more. -/
structure Taken (ev : Event) (c : Context) (w : Tasks) : Prop where
  owned : Owned c w
  grace : c.state = .countdown → ev ≠ .timerExpired → Pending .grace c w
  settle : c.onAc ≠ c.onAcSettled → ev ≠ .powerAcSettled → Pending .settle c w
  unwatched : c.state ≠ .deferred → c.claimWatch = none

/-- What is pending stays so when another event is taken. -/
theorem Pending.taken {s : Slot} {ev : Event} (h : Pending s c w) (hhead : w.queue.head? = some ev)
    (hev : ev ≠ s.sends) : Pending s c w.taken := by
  refine h.imp id fun hmem => ?_
  obtain ⟨rest, hqueue⟩ := List.head?_eq_some_iff.mp hhead
  rw [hqueue] at hmem
  rw [Tasks.taken, hqueue]
  exact (List.mem_cons.mp hmem).resolve_left fun heq => hev heq.symm

/-- What is taken off the queue is no task. -/
theorem Owned.taken (h : Owned c w) : Owned c w.taken := ⟨h.running, h.held⟩

/-- Only the event that is taken need not be awaited any more. -/
theorem Waits.taken {ev : Event} (h : Waits c w) (hhead : w.queue.head? = some ev) :
    Taken ev c w.taken :=
  ⟨h.owned.taken, fun hs hev => (h.grace hs).taken hhead hev,
    fun hs hev => (h.settle hs).taken hhead hev, h.unwatched⟩

/-- The tasks keep what waits. -/
theorem Waits.drifts (h : Waits c w) (hdrift : world.Drifts w w') : Waits c w' := by
  have hkeeps := h.owned.drifts hdrift
  exact ⟨hkeeps.owned, fun hs => hkeeps.pending .grace (by simp) (h.grace hs),
    fun hs => hkeeps.pending .settle (by simp) (h.settle hs), h.unwatched⟩

/-- The event tells the dispatcher of a Wayland claim. -/
def announces (ev : Event) : Prop :=
  ev = .inhibitor true true ∨ ∃ snap, ev = .reconcileTick snap ∧ snap.waylandInhibitor = some true

/-- What an arm that enters no state leaves of the tasks. -/
structure Armed (ev : Event) (c : Context) (w : Tasks) (c₁ : Context) (w₁ : Tasks) : Prop where
  keeps : Keeps [.grace, .watch] c w c₁ w₁
  stays : c₁.state = c.state
  claimWatch : c₁.claimWatch = c.claimWatch
  settle : c₁.onAc ≠ c₁.onAcSettled →
    (c.onAc ≠ c.onAcSettled → ev ≠ .powerAcSettled → Pending .settle c w) → Pending .settle c₁ w₁
  claim : c₁.waylandInhibitor = true →
    c.waylandInhibitor = true ∨ w₁.sampled = true ∨ announces ev

/-- The events whose arms leave the tasks and the view alone. -/
def untasked : Event → Bool
  | .configReloaded | .profileApplied | .reconcileTick _ => false
  | .lid _ | .suspendRequestChanged _ | .inhibitor _ _ => false
  | .monitorHotplug _ _ | .profilesChanged => false
  | .acChanged _ | .powerAcSettled | .powerdAppeared => false
  | _ => true

/-- The arm of the monitors makes no request of the tasks. -/
theorem untasked_handleMonitorsChanged : Untasked fx.handleMonitorsChanged := by
  refine handleMonitorsChanged_leaves fx untasked_currentMatch (fun _ => rfl) (fun p => ?_)
    (fun pref => ?_)
    (untasked_gpuCheck fx _) (untasked_powerPolicyCheck fx) (untasked_sendCmd fx _)
  · refine untasked_of_only (fun c => applyProfile_spec fx c p) (by decide) ?_
    rintro c _ _ ⟨n, r, e, rfl⟩
    rfl
  · refine untasked_of_only (fun c => writeGpuBreadcrumb_spec fx c pref) (by decide) ?_
    rintro c _ _ rfl
    rfl

/-- Nor does an arm that the list has. -/
theorem untasked_dispatchUpdate (ev : Event) (hev : untasked ev = true) :
    Untasked (fx.dispatchUpdate ev) := by
  have hkbd : ∀ sample falls : Bool, Untasked (do fx.kbdPolicyCheck sample; pure falls) :=
    fun sample falls => .bind (untasked_kbdPolicyCheck fx sample) fun _ => .pure _
  -- The arms that spawn, abort or enter are the ones that the hypothesis leaves out.
  rw [Effectors.dispatchUpdate.eq_def]
  cases ev with
  | configReloaded | profileApplied | reconcileTick _ | lid _ | suspendRequestChanged _
  | inhibitor _ _
  | monitorHotplug _ _ | profilesChanged | acChanged _ | powerAcSettled | powerdAppeared =>
    exact absurd hev (by simp [untasked])
  | monitorsChanged => exact .bind (untasked_handleMonitorsChanged fx) fun _ => .pure _
  | backlightHotplug =>
    refine .bind (untasked_of_only discoverBacklight_spec (by decide) ?_) fun _ => .pure _
    rintro c _ _ ⟨b, rfl⟩
    rfl
  | sleeping | kbdLevelChanged _
  | kbdOverrideChanged _ => exact .modify_bind (fun _ => rfl) (hkbd _ _)
  | kbdIdle idle =>
    refine .modify_bind (fun _ => rfl) (.bind (.when _ ?_) fun _ => hkbd _ _)
    refine untasked_of_only (kbdReleaseOverride_spec fx) (by decide) ?_
    rintro c _ _ ⟨k, rfl⟩
    rfl
  | kbdLedHotplug =>
    refine .bind (untasked_of_only discoverKbd_spec (by decide) ?_) fun _ => hkbd _ _
    rintro c _ _ ⟨k, rfl⟩
    rfl
  | lockChanged locked =>
    exact .modify_bind (fun _ => rfl) (.bind (untasked_requestReconcile _) fun _ => hkbd _ _)
  | batteryPercent pct =>
    refine .get_set_bind (fun _ => rfl) fun c =>
      .bind (untasked_batteryLowRequestCheck fx) fun _ => ?_
    exact .bind (.when _ (untasked_requestReconcile _)) fun _ => .pure _
  | platformProfileChanged value =>
    refine .bind (.ask (by decide)) fun now => .get_set_bind (fun _ => rfl) fun c =>
      .bind (.when _ (.bind ?_ fun _ => untasked_powerPolicyCheck fx)) fun _ => .pure _
    refine untasked_of_only (fun c => adoptPowerOverride_spec fx c _) (by decide) ?_
    rintro c _ _ ⟨p, rfl⟩
    rfl
  | powerOverrideChanged word =>
    cases word with
    | none => exact .get_set_bind (fun _ => rfl) fun _ => .pure _
    | some word =>
      dsimp only
      cases PowerProfile.parse word with
      | none => exact .pure _
      | some p =>
        intro c
        rw [meets_bind, meets_get, meets_bind, meets_when]
        exact ⟨fun _ => rfl, fun _ => rfl⟩
  | gpuOverrideChanged word => exact .pure _
  | timerExpired =>
    refine .get_bind fun c => .bind (.when _ ?_) fun _ => .pure _
    exact .bind (.ask (by decide)) fun standing => .when _ (.modify fun _ => rfl)
  | resumed =>
    refine .modify_bind (fun _ => rfl) (.bind (.when _ (.bind (.ask (by decide)) fun _ => .pure _))
      fun _ => ?_)
    exact .bind (untasked_requestReconcile _) fun _ => .modify_bind (fun _ => rfl) (hkbd _ _)

/-- A step that keeps every slot, and moves no AC axis. -/
theorem Keeps.armed {ev : Event} (h : Keeps slots c w c₁ w₁) (hev : ev ≠ .powerAcSettled)
    (hstate : c₁.state = c.state) (hwatch : c₁.claimWatch = c.claimWatch)
    (hac : c₁.onAc = c.onAc ∧ c₁.onAcSettled = c.onAcSettled)
    (hclaim : c₁.waylandInhibitor = true →
      c.waylandInhibitor = true ∨ w₁.sampled = true ∨ announces ev) :
    Armed ev c w c₁ w₁ := by
  refine ⟨h.weaken (by decide), hstate, hwatch, fun hne hp => ?_, hclaim⟩
  rw [hac.1, hac.2] at hne
  exact h.pending .settle (by simp) (hp hne hev)

/-- An arm that leaves the view has armed what it should. -/
theorem Keeps.armed_of_view {ev : Event} (h : Keeps slots c w c₁ w₁) (hev : ev ≠ .powerAcSettled)
    (hview : view c₁ = view c) : Armed ev c w c₁ w₁ :=
  h.armed hev (state_of_view hview) (claimWatch_of_view hview)
    ⟨congrArg View.onAc hview, congrArg View.onAcSettled hview⟩
    fun hc => .inl ((congrArg View.waylandInhibitor hview).symm.trans hc)

/-- The sample finds a claim only where the compositor's clients hold one. -/
theorem refreshWaylandClaim_does (hw : Owned c w) :
    Does Effectors.refreshWaylandClaim c w fun _ c' w' =>
      (∃ b, c' = { c with waylandInhibitor := b } ∧
        (b = true → c.waylandInhibitor = true ∨ w'.sampled = true)) ∧ Keeps slots c w c' w' := by
  rw [Does, Effectors.refreshWaylandClaim, Hyprctl.waylandIdleInhibited, bind_assoc]
  refine wp_ask_bind.mpr fun w₁ hdrift => ⟨trivial, ?_⟩
  rintro clients w₂ hans
  obtain rfl : w₂ = w₁.sample clients := hans
  have hkeeps : Keeps slots c w c (w₁.sample clients) := by
    refine (hw.drifts hdrift).trans ((hw.drifts hdrift).owned.shrink (fun _ => id) (Nat.le_refl _)
      (fun _ => id) fun hs => ?_)
    simp [sample, hs]
  rw [wp_pure_bind]
  generalize hheld : clients.map anyClientInhibitingIdleIn = held
  cases held with
  | none =>
    exact does_pure fun w₃ hdrift' => ⟨⟨_, rfl, .inl⟩, hkeeps.drifts hdrift'⟩
  | some held =>
    intro w₃ hdrift'
    have hlast := (hkeeps.owned.drifts hdrift').sampled
    refine ⟨⟨held, rfl, fun hb => .inr (hlast ?_)⟩,
      (hkeeps.same fun s => by cases s <;> rfl).drifts hdrift'⟩
    simp [sample, hheld, hb]

/-- The events whose arms enter a state by themselves. -/
def entersByItself : Event → Bool
  | .configReloaded | .profileApplied | .reconcileTick _ => true
  | _ => false

/-- What is armed stays so through a program without tasks. -/
theorem Armed.rest {α : Type} {ev : Event} {x : Daemon α} (h : Armed ev c w c₁ w₁)
    (hx : Untasked x) : Does x c₁ w₁ fun _ c' w' => Armed ev c w c' w' := by
  refine (h.keeps.owned.untasked hx).mono (fun _ _ _ => id) ?_
  rintro _ c₂ w₂ ⟨hview, hkeeps⟩
  have hac : c₂.onAc = c₁.onAc ∧ c₂.onAcSettled = c₁.onAcSettled :=
    ⟨congrArg View.onAc hview, congrArg View.onAcSettled hview⟩
  refine ⟨h.keeps.trans (hkeeps.weaken (by decide)), (state_of_view hview).trans h.stays,
    (claimWatch_of_view hview).trans h.claimWatch, fun hne hp => ?_, fun hc => ?_⟩
  · rw [hac.1, hac.2] at hne
    exact hkeeps.pending .settle (by simp) (h.settle hne hp)
  · rcases h.claim ((congrArg View.waylandInhibitor hview).symm.trans hc) with h | h | h
    · exact .inl h
    · exact .inr (.inl (hkeeps.sampled h))
    · exact .inr (.inr h)

/-- And through the refresh of the claim. -/
theorem Armed.refresh {ev : Event} (h : Armed ev c w c₁ w₁) :
    Does Effectors.refreshWaylandClaim c₁ w₁ fun _ c' w' => Armed ev c w c' w' := by
  refine (refreshWaylandClaim_does h.keeps.owned).mono (fun _ _ _ => id) ?_
  rintro _ _ w₂ ⟨⟨b, rfl, hb⟩, hkeeps⟩
  refine ⟨h.keeps.trans (hkeeps.weaken (by decide)), h.stays, h.claimWatch,
    fun hne hp => hkeeps.pending .settle (by simp) (h.settle hne hp), fun hc => ?_⟩
  rcases hb hc with h' | h'
  · rcases h.claim h' with h | h | h
    · exact .inl h
    · exact .inr (.inl (hkeeps.sampled h))
    · exact .inr (.inr h)
  · exact .inr (.inl h')

/-- And through the profile's debounce. -/
theorem Armed.scheduleProfile {ev : Event} (h : Armed ev c w c₁ w₁) :
    Does Effectors.scheduleProfileReconcile c₁ w₁ fun _ c' w' => Armed ev c w c' w' := by
  refine (scheduleProfileReconcile_does h.keeps.owned).mono (fun _ _ _ => id) ?_
  rintro _ _ w₂ ⟨⟨t, rfl⟩, hkeeps⟩
  refine ⟨h.keeps.trans (hkeeps.weaken (by decide)), h.stays, h.claimWatch,
    fun hne hp => hkeeps.pending .settle (by decide) (h.settle hne hp), fun hc => ?_⟩
  exact (h.claim hc).imp_right (.imp_left hkeeps.sampled)

/-- And at an end. -/
theorem Armed.pure {α : Type} {ev : Event} (h : Armed ev c w c₁ w₁) (a : α) :
    Does (Pure.pure a) c₁ w₁ fun _ c' w' => Armed ev c w c' w' := h.rest (.pure a)

/-- Every arm but those that enter by themselves has armed what it should. -/
theorem dispatchUpdate_does (hw : Owned c w) (ev : Event) (hev : entersByItself ev = false) :
    Does (fx.dispatchUpdate ev) c w fun _ c₁ w₁ => Armed ev c w c₁ w₁ := by
  -- An arm that moves an input beside the tasks.
  have hmoved : ∀ c₁ : Context, (∀ s : Slot, s.held c₁ = s.held c) → ev ≠ .powerAcSettled →
      c₁.state = c.state → (c₁.onAc = c.onAc ∧ c₁.onAcSettled = c.onAcSettled) →
      (c₁.waylandInhibitor = true → c.waylandInhibitor = true ∨ announces ev) →
      Armed ev c w c₁ w := fun c₁ hheld hne hstate hac hclaim =>
    ((hw.keeps slots).same hheld).armed hne hstate (hheld .watch) hac
      fun hc => (hclaim hc).imp id .inr
  -- An arm that settles the AC axes together.
  have hsettled : ∀ c₁ : Context, (∀ s : Slot, s.held c₁ = s.held c) → c₁.state = c.state →
      c₁.onAcSettled = c₁.onAc → c₁.waylandInhibitor = c.waylandInhibitor → Armed ev c w c₁ w :=
    fun c₁ hheld hstate hac hclaim => ⟨((hw.keeps slots).same hheld).weaken (by decide), hstate,
      hheld .watch, fun hne => absurd hac.symm hne, fun hc => .inl (hclaim ▸ hc)⟩
  by_cases hun : untasked ev = true
  · refine (hw.untasked (untasked_dispatchUpdate fx ev hun)).mono (fun _ _ _ => id) ?_
    rintro _ c₁ w₁ ⟨hview, hkeeps⟩
    refine hkeeps.armed_of_view ?_ hview
    rintro rfl
    exact absurd hun (by simp [untasked])
  cases ev with
  | configReloaded | profileApplied | reconcileTick _ => exact absurd hev (by simp [entersByItself])
  | lid closed =>
    rw [Does, Effectors.dispatchUpdate, wp_get_bind, wp_ite]
    constructor
    · intro _
      have hlid : Armed (.lid closed) c w { c with lidClosed := closed } w :=
        hmoved _ (fun s => by cases s <;> rfl) (by simp) rfl ⟨rfl, rfl⟩ .inl
      rw [wp_modify_bind, wp_bind, wp_when]
      refine ⟨fun _ => hlid.refresh.mono (fun _ _ _ => id) fun _ _ _ h => h.pure true, fun _ => ?_⟩
      exact (hlid.pure ()).mono (fun _ _ _ => id) fun _ _ _ h => h.pure true
    · intro _
      exact (hmoved c (fun _ => rfl) (by simp) rfl ⟨rfl, rfl⟩ .inl).pure false
  | suspendRequestChanged word =>
    have hreq : Armed (.suspendRequestChanged word) c w
        { c with suspendRequested := word.isSome } w :=
      hmoved _ (fun s => by cases s <;> rfl) (by simp) rfl ⟨rfl, rfl⟩ .inl
    rw [Does, Effectors.dispatchUpdate, wp_modify_bind, wp_bind, wp_when]
    refine ⟨fun _ => hreq.refresh.mono (fun _ _ _ => id) fun _ _ _ h => h.pure true, fun _ => ?_⟩
    exact (hreq.pure ()).mono (fun _ _ _ => id) fun _ _ _ h => h.pure true
  | inhibitor wayland active =>
    rw [Does, Effectors.dispatchUpdate, wp_modify_bind]
    refine Armed.pure ?_ true
    cases wayland with
    | true =>
      rw [if_pos rfl]
      refine hmoved _ (fun s => by cases s <;> rfl) (by simp) rfl ⟨rfl, rfl⟩ ?_
      rintro (rfl : active = true)
      exact .inr (.inl rfl)
    | false =>
      rw [if_neg (by simp)]
      exact hmoved _ (fun s => by cases s <;> rfl) (by simp) rfl ⟨rfl, rfl⟩ .inl
  | powerAcSettled =>
    rw [Does, Effectors.dispatchUpdate, wp_modify_bind]
    have hac : Armed .powerAcSettled c w { c with onAcSettled := c.onAc } w :=
      hsettled _ (fun s => by cases s <;> rfl) rfl rfl rfl
    exact hac.rest (.bind (untasked_batteryLowRequestCheck fx) fun _ => .pure _)
  | powerdAppeared =>
    rw [Does, Effectors.dispatchUpdate, wp_modify_bind, wp_modify_bind]
    refine (hsettled _ (fun s => ?_) ?_ rfl ?_).pure true
    · by_cases h : c.power.powerdAvailable <;> cases s <;> simp [h, Slot.held]
    · by_cases h : c.power.powerdAvailable <;> simp [h]
    · by_cases h : c.power.powerdAvailable <;> simp [h]
  | monitorHotplug added name =>
    rw [Does, Effectors.dispatchUpdate, wp_get_bind, Hyprctl.extMonitorCount, bind_assoc]
    refine wp_ask_bind.mpr fun w₁ hdrift => ⟨trivial, ?_⟩
    rintro monitors w₂ hans
    have hsame : w₂ = w₁ := hans
    subst hsame
    rw [wp_pure_bind, wp_modify_bind]
    have hcount : Armed (.monitorHotplug added name) c w
        { c with extMonCount := extMonitorCountIn monitors c.extMonCount } w₂ :=
      ((hw.drifts hdrift).same fun s => by cases s <;> rfl).armed (by simp) rfl rfl ⟨rfl, rfl⟩ .inl
    refine hcount.scheduleProfile.bind ?_
    rintro _ c₃ w₃ h₃
    exact h₃.rest (.bind (untasked_requestReconcile _) fun _ => .pure _)
  | profilesChanged =>
    have hnone : Armed .profilesChanged c w c w :=
      hmoved c (fun _ => rfl) (by simp) rfl ⟨rfl, rfl⟩ .inl
    exact hnone.scheduleProfile.bind fun _ c₁ w₁ h₁ => h₁.pure false
  | acChanged onAc =>
    rw [Does, Effectors.dispatchUpdate, wp_get_bind, wp_ite]
    refine ⟨fun _ => (hmoved c (fun _ => rfl) (by simp) rfl ⟨rfl, rfl⟩ .inl).pure false,
      fun _ => ?_⟩
    rw [wp_modify_bind]
    have hw₁ : Owned { c with onAc := onAc } w := hw.same fun s => by cases s <;> rfl
    refine (hw₁.untasked (untasked_batteryLowRequestCheck fx)).bind ?_
    rintro _ c₂ w₂ ⟨hview, hkeeps⟩
    refine (schedulePowerSettle_does hkeeps.owned).bind ?_
    rintro _ _ w₃ ⟨⟨t, rfl⟩, hkeeps₃, hpend⟩
    have hbefore : Keeps slots c w c₂ w₂ := hkeeps.before fun s => by cases s <;> rfl
    have harm : Armed (.acChanged onAc) c w { c₂ with powerDebounce := t } w₃ :=
      ⟨(hbefore.weaken (by decide)).trans (hkeeps₃.weaken (by decide)),
        (state_of_view hview).trans rfl, (claimWatch_of_view hview).trans rfl, fun _ _ => hpend,
        fun hc => .inl ((congrArg View.waylandInhibitor hview).symm.trans hc)⟩
    exact harm.rest (.bind (untasked_requestReconcile _) fun _ => .pure _)
  | _ => exact absurd rfl hun

/-! ## A turn -/

/-- What a turn leaves of the tasks. -/
structure Turned (ev : Event) (c : Context) (w : Tasks) (c' : Context) (w' : Tasks) : Prop where
  waits : Waits c' w'
  watch : c'.state = .deferred → c'.waylandInhibitor = true →
    (c.state = .deferred → Pending .watch c w) →
    Pending .watch c' w'
  claim : c'.waylandInhibitor = true → c.waylandInhibitor = true ∨ w'.sampled = true ∨ announces ev

/-- What waits goes on waiting, where the view stays. -/
theorem Waits.of_view (h : Waits c w) (hkeeps : Keeps slots c w c₁ w₁) (hview : view c₁ = view c) :
    Waits c₁ w₁ := by
  have hstate := state_of_view hview
  have hac : c₁.onAc = c.onAc ∧ c₁.onAcSettled = c.onAcSettled :=
    ⟨congrArg View.onAc hview, congrArg View.onAcSettled hview⟩
  refine ⟨hkeeps.owned, fun hs => ?_, fun hne => ?_, fun hs => ?_⟩
  · exact hkeeps.pending .grace (by simp) (h.grace (hstate.symm.trans hs))
  · rw [hac.1, hac.2] at hne
    exact hkeeps.pending .settle (by simp) (h.settle hne)
  · exact (claimWatch_of_view hview).trans (h.unwatched (hstate ▸ hs))

/-- A turn stays turned through a program without tasks. -/
theorem Turned.rest {α : Type} {ev : Event} {x : Daemon α} (h : Turned ev c w c₁ w₁)
    (hx : Untasked x) : Does x c₁ w₁ fun _ c' w' => Turned ev c w c' w' := by
  refine (h.waits.owned.untasked hx).mono (fun _ _ _ => id) ?_
  rintro _ c₂ w₂ ⟨hview, hkeeps⟩
  have hclaim : c₂.waylandInhibitor = c₁.waylandInhibitor := congrArg View.waylandInhibitor hview
  refine ⟨h.waits.of_view hkeeps hview, fun hs hc hp => ?_, fun hc => ?_⟩
  · exact hkeeps.pending .watch (by simp) (h.watch ((state_of_view hview).symm.trans hs)
      (hclaim.symm.trans hc) hp)
  · exact (h.claim (hclaim.symm.trans hc)).imp_right (.imp_left hkeeps.sampled)

/-- And at an end. -/
theorem Turned.pure {α : Type} {ev : Event} (h : Turned ev c w c₁ w₁) (a : α) :
    Does (Pure.pure a) c₁ w₁ fun _ c' w' => Turned ev c w c' w' := h.rest (.pure a)

/-- After the arm of an event that does not fall through the turn is over. -/
theorem Armed.turned {ev : Event} (h : Armed ev c w c₁ w₁) (htake : Taken ev c w)
    (hev : ev ≠ .timerExpired) : Turned ev c w c₁ w₁ := by
  refine ⟨⟨h.keeps.owned, fun hs => ?_, fun hne => h.settle hne htake.settle, fun hs => ?_⟩,
    fun hs _ hp => ?_, fun hc => ?_⟩
  · exact h.keeps.pending .grace (by simp) (htake.grace (h.stays.symm.trans hs) hev)
  · exact h.claimWatch.trans (htake.unwatched (h.stays ▸ hs))
  · exact h.keeps.pending .watch (by simp) (hp (h.stays.symm.trans hs))
  · exact h.claim hc

/-- After an arm the machine is evaluated. -/
theorem Armed.evaluate {ev : Event} {kind : EventKind} (h : Armed ev c w c₁ w₁)
    (htake : Taken ev c w) (hkind : kind ≠ .timerExpired → ev ≠ .timerExpired) :
    Does (fx.evaluateFsms kind) c₁ w₁ fun _ c' w' => Turned ev c w c' w' := by
  refine (evaluateFsms_does fx h.keeps.owned kind fun hs =>
    h.claimWatch.trans (htake.unwatched (h.stays ▸ hs))).mono (fun _ _ _ => id) ?_
  rintro _ c₂ w₂ heval
  obtain ⟨hac, hacs, hclaim⟩ := axes_eq_iff.mp heval.axes
  refine ⟨⟨heval.keeps.owned, fun hs => heval.grace hs fun hs₁ hk => ?_, fun hne => ?_,
    heval.unwatched⟩, fun hs hc hp => heval.watch hs (hclaim.symm.trans hc)
      fun hs₁ => ?_, fun hc => ?_⟩
  · exact h.keeps.pending .grace (by simp) (htake.grace (h.stays.symm.trans hs₁) (hkind hk))
  · rw [hac, hacs] at hne
    exact heval.keeps.pending .settle (by simp) (h.settle hne htake.settle)
  · exact h.keeps.pending .watch (by simp) (hp (h.stays.symm.trans hs₁))
  · exact (h.claim (hclaim.symm.trans hc)).imp_right (.imp_left heval.keeps.sampled)

/-- The common tail turns what an arm has armed. -/
theorem Armed.tail {ev : Event} (h : Armed ev c w c₁ w₁) (htake : Taken ev c w) :
    Does (fx.dispatchTail ev) c₁ w₁ fun _ c' w' => Turned ev c w c' w' := by
  rw [dispatchTail_eq]
  refine (h.rest (untasked_tailChecks fx ev)).bind ?_
  rintro _ c₂ w₂ h₂
  exact h₂.evaluate fx htake fun hk heq => hk ((Event.kind_eq_timerExpired_iff ev).mpr heq)

/-- A re-assertion enters the present state again. -/
theorem reassert_does {ev : Event} (trigger : ReconcileTrigger) (htake : Taken ev c w)
    (hgrace : ev ≠ .timerExpired) (hsettle : ev ≠ .powerAcSettled) :
    Does (fx.reassert trigger) c w fun _ c' w' => Turned ev c w c' w' := by
  have hsame : Armed ev c w c w :=
    (htake.owned.keeps slots).armed hsettle rfl rfl ⟨rfl, rfl⟩ .inl
  rw [Does, Effectors.reassert, wp_get_bind, wp_bind, wp_when]
  -- In a session the profile is read in and the state is entered anew; else nothing is.
  constructor
  · intro _
    refine (hsame.rest untasked_ingestActiveProfile).bind ?_
    rintro _ c₁ w₁ h₁
    rw [wp_get_bind]
    refine (onEnter_does fx h₁.keeps.owned c₁.state false).bind ?_
    rintro _ c₂ w₂ henter
    obtain ⟨hac, hacs, hclaim⟩ := axes_eq_iff.mp henter.axes
    have hturned : Turned ev c w c₂ w₂ := by
      refine ⟨⟨henter.keeps.owned, fun hs => ?_, fun hne => ?_, fun hs => ?_⟩, fun hs hc hp => ?_,
        fun hc => ?_⟩
      · have hs₁ := henter.stays.symm.trans hs
        refine henter.grace hs₁ (.inr (h₁.keeps.pending .grace (by simp) ?_))
        exact htake.grace (h₁.stays.symm.trans hs₁) hgrace
      · rw [hac, hacs] at hne
        exact henter.keeps.pending .settle (by simp) (h₁.settle hne htake.settle)
      · exact henter.unwatched (henter.stays ▸ hs)
      · have hs₁ := henter.stays.symm.trans hs
        refine henter.watch hs₁ (hclaim.symm.trans hc) (.inr (h₁.keeps.pending .watch (by simp) ?_))
        exact hp (h₁.stays.symm.trans hs₁)
      · exact (h₁.claim (hclaim.symm.trans hc)).imp_right (.imp_left henter.keeps.sampled)
    exact fun w₃ hdrift => (hturned.rest (untasked_requestReconcile trigger)).drifts hdrift
  · intro _
    exact fun w₁ hdrift => ((hsame.turned htake hgrace).rest
      (untasked_requestReconcile trigger)).drifts hdrift

/-! ### The tick -/

/-- The repair may arm the profile debounce, and no other task. -/
theorem repairContext_does (hw : Owned c w) (snap : ReconcileSnapshot) :
    Does (Effectors.repairContext snap) c w fun drift c' w' =>
      Keeps (others .profile) c w c' w' ∧
        ∃ req t, c' = { repaired snap req c with profileDebounce := t } ∧
          drift = (Effectors.fsmDrift snap c req, Effectors.powerDrift snap c) := by
  refine Wp.and_meets (Q := fun _ c' w' => Keeps (others .profile) c w c' w') ?_
    (repairContext_spec c snap)
  -- After the count the repair makes no request of the tasks.
  have hrest : ∀ (c₁ : Context) (w₁ : Tasks) (req : Bool), Keeps (others .profile) c w c₁ w₁ →
      Does (do
        modify fun c => { c with
          logindInhibitor := snap.logindInhibitor
          waylandInhibitor := snap.waylandInhibitor.getD c.waylandInhibitor
          locked := snap.locked.getD c.locked }
        when (decide (snap.locked.getD c.locked ≠ c.locked))
          (request (.lockedSend (snap.locked.getD c.locked)))
        modify fun c => { c with onAc := snap.onAc.getD c.onAc }
        pure (Effectors.fsmDrift snap c req, Effectors.powerDrift snap c) :
          Daemon (Bool × Bool)) c₁ w₁
        fun _ c' w' => Keeps (others .profile) c w c' w' := by
    intro c₁ w₁ req h₁
    refine (h₁.owned.leaves (v := fun c s => Slot.held s c) ?_ fun _ h s => congrFun h s).mono
      (fun _ _ _ => id) fun _ _ _ h => h₁.trans (h.2.toOthers _)
    refine .modify_bind (fun _ => funext fun s => by cases s <;> rfl)
      (.bind (.when _ (.ask (by simp [taskResources]))) fun _ => ?_)
    exact .modify_bind (fun _ => funext fun s => by cases s <;> rfl) (.pure _)
  rw [Effectors.repairContext, wp_get_bind, wp_modify_bind]
  refine wp_ask_bind.mpr fun w₁ hdrift => ⟨trivial, ?_⟩
  rintro req w₂ hans
  have hsame : w₂ = w₁ := hans
  subst hsame
  rw [wp_modify_bind, wp_bind, wp_when]
  have h₁ : Keeps slots c w { c with
      lidClosed := if c.lidPresent then snap.lidClosed else c.lidClosed
      suspendRequested := req
      extMonCount := snap.extMonCount } w₂ := (hw.drifts hdrift).same fun s => by cases s <;> rfl
  constructor
  · intro _
    refine (scheduleProfileReconcile_does h₁.owned).mono (fun _ _ _ => id) ?_
    rintro _ _ w₃ ⟨⟨t, rfl⟩, h₂⟩
    exact hrest _ _ _ ((h₁.toOthers _).trans h₂)
  · intro _ w₃ hdrift'
    exact hrest _ _ req ((h₁.toOthers _).drifts hdrift')

/-- The arm of the tick turns by itself. -/
theorem handleReconcileTick_does (snap : ReconcileSnapshot)
    (htake : Taken (.reconcileTick snap) c w) :
    Does (fx.handleReconcileTick snap) c w fun _ c' w' =>
      Turned (.reconcileTick snap) c w c' w' := by
  -- The machine is evaluated where one of its inputs drifted.
  have hfsm : ∀ (fsm : Bool) (c₁ : Context) (w₁ : Tasks), Armed (.reconcileTick snap) c w c₁ w₁ →
      Does (when fsm (fx.evaluateFsms .ctxRepaired)) c₁ w₁
        fun _ c' w' => Turned (.reconcileTick snap) c w c' w' := by
    intro fsm c₁ w₁ h₁
    rw [Does, wp_when]
    refine ⟨fun _ => h₁.evaluate fx htake fun _ => by simp, fun _ => ?_⟩
    exact (h₁.turned htake (by simp)).pure ()
  have hclaim : snap.waylandInhibitor.getD c.waylandInhibitor = true →
      c.waylandInhibitor = true ∨ announces (.reconcileTick snap) := by
    intro h
    generalize hseen : snap.waylandInhibitor = seen at h
    cases seen with
    | none => exact .inl h
    | some held =>
      obtain rfl : held = true := h
      exact .inr (.inr ⟨snap, rfl, hseen⟩)
  rw [Does, Effectors.handleReconcileTick]
  refine (repairContext_does htake.owned snap).bind ?_
  rintro _ _ w₁ ⟨hkeeps, req, t, rfl, rfl⟩
  have hdrive : Does (fx.driveRepairs (Effectors.fsmDrift snap c req) (Effectors.powerDrift snap c))
      { repaired snap req c with profileDebounce := t } w₁
      fun _ c' w' => Turned (.reconcileTick snap) c w c' w' := by
    rw [Does, Effectors.driveRepairs, wp_bind, wp_when]
    constructor
    · intro _
      rw [wp_modify_bind]
      have harm : Armed (.reconcileTick snap) c w { repaired snap req c with
          profileDebounce := t, onAcSettled := snap.onAc.getD c.onAc } w₁ :=
        ⟨(hkeeps.weaken (by decide)).same fun s => by cases s <;> rfl, rfl, rfl,
          fun hne => absurd rfl hne, fun hc => (hclaim hc).imp id .inr⟩
      refine (harm.rest (.bind (untasked_powerPolicyCheck fx) fun _ =>
        .bind (untasked_batteryLowRequestCheck fx) fun _ => .pure _)).mono (fun _ _ _ => id) ?_
      exact fun _ c₂ w₂ h₂ => hfsm _ c₂ w₂ h₂
    · intro hp
      -- The AC axis agreed.
      have hac : snap.onAc.getD c.onAc = c.onAc := by
        simpa using (Bool.or_eq_false_iff.mp hp).2
      have harm : Armed (.reconcileTick snap) c w
          { repaired snap req c with profileDebounce := t } w₁ := by
        refine ⟨hkeeps.weaken (by decide), rfl, rfl, fun hne hs => ?_, fun hc =>
          (hclaim hc).imp id .inr⟩
        have hne' : snap.onAc.getD c.onAc ≠ c.onAcSettled := hne
        rw [hac] at hne'
        exact hkeeps.pending .settle (by decide) (hs hne' (by simp))
      exact (harm.pure ()).mono (fun _ _ _ => id) fun _ c₂ w₂ h₂ => hfsm _ c₂ w₂ h₂
  refine hdrive.bind ?_
  rintro _ c₂ w₂ h₂
  refine h₂.rest (.get_bind fun c₃ => .when _ ?_)
  refine .bind untasked_ingestActiveProfile fun _ => .bind ?_ fun _ => ?_
  · refine .of_meets (fun c => enforceEdp_spec fx c snap) (fun _ _ e he => ?_)
      (by rintro c _ _ rfl; rfl)
    rw [List.mem_singleton.mp he.1]
    decide
  · exact untasked_of_only (fun c => dpmsBackstop_spec fx c snap) (by decide)
      (by rintro c _ _ rfl; rfl)

/-- Every turn keeps what the machine waits for pending. -/
theorem handle_does (ev : Event) (htake : Taken ev c w) :
    Does (fx.handle ev) c w fun _ c' w' => Turned ev c w c' w' := by
  have hwaybar : ∀ (c₁ : Context) (w₁ : Tasks), Turned ev c w c₁ w₁ →
      Does fx.syncWaybar c₁ w₁ fun _ c' w' => Turned ev c w c' w' :=
    fun _ _ h => h.rest (untasked_syncWaybar fx)
  rw [Does, Effectors.handle, Effectors.dispatch, bind_assoc]
  by_cases hev : entersByItself ev = false
  · obtain ⟨n, hn⟩ := exists_armCount c ev
    refine ((dispatchUpdate_does fx htake.owned ev hev).and_meets
      (dispatchUpdate_spec fx c ev hn)).bind ?_
    rintro falls c₁ w₁ ⟨h₁, harm, -⟩
    rw [wp_bind, wp_when]
    refine ⟨fun _ => (h₁.tail fx htake).mono (fun _ _ _ => id) fun _ _ _ => hwaybar _ _,
      fun hfalls => ?_⟩
    -- Only an arm that ends the turn skips the tail, and the expiry is none of them.
    have hne : ev ≠ .timerExpired := by
      rintro rfl
      exact absurd (harm.2.1.symm.trans hfalls) (by simp)
    exact ((h₁.turned htake hne).pure ()).mono (fun _ _ _ => id) fun _ _ _ => hwaybar _ _
  · -- These arms end the turn themselves.
    have hend : Does (fx.dispatchUpdate ev) c w fun falls c' w' => falls = false ∧
        Turned ev c w c' w' := by
      cases ev with
      | configReloaded | profileApplied =>
        refine (reassert_does fx _ htake (by simp) (by simp)).bind ?_
        exact fun _ c₁ w₁ h₁ w₂ hdrift => ⟨rfl, h₁.pure () w₂ hdrift⟩
      | reconcileTick snap =>
        refine (handleReconcileTick_does fx snap htake).bind ?_
        exact fun _ c₁ w₁ h₁ w₂ hdrift => ⟨rfl, h₁.pure () w₂ hdrift⟩
      | _ => exact absurd rfl hev
    refine hend.bind ?_
    rintro falls c₁ w₁ ⟨rfl, h₁⟩
    rw [wp_bind, wp_when]
    exact ⟨fun h => absurd h (by simp), fun _ => (h₁.pure ()).mono (fun _ _ _ => id)
      fun _ _ _ => hwaybar _ _⟩

/-! ## The start -/

/-- No task is held, and the AC axes agree. -/
structure Unarmed (c : Context) : Prop where
  held : ∀ s : Slot, s.held c = none
  settled : c.onAcSettled = c.onAc

/-- The handles and the AC axes. -/
def startView (c : Context) :
    (Option Handle × Option Handle × Option Handle × Option Handle) × Bool × Bool :=
  ((c.graceTimer, c.powerDebounce, c.profileDebounce, c.claimWatch), c.onAc, c.onAcSettled)

/-- A start without tasks stays so. -/
theorem Unarmed.leaves {α : Type} {x : Daemon α} (h : Unarmed c)
    (hx : Leaves (fun e => e.resource ∈ taskResources) startView x) :
    Meets x c (fun _ e => e.resource ∉ taskResources) fun _ c' => Unarmed c' := by
  refine (hx c).imp fun _ c' hview => ?_
  simp only [startView, Prod.mk.injEq] at hview
  obtain ⟨⟨hgrace, hsettle, hprofile, hwatch⟩, hac, hacs⟩ := hview
  have hsettled : c'.onAcSettled = c'.onAc := calc
    c'.onAcSettled = c.onAcSettled := hacs
    _ = c.onAc := h.settled
    _ = c'.onAc := hac.symm
  refine ⟨fun s => ?_, hsettled⟩
  cases s
  · exact hgrace.trans (h.held .grace)
  · exact hsettle.trans (h.held .settle)
  · exact hprofile.trans (h.held .profile)
  · exact hwatch.trans (h.held .watch)

/-- UPower's first reading sets both AC axes. -/
theorem seedPower_unarmed (h : Unarmed c) :
    Meets Effectors.seedPower c (fun _ e => e.resource ∉ taskResources) fun _ c' => Unarmed c' := by
  have hset : ∀ (ac : Option Bool) (pct : Option Rat) (low : Bool), Unarmed { c with
      onAc := ac.getD c.onAc, onAcSettled := ac.getD c.onAcSettled, batteryPercent := pct,
      lowBattery := low } := by
    intro ac pct low
    refine ⟨fun s => (show _ = s.held c by cases s <;> rfl).trans (h.held s), ?_⟩
    cases ac with
    | none => exact h.settled
    | some _ => rfl
  have hkeep : ∀ (pct : Option Rat) (low : Bool), Unarmed
      { c with batteryPercent := pct, lowBattery := low } :=
    hset none
  simp only [Effectors.seedPower, meets_bind, meets_ask, meets_ite, meets_pure, meets_modify]
  exact ⟨by decide, fun connected =>
    ⟨fun _ => ⟨by decide, fun ac => ⟨by decide, fun pct => hset _ _ _⟩⟩, fun _ => hkeep _ _⟩⟩

/-- The rest of the seeds spawns nothing. -/
theorem seedRest_leaves (conf : PowerConf) :
    Leaves (fun e => e.resource ∈ taskResources) startView (do
      Effectors.discoverBacklight
      Effectors.seedKbd conf
      let _ ← fx.batteryLowRequestCheck
      Effectors.seedWorld
      Effectors.seedProfile
      request (.sendEvent .monitorsChanged)
      let word ← request .powerOverrideWord
      request (.sendEvent (.powerOverrideChanged word))
      let hint ← (if fx.session then request .lockedHint else pure none : Daemon (Option Bool))
      modify fun c => { c with locked := hint.getD false }
      request (.lockedSend (hint.getD false))) := by
  have hof : ∀ {α : Type} {x : Daemon α} {rs : List Resource} {Q : Context → α → Context → Prop},
      (∀ c, Meets x c (only rs) (Q c)) → (∀ r ∈ rs, r ∉ taskResources) →
      (∀ c a c', Q c a c' → startView c' = startView c) →
      Leaves (fun e => e.resource ∈ taskResources) startView x :=
    fun h hrs hQ => .of_meets h (fun _ _ e he => hrs e.resource he) hQ
  refine .bind (hof discoverBacklight_spec (by decide) (by rintro c _ _ ⟨b, rfl⟩; rfl)) fun _ => ?_
  refine .bind (hof (fun c => seedKbd_spec c conf) (by decide) (by rintro c _ _ ⟨k, rfl⟩; rfl))
    fun _ => ?_
  refine .bind (hof (batteryLowRequestCheck_spec fx) (by decide) (by rintro c _ _ ⟨r, rfl, -⟩; rfl))
    fun _ => ?_
  refine .bind (hof seedWorld_exact (by decide) (by rintro c _ _ ⟨l, i, w, n, rfl, -⟩; rfl))
    fun _ => ?_
  refine .bind (hof seedProfile_spec (by decide) (by rintro c _ _ ⟨n, r, e, rfl⟩; rfl)) fun _ => ?_
  refine .bind (.ask (by decide)) fun _ => .bind (.ask (by decide)) fun word => ?_
  refine .bind (.ask (by simp [taskResources])) fun _ =>
    .bind (.ite (.ask (by decide)) (.pure _)) fun hint => ?_
  exact .modify_bind (fun _ => rfl) (.ask (by simp [taskResources]))

/-- Nor does the setup. -/
theorem setup_unarmed :
    Meets fx.setup {} (fun _ e => e.resource ∉ taskResources) fun _ c' => Unarmed c' := by
  refine setup_meets fx {} (I := Unarmed) (fun _ e he => ?_)
    (fun conf => ⟨fun s => by cases s <;> rfl, rfl⟩) (fun conf c₁ h₁ => ?_) fun _ h₁ => h₁
  · have happart : ∀ r ∈ [Resource.query, .requestFile], r ∉ taskResources := by decide
    exact happart _ he
  · exact (seedPower_unarmed h₁).bind fun _ c₂ h₂ => h₂.leaves (seedRest_leaves fx conf)

/-- So the setup begins with no task. -/
theorem setup_does : Does fx.setup {} {} fun _ c' w' => Unarmed c' ∧ Owned c' w' := by
  have hempty : Owned {} {} :=
    ⟨fun p hp => absurd hp List.not_mem_nil, fun s h hs =>
      absurd hs (by cases s <;> simp [Slot.held])⟩
  refine (wp_of_meets (J := Owned {}) (setup_unarmed fx) hempty
    (fun _ _ hstep h => (h.drift hstep).owned)
    fun c e w b w' he hans h => (h.answer he hans).owned).mono (fun _ _ _ _ => trivial) ?_
  rintro _ c' w' ⟨h, hw⟩
  refine ⟨h, hw.same fun s => (h.held s).trans ?_⟩
  cases s <;> rfl

/-- The prologue enters the first state. -/
theorem startup_does (h : Unarmed c) (hw : Owned c w) :
    Does fx.startup c w fun _ c' w' => Waits c' w' ∧
      (c'.state = .deferred → c'.waylandInhibitor = true → Pending .watch c' w') := by
  rw [Does, Effectors.startup, wp_modify_bind, wp_get_bind]
  -- Startup enters the state its inputs call for with no task yet alive.
  have hw₁ : Owned { c with state := worldState c.world } w := hw.same fun s => by cases s <;> rfl
  refine (onEnter_does fx hw₁ _ true).bind ?_
  rintro _ c₁ w₁ henter
  obtain ⟨hac, hacs, hclaim⟩ := axes_eq_iff.mp henter.axes
  have hstate : c₁.state = worldState c.world := henter.stays
  have hwaits : Waits c₁ w₁ := by
    refine ⟨henter.keeps.owned, fun hs => henter.grace (hstate.symm.trans hs) (.inl rfl),
      fun hne => ?_, fun hs => henter.unwatched (hstate ▸ hs)⟩
    -- Nothing was read between the seed and here, so the settled state is the known one.
    refine absurd ?_ hne
    calc c₁.onAc = c.onAc := hac
      _ = c.onAcSettled := h.settled.symm
      _ = c₁.onAcSettled := hacs.symm
  have hwatch : c₁.state = .deferred → c₁.waylandInhibitor = true →
      Pending .watch c₁ w₁ := fun hs hc =>
    henter.watch (hstate.symm.trans hs) (hclaim.symm.trans hc) (.inl (h.held .watch))
  -- What follows the entry starts and ends no task.
  have hrest : Untasked (do
      let chosen ← Effectors.currentMatch
      let mode ← Effectors.resolveSessionGpuMode ((chosen.map MonitorProfile.gpu).getD .auto)
      fx.syncDgpuPin (dgpuRuntimePmPinned mode.1)
      fx.syncWaybar
      fx.kbdPolicyCheck true
      Effectors.requestReconcile .startup) := by
    refine .bind untasked_currentMatch fun chosen => ?_
    refine .bind (untasked_of_only (fun c => resolveSessionGpuMode_spec c _) (by decide)
      (by rintro c _ _ rfl; rfl)) fun mode => ?_
    refine .bind (untasked_of_only (fun c => syncDgpuPin_spec fx c _) (by decide)
      (by rintro c _ _ ⟨g, p, rfl⟩; rfl)) fun _ => ?_
    exact .bind (untasked_syncWaybar fx) fun _ => .bind (untasked_kbdPolicyCheck fx true) fun _ =>
      untasked_requestReconcile _
  refine (hwaits.owned.untasked hrest).mono (fun _ _ _ => id) ?_
  rintro _ c₂ w₂ ⟨hview, hkeeps⟩
  refine ⟨hwaits.of_view hkeeps hview, fun hs hc => hkeeps.pending .watch (by simp) ?_⟩
  exact hwatch ((state_of_view hview).symm.trans hs)
    ((congrArg View.waylandInhibitor hview).symm.trans hc)

/-! ## Runs -/

/-- The daemon started and took any number of events, each step meeting `D`: the context and the
world it is taken in, the event, the trace of its dispatch, and whether that sampled a claim. The
tasks fire and the other sources send at any moment. -/
inductive Run (fx : Effectors) (D : Context → Tasks → Event → List DaemonObs → Bool → Prop) :
    Context → Tasks → Prop
  | start {c c' : Context} {w w' : Tasks} {tr tr' : List DaemonObs} :
      Execs world fx.setup {} {} tr true c w → Execs world fx.startup c w tr' () c' w' →
        Run fx D c' w'
  | turn {c c' : Context} {w w₁ w' : Tasks} {ev : Event} {tr : List DaemonObs} :
      Run fx D c w → world.Drifts w w₁ → w₁.queue.head? = some ev →
      Execs world (fx.handle ev) c w₁.taken tr () c' w' → D c w₁ ev tr w'.sampled → Run fx D c' w'

/-- Every run keeps what waits. -/
theorem Run.waits {D : Context → Tasks → Event → List DaemonObs → Bool → Prop} (h : Run fx D c w) :
    Waits c w := by
  induction h with
  | start hsetup hstart =>
    obtain ⟨hun, hw⟩ := hsetup.of_wp (setup_does fx)
    exact (hstart.of_wp (startup_does fx hun hw)).1
  | turn _ hdrift hhead hturn _ ih =>
    exact (hturn.of_wp (handle_does fx _ ((ih.drifts hdrift).taken hhead))).waits

/-- After the start and after every event, the countdown has a grace timer that runs or an expiry in
the queue, and AC axes that differ have the settle timer or its event. -/
theorem timers_pending (h : Run fx (fun _ _ _ _ _ => True) c w) :
    (c.state = .countdown → Pending .grace c w) ∧
      (c.onAc ≠ c.onAcSettled → Pending .settle c w) :=
  ⟨h.waits.grace, h.waits.settle⟩

/-! ## A shut laptop is unplugged -/

/-- The lid is shut; the compositor has these clients. -/
def shut (conf : PowerConf) (clients : Option (List Client)) :
    (r : Context × Eff) → Tasks → stamped Eff.Ans r × Tasks
  | (_, .lidClosed), w => (some true, w)
  | (_, .loadPowerConf), w => (conf, w)
  | (_, .spawnTimer _ ev), w => (w.next, w.spawn ev)
  | (_, .spawnClaimWatch), w => (w.next, w.spawn Slot.watch.sends)
  | (_, .abort h), w => ((), w.abort h)
  | (_, .sendEvent ev), w => ((), w.send ev)
  | (_, .clients), w => (clients, w.sample clients)
  | (_, e), w => (e.quiet, w)

/-- The answers of the shut machine are the tasks'. -/
theorem shut_answer (conf : PowerConf) (clients : Option (List Client)) (r : Context × Eff)
    (w : Tasks) (_ : True) :
    world.answer r w (shut conf clients r w).1 (shut conf clients r w).2 ∧ True := by
  refine ⟨?_, trivial⟩
  obtain ⟨c, e⟩ := r
  cases e <;> first | rfl | exact ⟨rfl, rfl⟩ | exact ⟨fun _ => rfl, rfl⟩

/-- The context and the world after a piece of the dispatcher's code. -/
def after {α : Type} (conf : PowerConf) (clients : Option (List Client)) (x : Daemon α)
    (p : Context × Tasks) : Context × Tasks :=
  (((x.run p.1).exec (shut conf clients) p.2).1.2, ((x.run p.1).exec (shut conf clients) p.2).2.1)

/-- A program that runs to its end under them. -/
theorem execs_after {α : Type} (conf : PowerConf) (clients : Option (List Client)) (x : Daemon α)
    (p q : Context × Tasks) {a : α} (ha : ((x.run p.1).exec (shut conf clients) p.2).1.1 = a)
    (hq : after conf clients x p = q) :
    Execs world x p.1 p.2 ((x.run p.1).exec (shut conf clients) p.2).2.2 a q.1 q.2 := by
  subst ha hq
  exact execs_exec (shut_answer conf clients) x p.1 trivial

/-- The setup is done. -/
def ready (conf : PowerConf) (clients : Option (List Client)) : Context × Tasks :=
  after conf clients (Effectors.setup ⟨false, true⟩) ({}, {})

/-- The daemon has started. -/
def booted (conf : PowerConf) (clients : Option (List Client)) : Context × Tasks :=
  after conf clients (Effectors.startup ⟨false, true⟩) (ready conf clients)

/-- The run that ends with the start. -/
theorem run_booted (D : Context → Tasks → Event → List DaemonObs → Bool → Prop) (conf : PowerConf)
    (clients : Option (List Client))
    (hlid : (((Effectors.setup ⟨false, true⟩).run {}).exec (shut conf clients) {}).1.1 = true) :
    Run ⟨false, true⟩ D (booted conf clients).1 (booted conf clients).2 :=
  .start (execs_after conf clients (Effectors.setup ⟨false, true⟩) ({}, {})
    (ready conf clients) hlid rfl)
    (execs_after conf clients (Effectors.startup ⟨false, true⟩) (ready conf clients)
      (booted conf clients)
      (Subsingleton.elim _ _) rfl)

/-- The first event of the queue is dispatched. -/
def turn (conf : PowerConf) (clients : Option (List Client)) (ev : Event) (p : Context × Tasks) :
    Context × Tasks :=
  after conf clients ((⟨false, true⟩ : Effectors).handle ev) (p.1, p.2.taken)

/-- The trace of its dispatch. -/
def told (conf : PowerConf) (clients : Option (List Client)) (ev : Event) (p : Context × Tasks) :
    List DaemonObs :=
  ((((⟨false, true⟩ : Effectors).handle ev).run p.1).exec (shut conf clients) p.2.taken).2.2

/-- A turn of the daemon on that machine extends the run. -/
theorem run_turn {D : Context → Tasks → Event → List DaemonObs → Bool → Prop} (conf : PowerConf)
    (clients : Option (List Client)) (ev : Event) (p : Context × Tasks)
    (h : Run ⟨false, true⟩ D p.1 w) (hdrift : world.Drifts w p.2)
    (hhead : p.2.queue.head? = some ev)
    (hD : D p.1 p.2 ev (told conf clients ev p) (turn conf clients ev p).2.sampled) :
    Run ⟨false, true⟩ D (turn conf clients ev p).1 (turn conf clients ev p).2 :=
  .turn h hdrift hhead (execs_after conf clients ((⟨false, true⟩ : Effectors).handle ev)
    (p.1, p.2.taken)
    (turn conf clients ev p) (Subsingleton.elim _ _) rfl) hD

/-- The charger is unplugged; the start's own events are ahead in the queue. -/
def unplugging : Context × Tasks := ((booted {} none).1, (booted {} none).2.send (.acChanged false))

/-- The turns of the startup's events and of an unplug. -/
def unplugged : Context × Tasks :=
  turn {} none (.acChanged false)
    (turn {} none (.powerOverrideChanged none) (turn {} none .monitorsChanged unplugging))

/-- They are a run. -/
theorem run_unplugged : Run ⟨false, true⟩ (fun _ _ _ _ _ => True) unplugged.1 unplugged.2 := by
  have hmonitors := run_turn {} none .monitorsChanged unplugging
    (run_booted (fun _ _ _ _ _ => True) {} none (by decide +kernel))
      (.single (.send (.acChanged false)))
    (by decide +kernel) trivial
  have hoverride := run_turn {} none (.powerOverrideChanged none) _ hmonitors .refl
    (by decide +kernel) trivial
  exact run_turn {} none (.acChanged false) _ hoverride .refl (by decide +kernel) trivial

/-- In the countdown with the AC axes apart both timers are pending. -/
theorem timers_pending_unplugged : ∃ c w, Run ⟨false, true⟩ (fun _ _ _ _ _ => True) c w ∧
    (c.state = .countdown ∧ c.onAc ≠ c.onAcSettled) ∧ Pending .grace c w ∧ Pending .settle c w := by
  have hstate : unplugged.1.state = .countdown := by decide +kernel
  have hac : unplugged.1.onAc ≠ unplugged.1.onAcSettled := by decide +kernel
  obtain ⟨hgrace, hsettle⟩ := timers_pending ⟨false, true⟩ run_unplugged
  exact ⟨_, _, run_unplugged, ⟨hstate, hac⟩, hgrace hstate, hsettle hac⟩

end Tasks

end Hyprstate
