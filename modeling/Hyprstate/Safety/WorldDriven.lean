import Hyprstate.Reconcile.Tick

/-!
# The machine is driven by its world

Between events the machine should rest where its world says, or be suspending. Every event that
moves an input falls through to the machine, which goes where the world rests. The reconcile tick
evaluates the machine by itself, and only for a drift of its own inputs: the raw and the settled AC
axis are inputs of the world too, and a tick that repairs nothing else leaves the machine where it
was.
-/

namespace Hyprstate

open Reactive Process

/-- The machine is suspending, or where its world rests. -/
def Rested (c : Context) : Prop := c.state = .suspending ∨ c.state = worldState c.world

/-- An evaluation that settled leaves the state at rest. -/
theorem rested_of_settled {kind : EventKind} (ht : kind ≠ .timerExpired) (hr : kind ≠ .resumed)
    {c c' : Context} (hin : c'.inputs = c.inputs) (hst : c'.state = settled kind c) :
    Rested c' := by
  rw [Rested, world_eq_of_inputs_eq hin, hst, settled_eq c ht hr]
  split
  · exact .inl rfl
  · exact .inr rfl

/-- A state at rest stays so while the inputs and it stay. -/
theorem Rested.of_keepsMain {c c' : Context} (h : Rested c) (hk : keepsMain c c') : Rested c' := by
  rwa [Rested, world_eq_of_inputs_eq hk.1, hk.2]

/-- An arm that does not fall through has moved no input, the tick aside. -/
theorem Arm.keepsMain_of_not_falls {c c' : Context} {ev : Event} (h : Arm c ev false c')
    (hev : ∀ snap, ev ≠ .reconcileTick snap) : keepsMain c c' := by
  cases ev with
  | reconcileTick snap => exact absurd rfl (hev snap)
  | lid closed =>
    obtain ⟨hst, hfalls, h⟩ := h
    rw [if_neg (by simp [← hfalls])] at h
    exact ⟨h, hst⟩
  | acChanged onAc =>
    obtain ⟨hst, hfalls, h⟩ := h
    rw [if_pos (by simpa using hfalls.symm)] at h
    exact ⟨h, hst⟩
  | batteryPercent pct =>
    obtain ⟨hst, r, -, hsame⟩ := h
    exact ⟨hsame rfl, hst⟩
  | inhibitor wayland active => cases wayland <;> exact absurd h.2.1 (by simp)
  | monitorHotplug _ _ | lockChanged _ | powerAcSettled | suspendRequestChanged _ | timerExpired
  | powerdAppeared | resumed => exact absurd h.2.1 (by simp)
  | platformProfileChanged _ | gpuOverrideChanged _ | powerOverrideChanged _ =>
    exact absurd h.1 (by simp)
  | configReloaded | profileApplied | monitorsChanged | profilesChanged | backlightHotplug
  | sleeping | kbdIdle _ | kbdLevelChanged _ | kbdOverrideChanged _ | kbdLedHotplug => exact h.2

/-- Every event but a tick, an expiry and a resume keeps the machine at rest. -/
theorem Dispatched.rested {c c' : Context} {ev : Event} (h : Dispatched c ev c')
    (ht : ev ≠ .timerExpired) (hr : ev ≠ .resumed) (hev : ∀ snap, ev ≠ .reconcileTick snap)
    (hc : Rested c) : Rested c' := by
  obtain ⟨falls, c₁, harm, hin, hst⟩ := h
  cases falls with
  | true =>
    rw [if_pos rfl] at hst
    refine rested_of_settled (fun h => ht ((Event.kind_eq_timerExpired_iff ev).mp h))
      (fun h => hr ((Event.kind_eq_resumed_iff ev).mp h)) hin ?_
    rcases hst with hst | ⟨h, -⟩
    · exact hst
    · exact absurd h ht
  | false =>
    rw [if_neg (by simp)] at hst
    have hk := harm.keepsMain_of_not_falls hev
    exact hc.of_keepsMain (hk.trans ⟨hin, hst⟩)

/-! ## The tick -/

section

variable (fx : Effectors) (a : TickReads)

/-- A snapshot without drift of the machine's own inputs moves the raw AC axis at most. -/
theorem fsmDrift_eq_false_iff (snap : ReconcileSnapshot) (c : Context) (standing : Bool) :
    Effectors.fsmDrift snap c standing = false ↔
      (repaired snap standing c).inputs =
        { c.inputs with onAc := snap.onAc.getD c.onAc } := by
  simp only [Effectors.fsmDrift, repaired, Context.inputs, Inputs.mk.injEq, Bool.or_eq_false_iff,
    Bool.and_eq_false_imp, decide_eq_false_iff_not, ne_eq, not_not]
  constructor
  · rintro ⟨⟨⟨⟨⟨hlid, hreq⟩, hext⟩, hlog⟩, hway⟩, hlock⟩
    refine ⟨?_, trivial, trivial, hext, hlog, hway, hlock, trivial, hreq, trivial, trivial⟩
    split_ifs with hp
    · exact hlid hp
    · rfl
  · rintro ⟨hlid, -, -, hext, hlog, hway, hlock, -, hreq, -, -⟩
    refine ⟨⟨⟨⟨⟨fun hp => ?_, hreq⟩, hext⟩, hlog⟩, hway⟩, hlock⟩
    rwa [if_pos hp] at hlid

/-- The context with its AC axes flipped together, and the request after the battery-low check. -/
def acFlipped (c : Context) : Context :=
  let c₁ := { c with onAc := !c.onAc, onAcSettled := !c.onAc }
  { c₁ with suspendRequested := a.requestAfter fx c₁ }

/-- The tick repairs the raw AC axis alone, and the world rests elsewhere after that. -/
def ParksOnAc (c : Context) : Event → Prop
  | .reconcileTick snap =>
    c.state ≠ .suspending ∧
      (repaired snap a.standing c).inputs = { c.inputs with onAc := !c.onAc } ∧
      worldState (acFlipped fx a c).world ≠ c.state
  | _ => False

/-- Without a drift the repairs leave the inputs. -/
theorem repairedInputs_of_not_powerDrift {snap : ReconcileSnapshot} {c : Context}
    (hf : Effectors.fsmDrift snap c a.standing = false)
    (hp : Effectors.powerDrift snap c = false) :
    (repairedInputs fx a snap c).inputs = c.inputs := by
  have hac : snap.onAc.getD c.onAc = c.onAc := by
    simp only [Effectors.powerDrift, Bool.or_eq_false_iff, decide_eq_false_iff_not, ne_eq,
      not_not] at hp
    exact hp.2
  rw [repairedInputs, if_neg (by simp [hp]), (fsmDrift_eq_false_iff snap c _).mp hf, hac]
  rfl

/-- With one of the supply alone they move the supply alone. -/
theorem repairedInputs_of_powerDrift {snap : ReconcileSnapshot} {c : Context}
    (hin : (repaired snap a.standing c).inputs = { c.inputs with onAc := !c.onAc })
    (hp : Effectors.powerDrift snap c = true) :
    (repairedInputs fx a snap c).inputs = (acFlipped fx a c).inputs := by
  have hac : (repaired snap a.standing c).onAc = !c.onAc := congrArg Inputs.onAc hin
  have hreq : (repaired snap a.standing c).suspendRequested = c.suspendRequested :=
    congrArg Inputs.suspendRequested hin
  have hcheck : a.requestAfter fx
        { repaired snap a.standing c with onAcSettled := (repaired snap a.standing c).onAc } =
      a.requestAfter fx { c with onAc := !c.onAc, onAcSettled := !c.onAc } := by
    simp only [TickReads.requestAfter, hac, hreq]
    rfl
  have hleft : (repairedInputs fx a snap c).inputs =
      { (repaired snap a.standing c).inputs with
        onAcSettled := (repaired snap a.standing c).onAc
        suspendRequested := a.requestAfter fx
          { repaired snap a.standing c with
            onAcSettled := (repaired snap a.standing c).onAc } } := by
    rw [repairedInputs, if_pos hp]
    rfl
  rw [hleft, hcheck, hin, hac]
  rfl

/-- A tick keeps the machine at rest unless it parks it. -/
theorem tick_rested_iff {snap : ReconcileSnapshot} {c c' : Context} {tr : List DaemonObs}
    (h : Process.Runs (fx.dispatch (.reconcileTick snap)) c tr () c') (ha : a.Of tr)
    (hc : Rested c) : Rested c' ↔ ¬ParksOnAc fx a c (.reconcileTick snap) := by
  obtain ⟨hin, hst, -, -⟩ := tick_spec fx a h ha
  -- A drift of the machine's inputs evaluates it, and then it rests.
  by_cases hf : Effectors.fsmDrift snap c a.standing = true
  · rw [tickState, if_pos hf] at hst
    refine iff_of_true (rested_of_settled (by simp) (by simp) hin hst) ?_
    rintro ⟨-, hac, -⟩
    have hdrift := (fsmDrift_eq_false_iff snap c a.standing).mpr ?_
    · exact absurd (hf.symm.trans hdrift) (by simp)
    · rw [hac]
      exact congrArg (fun b => { c.inputs with onAc := b }) (congrArg Inputs.onAc hac).symm
  · rw [Bool.not_eq_true] at hf
    rw [tickState, if_neg (by simp [hf])] at hst
    -- Without one, a repair of the AC axis alone moves the inputs and evaluates nothing.
    by_cases hp : Effectors.powerDrift snap c = true
    · have hac : snap.onAc.getD c.onAc = !c.onAc := by
        have hext : snap.extMonCount = c.extMonCount :=
          congrArg Inputs.extMonCount ((fsmDrift_eq_false_iff snap c _).mp hf)
        simp only [Effectors.powerDrift, hext, ne_eq, not_true, decide_false, Bool.false_or,
          decide_eq_true_eq] at hp
        exact Bool.eq_not_of_ne hp
      have hrep : (repaired snap a.standing c).inputs = { c.inputs with onAc := !c.onAc } := by
        rw [(fsmDrift_eq_false_iff snap c _).mp hf, hac]
      rw [Rested, world_eq_of_inputs_eq (hin.trans (repairedInputs_of_powerDrift fx a hrep hp)),
        hst]
      constructor
      · rintro (hs | hs) ⟨hns, -, hmoved⟩
        · exact hns hs
        · exact hmoved hs.symm
      · intro hn
        by_contra hcon
        rw [not_or] at hcon
        exact hn ⟨hcon.1, hrep, fun h => hcon.2 h.symm⟩
    · rw [Bool.not_eq_true] at hp
      refine iff_of_true (hc.of_keepsMain
        ⟨hin.trans (repairedInputs_of_not_powerDrift fx a hf hp), hst⟩) ?_
      rintro ⟨-, hac, -⟩
      have hsame : snap.onAc.getD c.onAc = c.onAc := by
        simp only [Effectors.powerDrift, Bool.or_eq_false_iff, decide_eq_false_iff_not, ne_eq,
          not_not] at hp
        exact hp.2
      exact absurd ((congrArg Inputs.onAc hac).symm.trans hsame) (by simp)

/-- Over every event but an expiry and a resume, the machine stays at rest exactly where the event
is no tick that parks it. -/
theorem rested_iff {ev : Event} {c c' : Context} {tr : List DaemonObs} (ht : ev ≠ .timerExpired)
    (hr : ev ≠ .resumed) (hc : Rested c) (hrun : Process.Runs (fx.dispatch ev) c tr () c')
    (ha : ∀ snap, ev = .reconcileTick snap → a.Of tr) :
    Rested c' ↔ ¬ParksOnAc fx a c ev := by
  by_cases hev : ∃ snap, ev = .reconcileTick snap
  · obtain ⟨snap, rfl⟩ := hev
    exact tick_rested_iff fx a hrun (ha snap rfl) hc
  · have htick : ∀ snap, ev ≠ .reconcileTick snap := fun snap h => hev ⟨snap, h⟩
    have hdisp := (Program.Runs.of_meets hrun (dispatch_spec fx c ev ht)).2
    refine iff_of_true (hdisp.rested ht hr htick hc) ?_
    cases ev with
    | reconcileTick snap => exact absurd rfl (htick snap)
    | _ => exact id

end

/-! ## A laptop parked awake -/

/-- The lid is shut and the machine awake, on AC under a lid-ac hold. -/
def heldOnAc : Context := { lidClosed := true, lidAc := .defer, state := .deferred }

/-- A pass that finds AC gone, and nothing else moved. -/
def acGone : ReconcileSnapshot where
  lidClosed := true
  onAc := some false

/-- The rule at the tick that finds AC gone. -/
theorem rested_iff_acGone : ∃ (tr : List DaemonObs) (c' : Context),
    Process.Runs (Effectors.dispatch ⟨false, true⟩ (.reconcileTick acGone)) heldOnAc tr () c' ∧
      (Rested c' ↔ ¬ParksOnAc ⟨false, true⟩ .quiet heldOnAc (.reconcileTick acGone)) := by
  have hrun := runs_answered (Effectors.dispatch ⟨false, true⟩ (.reconcileTick acGone)) Eff.quiet
    heldOnAc
  exact ⟨_, _, hrun, rested_iff ⟨false, true⟩ .quiet (by simp) (by simp) (.inr (by decide)) hrun
    fun _ _ => TickReads.of_answered TickReads.quiet_admits⟩

/-- A tick that finds AC gone leaves a shut laptop awake, where its world wants the countdown. -/
theorem not_rested : ¬∀ (fx : Effectors) (ev : Event) (c c' : Context) (tr : List DaemonObs),
    ev ≠ .timerExpired → ev ≠ .resumed → Rested c → Process.Runs (fx.dispatch ev) c tr () c' →
    Rested c' := by
  intro h
  have hrested := h ⟨false, true⟩ (.reconcileTick acGone) heldOnAc _ _ (by simp) (by simp)
    (.inr (by decide)) (runs_answered _ Eff.quiet heldOnAc)
  rcases hrested with hs | hs <;> exact absurd hs (by decide)

end Hyprstate
