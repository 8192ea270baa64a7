import Hyprstate.Daemon.Reconciler
import Hyprstate.Reconcile.Tick

/-!
# Failed reads of a reconcile pass

A read that fails should leave the context as it was. The five sources of a pass fail in three ways:
an absent field of the snapshot, which the tick skips; the previous count of external monitors,
which is the reconciler's own; and no inhibitor at all. The first way keeps the context. The others
keep it just where what they stand for is what the context has.
-/

namespace Hyprstate

open Reactive Process Reconciler

/-- The tick kept the field of each source that failed, and the state where nothing was read but a
lid and a request file that have not moved. -/
structure FailuresKept (r : Reads) (a : TickReads) (c c' : Context) : Prop where
  ext : r.monitors = none → c'.extMonCount = c.extMonCount
  wayland : r.clients = none → c'.waylandInhibitor = c.waylandInhibitor
  logind : r.inhibitors = none → c'.logindInhibitor = c.logindInhibitor
  locked : r.lockedHint = none → c'.locked = c.locked
  onAc : r.onAc = none → c'.onAc = c.onAc
  state : r.monitors = none → r.clients = none → r.inhibitors = none → r.lockedHint = none →
    r.onAc = none → (c.lidPresent = true → r.lid = some c.lidClosed) →
    a.standing = c.suspendRequested → c'.state = c.state

section

variable (fx : Effectors)

/-- A pass and its tick keep what the failed sources stand for exactly where the reconciler's
previous count is the context's, or the monitors were listed, and the context has no logind
inhibitor, or the inhibitors were listed. -/
theorem failuresKept_iff {r : Reads} {a : TickReads} {prev prev' : Nat}
    {tr : List (Obs (Nat × Eff) (stamped Eff.Ans))} {tr' : List DaemonObs}
    {snap : ReconcileSnapshot} {reasons : List ReconcileTrigger} {c c' : Context}
    (hgather : Process.Runs (gather fx.session c.lidPresent) prev tr (some snap) prev')
    (hr : r.Of tr)
    (htick : Process.Runs (fx.dispatch (.reconcileTick { snap with reasons := describe reasons }))
      c tr' () c')
    (ha : a.Of tr') :
    FailuresKept r a c c' ↔ (r.monitors = none → prev = c.extMonCount) ∧
      (r.inhibitors = none → c.logindInhibitor = false) := by
  have hsnap := gather_spec fx.session c.lidPresent hgather hr
  obtain ⟨lid, hlid, rfl⟩ := Option.map_eq_some_iff.mp hsnap.symm
  obtain ⟨hin, hst, -, -⟩ := tick_spec fx a htick ha
  obtain ⟨hext, hway, hlog, hlock, hac⟩ := repairedInputs_fields fx a
    { snapshot fx.session prev r lid with reasons := describe reasons } c
  -- What the tick leaves is the snapshot, and the snapshot is what the reads gave.
  have hext' : c'.extMonCount = extMonitorCountIn r.monitors prev :=
    (congrArg Inputs.extMonCount hin).trans hext
  have hlog' : c'.logindInhibitor = (r.inhibitors.map logindHasRealIdleBlock).getD false :=
    (congrArg Inputs.logindInhibitor hin).trans hlog
  constructor
  · intro h
    refine ⟨fun hm => ?_, fun hi => ?_⟩
    · rw [← h.ext hm, hext', hm]
      rfl
    · rw [← h.logind hi, hlog', hi]
      rfl
  -- A failed read of the other three falls back to the context by itself.
  · rintro ⟨hprev, hclaim⟩
    refine
      { ext := fun hm => ?_
        wayland := fun hw => ?_
        logind := fun hi => ?_
        locked := fun hl => ?_
        onAc := fun ho => ?_
        state := fun hm hw hi hl ho hlidc hreq => ?_ }
    · rw [hext', hm]
      exact hprev hm
    · refine (congrArg Inputs.waylandInhibitor hin).trans (hway.trans ?_)
      simp [snapshot, hw]
    · rw [hlog', hi, hclaim hi]
      rfl
    · refine (congrArg Inputs.locked hin).trans (hlock.trans ?_)
      simp [snapshot, hl]
    · refine (congrArg Inputs.onAc hin).trans (hac.trans ?_)
      simp [snapshot, ho]
    · -- Nothing drifts, so the machine is not evaluated.
      have hlideq : c.lidPresent = true → lid = c.lidClosed := by
        intro hp
        rw [Reads.lidOf, if_pos hp, hlidc hp] at hlid
        exact (Option.some.inj hlid).symm
      have hdrift : Effectors.fsmDrift
          { snapshot fx.session prev r lid with reasons := describe reasons } c a.standing =
            false := by
        simp only [Effectors.fsmDrift, snapshot, hm, hw, hi, hl, hreq, hclaim hi]
        simp [extMonitorCountIn, hprev hm]
        exact hlideq
      rw [hst, tickState, if_neg (by simp [hdrift])]

end

/-! ## A failed ListInhibitors -/

/-- A pass on a machine with its lid shut, where ListInhibitors fails. -/
def inhibitorsFailed : Reads where
  lid := some true
  monitors := some []
  inhibitors := none
  clients := some []
  lockedHint := some false
  onAc := some true
  cursorPos := none

/-- The lid is shut on a machine that a logind inhibitor keeps awake. -/
def heldAwake : Context := { lidClosed := true, logindInhibitor := true, state := .deferred }

/-- The rule at the pass that loses the inhibitor: it does not keep what failed. -/
theorem failuresKept_iff_heldAwake :
    ∃ (tr : List (Obs (Nat × Eff) (stamped Eff.Ans))) (tr' : List DaemonObs) (c' : Context),
      Process.Runs (gather true true) 0 tr (some (snapshot true 0 inhibitorsFailed true)) 0 ∧
        Process.Runs (Effectors.dispatch ⟨false, true⟩ (.reconcileTick
          { snapshot true 0 inhibitorsFailed true with reasons := describe [.safetyTick] }))
          heldAwake tr' () c' ∧
        (FailuresKept inhibitorsFailed .quiet heldAwake c' ↔
          (inhibitorsFailed.monitors = none → 0 = heldAwake.extMonCount) ∧
            (inhibitorsFailed.inhibitors = none → heldAwake.logindInhibitor = false)) := by
  have hgather := runs_answered (gather true true) inhibitorsFailed.answers 0
  have htick := runs_answered (Effectors.dispatch ⟨false, true⟩ (.reconcileTick
    { snapshot true 0 inhibitorsFailed true with reasons := describe [.safetyTick] }))
    Eff.quiet heldAwake
  exact ⟨_, _, _, hgather, htick, failuresKept_iff ⟨false, true⟩ (c := heldAwake) hgather
    (fun _ => answer_of_mem_answered) htick (TickReads.of_answered TickReads.quiet_admits)⟩

/-- A failed ListInhibitors drops the inhibitor and starts the countdown. -/
theorem not_failuresKept : ¬∀ (fx : Effectors) (r : Reads) (a : TickReads) (prev prev' : Nat)
    (tr : List (Obs (Nat × Eff) (stamped Eff.Ans))) (tr' : List DaemonObs)
    (snap : ReconcileSnapshot) (reasons : List ReconcileTrigger) (c c' : Context),
    Process.Runs (gather fx.session c.lidPresent) prev tr (some snap) prev' → r.Of tr →
    Process.Runs (fx.dispatch (.reconcileTick { snap with reasons := describe reasons }))
      c tr' () c' → a.Of tr' → FailuresKept r a c c' := by
  intro h
  have hkept := h ⟨false, true⟩ inhibitorsFailed .quiet 0 0 _ _
    (snapshot true 0 inhibitorsFailed true) [.safetyTick] heldAwake _
    (runs_answered (gather true true) inhibitorsFailed.answers 0)
    (fun _ => answer_of_mem_answered)
    (runs_answered (Effectors.dispatch ⟨false, true⟩ _) Eff.quiet heldAwake)
    (TickReads.of_answered TickReads.quiet_admits)
  exact absurd (hkept.logind rfl) (by decide)

end Hyprstate
