import Hyprstate.Powerd.Machine

/-!
# Coalescing

Calls of `ApplyProfile` that arrive during an apply overwrite one slot, and only the call whose
profile is in the slot when it gets the lock applies. Supersession compares profiles and not calls,
which is harmless: whatever the slot holds is applied last, or a call for it is still to come
(`Coalesces`). The lock has one holder (`Exclusive`), which always gives it back, so the calls go on
(`pending_goes_on`).
-/

namespace Hyprstate

namespace Powerd

/-- The profile is the last one applied, the active one and the persisted one. -/
def Settled (s : Powerd) (p : PowerProfile) : Prop :=
  s.applied = some p ∧ s.active = p ∧ s.persisted = p

/-- A call for the profile is yet to be checked. -/
def Unchecked (s : Powerd) (p : PowerProfile) : Prop :=
  ∃ i, s.calls i = .waiting p ∨ s.calls i = .holding p

/-- The profile in the slot is settled, or a call for it has not been checked yet. -/
def Coalesces (s : Powerd) : Prop := ∀ p, s.latest = some p → s.Settled p ∨ s.Unchecked p

/-- A call that is yet to be checked is not moved by a step of another. -/
theorem unchecked_setCall {s : Powerd} {i j : Nat} {p : PowerProfile} {call : Call} (hne : j ≠ i)
    (h : s.calls j = .waiting p ∨ s.calls j = .holding p) : (s.setCall i call).Unchecked p :=
  ⟨j, by rwa [setCall_calls, Function.update_of_ne hne]⟩

/-- No step leaves the profile in the slot without a call to come, except by applying it. -/
theorem unchecked_step {s s' : Powerd} {p : PowerProfile} (h : Step s s')
    (hs : s.latest = some p → s.Unchecked p) (hp : s'.latest = some p) :
    s'.Settled p ∨ s'.Unchecked p := by
  cases h with
  | @request i profile hi =>
    unfold request at hp ⊢
    cases hparse : PowerProfile.parse profile with
    | none =>
      rw [hparse] at hp
      obtain ⟨j, hj⟩ := hs hp
      have hne : j ≠ i := by
        rintro rfl
        rw [hi] at hj
        rcases hj with hj | hj <;> exact absurd hj (by simp)
      exact .inr (unchecked_setCall hne hj)
    | some parsed =>
      -- The call that writes the slot is the one to come.
      rw [hparse] at hp
      obtain rfl : parsed = p := Option.some.inj hp
      exact .inr ⟨i, .inl (Function.update_self i _ _)⟩
  | @acquire i q hi hlock =>
    obtain ⟨j, hj⟩ := hs hp
    by_cases hne : j = i
    · subst hne
      have hqp : q = p := by
        rw [hi] at hj
        simpa using hj
      exact .inr ⟨j, .inr (by rw [← hqp]; exact Function.update_self j _ _)⟩
    · exact .inr (unchecked_setCall hne hj)
  | @check i q hi =>
    unfold checkAndApply at hp ⊢
    by_cases hlatest : s.latest = some q
    · rw [if_neg (not_not.mpr hlatest)] at hp ⊢
      obtain rfl : q = p := Option.some.inj (hlatest.symm.trans hp)
      exact .inl ⟨rfl, rfl, rfl⟩
    · rw [if_pos hlatest] at hp ⊢
      obtain ⟨j, hj⟩ := hs hp
      -- A superseded call is for another profile than the slot's.
      have hne : j ≠ i := by
        rintro rfl
        rw [hi] at hj
        have hqp : q = p := by simpa using hj
        exact hlatest (hqp ▸ hp)
      exact .inr (unchecked_setCall hne hj)
  | @signalled i q hi =>
    obtain ⟨j, hj⟩ := hs hp
    have hne : j ≠ i := by
      rintro rfl
      rw [hi] at hj
      rcases hj with hj | hj <;> exact absurd hj (by simp)
    exact .inr (unchecked_setCall hne hj)

/-- The slot is never emptied. -/
theorem latest_step {s s' : Powerd} {p : PowerProfile} (h : Step s s') (hp : s.latest = some p) :
    ∃ q, s'.latest = some q := by
  cases h with
  | request profile hi =>
    unfold request
    cases PowerProfile.parse profile with
    | none => exact ⟨p, hp⟩
    | some parsed => exact ⟨parsed, rfl⟩
  | acquire hi hlock => exact ⟨p, hp⟩
  | check hi =>
    unfold checkAndApply
    split_ifs <;> exact ⟨p, hp⟩
  | signalled hi => exact ⟨p, hp⟩

/-- A settled profile stays so while the slot has it. -/
theorem settled_step {s s' : Powerd} {p : PowerProfile} (h : Step s s') (hs : s.Settled p)
    (hp : s'.latest = some p) : s'.Settled p := by
  rcases step_cases h with ⟨hknobs, hactive, hpersisted⟩ | ⟨i, q, -, -, hq, hknobs,
    hactive, hpersisted⟩
  · unfold Settled applied
    rw [hknobs, hactive, hpersisted]
    exact hs
  · obtain rfl : q = p := Option.some.inj (hq.symm.trans hp)
    exact ⟨by rw [applied, hknobs]; rfl, hactive, hpersisted⟩

/-- One step keeps that only the newest call applies. -/
theorem coalesces_step {s s' : Powerd} (hs : s.Coalesces) (h : Step s s') : s'.Coalesces := by
  intro p hp
  by_cases hun : s.latest = some p → s.Unchecked p
  · exact unchecked_step h hun hp
  · obtain ⟨hlatest, hno⟩ := Classical.not_imp.mp hun
    exact .inl (settled_step h ((hs p hlatest).resolve_right hno) hp)

/-- So does a run. -/
theorem coalesces_of_reaches {active persisted : PowerProfile}
    {knobs : List (Applier × PowerProfile)} {s : Powerd}
    (h : Reaches (start active persisted knobs) s) : s.Coalesces := by
  induction h with
  | refl =>
    intro p hp
    exact absurd hp (by simp [start])
  | tail _ hstep ih => exact coalesces_step ih hstep

/-- The lock is held by the one call that says so. -/
def Exclusive (s : Powerd) : Prop := ∀ i, (s.calls i).locks = true ↔ s.applyLock = some i

/-- A call that comes to have the lock, or to have it no more, among the others. -/
theorem exclusive_setCall {s : Powerd} {i : Nat} {call : Call} {lock : Option Nat}
    (hself : call.locks = true ↔ lock = some i)
    (hothers : ∀ j, j ≠ i → ((s.calls j).locks = true ↔ lock = some j)) :
    ({ s with applyLock := lock }.setCall i call).Exclusive := by
  intro j
  by_cases hj : j = i
  · subst hj
    simpa using hself
  · simpa [Function.update_of_ne hj] using hothers j hj

/-- One step keeps that one call at most holds the lock. -/
theorem exclusive_step {s s' : Powerd} (hs : s.Exclusive) (h : Step s s') : s'.Exclusive := by
  -- Where a call has the lock, giving it back leaves it free.
  have hback : ∀ {i : Nat} {call : Call}, (s.calls i).locks = true → call.locks = false →
      ({ s with applyLock := none }.setCall i call).Exclusive := by
    intro i call hi hcall
    refine exclusive_setCall (by simp [hcall]) fun j hj => ?_
    have hlock : s.applyLock = some i := (hs i).mp hi
    have hno : ¬(s.calls j).locks = true := fun h =>
      hj (Option.some.inj (((hs j).mp h).symm.trans hlock))
    simpa using hno
  cases h with
  | @request i profile hi =>
    have hfree : ¬s.applyLock = some i := fun h => by simpa [hi, Call.locks] using (hs i).mpr h
    unfold request
    cases PowerProfile.parse profile with
    | none => exact exclusive_setCall (by simpa [Call.locks] using hfree) fun j _ => hs j
    | some parsed =>
      exact exclusive_setCall (by simpa [Call.locks] using hfree) fun j _ => hs j
  | @acquire i p hi hlock =>
    refine exclusive_setCall (by simp [Call.locks]) fun j hj => ?_
    have hno : ¬(s.calls j).locks = true := fun h => by simpa [hlock] using (hs j).mp h
    simpa [hno] using Ne.symm hj
  | @check i p hi =>
    have hlocks : (s.calls i).locks = true := by rw [hi]; rfl
    unfold checkAndApply
    by_cases hlatest : s.latest = some p
    · rw [if_neg (not_not.mpr hlatest)]
      exact exclusive_setCall (by simpa [Call.locks, powerdApply] using (hs i).mp hlocks)
        fun j _ => hs j
    · rw [if_pos hlatest]
      exact hback hlocks rfl
  | @signalled i p hi =>
    have hlocks : (s.calls i).locks = true := by rw [hi]; rfl
    exact hback hlocks rfl

/-- So does a run. -/
theorem exclusive_of_reaches {active persisted : PowerProfile}
    {knobs : List (Applier × PowerProfile)} {s : Powerd}
    (h : Reaches (start active persisted knobs) s) : s.Exclusive := by
  induction h with
  | refl =>
    intro i
    simp [start, Call.locks]
  | tail _ hstep ih => exact exclusive_step ih hstep

/-- No call waits for ever on a lock that nobody gives back: while one is pending, one can go on. -/
theorem pending_goes_on {active persisted : PowerProfile} {knobs : List (Applier × PowerProfile)}
    {s : Powerd} (h : Reaches (start active persisted knobs) s) {i : Nat}
    (hi : (s.calls i).pending = true) :
    ∃ j s', Step s s' ∧ (s.calls j).pending = true ∧ s'.calls j ≠ s.calls j := by
  have hs : s.Exclusive := exclusive_of_reaches h
  cases hlock : s.applyLock with
  | some j =>
    have hlocks : (s.calls j).locks = true := (hs j).mpr hlock
    cases hj : s.calls j with
    | holding p =>
      refine ⟨j, _, .check hj, by rw [hj]; rfl, ?_⟩
      unfold checkAndApply
      split_ifs <;> simp [hj]
    | signalling p => exact ⟨j, _, .signalled hj, by rw [hj]; rfl, by simp [hj]⟩
    | idle | waiting _ | returned _ _ | invalid _ => exact absurd hlocks (by simp [hj, Call.locks])
  | none =>
    have hno : ¬(s.calls i).locks = true := fun h => by simpa [hlock] using (hs i).mp h
    cases hcall : s.calls i with
    | waiting p => exact ⟨i, _, .acquire hcall hlock, by rw [hcall]; rfl, by simp [hcall]⟩
    | holding _ | signalling _ => exact absurd (by rw [hcall]; rfl) hno
    | idle | returned _ _ | invalid _ => exact absurd hi (by simp [hcall, Call.pending])

/-- In every run of calls, an apply is of the profile in the slot; and once all calls have returned,
the profile in the slot is the last one applied, the active one and the persisted one. -/
theorem coalesced {active persisted : PowerProfile} {knobs : List (Applier × PowerProfile)}
    {s : Powerd} (h : Reaches (start active persisted knobs) s) :
    (∀ s' who p, Step s s' → s'.knobs = (who, p) :: s.knobs → s.latest = some p) ∧
      ((∀ i, (s.calls i).pending = false) → ∀ p, s.latest = some p →
        s.applied = some p ∧ s.active = p ∧ s.persisted = p) := by
  constructor
  · intro s' who p hstep hknobs
    rcases step_cases hstep with ⟨hsame, -, -⟩ | ⟨i, q, -, hlatest, -, hrun, -, -⟩
    · exact absurd (hknobs.symm.trans hsame) (by simp)
    · have hpq : p = q := congrArg Prod.snd (List.cons.inj (hknobs.symm.trans hrun)).1
      exact hpq ▸ hlatest
  · intro hreturned p hp
    refine (coalesces_of_reaches h p hp).resolve_right ?_
    rintro ⟨i, hi⟩
    have hidle := hreturned i
    rcases hi with hi | hi <;> rw [hi] at hidle <;> exact absurd hidle (by simp [Call.pending])

/-- Two calls, the second of which writes the slot before the first gets the lock. -/
theorem coalesced_two : ∃ s, Reaches (start .balanced .balanced []) s ∧
    s.calls 0 = .returned .performance (.coalesced "superseded-by:power-saver") ∧
    s.applied = some .powerSaver ∧ s.active = .powerSaver ∧ s.persisted = .powerSaver := by
  have h₁ := Step.request (s := start .balanced .balanced []) (i := 0) "performance" rfl
  have h₂ := (Relation.ReflTransGen.single h₁).tail (.request (i := 1) "power-saver" rfl)
  have h₃ := h₂.tail (.acquire (i := 0) (p := .performance) rfl rfl)
  have h₄ := h₃.tail (.check (i := 0) (p := .performance) rfl)
  have h₅ := h₄.tail (.acquire (i := 1) (p := .powerSaver) rfl rfl)
  have h₆ := h₅.tail (.check (i := 1) (p := .powerSaver) rfl)
  have h₇ := h₆.tail (.signalled (i := 1) (p := .powerSaver) rfl)
  refine ⟨_, h₇, rfl, (coalesced h₇).2 (fun i => ?_) .powerSaver rfl⟩
  rcases i with _ | _ | i <;> rfl

end Powerd

end Hyprstate
