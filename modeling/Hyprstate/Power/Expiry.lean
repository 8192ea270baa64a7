import Hyprstate.Powerd.Client
import Mathlib.Data.List.Chain

/-!
# How long a power override lives

The law is about edges: an override ends at the first policy check whose base state is on the other
AC axis than the check before it, or is battery-low when the one before was not. The code compares
with the base state it stamped when it first saw the override. Not ending is a preorder on the base
states, so a chain of edges that end nothing never leaves the stamp's up-set, and the two agree as
long as the preorder is not walked back: from battery into battery-low, under the stamp of
battery-low (`expiresOnEdges_iff`).
-/

namespace Hyprstate

open Reactive Process

/-! ## Stamp and edges -/

/-- The base state `b` does not end an override that was stamped with `a`. -/
def Outlives (a b : BaseState) : Prop := overrideEnds a b = false

/-- Whether an override outlives a step is decidable. -/
instance : DecidableRel Outlives := fun a b => decEq (overrideEnds a b) false

/-- An override outlives a base state that stays. -/
theorem outlives_refl (a : BaseState) : Outlives a a := by cases a <;> rfl

/-- It outlives two steps where it outlives each, by the nine base states. -/
instance : IsTrans BaseState Outlives where
  trans a b c hab hbc := by
    revert hab hbc
    cases a <;> cases b <;> cases c <;> decide

/-- An edge that ends an override, between base states that the stamp outlives, is the entry into
battery-low, and the stamp is battery-low itself. -/
theorem reentry_of_ends {s a b : BaseState} (ha : Outlives s a) (hb : Outlives s b)
    (hends : ¬Outlives a b) : s = .batteryLow ∧ a = .battery ∧ b = .batteryLow := by
  revert ha hb hends
  cases s <;> cases a <;> cases b <;> decide

/-- The base states of the checks, the stamp first, enter battery-low again from battery before they
show the AC side, and the stamp is battery-low. -/
def Reentered (bs : List BaseState) : Prop :=
  bs.head? = some .batteryLow ∧
    ∃ l, l ++ [.battery, .batteryLow] <+: bs ∧ ∀ b ∈ l, acAxis b = .battery

/-- No edge that ends an override, then the stamp does not end it either. -/
theorem outlives_of_isChain {s : BaseState} {bs : List BaseState}
    (h : List.IsChain Outlives (s :: bs)) : ∀ b ∈ s :: bs, Outlives s b := by
  intro b hb
  rcases List.mem_cons.mp hb with rfl | hb
  · exact outlives_refl b
  · exact List.rel_of_pairwise_cons (List.isChain_iff_pairwise.mp h) hb

/-- The converse, without a re-entry. -/
theorem isChain_of_outlives {s : BaseState} {bs : List BaseState}
    (h : ∀ b ∈ s :: bs, Outlives s b) (hre : ¬Reentered (s :: bs)) :
    List.IsChain Outlives (s :: bs) := by
  rw [List.isChain_iff_forall_rel_of_append_cons_cons]
  intro a b l₁ l₂ hsplit
  by_contra hends
  have hmem : ∀ x ∈ l₁ ++ a :: b :: l₂, Outlives s x := fun x hx => h x (hsplit ▸ hx)
  obtain ⟨rfl, rfl, rfl⟩ := reentry_of_ends (hmem a (by simp)) (hmem b (by simp)) hends
  refine hre ⟨rfl, l₁, ⟨l₂, by simp [hsplit]⟩, fun x hx => ?_⟩
  have hx' := hmem x (List.mem_append_left _ hx)
  cases x <;> first | rfl | exact absurd hx' (by decide)

/-- A re-entry is an edge that ends an override which the stamp outlives. -/
theorem reentered_apart {s : BaseState} {bs : List BaseState} (h : Reentered (s :: bs)) :
    ∃ p, p <+: s :: bs ∧ p ≠ [] ∧ (∀ b ∈ p, Outlives s b) ∧ ¬List.IsChain Outlives p := by
  obtain ⟨hs, l, hl, hbat⟩ := h
  obtain rfl : s = .batteryLow := Option.some.inj hs
  refine ⟨_, hl, by simp, fun b hb => ?_, fun hchain => ?_⟩
  · have hb' : acAxis b = .battery := by
      rcases List.mem_append.mp hb with hb | hb
      · exact hbat b hb
      · rcases List.mem_pair.mp hb with rfl | rfl <;> rfl
    cases b <;> first | rfl | exact absurd hb' (by decide)
  · have hends := List.isChain_iff_forall_rel_of_append_cons_cons.mp hchain rfl
    exact absurd hends (by decide)

/-- Stamp and edges tell the same of every beginning of the checks exactly when none is a
re-entry. -/
theorem stamp_iff_edges (s : BaseState) (bs : List BaseState) :
    (∀ p, p <+: s :: bs → p ≠ [] → ((∀ b ∈ p, Outlives s b) ↔ List.IsChain Outlives p)) ↔
      ¬Reentered (s :: bs) := by
  constructor
  · intro h hre
    obtain ⟨p, hp, hne, hout, hchain⟩ := reentered_apart hre
    exact hchain ((h p hp hne).mp hout)
  · intro hre p hp hne
    obtain ⟨s', p, rfl⟩ := List.exists_cons_of_ne_nil hne
    obtain ⟨rfl, hp'⟩ := List.cons_prefix_cons.mp hp
    refine ⟨fun hout => isChain_of_outlives hout ?_, outlives_of_isChain⟩
    rintro ⟨hs, l, hl, hbat⟩
    exact hre ⟨hs, l, hl.trans hp, hbat⟩

/-! ## The checks -/

/-- One policy check: the base state it saw, and the override it left. -/
structure PolicyCheck where
  base : BaseState
  override : Option PowerProfile

/-- The successive policy checks after the override `o` was ingested, and the context after the
last. Between two of them anything happens but a change of the override. -/
inductive Checks (fx : Effectors) (o : PowerProfile) : List PolicyCheck → Context → Prop
  | ingested {c : Context} : c.power.powerOverride = some o → c.power.powerOverrideBase = none →
      Checks fx o [] c
  | check {ks : List PolicyCheck} {c c₁ c₂ : Context} {tr : List DaemonObs} : Checks fx o ks c →
      c₁.power.powerOverride = c.power.powerOverride →
      c₁.power.powerOverrideBase = c.power.powerOverrideBase →
      Process.Runs fx.powerPolicyCheck c₁ tr () c₂ →
      Checks fx o (ks ++ [⟨baseState c₁, c₂.power.powerOverride⟩]) c₂

/-- The law of V9: after each check the override is in force exactly if no edge up to it ended
it. -/
def ExpiresOnEdges (o : PowerProfile) (ks : List PolicyCheck) : Prop :=
  ∀ l k r, ks = l ++ k :: r →
    k.override = if List.IsChain Outlives ((l ++ [k]).map PolicyCheck.base) then some o else none

namespace PowerContext

/-- The record after checks that saw the base states: before the first one the override has no
stamp, then the first base state is the stamp, as long as it outlives every one that was seen. -/
def Stamped (o : PowerProfile) (p : PowerContext) : List BaseState → Prop
  | [] => p.powerOverride = some o ∧ p.powerOverrideBase = none
  | s :: bs =>
    p.powerOverride = (if ∀ b ∈ s :: bs, Outlives s b then some o else none) ∧
      p.powerOverrideBase = (if ∀ b ∈ s :: bs, Outlives s b then some s else none)

variable {o : PowerProfile} {p p' : PowerContext} {bs : List BaseState}

/-- The stamp reads the override and its base state alone. -/
theorem Stamped.congr (h : p.Stamped o bs) (ho : p'.powerOverride = p.powerOverride)
    (hb : p'.powerOverrideBase = p.powerOverrideBase) : p'.Stamped o bs := by
  cases bs with
  | nil => exact ⟨ho.trans h.1, hb.trans h.2⟩
  | cons s bs => exact ⟨ho.trans h.1, hb.trans h.2⟩

/-- The override's step sees one more base state. -/
theorem Stamped.overrideStep {base : BaseState} (h : p.Stamped o bs) :
    (p.overrideStep base).Stamped o (bs ++ [base]) := by
  cases bs with
  | nil =>
    -- The first check stamps the override, whatever the base state is.
    rw [PowerContext.overrideStep_fresh h.1 h.2]
    have hself : ∀ b ∈ [base], Outlives base b := by simpa using outlives_refl base
    exact ⟨h.1.trans (if_pos hself).symm, (if_pos hself).symm⟩
  | cons s bs =>
    obtain ⟨ho, hb⟩ := h
    by_cases hout : ∀ b ∈ s :: bs, Outlives s b
    · -- The override is in force, and the check compares with the stamp.
      rw [if_pos hout] at ho hb
      rw [PowerContext.overrideStep_stamped ho hb]
      by_cases hbase : Outlives s base
      · have hall : ∀ b ∈ s :: (bs ++ [base]), Outlives s b := by
          rw [← List.cons_append, List.forall_mem_append]
          exact ⟨hout, by simpa using hbase⟩
        rw [if_neg (by rw [hbase]; exact Bool.false_ne_true)]
        exact ⟨ho.trans (if_pos hall).symm, hb.trans (if_pos hall).symm⟩
      · have hall : ¬∀ b ∈ s :: (bs ++ [base]), Outlives s b := fun h => hbase (h base (by simp))
        rw [if_pos (by simpa [Outlives] using hbase)]
        exact ⟨(if_neg hall).symm, (if_neg hall).symm⟩
    · -- The override ended at an earlier check.
      rw [if_neg hout] at ho hb
      have hall : ¬∀ b ∈ s :: (bs ++ [base]), Outlives s b := fun h =>
        hout fun b hb => h b (List.mem_append_left [base] hb)
      rw [PowerContext.overrideStep_none ho]
      exact ⟨ho.trans (if_neg hall).symm, hb.trans (if_neg hall).symm⟩

end PowerContext

namespace Checks

variable {fx : Effectors} {o : PowerProfile} {ks : List PolicyCheck} {c : Context}

/-- The checks keep the record: the first one's base state is the stamp. -/
theorem stamps (h : Checks fx o ks c) : c.power.Stamped o (ks.map PolicyCheck.base) := by
  induction h with
  | ingested ho hb => exact ⟨ho, hb⟩
  | @check ks c c₁ c₂ tr hks ho hb hrun ih =>
    obtain ⟨-, ho₂, hb₂, -⟩ := (Program.Runs.of_meets hrun (powerPolicyCheck_exact fx c₁)).2
    rw [List.map_append]
    exact (ih.congr ho hb).overrideStep.congr ho₂ hb₂

/-- The checks up to one of them, and the context that it left. -/
theorem upTo (h : Checks fx o ks c) {l r : List PolicyCheck} {k : PolicyCheck}
    (hks : ks = l ++ k :: r) :
    ∃ c', Checks fx o (l ++ [k]) c' ∧ c'.power.powerOverride = k.override := by
  induction h generalizing r with
  | ingested => simp at hks
  | @check ks c c₁ c₂ tr hks' ho hb hrun ih =>
    rcases List.eq_nil_or_concat r with rfl | ⟨r, k', rfl⟩
    · obtain ⟨rfl, hk⟩ := List.append_inj' hks rfl
      obtain rfl := List.singleton_inj.mp hk
      exact ⟨c₂, .check hks' ho hb hrun, rfl⟩
    · have hsplit : ks ++ [⟨baseState c₁, c₂.power.powerOverride⟩] = (l ++ k :: r) ++ [k'] := by
        simpa using hks
      exact ih (List.append_inj' hsplit rfl).1

end Checks

/-- The override that a check leaves is as the edges have it exactly if stamp and edges tell the
same. -/
theorem override_eq_edges_iff {fx : Effectors} {o : PowerProfile} {ks l r : List PolicyCheck}
    {k : PolicyCheck} {c : Context} {s : BaseState} {bs : List BaseState} (h : Checks fx o ks c)
    (hks : ks = l ++ k :: r) (hbs : ks.map PolicyCheck.base = s :: bs) :
    (k.override =
        if List.IsChain Outlives ((l ++ [k]).map PolicyCheck.base) then some o else none) ↔
      ((∀ b ∈ (l ++ [k]).map PolicyCheck.base, Outlives s b) ↔
        List.IsChain Outlives ((l ++ [k]).map PolicyCheck.base)) := by
  obtain ⟨c', hc', hk⟩ := h.upTo hks
  have hstamp := hc'.stamps
  cases hfirst : (l ++ [k]).map PolicyCheck.base with
  | nil => simp at hfirst
  | cons s' bs' =>
    obtain rfl : s' = s := by
      have hsplit : (l ++ [k]).map PolicyCheck.base ++ r.map PolicyCheck.base = s :: bs := by
        rw [← hbs, hks]
        simp
      rw [hfirst] at hsplit
      exact (List.cons.inj hsplit).1
    rw [hfirst] at hstamp
    rw [← hk, hstamp.1]
    -- The stamp decides the left side, the edges the right one.
    by_cases hout : ∀ b ∈ s' :: bs', Outlives s' b
    · rw [if_pos hout]
      by_cases hchain : List.IsChain Outlives (s' :: bs')
      · simpa only [if_pos hchain, true_iff] using ⟨fun _ => hchain, fun _ => hout⟩
      · simpa only [if_neg hchain, reduceCtorEq, false_iff] using fun h => hchain (h.mp hout)
    · rw [if_neg hout]
      by_cases hchain : List.IsChain Outlives (s' :: bs')
      · simpa only [if_pos hchain, reduceCtorEq, false_iff] using fun h => hout (h.mpr hchain)
      · simpa only [if_neg hchain, true_iff] using ⟨fun h => absurd h hout, fun h =>
          absurd h hchain⟩

/-- An override expires on the edges exactly if battery-low, where it was stamped, is not entered
again from battery before the AC axis flips. -/
theorem expiresOnEdges_iff (fx : Effectors) (o : PowerProfile) {ks : List PolicyCheck} {c : Context}
    (h : Checks fx o ks c) :
    ExpiresOnEdges o ks ↔ ¬Reentered (ks.map PolicyCheck.base) := by
  cases hbs : ks.map PolicyCheck.base with
  | nil =>
    obtain rfl := List.map_eq_nil_iff.mp hbs
    exact ⟨fun _ hre => absurd hre.1 (by simp), fun _ l k r hks => by simp at hks⟩
  | cons s bs =>
    rw [← stamp_iff_edges s bs]
    constructor
    · intro hlaw p hp hne
      -- A beginning of the base states is that of the checks up to one of them.
      obtain ⟨q, hq⟩ := hp
      obtain ⟨ks₁, ks₂, hks, rfl, -⟩ := List.map_eq_append_iff.mp (hbs.trans hq.symm)
      rcases List.eq_nil_or_concat' ks₁ with rfl | ⟨l, k, rfl⟩
      · exact absurd rfl hne
      · have hks' : ks = l ++ k :: ks₂ := by simpa using hks
        exact (override_eq_edges_iff h hks' hbs).mp (hlaw l k ks₂ hks')
    · intro hedges l k r hks
      refine (override_eq_edges_iff h hks hbs).mpr (hedges _ ⟨r.map PolicyCheck.base, ?_⟩ (by simp))
      rw [← hbs, hks]
      simp

/-- On battery with an override, unstamped, and the battery low or not. -/
def onBattery (low : Bool) (p : PowerContext) : Context :=
  { onAcSettled := false, lowBattery := low, power := p }

/-- The policy check where nothing fails, in the context. -/
def checkedQuietly (c : Context) : Context :=
  (Effectors.powerPolicyCheck ⟨false, true⟩).answered Eff.quiet c |>.1.2

/-- A quiet check more keeps a series a series. -/
theorem Checks.quietly {o : PowerProfile} {ks : List PolicyCheck} {c : Context}
    (h : Checks ⟨false, true⟩ o ks c) (c₁ : Context) (hp : c₁.power = c.power) :
    Checks ⟨false, true⟩ o
      (ks ++ [⟨baseState c₁, (checkedQuietly c₁).power.powerOverride⟩]) (checkedQuietly c₁) :=
  .check h (by rw [hp]) (by rw [hp]) (runs_answered _ Eff.quiet c₁)

/-- An override for performance that the daemon has just ingested. -/
def ingestedPerformance : PowerContext := { powerOverride := some .performance }

/-- Stamped on battery, and still in force; then the battery runs low. -/
theorem expiresOnEdges_iff_runsLow : ∃ ks c, Checks ⟨false, true⟩ .performance ks c ∧
    ks.map PolicyCheck.override = [some .performance, none] ∧ ExpiresOnEdges .performance ks := by
  have hstart : Checks ⟨false, true⟩ .performance [] (onBattery false ingestedPerformance) :=
    .ingested rfl rfl
  have h := (hstart.quietly (onBattery false ingestedPerformance) rfl).quietly
    (onBattery true (checkedQuietly (onBattery false ingestedPerformance)).power) rfl
  refine ⟨_, _, h, by decide +kernel, (expiresOnEdges_iff _ _ h).mpr ?_⟩
  exact fun hre => absurd hre.1 (by decide +kernel)

/-- Stamped in battery-low, which is left and entered again: the override stays. -/
theorem not_expiresOnEdges :
    ¬∀ (fx : Effectors) (o : PowerProfile) (ks : List PolicyCheck) (c : Context),
      Checks fx o ks c → ExpiresOnEdges o ks := by
  intro hlaw
  have hstart : Checks ⟨false, true⟩ .performance [] (onBattery true ingestedPerformance) :=
    .ingested rfl rfl
  have h := ((hstart.quietly (onBattery true ingestedPerformance) rfl).quietly
    (onBattery false (checkedQuietly (onBattery true ingestedPerformance)).power) rfl).quietly
    (onBattery true (checkedQuietly
      (onBattery false (checkedQuietly (onBattery true ingestedPerformance)).power)).power) rfl
  have hlast := hlaw _ _ _ _ h [_, _] _ [] rfl
  exact absurd hlast (by decide +kernel)

end Hyprstate
