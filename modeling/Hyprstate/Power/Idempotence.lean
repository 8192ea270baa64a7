import Hyprstate.Powerd.Client

/-!
# The policy check is idempotent

One policy check leaves a settled record (`powerPolicyCheck_settles`): the override has a stamp that
outlives the base state, the profile needs no call, and the base state is on record, so no edge is
left for the brightness. A settled record is a fixed point of the check, without a request
(`powerPolicyCheck_settled`). The echo of the override's own file moves no settled record.
-/

namespace Hyprstate

open Reactive Process

namespace PowerContext

/-- The stamp goes with the override. -/
def StampStands (p : PowerContext) : Prop := p.powerOverride = none → p.powerOverrideBase = none

/-- The override's step has nothing to do on the base state: an override that stands has a stamp,
and the stamp does not end there. -/
def OverrideRests (base : BaseState) (p : PowerContext) : Prop :=
  ∀ o, p.powerOverride = some o → ∃ s, p.powerOverrideBase = some s ∧ overrideEnds s base = false

variable {p : PowerContext} {base : BaseState}

/-- One step is enough, from any record: a base state does not end the override that it stamps. -/
theorem overrideStep_rests (p : PowerContext) (base : BaseState) :
    (p.overrideStep base).OverrideRests base := by
  intro o ho
  cases ho' : p.powerOverride with
  | none =>
    rw [overrideStep_none ho', ho'] at ho
    exact absurd ho (by simp)
  | some o' =>
    cases hb : p.powerOverrideBase with
    | none =>
      rw [overrideStep_fresh ho' hb]
      exact ⟨base, rfl, by cases base <;> rfl⟩
    | some s =>
      rw [overrideStep_stamped ho' hb] at ho ⊢
      split at ho
      · exact absurd ho (by simp)
      · rename_i hends
        rw [if_neg hends]
        exact ⟨s, hb, by simpa using hends⟩

/-- The step clears the stamp where it clears the override. -/
theorem StampStands.overrideStep (h : p.StampStands) : (p.overrideStep base).StampStands := by
  intro ho
  cases ho' : p.powerOverride with
  | none =>
    rw [overrideStep_none ho']
    exact h ho'
  | some o' =>
    cases hb : p.powerOverrideBase with
    | none =>
      rw [overrideStep_fresh ho' hb] at ho
      exact absurd (ho'.symm.trans ho) (by simp)
    | some s =>
      rw [overrideStep_stamped ho' hb] at ho ⊢
      split at ho
      · rename_i hends
        rw [if_pos hends]
      · exact absurd (ho'.symm.trans ho) (by simp)

end PowerContext

/-- Nothing is left for the policy check to do. -/
structure PowerSettled (c : Context) : Prop where
  stands : c.power.StampStands
  rests : c.power.OverrideRests (baseState c)
  calls : c.power.calls (desiredProfile c) = false
  edge : c.power.powerLastBase = some (baseState c)

section

variable (fx : Effectors) (c : Context)

/-- One policy check settles the record, whatever powerd answers. -/
theorem powerPolicyCheck_settles (hc : c.power.StampStands) :
    Meets fx.powerPolicyCheck c (only [.query, .powerd, .powerOverride, .command, .light])
      fun _ c' => PowerSettled c' := by
  refine (powerPolicyCheck_exact fx c).imp ?_
  rintro _ _ ⟨⟨p, b, rfl⟩, ho, hb, hp, hlast, hcalls⟩
  have hstands : (c.power.overrideStep (baseState c)).StampStands := hc.overrideStep
  have hrests := c.power.overrideStep_rests (baseState c)
  have hdesired : desiredProfile { c with power := p, brightness := b } = checkedProfile c := by
    obtain ⟨o', b', hstep⟩ := c.power.overrideStep_eq (baseState c)
    unfold checkedProfile desiredProfile
    dsimp only at ho hp ⊢
    rw [ho, hp, hstep]
    rfl
  refine ⟨fun h => hb.trans (hstands (ho.symm.trans h)), fun o h => ?_, ?_, hlast⟩
  · obtain ⟨s, hs, hends⟩ := hrests o (ho.symm.trans h)
    exact ⟨s, hb.trans hs, hends⟩
  · rw [hdesired]
    exact hcalls

/-- Where the record is settled, the check makes no request and changes nothing. -/
theorem powerPolicyCheck_settled (h : PowerSettled c) :
    Meets fx.powerPolicyCheck c (fun _ _ => False) fun _ c' => c' = c := by
  -- An override that is stamped and does not end here is left alone.
  have hstep : Meets (fx.powerOverrideStep (baseState c)) c (fun _ _ => False)
      fun _ c' => c' = c := by
    rw [Effectors.powerOverrideStep, meets_bind, meets_get]
    cases ho : c.power.powerOverride with
    | none => rfl
    | some o =>
      obtain ⟨s, hb, hends⟩ := h.rests o ho
      rw [hb]
      show Meets (when (overrideEnds s (baseState c)) _) c _ _
      rw [hends]
      rfl
  rw [Effectors.powerPolicyCheck, meets_bind, meets_get]
  refine hstep.bind ?_
  rintro _ c rfl
  rw [meets_bind, meets_get, meets_bind, Effectors.applyPowerProfile, meets_bind,
    meets_get, meets_when]
  -- powerd would be called only for a profile that is not on record.
  refine ⟨fun hcalls => ?_, fun _ => ?_⟩
  · have hcalled : c.power.calls (desiredProfile c) = true := by
      simp only [Bool.not_or, Bool.not_not, ← decide_not] at hcalls
      exact hcalls
    exact absurd (hcalled.symm.trans h.calls) (by simp)
  · -- The base state is the one on record, so there is no edge.
    have hsame : { c with power := { c.power with powerLastBase := some (baseState c) } } = c := by
      rw [← h.edge]
    rw [meets_bind, meets_get, meets_bind, meets_set, h.edge]
    show Meets (when (decide (baseState c ≠ baseState c)) _) _ _ _
    rw [decide_eq_false (by simp)]
    exact hsame

/-- The echo of the override file brings the override that the context holds. -/
theorem powerOverrideChanged_settled (h : PowerSettled c) :
    Meets
      (fx.dispatchUpdate (.powerOverrideChanged (c.power.powerOverride.map PowerProfile.asStr))) c
      (fun _ _ => False) fun falls c' => falls = true ∧ c' = c := by
  rw [Effectors.dispatchUpdate, meets_bind, meets_get]
  cases ho : c.power.powerOverride with
  | none =>
    have hsame :
        { c with power := { c.power with powerOverride := none, powerOverrideBase := none } } =
          c := by
      rw [← ho, ← h.stands ho]
    exact ⟨rfl, hsame⟩
  | some o =>
    simp only [Option.map_some, PowerProfile.parse_asStr, meets_bind, meets_when]
    exact ⟨fun hnew => absurd hnew (by simp), fun _ => ⟨rfl, rfl⟩⟩

/-- What the echo's event may change: the machine's state and its timers. -/
theorem dispatch_powerOverrideChanged_settled (h : PowerSettled c) {word : Option String}
    (hword : word = c.power.powerOverride.map PowerProfile.asStr) :
    Meets (fx.dispatch (.powerOverrideChanged word)) c (only entryResources)
      fun _ c' => c'.power = c.power ∧ c'.brightness = c.brightness := by
  rw [Effectors.dispatch]
  have harm := powerOverrideChanged_settled fx c h
  rw [← hword] at harm
  refine (harm.mono (fun _ _ => False.elim) fun _ _ => id).bind ?_
  rintro _ c ⟨rfl, rfl⟩
  rw [meets_when]
  refine ⟨fun _ => ?_, fun hno => absurd hno (by simp)⟩
  rw [dispatchTail_eq]
  have hchecks : Meets (fx.tailChecks (.powerOverrideChanged word)) c (only entryResources)
      fun _ c' => c' = c :=
    (powerPolicyCheck_settled fx c h).mono (fun _ _ => False.elim) fun _ _ => id
  refine hchecks.bind ?_
  rintro _ c rfl
  refine (evaluateFsms_spec fx c .powerOverrideChanged (by simp)).mono (fun _ _ h => h.1) ?_
  rintro _ _ ⟨t, w, rfl⟩
  exact ⟨rfl, rfl⟩

end

/-- The second of two policy checks in a row makes no request and changes nothing, and the echo of
the override file right after it leaves the power and the brightness records as they are. -/
theorem powerPolicyCheck_idempotent (fx : Effectors) {c c₁ c₂ c₃ : Context}
    {tr₁ tr₂ tr₃ : List DaemonObs}
    (hc : c.power.powerOverride = none → c.power.powerOverrideBase = none)
    (h₁ : Process.Runs fx.powerPolicyCheck c tr₁ () c₁)
    (h₂ : Process.Runs fx.powerPolicyCheck c₁ tr₂ () c₂)
    (h₃ : Process.Runs
      (fx.dispatch (.powerOverrideChanged (c₂.power.powerOverride.map PowerProfile.asStr)))
        c₂ tr₃ () c₃) :
    c₂ = c₁ ∧ tr₂ = [] ∧ c₃.power = c₂.power ∧ c₃.brightness = c₂.brightness := by
  have hsettled : PowerSettled c₁ :=
    (Program.Runs.of_meets h₁ (powerPolicyCheck_settles fx c hc)).2
  obtain ⟨hquiet, hsame⟩ := Program.Runs.of_meets h₂ (powerPolicyCheck_settled fx c₁ hsettled)
  obtain rfl : c₂ = c₁ := hsame
  have hecho :=
    (Program.Runs.of_meets h₃ (dispatch_powerOverrideChanged_settled fx c₂ hsettled rfl)).2
  exact ⟨rfl, List.eq_nil_iff_forall_not_mem.mpr fun o ho => hquiet o ho, hecho⟩

/-- On battery with an override that was stamped on AC, and powerd away: the first check expires the
override and its call fails. -/
def unpluggedOverride : Context :=
  { onAcSettled := false
    power := { powerOverride := some .performance, powerOverrideBase := some .ac } }

/-- powerd takes no call. -/
def powerdAway : (e : Eff) → e.Ans
  | .powerdApplyProfile _ => false
  | e => e.quiet

/-- An override that ends at the unplug: the first check ends it, the second is still. -/
theorem powerPolicyCheck_idempotent_unplugged : ∃ c₁ tr₁ c₂ tr₂ c₃ tr₃,
    Process.Runs (Effectors.powerPolicyCheck ⟨false, true⟩) unpluggedOverride tr₁ () c₁ ∧
    Process.Runs (Effectors.powerPolicyCheck ⟨false, true⟩) c₁ tr₂ () c₂ ∧
    Process.Runs (Effectors.dispatch ⟨false, true⟩
      (.powerOverrideChanged (c₂.power.powerOverride.map PowerProfile.asStr))) c₂ tr₃ () c₃ ∧
    c₁.power.powerOverride = none ∧ c₁.power.powerdAvailable = false ∧
    c₂ = c₁ ∧ tr₂ = [] ∧ c₃.power = c₂.power ∧ c₃.brightness = c₂.brightness := by
  have h₁ := runs_answered (Effectors.powerPolicyCheck ⟨false, true⟩) powerdAway unpluggedOverride
  have h₂ := runs_answered (Effectors.powerPolicyCheck ⟨false, true⟩) powerdAway
    ((Effectors.powerPolicyCheck ⟨false, true⟩).answered powerdAway unpluggedOverride).1.2
  refine ⟨_, _, _, _, _, _, h₁, h₂,
    runs_answered _ powerdAway _, by decide +kernel, by decide +kernel, powerPolicyCheck_idempotent
      _ (by decide) h₁ h₂ (runs_answered _ powerdAway _)⟩

end Hyprstate
