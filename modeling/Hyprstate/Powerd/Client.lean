import Hyprstate.Daemon.PowerRecord

/-!
# The daemon as a client of powerd

What the power policy check does to the power record, exactly: `overrideStep` is the step of the
override, `desiredProfile` the profile that is asked for, and `wp_applyPowerProfile` the rule of the
call, in any world. An invariant that only the calls for a profile can break (`ClientInvariant`) is
kept by every turn when the calls keep it.
-/

namespace Hyprstate

open Reactive Process

/-- The base state of the power policy. -/
def baseState (c : Context) : BaseState :=
  powerBaseState c.onAcSettled c.extMonCount c.lowBattery

/-- The profile that the policy check asks powerd for. -/
def desiredProfile (c : Context) : PowerProfile :=
  c.power.powerOverride.getD (c.power.powerPolicy.forBase (baseState c))

/-- Whether a stamped override ends in the base state. -/
def overrideEnds (stamped base : BaseState) : Bool :=
  decide (acAxis base ≠ acAxis stamped) ||
    (decide (base = .batteryLow) && decide (stamped ≠ .batteryLow))

namespace PowerContext

/-- What `powerOverrideStep` does to the power record. -/
def overrideStep (base : BaseState) (p : PowerContext) : PowerContext :=
  match p.powerOverride, p.powerOverrideBase with
  | none, _ => p
  | some _, none => { p with powerOverrideBase := some base }
  | some _, some stamped =>
    if overrideEnds stamped base then { p with powerOverride := none, powerOverrideBase := none }
    else p

/-- The record once an external write was adopted. -/
def adopted (profile : PowerProfile) (p : PowerContext) : PowerContext :=
  { p with powerOverride := some profile, powerOverrideBase := none }

/-- The record once a profile was registered. -/
def registered (now : Nat) (profile : PowerProfile) (p : PowerContext) : PowerContext :=
  { p with selfWrites := p.selfWrites.register now profile }

/-- The record once a call was answered. -/
def answered (profile : PowerProfile) (ok : Bool) (p : PowerContext) : PowerContext :=
  if ok then { p with powerApplied := some profile }
  else { p with powerdAvailable := false, powerdWarned := true }

/-- Whether powerd is called for the profile. -/
def calls (profile : PowerProfile) (p : PowerContext) : Bool :=
  decide (p.powerApplied ≠ some profile) && p.powerdAvailable

/-- Without an override there is nothing to expire. -/
theorem overrideStep_none {base : BaseState} {p : PowerContext} (h : p.powerOverride = none) :
    p.overrideStep base = p := by
  simp [overrideStep, h]

/-- A new override is stamped with the base state. -/
theorem overrideStep_fresh {base : BaseState} {p : PowerContext} {o : PowerProfile}
    (h : p.powerOverride = some o) (hb : p.powerOverrideBase = none) :
    p.overrideStep base = { p with powerOverrideBase := some base } := by
  simp [overrideStep, h, hb]

/-- A stamped one ends as `overrideEnds` says. -/
theorem overrideStep_stamped {base stamped : BaseState} {p : PowerContext} {o : PowerProfile}
    (h : p.powerOverride = some o) (hb : p.powerOverrideBase = some stamped) :
    p.overrideStep base =
      if overrideEnds stamped base then { p with powerOverride := none, powerOverrideBase := none }
      else p := by
  simp [overrideStep, h, hb]

/-- The step touches the override and its stamp alone. -/
theorem overrideStep_eq (base : BaseState) (p : PowerContext) :
    ∃ o b, p.overrideStep base = { p with powerOverride := o, powerOverrideBase := b } := by
  unfold overrideStep
  split
  · exact ⟨p.powerOverride, p.powerOverrideBase, rfl⟩
  · exact ⟨p.powerOverride, _, rfl⟩
  · split
    · exact ⟨none, none, rfl⟩
    · exact ⟨p.powerOverride, p.powerOverrideBase, rfl⟩

end PowerContext

section

variable (fx : Effectors) (c : Context)

/-- `powerOverrideStep` does this to the records. -/
theorem powerOverrideStep_exact (base : BaseState) :
    Meets (fx.powerOverrideStep base) c (only [.powerOverride, .command])
      fun _ c' => c' = { c with power := c.power.overrideStep base } := by
  rw [Effectors.powerOverrideStep, meets_bind, meets_get]
  cases ho : c.power.powerOverride with
  | none =>
    rw [PowerContext.overrideStep_none ho]
    rfl
  | some o =>
    cases hb : c.power.powerOverrideBase with
    | none =>
      rw [PowerContext.overrideStep_fresh ho hb]
      rfl
    | some stamped =>
      rw [PowerContext.overrideStep_stamped ho hb]
      have hnotify : ∀ (c' : Context) (body : String),
          Meets (fx.notifyPower body) c' (only [.powerOverride, .command]) fun _ c'' => c'' = c' :=
        fun c' body => weaken (notifyPower_spec fx c' body) (by simp)
      show Meets (when (overrideEnds stamped base) _) c _ _
      rw [meets_when]
      refine ⟨fun hends => ?_, fun hkeeps => by rw [hkeeps]; rfl⟩
      rw [hends, meets_bind, Effectors.clearPowerOverride, meets_bind, meets_modify, meets_when]
      refine ⟨fun _ => ?_, fun _ => hnotify _ _⟩
      rw [meets_bind, meets_ask]
      exact ⟨by simp [only], fun _ => hnotify _ _⟩

/-- `adopt_power_override` records the profile. -/
theorem adoptPowerOverride_exact (profile : PowerProfile) :
    Meets (fx.adoptPowerOverride profile) c (only [.powerOverride, .command])
      fun _ c' => c' = { c with power := c.power.adopted profile } := by
  simp [Effectors.adoptPowerOverride, Effectors.notifyPower, Effectors.sendCmd, only,
    PowerContext.adopted]

/-- After the apply the profile needs no call: it is applied, or powerd is known to be away. -/
theorem applyPowerProfile_exact (profile : PowerProfile) :
    Meets (fx.applyPowerProfile profile) c (only [.query, .powerd]) fun _ c' =>
      (∃ t a v w, c' = { c with power := { c.power with
        selfWrites := t, powerApplied := a, powerdAvailable := v, powerdWarned := w } }) ∧
        c'.power.calls profile = false := by
  rw [Effectors.applyPowerProfile, meets_bind, meets_get, meets_when]
  refine ⟨fun _ => ?_, fun hskip => ⟨⟨_, _, _, _, rfl⟩, by simpa [PowerContext.calls] using hskip⟩⟩
  rw [meets_bind, meets_ask]
  refine ⟨by simp [only], fun now => ?_⟩
  rw [meets_bind, meets_modify]
  have hanswered : ∀ ok : Bool, Meets
      (if ok then modify fun c => { c with power := { c.power with powerApplied := some profile } }
        else Effectors.powerdUnavailable : Daemon Unit)
      { c with power := c.power.registered now profile } (only [.query, .powerd])
      fun _ c' => (∃ t a v w, c' = { c with power := { c.power with
        selfWrites := t, powerApplied := a, powerdAvailable := v, powerdWarned := w } }) ∧
        c'.power.calls profile = false := by
    intro ok
    cases ok
    · exact ⟨⟨_, _, _, _, rfl⟩, by simp [PowerContext.calls]⟩
    · exact ⟨⟨_, _, _, _, rfl⟩, by simp [PowerContext.calls]⟩
  cases fx.shadow with
  | true => exact hanswered true
  | false => exact ⟨by simp [only], hanswered⟩

variable {σ : Type} {W : World (Context × Eff) (stamped Eff.Ans) σ} {w : σ}

/-- The rule of `apply_power_profile`: no call, a call in shadow mode, which is none, and a call. -/
theorem wp_applyPowerProfile {profile : PowerProfile} {Q : Context → σ → Prop}
    (hskip : c.power.calls profile = false → ∀ w', W.Drifts w w' → Q c w')
    (hshadow : c.power.calls profile = true → fx.shadow = true →
      ∀ w₁ now w₂ w', W.Drifts w w₁ → W.answer (c, .now) w₁ now w₂ → W.Drifts w₂ w' →
        Q { c with power := (c.power.registered now profile).answered profile true } w')
    (hcall : c.power.calls profile = true → fx.shadow = false →
      ∀ w₁ now w₂ w₃ (ok : Bool) w₄ w', W.Drifts w w₁ → W.answer (c, .now) w₁ now w₂ →
        W.Drifts w₂ w₃ →
        W.answer ({ c with power := c.power.registered now profile }, .powerdApplyProfile profile)
          w₃ ok w₄ → W.Drifts w₄ w' →
        Q { c with power := (c.power.registered now profile).answered profile ok } w') :
    Wp W (fun _ _ _ => True) (fun _ => Q) (fx.applyPowerProfile profile) c w := by
  -- Both answers end in a change of the power records alone.
  have hanswered : ∀ (p : PowerContext) (ok : Bool) (w' : σ),
      (∀ w'', W.Drifts w' w'' → Q { c with power := p.answered profile ok } w'') →
      Wp W (fun _ _ _ => True) (fun _ => Q)
        (if ok then modify fun c =>
          { c with power := { c.power with powerApplied := some profile } }
          else Effectors.powerdUnavailable : Daemon Unit) { c with power := p } w' := by
    intro p ok w' hw'
    cases ok
    · exact hw'
    · exact hw'
  rw [Effectors.applyPowerProfile, wp_get_bind, wp_when]
  refine ⟨fun hcalls => ?_, fun hcalls => ?_⟩
  · have hcalls' : c.power.calls profile = true := by
      simpa [PowerContext.calls] using hcalls
    rw [wp_ask_bind (e := Eff.now)]
    refine fun w₁ h₁ => ⟨trivial, fun now w₂ hnow => ?_⟩
    rw [wp_modify_bind]
    cases hs : fx.shadow with
    | true =>
      exact hanswered _ true w₂ fun w' hw' => hshadow hcalls' hs w₁ now w₂ w' h₁ hnow hw'
    | false =>
      refine (wp_ask_bind (e := Eff.powerdApplyProfile profile)).mpr fun w₃ h₃ =>
        ⟨trivial, fun ok w₄ hok => ?_⟩
      exact hanswered _ ok w₄ fun w' hw' =>
        hcall hcalls' hs w₁ now w₂ w₃ ok w₄ w' h₁ hnow h₃ hok hw'
  · have hskips : c.power.calls profile = false := by
      simpa [PowerContext.calls] using hcalls
    exact fun w' hw' => hskip hskips w' hw'

/-! ## The policy check -/

/-- The profile that the policy check asks for, once the override took its step. -/
def checkedProfile (c : Context) : PowerProfile :=
  desiredProfile { c with power := c.power.overrideStep (baseState c) }

/-- What the policy check leaves: the override after its step, the base state on record, and no call
for the profile outstanding. -/
theorem powerPolicyCheck_exact :
    Meets fx.powerPolicyCheck c (only [.query, .powerd, .powerOverride, .command, .light])
      fun _ c' =>
      (∃ p b, c' = { c with power := p, brightness := b }) ∧
        c'.power.powerOverride = (c.power.overrideStep (baseState c)).powerOverride ∧
        c'.power.powerOverrideBase = (c.power.overrideStep (baseState c)).powerOverrideBase ∧
        c'.power.powerPolicy = c.power.powerPolicy ∧
        c'.power.powerLastBase = some (baseState c) ∧
        c'.power.calls (checkedProfile c) = false := by
  obtain ⟨o, b, hstep⟩ := c.power.overrideStep_eq (baseState c)
  rw [Effectors.powerPolicyCheck, meets_bind, meets_get]
  refine (weaken (powerOverrideStep_exact fx c (baseState c)) (by simp)).bind ?_
  rintro _ _ rfl
  rw [meets_bind, meets_get]
  refine (weaken (applyPowerProfile_exact fx _ _) (by simp)).bind ?_
  rintro _ _ ⟨⟨t, a, v, w, rfl⟩, hcalls⟩
  rw [meets_bind, meets_get, meets_bind, meets_set]
  have hpolicy : (c.power.overrideStep (baseState c)).powerPolicy = c.power.powerPolicy := by
    rw [hstep]
  dsimp only
  cases (c.power.overrideStep (baseState c)).powerLastBase with
  | none => exact ⟨⟨_, _, rfl⟩, rfl, rfl, hpolicy, rfl, hcalls⟩
  | some prev =>
    refine (weaken (brightnessEdge_spec fx _ prev _) (by simp)).imp ?_
    rintro _ _ ⟨b', rfl⟩
    exact ⟨⟨_, b', rfl⟩, rfl, rfl, hpolicy, rfl, hcalls⟩

/-! ## The policy check in a world that only powerd moves -/

/-- Whether the policy check calls powerd. -/
def checkCalls : Bool :=
  !fx.shadow && (c.power.overrideStep (baseState c)).calls (checkedProfile c)

section

variable (hstill : ∀ w w', ¬W.drift w w')
  (hframe : ∀ c e w b w', e.resource ≠ Resource.powerd → W.answer (c, e) w b w' → w' = w)
include hstill hframe

/-- What asks powerd for nothing leaves the world as it is. -/
theorem unasked {α : Type} {x : Daemon α} {rs : List Resource} {Q : α → Context → Prop}
    (hx : Meets x c (only rs) Q) (hrs : Resource.powerd ∉ rs) :
    Wp W (fun _ _ _ => True) (fun a c' w' => Q a c' ∧ w' = w) x c w := by
  have hframed : Wp W (fun c e w' => only rs c e ∧ w' = w) (fun a c' w' => Q a c' ∧ w' = w) x c w :=
    wp_of_meets (J := fun w' => w' = w) hx rfl (fun _ _ hdrift => absurd hdrift (hstill _ _))
      fun c' e w₁ b w₂ he hanswer hw =>
        (hframe c' e w₁ b w₂ (fun h => hrs (h ▸ he)) hanswer).trans hw
  exact hframed.mono (fun _ _ _ _ => trivial) fun _ _ _ => id

/-- The policy check calls powerd at most once, for the profile that is desired then. -/
theorem powerPolicyCheck_asks :
    Wp W (fun _ _ _ => True)
      (fun _ c' w' =>
        (if checkCalls fx c then
          ∃ c₁ ok, W.answer (c₁, .powerdApplyProfile (checkedProfile c)) w ok w'
          else w' = w) ∧
        (∃ p b, c' = { c with power := p, brightness := b }) ∧
        desiredProfile c' = checkedProfile c)
      fx.powerPolicyCheck c w := by
  have hdrifts : ∀ {w₁ w₂ : σ}, W.Drifts w₁ w₂ → w₂ = w₁ := fun h =>
    (World.drifts_iff_of_still hstill).mp h
  rw [Effectors.powerPolicyCheck, wp_get_bind]
  refine (unasked c hstill hframe (powerOverrideStep_exact fx c (baseState c)) (by simp)).bind ?_
  rintro _ _ w ⟨rfl, rfl⟩
  rw [wp_get_bind]
  have hsame : ∀ (p : PowerContext) (b : BrightnessContext),
      p.powerOverride = (c.power.overrideStep (baseState c)).powerOverride →
      p.powerPolicy = (c.power.overrideStep (baseState c)).powerPolicy →
      desiredProfile { c with power := p, brightness := b } = checkedProfile c := by
    intro p b ho hp
    show p.powerOverride.getD (p.powerPolicy.forBase (baseState c)) =
      (c.power.overrideStep (baseState c)).powerOverride.getD
        ((c.power.overrideStep (baseState c)).powerPolicy.forBase (baseState c))
    rw [ho, hp]
  refine Wp.bind (wp_applyPowerProfile fx _ (Q := fun c₂ w₂ =>
    (if checkCalls fx c then ∃ c₁ ok, W.answer (c₁, .powerdApplyProfile (checkedProfile c)) w ok w₂
      else w₂ = w) ∧ ∃ p, c₂ = { c with power := p } ∧
        p.powerOverride = (c.power.overrideStep (baseState c)).powerOverride ∧
        p.powerPolicy = (c.power.overrideStep (baseState c)).powerPolicy) ?_ ?_ ?_) ?_
  · intro hcalls w' hdrift
    have hno : checkCalls fx c = false := (congrArg (!fx.shadow && ·) hcalls).trans
      (Bool.and_false _)
    exact ⟨by rw [hno]; exact hdrifts hdrift, _, rfl, rfl, rfl⟩
  · intro _ hs w₁ now w₂ w' h₁ hnow h₂
    have hno : checkCalls fx c = false := by simp [checkCalls, hs]
    have hw : w' = w := (hdrifts h₂).trans ((hframe _ _ _ _ _ (by simp) hnow).trans (hdrifts h₁))
    exact ⟨by rw [hno]; exact hw, _, rfl, rfl, rfl⟩
  · intro hcalls hs w₁ now w₂ w₃ ok w₄ w' h₁ hnow h₂ hok h₃
    have hyes : checkCalls fx c = true := by
      unfold checkCalls
      rw [hs]
      exact hcalls
    have hw : w₃ = w := (hdrifts h₂).trans ((hframe _ _ _ _ _ (by simp) hnow).trans (hdrifts h₁))
    subst hw
    obtain rfl := hdrifts h₃
    refine ⟨by rw [hyes]; exact ⟨_, ok, hok⟩, _, rfl, ?_⟩
    cases ok <;> exact ⟨rfl, rfl⟩
  · rintro _ _ w₂ ⟨hw, p, rfl, ho, hp⟩
    rw [wp_get_bind, wp_set_bind]
    dsimp only
    cases p.powerLastBase with
    | none =>
      intro w₃ hdrift
      obtain rfl := hdrifts hdrift
      exact ⟨hw, ⟨_, c.brightness, rfl⟩, hsame _ _ ho hp⟩
    | some prev =>
      -- The brightness effects after the call.
      refine (unasked _ hstill hframe (brightnessEdge_spec fx _ prev _) (by simp)).mono
        (fun _ _ _ => id) ?_
      rintro _ _ w₃ ⟨⟨b, rfl⟩, rfl⟩
      exact ⟨hw, ⟨_, b, rfl⟩, hsame _ b ho hp⟩

end

end

/-! ## Invariants of the calls -/

section

variable {σ : Type} {W : World (Context × Eff) (stamped Eff.Ans) σ} {fx : Effectors}
  {I : PowerView → σ → Prop}

/-- An invariant of the applied profile, the registered writes and the world, where the calls for a
profile alone need a look. -/
structure ClientInvariant (fx : Effectors) (W : World (Context × Eff) (stamped Eff.Ans) σ)
    (I : PowerView → σ → Prop) : Prop where
  drift : ∀ v w w', W.drift w w' → I v w → I v w'
  answer : ∀ v c e w b w', (∀ profile, e ≠ .powerdApplyProfile profile) → W.answer (c, e) w b w' →
    I v w → I v w'
  others : ∀ v w override base available kbd, I v w →
    I { v with override := override, base := base, available := available, kbdOverride := kbd } w
  appeared : ∀ v w, I v w → I { v with applied := none } w
  judged : ∀ v w now value, I v w →
    I { v with selfWrites := (v.selfWrites.isSelfWrite now value).2 } w
  apply : ∀ profile, KeepsView W I (fx.applyPowerProfile profile)

variable (hI : ClientInvariant fx W I)
include hI

/-- What makes no call for a profile keeps the invariant of the view it found. -/
theorem ClientInvariant.frame {α : Type} {x : Daemon α} {c : Context} {w : σ} {rs : List Resource}
    {Q : α → Context → Prop} (hx : Meets x c (only rs) Q) (hrs : Resource.powerd ∉ rs)
    (hw : I c.powerView w) :
    Wp W (fun _ _ _ => True) (fun a c' w' => Q a c' ∧ I c.powerView w') x c w := by
  refine (wp_of_meets (J := fun w' => I c.powerView w') hx hw (hI.drift _) ?_).mono
    (fun _ _ _ _ => trivial) fun _ _ _ => id
  intro c' e w₁ b w₂ he hanswer
  refine hI.answer _ c' e w₁ b w₂ ?_ hanswer
  rintro profile rfl
  exact hrs he

/-- An invariant of powerd's client is one of the power records. -/
theorem ClientInvariant.powerInvariant : PowerInvariant fx W I where
  drift := hI.drift
  answer v c e w b w' he hanswer := hI.answer v c e w b w'
    (by rintro profile rfl; exact he (by simp [viewResources])) hanswer
  apply := hI.apply
  -- The pin's call is of its own kind; all it may change here is whether powerd is there.
  pin awake c w hw := by
    have hframed := wp_of_meets (J := fun w' => I c.powerView w') (syncDgpuPin_view fx c awake) hw
      (hI.drift _) ?_
    · refine hframed.mono (fun _ _ _ _ => trivial) ?_
      rintro _ c' w' ⟨⟨a, hc'⟩, hw'⟩
      rw [hc']
      exact hI.others _ _ _ _ a _ hw'
    · rintro c' _ w₁ b w₂ rfl hanswer
      exact hI.answer _ c' _ w₁ b w₂ (by simp) hanswer
  step base c w hw := by
    refine (hI.frame (powerOverrideStep_exact fx c base) (by simp) hw).mono (fun _ _ _ => id) ?_
    rintro _ _ w' ⟨rfl, hw'⟩
    obtain ⟨o, b, hstep⟩ := c.power.overrideStep_eq base
    rw [hstep]
    exact hI.others _ _ o b _ _ hw'
  release c w hw := by
    have hview : Meets fx.kbdReleaseOverride c (only [.kbdOverride])
        fun _ c' => ∃ k, c'.powerView = { c.powerView with kbdOverride := k } := by
      rw [Effectors.kbdReleaseOverride, meets_bind, meets_get, meets_when]
      refine ⟨fun _ => ?_, fun _ => ⟨c.kbd.kbdOverride, rfl⟩⟩
      rw [meets_bind, meets_set, meets_when]
      refine ⟨fun _ => ⟨by simp [only], fun _ => ⟨false, rfl⟩⟩, fun _ => ⟨false, rfl⟩⟩
    refine (hI.frame hview (by simp) hw).mono (fun _ _ _ => id) ?_
    rintro _ c' w' ⟨⟨k, hc'⟩, hw'⟩
    rw [hc']
    exact hI.others _ _ _ _ _ k hw'

/-- Every turn keeps the invariant. -/
theorem ClientInvariant.handle (ev : Event) : KeepsView W I (fx.handle ev) := by
  intro c w hw
  refine hI.powerInvariant.handle ?_
  -- Four arms have a record of their own to move; the others are the invariant's parts.
  by_cases hown : ownArm ev = false
  · exact hI.powerInvariant.dispatchUpdate ev hown c w hw
  cases ev with
  | kbdOverrideChanged armed =>
    refine (hI.frame (kbdOverrideChanged_view fx c armed) (by decide) hw).mono (fun _ _ _ => id) ?_
    rintro _ c' w' ⟨hc', hw'⟩
    rw [hc']
    exact hI.others _ _ _ _ _ armed hw'
  | powerOverrideChanged word =>
    refine (hI.frame (powerOverrideChanged_view fx c word) (by decide) hw).mono (fun _ _ _ => id) ?_
    rintro _ c' w' ⟨hc', hw'⟩
    obtain ⟨o, b, hheard⟩ : ∃ o b, c.powerView.heard word =
        { c.powerView with override := o, base := b } := c.powerView.heard_eq word
    rw [hc', hheard]
    exact hI.others _ _ o b _ _ hw'
  | powerdAppeared =>
    refine (hI.frame (powerdAppeared_view fx c) (by decide) hw).mono (fun _ _ _ => id) ?_
    rintro _ c' w' ⟨hc' | hc', hw'⟩
    · rwa [hc']
    · rw [hc']
      exact hI.appeared _ _ (hI.others _ _ _ _ true _ hw')
  | platformProfileChanged value =>
    rw [Effectors.dispatchUpdate]
    refine (wp_ask_bind (e := Eff.now)).mpr fun w₁ hdrift => ⟨trivial, fun now w₂ hnow => ?_⟩
    have hw₂ : I c.powerView w₂ :=
      hI.answer _ c .now w₁ now w₂ (by simp) hnow (hdrift.keeps (hI.drift _) hw)
    rw [wp_get_bind, wp_set_bind]
    have hadopt : KeepsView W I (do
        fx.adoptPowerOverride (profileFromPlatformValue value)
        fx.powerPolicyCheck) := by
      intro c' w' hw'
      refine (hI.frame (adoptPowerOverride_exact fx c' _) (by simp) hw').bind ?_
      rintro _ _ w₃ ⟨rfl, hw₃⟩
      exact hI.powerInvariant.powerPolicyCheck _ w₃ (hI.others _ _ (some _) none _ _ hw₃)
    refine (hI.powerInvariant.when _ hadopt _ w₂ (hI.judged _ _ now value hw₂)).bind ?_
    exact fun _ c' w' hw' w'' hdrift => hdrift.keeps (hI.drift _) hw'
  | _ => exact absurd rfl hown

/-- So does the start. -/
theorem ClientInvariant.boot : KeepsView W I fx.boot :=
  hI.powerInvariant.boot
    (fun v c e w b w' he => hI.answer v c e w b w' (by rintro profile rfl; simp at he))
    fun v k w hw => hI.others v w _ _ _ k hw

end

end Hyprstate
