import Hyprstate.Daemon.Avoidance
import Hyprstate.Daemon.Invariant

/-!
# The calls that powerd gets

The daemon keeps what powerd accepted last in the context, and whether a call failed since powerd
appeared. An observer who sees no more than the calls, their outcomes and the events knows as much
(`PowerdLink`), and by what it knows every call that the daemon makes is needed. So a powerd that
went away is left alone until it appears again, and one that is there is not asked twice for what it
has.
-/

namespace Hyprstate

open Reactive Process

/-- The outcome of a call to powerd. -/
def powerdOutcome : DaemonObs → Option Bool
  | ⟨(_, .powerdApplyProfile _), ok⟩ => some ok
  | ⟨(_, .powerdSetDgpuAwake _), ok⟩ => some ok
  | _ => none

/-- Two calls of one method, for different values. -/
def Eff.rivals : Eff → Eff → Bool
  | .powerdApplyProfile p, .powerdApplyProfile q => p ≠ q
  | .powerdSetDgpuAwake a, .powerdSetDgpuAwake b => a ≠ b
  | _, _ => false

/-- What an observer of the calls knows of powerd. -/
structure PowerdLink where
  failed : Bool := false
  applied : Option PowerProfile := none
  pinned : Option Bool := none

namespace PowerdLink

variable (w : PowerdLink)

/-- The link after an answer that the daemon saw. -/
def told : DaemonObs → PowerdLink
  | ⟨(_, .powerdApplyProfile profile), ok⟩ =>
    if ok then { w with applied := some profile } else { w with failed := true }
  | ⟨(_, .powerdSetDgpuAwake awake), ok⟩ =>
    if ok then { w with pinned := some awake } else { w with failed := true }
  | _ => w

/-- After a failure powerd starts afresh when it appears. -/
def take : Event → PowerdLink
  | .powerdAppeared => if w.failed then {} else w
  | _ => w

/-- powerd accepted this already. -/
def has : Eff → Bool
  | .powerdApplyProfile profile => w.applied = some profile
  | .powerdSetDgpuAwake awake => w.pinned = some awake
  | _ => false

/-- A call is needed: powerd is there, and has not accepted it already. -/
def Needed (e : Eff) : Prop := e.resource = .powerd → w.failed = false ∧ w.has e = false

/-- What the daemon keeps of powerd in the context. -/
def ofContext (c : Context) : PowerdLink where
  failed := !c.power.powerdAvailable
  applied := c.power.powerApplied
  pinned := c.gpu.dgpuPinned

/-- The link is read off the groups of records. -/
theorem ofContext_of_groups {c c' : Context} (h : c'.groups = c.groups) :
    ofContext c' = ofContext c := by
  have hpower : c'.power = c.power := congrArg Groups.power h
  have hgpu : c'.gpu = c.gpu := congrArg Groups.gpu h
  rw [ofContext, ofContext, hpower, hgpu]

/-- An answer of another resource tells nothing. -/
theorem told_of_ne {c : Context} {e : Eff} (b : e.Ans) (he : e.resource ≠ .powerd) :
    w.told ⟨(c, e), b⟩ = w := by
  cases e with
  | powerdApplyProfile _ | powerdSetDgpuAwake _ => exact absurd rfl he
  | _ => rfl

/-- The pieces that call powerd for what is needed, and record what came of it. -/
abbrev Kept {α : Type} (x : Daemon α) : Prop :=
  Stays (fun _ => True) told (fun _ e w => w.Needed e) (fun c w => w = ofContext c) x

/-- What calls powerd for nothing and keeps what the context has of it. -/
theorem framed (rs : List Resource) (hrs : Resource.powerd ∉ rs) :
    Frames (fun _ => True) told (fun _ e w => w.Needed e) (fun c w => w = ofContext c) rs
      ofContext := by
  refine framed_of_view (R := fun e => e.resource = .powerd) (J := fun v w => w = v)
    (fun e he hmem => hrs (he ▸ hmem)) (fun _ _ _ he hr => absurd hr he) ?_
  rintro a c e w b he - rfl
  exact told_of_ne _ b he

section

variable (session : Bool)

/-- The apply calls powerd for a profile that it has not accepted. -/
theorem kept_applyPowerProfile (profile : PowerProfile) :
    Kept ((⟨false, session⟩ : Effectors).applyPowerProfile profile) := by
  rintro c _ rfl
  rw [Effectors.applyPowerProfile, wp_get_bind, wp_when]
  refine ⟨fun hcalls => ?_, fun _ => wp_observer_pure.mpr rfl⟩
  simp only [Bool.not_eq_true', Bool.or_eq_false_iff, decide_eq_false_iff_not,
    Bool.not_eq_false'] at hcalls
  rw [wp_observer_ask_bind]
  refine ⟨fun h => absurd h (by simp), fun now _ => ?_⟩
  rw [wp_modify_bind, if_neg Bool.false_ne_true, wp_observer_ask_bind]
  refine ⟨fun _ => ⟨by simp [ofContext, told, hcalls.2], ?_⟩, fun ok _ => ?_⟩
  · exact decide_eq_false hcalls.1
  · rw [wp_ite, Effectors.powerdUnavailable]
    refine ⟨fun hok => wp_observer_modify.mpr ?_, fun hok => wp_observer_modify.mpr ?_⟩
    · simp [told, hok, ofContext]
    · simp [told, hok, ofContext]

/-- The pin keeps the link. -/
theorem kept_syncDgpuPin (awake : Bool) :
    Kept ((⟨false, session⟩ : Effectors).syncDgpuPin awake) := by
  rintro c _ rfl
  rw [Effectors.syncDgpuPin, wp_get_bind, wp_when]
  refine ⟨fun hcalls => ?_, fun _ => wp_observer_pure.mpr rfl⟩
  simp only [Bool.not_eq_true', Bool.or_eq_false_iff, decide_eq_false_iff_not,
    Bool.not_eq_false'] at hcalls
  rw [if_neg Bool.false_ne_true, wp_observer_ask_bind]
  refine ⟨fun _ => ⟨by simp [ofContext, hcalls.2], ?_⟩, fun ok _ => ?_⟩
  · exact decide_eq_false hcalls.1
  · rw [wp_ite, Effectors.powerdUnavailable]
    refine ⟨fun hok => wp_observer_modify.mpr ?_, fun hok => wp_observer_modify.mpr ?_⟩
    · simp [told, hok, ofContext]
    · simp [told, hok, ofContext]

/-- Nothing else calls powerd, or moves what the context keeps of it. -/
theorem invariant : GroupInvariant (⟨false, session⟩ : Effectors) (fun _ => True) told
    (fun _ e w => w.Needed e) (fun c w => w = ofContext c) where
  toProfilePieces :=
    .of_view (J := fun v w => w = v) (framed [.query, .file, .profile, .command] (by decide))
    (fun _ => id) fun _ _ _ _ => rfl
  toPowerPieces :=
    .of_view (J := fun v w => w = v) (framed [.powerOverride, .command] (by decide)) (fun _ => id)
    fun _ _ _ _ _ => rfl
  toBrightnessPieces :=
    .of_view (J := fun v w => w = v) (framed [.query, .light] (by decide)) (fun _ => id)
    fun _ _ => rfl
  toKbdPieces :=
    .of_view (J := fun v w => w = v) (framed [.query, .light, .file, .kbdOverride] (by decide))
    (fun _ => id) fun _ _ => rfl
  toTaskPieces :=
    .of_view (J := fun v w => w = v) (framed [.query, .abort, .timer, .graceTimer] (by decide))
    (fun _ => id) fun _ _ _ _ _ => rfl
  toCommandPieces :=
    .of_view (J := fun v w => w = v) (framed (entryResources ++ suspendResources) (by decide))
    (fun _ => id) fun _ _ _ _ => rfl
  apply := kept_applyPowerProfile session
  pin := kept_syncDgpuPin session
  core _ _ _ hc hI := hI.trans (ofContext_of_groups hc).symm
  frame hx hrs hQ := framed framedResources (by decide) hx hrs fun c a c' hc' =>
    ofContext_of_groups (hQ c a c' hc')
  -- The drift check calls nothing and keeps the pin it compares with.
  drift trigger mode source := by
    have hleaves : Leaves (fun e => e.resource = .powerd) ofContext
        ((⟨false, session⟩ : Effectors).checkAndNotifyDrift trigger mode source) :=
      checkAndNotifyDrift_leaves _ (fun e he hr => absurd (he.symm.trans hr) (by decide))
        (fun _ _ => by simp)
        (fun c gpu hpin => by rw [ofContext, ofContext, ← hpin]) trigger mode source
    refine Stays.of_leaves (J := fun v w => w = v) hleaves (fun _ _ _ he hr => absurd hr he) ?_
    rintro a c e w b he - rfl
    exact told_of_ne _ b he

/-- The setup calls powerd for nothing. -/
theorem setup_kept : Wp (World.observer (fun _ => True) told) (fun _ e w => w.Needed e)
    (fun _ c' w' => w' = ofContext c') (⟨false, session⟩ : Effectors).setup {} {} := by
  refine (invariant session).setup (fun _ _ _ hI => hI) (fun conf => ?_) ?_ rfl rfl
  · exact framed [.query, .kbdOverride] (by decide) (fun c => seedKbd_spec c conf) (fun _ => id)
      (by rintro _ _ _ ⟨k, rfl⟩; rfl)
  · intro c w _
    exact framed [.query] (by decide) seedProfile_spec (fun _ => id)
      (by rintro _ _ _ ⟨n, r, e, rfl⟩; rfl) c w

/-- Every turn, once the event is taken. -/
theorem handle_kept (ev : Event) (c : Context) (w : PowerdLink) (hI : w = ofContext c) :
    Wp (World.observer (fun _ => True) told) (fun _ e w => w.Needed e)
      (fun _ c' w' => w' = ofContext c')
      ((⟨false, session⟩ : Effectors).handle ev) c (w.take ev) := by
  refine (invariant session).handle ?_
  by_cases hev : ev = .powerdAppeared
  · subst hev hI
    rw [Effectors.dispatchUpdate, wp_modify_bind, wp_modify_bind, wp_observer_pure]
    cases h : c.power.powerdAvailable <;> simp [take, ofContext, h]
  · have htake : w.take ev = w := by cases ev <;> first | rfl | exact absurd rfl hev
    rw [htake]
    exact (invariant session).dispatchUpdate ev hev c w hI

end

/-! ## Between two calls -/

variable {w : PowerdLink}

/-- A link that is down comes up by an appearance only. -/
theorem failed_observe {x : Sight} (hx : x ≠ .inl .powerdAppeared) (hw : w.failed = true) :
    (observe take told w x).failed = true := by
  rcases x with ev | ⟨⟨c, e⟩, b⟩
  · cases ev <;> first | exact hw | exact absurd rfl hx
  · cases e with
    | powerdApplyProfile _ | powerdSetDgpuAwake _ => cases (b : Bool) <;> first | exact hw | rfl
    | _ => exact hw

/-- While no call fails the link stays up, and powerd has what it accepted until it accepts a
rival. -/
theorem has_observe {x : Sight} {e : Eff} (hx : ∀ o, x = .inr o → powerdOutcome o ≠ some false)
    (hrival : ∀ o, x = .inr o → powerdOutcome o = some true → o.1.2.rivals e = false)
    (hw : w.failed = false ∧ w.has e = true) :
    (observe take told w x).failed = false ∧ (observe take told w x).has e = true := by
  rcases x with ev | ⟨⟨c, e'⟩, b⟩
  · have htake : w.take ev = w := by cases ev <;> simp [take, hw.1]
    rwa [observe, htake]
  · have hok := hx _ rfl
    have hnot := hrival _ rfl
    cases e' with
    | powerdApplyProfile p =>
      obtain rfl : b = true := by cases (b : Bool) <;> first | rfl | exact absurd rfl hok
      refine ⟨hw.1, ?_⟩
      cases e with
      | powerdApplyProfile q =>
        have hpq : p = q := by simpa [Eff.rivals] using hnot rfl
        simp [observe, told, has, hpq]
      | _ => exact hw.2
    | powerdSetDgpuAwake p =>
      obtain rfl : b = true := by cases (b : Bool) <;> first | rfl | exact absurd rfl hok
      refine ⟨hw.1, ?_⟩
      cases e with
      | powerdSetDgpuAwake q =>
        have hpq : p = q := by simpa [Eff.rivals] using hnot rfl
        simp [observe, told, has, hpq]
      | _ => exact hw.2
    | _ => exact hw

/-- Only a call of powerd has an outcome. -/
theorem resource_of_outcome {o : DaemonObs} {ok : Bool} (h : powerdOutcome o = some ok) :
    o.1.2.resource = .powerd := by
  obtain ⟨⟨c, e⟩, b⟩ := o
  cases e with
  | powerdApplyProfile _ | powerdSetDgpuAwake _ => rfl
  | _ => cases h

/-- A failed call marks the link, and one that went through is had. -/
theorem told_of_outcome {o : DaemonObs} (ho : o.1.2.resource = .powerd) :
    (powerdOutcome o = some false → (w.told o).failed = true) ∧
      (powerdOutcome o = some true → (w.told o).failed = w.failed ∧
        (w.told o).has o.1.2 = true) := by
  by_cases hne : powerdOutcome o = none
  · simp [hne]
  obtain ⟨⟨c, e⟩, b⟩ := o
  cases e with
  | powerdApplyProfile _ | powerdSetDgpuAwake _ => cases (b : Bool) <;>
      simp [powerdOutcome, told, has]
  | _ => exact absurd rfl hne

/-- Between a call that failed and the next one powerd appeared; between two calls for the same
value the first of which was accepted, powerd accepted another value, or a call failed. -/
def CallsNeeded (seen : List Sight) : Prop :=
  ∀ pre mid post o o', seen = pre ++ .inr o :: mid ++ .inr o' :: post → o'.1.2.resource = .powerd →
    (powerdOutcome o = some false → .inl .powerdAppeared ∈ mid) ∧
      (powerdOutcome o = some true → o'.1.2 = o.1.2 →
        ∃ o₁, .inr o₁ ∈ mid ∧
          (powerdOutcome o₁ = some false ∨ powerdOutcome o₁ = some true ∧
            o₁.1.2.rivals o.1.2 = true))

/-- In every run of the daemon, every call to powerd is needed. -/
theorem callsNeeded {session : Bool} {tr₀ : List DaemonObs} {ts : List Turn} {c : Context}
    (h : Run ⟨false, session⟩ tr₀ ts c) : CallsNeeded (sights tr₀ ts) := by
  have halong := (h.observed (setup_kept session) (invariant session).startup
    (handle_kept session) fun _ _ => trivial).1
  rintro pre mid post o o' heq hcall
  rw [heq, along_append, along_append] at halong
  obtain ⟨⟨-, hmade, -⟩, hagain, -⟩ := halong
  rw [List.foldl_append, List.foldl_cons] at hagain
  generalize pre.foldl (observe take told) {} = w at hmade hagain
  obtain ⟨hup, hnot⟩ := hagain hcall
  constructor
  · intro hfail
    by_contra hmid
    have hdown := List.foldlRecOn (motive := fun w => w.failed = true) mid (observe take told)
      ((told_of_outcome (w := w) (resource_of_outcome hfail)).1 hfail)
      fun w hw x hx => failed_observe (fun hx' => hmid (hx' ▸ hx)) hw
    exact absurd (hdown.symm.trans hup) (by decide)
  · intro haccept hsame
    by_contra hmid
    push Not at hmid
    have hcall' : o.1.2.resource = .powerd := hsame ▸ hcall
    obtain ⟨hkept, hhas⟩ := (told_of_outcome (w := w) hcall').2 haccept
    have hstill := List.foldlRecOn (motive := fun w => w.failed = false ∧ w.has o.1.2 = true) mid
      (observe take told) ⟨hkept.trans (hmade hcall').1, hhas⟩
      fun w hw x hx => has_observe (fun o₁ hx' => (hmid o₁ (hx' ▸ hx)).1)
        (fun o₁ hx' hok => Bool.eq_false_iff.mpr ((hmid o₁ (hx' ▸ hx)).2 hok)) hw
    rw [hsame] at hnot
    exact absurd (hstill.2.symm.trans hnot) (by decide)

/-- A machine that finds nothing, whose powerd is away or not. -/
def powerdUp (up : Bool) : (e : Eff) → e.Ans
  | .powerdApplyProfile _ | .powerdSetDgpuAwake _ => up
  | e => e.quiet

/-- powerd is away when the daemon starts, and appears. -/
theorem callsNeeded_appeared : ∃ tr₀ ts c, Run ⟨false, true⟩ tr₀ ts c ∧
    ((sights tr₀ ts).filterMap (Sum.elim (fun _ => none) powerdOutcome)) = [false, true] ∧
    CallsNeeded (sights tr₀ ts) := by
  have hstart := Run.start (runs_answered (Effectors.setup ⟨false, true⟩) (powerdUp false) {})
    (runs_answered (Effectors.startup ⟨false, true⟩) (powerdUp false) _)
  have hsettled := hstart.turn .powerAcSettled
    (runs_answered (Effectors.handle ⟨false, true⟩ _) (powerdUp false) _)
  have hrun := hsettled.turn .powerdAppeared
    (runs_answered (Effectors.handle ⟨false, true⟩ _) (powerdUp true) _)
  exact ⟨_, _, _, hrun, by decide +kernel, callsNeeded hrun⟩

end PowerdLink

end Hyprstate
