import Hyprstate.Daemon.Records
import Hyprstate.Powerd.Client

/-!
# What a turn does to the panel

The panel is written by the brightness effects alone, which the power policy check runs on an edge
of the base state, and what they keep is moved besides by a resume and by a backlight that comes or
goes. So a turn takes a relation between that record and a world to another one, when the three
pieces do (`PanelRule.handle`); the rest of the turn leaves both alone.
-/

namespace Hyprstate

open Reactive Process

/-- The record of the brightness effects, and the base state that their edges are taken from. -/
structure PanelView where
  brightness : BrightnessContext
  base : Option BaseState

/-- The records of the context that the panel hangs on. -/
def Context.panelView (c : Context) : PanelView where
  brightness := c.brightness
  base := c.power.powerLastBase

/-- A request that writes the panel. -/
def Eff.writesPanel (e : Eff) : Prop := ∃ dev value, e = .setBrightness "backlight" dev value

/-- A request of no light does not write the panel. -/
theorem Eff.not_writesPanel {e : Eff} (h : e.resource ≠ .light) : ¬e.writesPanel := by
  rintro ⟨dev, value, rfl⟩
  exact h rfl

/-- Nor does what a footprint without the lights bounds. -/
theorem not_writesPanel_of_only {rs : List Resource} {c : Context} {e : Eff} (h : only rs c e)
    (hrs : Resource.light ∉ rs) : ¬e.writesPanel :=
  Eff.not_writesPanel fun hlight => hrs (hlight ▸ h)

/-- A piece that neither writes the panel nor moves the record or the base state. -/
abbrev LeavesPanel {α : Type} (x : Daemon α) : Prop := Leaves Eff.writesPanel Context.panelView x

/-- A program whose footprint has no lights leaves the panel, where it leaves the records. -/
theorem leavesPanel_of_only {α : Type} {x : Daemon α} {rs : List Resource}
    {Q : Context → α → Context → Prop} (h : ∀ c, Meets x c (only rs) (Q c))
    (hrs : Resource.light ∉ rs) (hQ : ∀ c a c', Q c a c' → c'.panelView = c.panelView) :
    LeavesPanel x :=
  .of_meets h (fun _ _ _ he => not_writesPanel_of_only he hrs) hQ

/-- What leaves all the records leaves the panel. -/
theorem LeavesRecords.panel {α : Type} {x : Daemon α} (h : LeavesRecords x) : LeavesPanel x := by
  refine h.view ?_ fun c c' hrecords => ?_
  · rintro _ ⟨dev, value, rfl⟩
    rfl
  · have hpower : c'.power = c.power := congrArg Records.power hrecords
    have hbrightness : c'.brightness = c.brightness := congrArg Records.brightness hrecords
    unfold Context.panelView
    rw [hpower, hbrightness]

section

variable (fx : Effectors)

/-- The override's step leaves the panel. -/
theorem powerOverrideStep_leavesPanel (base : BaseState) :
    LeavesPanel (fx.powerOverrideStep base) := by
  refine leavesPanel_of_only (fun c => powerOverrideStep_exact fx c base) (by decide) ?_
  rintro c _ _ rfl
  obtain ⟨o, b, hstep⟩ := c.power.overrideStep_eq base
  rw [hstep]
  rfl

/-- So does the call of powerd. -/
theorem applyPowerProfile_leavesPanel (profile : PowerProfile) :
    LeavesPanel (fx.applyPowerProfile profile) :=
  leavesPanel_of_only (fun c => applyPowerProfile_exact fx c profile) (by decide)
    (by rintro _ _ _ ⟨⟨t, a, v, w, rfl⟩, -⟩; rfl)

/-- So does an adoption. -/
theorem adoptPowerOverride_leavesPanel (profile : PowerProfile) :
    LeavesPanel (fx.adoptPowerOverride profile) :=
  leavesPanel_of_only (fun c => adoptPowerOverride_exact fx c profile) (by decide)
    (by rintro _ _ _ rfl; rfl)

/-- So does the pin. -/
theorem syncDgpuPin_leavesPanel (awake : Bool) : LeavesPanel (fx.syncDgpuPin awake) := by
  rw [Effectors.syncDgpuPin]
  refine .get_bind fun c =>
    .when _ (.bind (.ite (.pure _) (.ask (Eff.not_writesPanel (by simp)))) ?_)
  exact fun ok => .ite (.modify fun _ => rfl) (.modify fun _ => rfl)

/-- So does the check of the GPU. -/
theorem gpuCheck_leavesPanel (trigger : String) (chosen : Option MonitorProfile) :
    LeavesPanel (fx.gpuCheck trigger chosen) :=
  .bind (leavesPanel_of_only (fun c => gpuDriftCheck_spec fx c _ _) (by decide)
    (by rintro _ _ _ ⟨g, rfl⟩; rfl)) fun _ => syncDgpuPin_leavesPanel fx _

/-- The keyboard's light is no backlight. -/
theorem kbdSet_leavesPanel (pct : Nat) : LeavesPanel (fx.kbdSet pct) := by
  rw [Effectors.kbdSet]
  refine .get_bind fun c => ?_
  cases c.kbd.kbdLed with
  | none => exact .pure _
  | some led =>
    refine .when _ (.bind (.ite (.pure _) (.ask ?_)) fun ok => .when _ (.modify fun _ => rfl))
    rintro ⟨dev, value, h⟩
    exact absurd (Eff.setBrightness.inj h).1 (by decide)

/-- The keys are no panel. -/
theorem kbdPolicyCheck_leavesPanel (sample : Bool) : LeavesPanel (fx.kbdPolicyCheck sample) := by
  rw [Effectors.kbdPolicyCheck]
  refine .get_bind fun c => .when _ (.bind (.when _ ?_) fun _ => .get_bind fun c₁ => ?_)
  · exact leavesPanel_of_only kbdSample_spec (by decide) (by rintro _ _ _ ⟨k, rfl⟩; rfl)
  · exact .bind (kbdSet_leavesPanel fx _) fun _ =>
      leavesPanel_of_only (fun c => kbdWriteStatus_spec fx c _) (by decide)
        (by rintro _ _ _ rfl; rfl)

/-- A tick's repairs leave it. -/
theorem repairContext_leavesPanel (snap : ReconcileSnapshot) :
    LeavesPanel (Effectors.repairContext snap) :=
  leavesPanel_of_only (fun c => repairContext_spec c snap) (by decide)
    (by rintro _ _ _ ⟨req, t, rfl, -⟩; rfl)

/-- So does a word of the override's file. -/
theorem powerOverrideChanged_leavesPanel (word : Option String) :
    LeavesPanel (fx.dispatchUpdate (.powerOverrideChanged word)) := by
  intro c
  rw [Effectors.dispatchUpdate, meets_bind, meets_get]
  cases word with
  | none => rfl
  | some w =>
    dsimp only
    cases PowerProfile.parse w with
    | none => rfl
    | some p =>
      rw [meets_bind, meets_when]
      exact ⟨fun _ => rfl, fun _ => rfl⟩

/-! ## Relations that the rest of a turn keeps -/

variable {σ : Type} {W : World (Context × Eff) (stamped Eff.Ans) σ} {R Q T : PanelView → σ → Prop}

/-- Neither the world's own moves nor the answers to other requests end the relation. -/
structure Framed (W : World (Context × Eff) (stamped Eff.Ans) σ) (R : PanelView → σ → Prop) :
    Prop where
  drift : ∀ v w w', W.drift w w' → R v w → R v w'
  answer : ∀ v c e w b w', ¬e.writesPanel → W.answer (c, e) w b w' → R v w → R v w'

/-- The piece takes the one relation to the other. -/
def PanelStep {α : Type} (W : World (Context × Eff) (stamped Eff.Ans) σ)
    (R Q : PanelView → σ → Prop) (x : Daemon α) : Prop :=
  ∀ c w, R c.panelView w → Wp W (fun _ _ _ => True) (fun _ c' w' => Q c'.panelView w') x c w

/-- What leaves the panel keeps every framed predicate. -/
theorem Framed.step {α : Type} {x : Daemon α} (hR : Framed W R) (hx : LeavesPanel x) :
    PanelStep W R R x := by
  intro c w hw
  refine (wp_of_meets (J := R c.panelView) (hx c) hw (hR.drift _) ?_).mono
    (fun _ _ _ _ => trivial) ?_
  · exact fun c' e w₁ b w₂ he => hR.answer _ c' e w₁ b w₂ he
  · rintro _ c' w' ⟨hview, hw'⟩
    rw [hview]
    exact hw'

namespace PanelStep

variable {α β : Type} {x : Daemon α} {f : α → Daemon β}

/-- Steps of the panel compose. -/
theorem bind (hx : PanelStep W R Q x) (hf : ∀ a, PanelStep W Q T (f a)) :
    PanelStep W R T (x >>= f) :=
  fun c w hw => (hx c w hw).bind fun a c' w' hw' => hf a c' w' hw'

/-- To read the context is no step. -/
theorem get_bind {f : Context → Daemon β} (hf : ∀ c, PanelStep W R Q (f c)) :
    PanelStep W R Q (get >>= f) := fun c w hw => hf c c w hw

/-- Nor is a change that leaves the panel's records. -/
theorem modify_bind {g : Context → Context} {f : PUnit → Daemon β}
    (hg : ∀ c, (g c).panelView = c.panelView) (hf : PanelStep W R Q (f ⟨⟩)) :
    PanelStep W R Q (modify g >>= f) := by
  intro c w hw
  rw [wp_modify_bind]
  exact hf (g c) w (by rwa [hg c])

/-- A step from a weaker predicate is one from a stronger. -/
theorem imp {R' : PanelView → σ → Prop} (hx : PanelStep W R Q x) (h : ∀ v w, R' v w → R v w) :
    PanelStep W R' Q x := fun c w hw => hx c w (h _ w hw)

/-- A step under a condition, where the predicate of before is enough. -/
theorem when {x : Daemon Unit} (p : Bool) (hQ : Framed W Q) (hx : PanelStep W R Q x)
    (hrest : ∀ v w, R v w → Q v w) : PanelStep W R Q (Process.when p x) := by
  intro c w hw
  rw [wp_when]
  exact ⟨fun _ => hx c w hw, fun _ w' hdrift => hdrift.keeps (hQ.drift _) (hrest _ w hw)⟩

end PanelStep

/-! ## One turn -/

/-- The pieces that move the record take `R` to `Q`, where the event runs them, and so does a turn
that runs none. The policy check records the base state and then runs the brightness effects of the
edge. -/
structure PanelRule (fx : Effectors) (W : World (Context × Eff) (stamped Eff.Ans) σ) (ev : Event)
    (R Q : PanelView → σ → Prop) : Prop where
  before : Framed W R
  after : Framed W Q
  rest : ∀ v w, R v w → Q v w
  first : ∀ b base w, R ⟨b, none⟩ w → Q ⟨b, some base⟩ w
  edge : ∀ prev base c w, R ⟨c.brightness, some prev⟩ w → c.power.powerLastBase = some base →
    Wp W (fun _ _ _ => True) (fun _ c' w' => Q c'.panelView w') (fx.brightnessEdge prev base) c w
  rearm : ev = .resumed → PanelStep W R Q Effectors.brightnessRearm
  discover : ev = .backlightHotplug → PanelStep W R Q Effectors.discoverBacklight

variable {fx} {ev : Event} (hrule : PanelRule fx W ev R Q)
include hrule

namespace PanelRule

/-- A piece that leaves the panel alone, where no other piece comes before or after it. -/
theorem quiet {α : Type} {x : Daemon α} (hx : LeavesPanel x) : PanelStep W R Q x :=
  (hrule.after.step hx).imp hrule.rest

/-- The power policy, which holds the one edge of the brightness. -/
theorem check : PanelStep W R Q fx.powerPolicyCheck := by
  rw [Effectors.powerPolicyCheck]
  refine .get_bind fun c =>
    .bind (hrule.before.step (powerOverrideStep_leavesPanel fx _)) fun _ => ?_
  refine .get_bind fun c₁ =>
    .bind (hrule.before.step (applyPowerProfile_leavesPanel fx _)) fun _ => ?_
  intro c₂ w hw
  rw [wp_get_bind, wp_set_bind]
  unfold Context.panelView at hw
  cases hbase : c₂.power.powerLastBase with
  | none =>
    rw [hbase] at hw
    exact fun w' hdrift => hdrift.keeps (hrule.after.drift _) (hrule.first _ _ w hw)
  | some prev =>
    rw [hbase] at hw
    exact hrule.edge prev _ _ w hw rfl

/-- The same under a condition. -/
theorem checks (p : Bool) : PanelStep W R Q (when p fx.powerPolicyCheck) :=
  .when p hrule.after hrule.check hrule.rest

/-- The arm of the monitors, whose check it is. -/
theorem handleMonitorsChanged : PanelStep W R Q fx.handleMonitorsChanged := by
  have hrest : ∀ chosen : Option MonitorProfile, PanelStep W R Q (do
      fx.writeGpuBreadcrumb (chosen.map MonitorProfile.gpu)
      fx.gpuCheck "monitors changed" chosen
      fx.powerPolicyCheck
      let c ← get
      Process.when (!Effectors.edpShouldBeOn c && decide (c.extMonCount > 0))
        fx.rehomeEdpWorkspaces) := by
    intro chosen
    refine .bind (hrule.before.step (writeGpuBreadcrumb_records fx _).panel) fun _ => ?_
    refine .bind (hrule.before.step (gpuCheck_leavesPanel fx _ chosen)) fun _ => ?_
    refine .bind hrule.check fun _ => hrule.after.step ?_
    exact .get_bind fun c => .when _ (rehomeEdpWorkspaces_records fx).panel
  rw [Effectors.handleMonitorsChanged]
  refine .bind (hrule.before.step currentMatch_records.panel) fun chosen => ?_
  cases chosen with
  | none => exact .modify_bind (fun _ => rfl) (hrest none)
  | some p =>
    exact .bind (hrule.before.step (applyProfile_records fx p).panel) fun _ => hrest (some p)

/-- The arm of the tick. -/
theorem handleReconcileTick (snap : ReconcileSnapshot) :
    PanelStep W R Q (fx.handleReconcileTick snap) := by
  have hdrive : ∀ fsm power : Bool, PanelStep W R Q (fx.driveRepairs fsm power) := by
    intro fsm power
    refine .bind (.when _ hrule.after ?_ hrule.rest) fun _ =>
      hrule.after.step (.when _ (evaluateFsms_records fx _).panel)
    refine .modify_bind (fun _ => rfl) (.bind hrule.check fun _ => hrule.after.step ?_)
    exact .bind (batteryLowRequestCheck_records fx).panel fun _ => .pure _
  rw [Effectors.handleReconcileTick]
  refine .bind (hrule.before.step (repairContext_leavesPanel snap)) fun drift => ?_
  refine .bind (hdrive drift.1 drift.2) fun _ => hrule.after.step ?_
  refine .get_bind fun c => .when _ (.bind ingestActiveProfile_records.panel fun _ => ?_)
  exact .bind (enforceEdp_records fx snap).panel fun _ => (dpmsBackstop_records fx snap).panel

/-- The common tail. -/
theorem dispatchTail : PanelStep W R Q (fx.dispatchTail ev) := by
  have hgpu : LeavesPanel (Process.when (decide (ev.kind = .acPlugged ∨ ev.kind = .acUnplugged ∨
      ev.kind = .platformProfileChanged ∨ ev.kind = .gpuOverrideChanged)) do
        let chosen ← Effectors.currentMatch
        fx.gpuCheck ev.label chosen) :=
    .when _ (.bind currentMatch_records.panel fun chosen => gpuCheck_leavesPanel fx _ chosen)
  have hfsm : LeavesPanel (fx.evaluateFsms ev.kind) := (evaluateFsms_records fx ev.kind).panel
  rw [dispatchTail_eq, Effectors.tailChecks]
  by_cases hresumed : ev = .resumed
  · -- A resume re-arms the guard, and no check follows.
    subst hresumed
    refine .bind (.bind (hrule.rearm rfl) fun _ => ?_) fun _ => hrule.after.step hfsm
    exact .bind (hrule.after.step hgpu) fun _ => hrule.after.step (.pure _)
  · have hno : decide (ev.kind = .resumed) = false := by
      simpa [Event.kind_eq_resumed_iff] using hresumed
    rw [hno]
    refine .bind (.bind (hrule.before.step (.pure _)) fun _ => ?_) fun _ => hrule.after.step hfsm
    exact .bind (hrule.before.step hgpu) fun _ => hrule.checks _

/-- The events that run a check by themselves, and then fall through to a tail without one, or to
none. -/
def checksByItself : Event → Bool
  | .reconcileTick _ | .monitorsChanged | .backlightHotplug | .platformProfileChanged _ => true
  | _ => false

omit hrule in
/-- The arms of the other events leave the panel alone. -/
theorem dispatchUpdate_quiet (hev : checksByItself ev = false) :
    LeavesPanel (fx.dispatchUpdate ev) := by
  -- An arm that moves no record writes no light either.
  by_cases hrecords : movesRecords ev = false
  · exact (dispatchUpdate_records fx ev hrecords).panel
  have hkbd : ∀ sample falls : Bool, LeavesPanel (do fx.kbdPolicyCheck sample; pure falls) :=
    fun sample falls => .bind (kbdPolicyCheck_leavesPanel fx sample) fun _ => .pure _
  have hask : ∀ trigger, LeavesPanel (Effectors.requestReconcile trigger) := fun trigger =>
    leavesPanel_of_only (fun c => requestReconcile_spec c trigger) (by decide)
      (by rintro _ _ _ rfl; rfl)
  -- Of those that move one, these never check the brightness.
  cases ev with
  | reconcileTick _ | monitorsChanged | backlightHotplug | platformProfileChanged _ =>
    exact absurd hev (by simp [checksByItself])
  | sleeping | kbdLevelChanged _ | kbdOverrideChanged _ =>
    exact .modify_bind (fun _ => rfl) (hkbd _ _)
  | kbdIdle idle =>
    refine .modify_bind (fun _ => rfl) (.bind (.when _ ?_) fun _ => hkbd _ _)
    exact leavesPanel_of_only (fun c => kbdReleaseOverride_spec fx c) (by decide)
      (by rintro _ _ _ ⟨k, rfl⟩; rfl)
  | kbdLedHotplug =>
    exact .bind (leavesPanel_of_only discoverKbd_spec (by decide) (by rintro _ _ _ ⟨k, rfl⟩; rfl))
      fun _ => hkbd _ _
  | lockChanged locked =>
    exact .modify_bind (fun _ => rfl) (.bind (hask _) fun _ => hkbd _ _)
  | powerOverrideChanged word => exact powerOverrideChanged_leavesPanel fx word
  | powerdAppeared =>
    exact .modify_bind (fun c => by dsimp only; split <;> rfl)
      (.modify_bind (fun _ => rfl) (.pure _))
  | resumed =>
    refine .modify_bind (fun _ => rfl) (.bind ?_ fun _ => .bind (hask _) fun _ => ?_)
    · exact .when _ (.bind (.ask (Eff.not_writesPanel (by simp))) fun _ => .pure _)
    · exact .modify_bind (fun _ => rfl) (hkbd _ _)
  | _ => exact absurd rfl hrecords

/-- The dispatch, of its arm and tail. -/
theorem dispatch : PanelStep W R Q (fx.dispatch ev) := by
  rw [Effectors.dispatch]
  by_cases hev : checksByItself ev = false
  · refine .bind (hrule.before.step (dispatchUpdate_quiet hev)) fun falls => ?_
    exact .when falls hrule.after hrule.dispatchTail hrule.rest
  -- An arm that checks by itself takes the one relation to the other, and its tail leaves the panel
  -- alone.
  have hdone : ∀ {x : Daemon Unit}, PanelStep W R Q x → PanelStep W R Q (do
      let falls ← (do x; pure false : Daemon Bool)
      Process.when falls (fx.dispatchTail ev)) := by
    intro x hx
    rw [bind_assoc]
    exact .bind hx fun _ => hrule.after.step fun _ => rfl
  cases ev with
  | reconcileTick snap => exact hdone (hrule.handleReconcileTick snap)
  | monitorsChanged => exact hdone hrule.handleMonitorsChanged
  | backlightHotplug => exact hdone (hrule.discover rfl)
  | platformProfileChanged value =>
    refine .bind (Q := Q) ?_ fun falls => hrule.after.step (.when _ ?_)
    · rw [Effectors.dispatchUpdate]
      refine .bind (hrule.before.step (.ask (Eff.not_writesPanel (by simp)))) fun now => ?_
      intro c w hw
      rw [wp_get_bind, wp_set_bind]
      refine PanelStep.bind (.when _ hrule.after ?_ hrule.rest)
        (fun _ => hrule.after.step (.pure _)) _ w (by exact hw)
      exact .bind (hrule.before.step (adoptPowerOverride_leavesPanel fx _)) fun _ => hrule.check
    · -- The tail of this event runs no check.
      rw [dispatchTail_eq]
      refine .bind ?_ fun _ => (evaluateFsms_records fx _).panel
      refine .bind (.pure _) fun _ => .bind (.when _ ?_) fun _ => .pure _
      exact .bind currentMatch_records.panel fun chosen => gpuCheck_leavesPanel fx _ chosen
  | _ => exact absurd rfl hev

/-- A turn takes the one relation to the other. -/
theorem handle : PanelStep W R Q (fx.handle ev) :=
  .bind hrule.dispatch fun _ => hrule.after.step (syncWaybar_records fx).panel

end PanelRule

end

end Hyprstate
