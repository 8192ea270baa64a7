import Hyprstate.Daemon.Avoidance
import Hyprstate.Daemon.Records
import Hyprstate.Reactive.Assume

/-!
# The keyboard LED follows the rule table

`kbd_policy_check` brings the LED to what the rules say of the context. The rules read the
keyboard's record and `locked`. An event that moves one of these runs the check as the last thing
that does (`kbdPolicyCheck_follows`), but for the reconcile tick, which repairs `locked` and runs no
check; the other events leave both alone (`LeavesLed`). So the LED follows the rules in every state
of a run exactly when no tick moves what they say (`ledFollows_iff_steady`).
-/

namespace Hyprstate

open Reactive Process

/-! ## What the LED is to show -/

/-- The inputs of the rules. -/
def Context.kbdInputs (c : Context) : KbdInputs where
  locked := c.locked
  sleeping := c.kbd.kbdSleeping
  typing := c.kbd.kbdTyping
  dark := c.kbd.kbdDark
  overrideArmed := c.kbd.kbdOverride

/-- The raw value that the rules call for, on an LED of this maximum. -/
def ledTarget (c : Context) (max : Nat) : Nat :=
  if kbdLit c.kbdInputs then levelToRaw c.kbd.kbdLevel max else 0

/-- Where the policy is active, the value last written is the one the rules call for. -/
def LedFollows (c : Context) : Prop :=
  c.kbdActive = true → ∀ name max, c.kbd.kbdLed = some (name, max) →
    c.kbd.kbdApplied = some (ledTarget c max)

/-- A reconcile tick repairs `locked` only where the LED is to show the same before and after. -/
def LedSteady (c : Context) : Event → Prop
  | .reconcileTick snap => c.kbdActive = true → ∀ name max, c.kbd.kbdLed = some (name, max) →
      ledTarget { c with locked := snap.locked.getD c.locked } max = ledTarget c max
  | _ => True

/-- Every write to the LED succeeds. -/
def ledWrites : (e : Eff) → e.Ans → Prop
  | .setBrightness subsystem _ _, ok => subsystem = "leds" → ok = true
  | _, _ => True

/-- An unlit keyboard has the raw value zero. -/
theorem levelToRaw_ite (lit : Bool) (level max : Nat) :
    levelToRaw (if lit then level else 0) max = if lit then levelToRaw level max else 0 := by
  cases lit <;> simp [levelToRaw]

/-! ## The check -/

section

variable (fx : Effectors) (hsession : fx.session = true)

include hsession in
/-- Setting the LED leaves it at the value asked for. -/
theorem kbdSet_applied (pct : Nat) (c : Context) :
    MeetsOn ledWrites (fx.kbdSet pct) c (fun _ _ => True) fun _ c' =>
      ∃ applied, c' = { c with kbd := { c.kbd with kbdApplied := applied } } ∧
        ∀ name max, c.kbd.kbdLed = some (name, max) → applied = some (levelToRaw pct max) := by
  rw [Effectors.kbdSet, meetsOn_bind, meetsOn_get]
  cases hled : c.kbd.kbdLed with
  | none => exact ⟨c.kbd.kbdApplied, rfl, by simp⟩
  | some led =>
    obtain ⟨name, max⟩ := led
    have hwritten : ∀ ok, ok = true → MeetsOn ledWrites
        (when ok (modify fun c => { c with
          kbd := { c.kbd with kbdApplied := some (levelToRaw pct max) } }) : Daemon Unit) c
        (fun _ _ => True) fun _ c' =>
          ∃ applied, c' = { c with kbd := { c.kbd with kbdApplied := applied } } ∧
            ∀ name' max', some (name, max) = some (name', max') →
              applied = some (levelToRaw pct max') := by
      rintro ok rfl
      refine ⟨some (levelToRaw pct max), rfl, ?_⟩
      rintro name' max' ⟨⟩
      rfl
    -- A value that is on record already is not written again.
    dsimp only
    rw [meetsOn_when]
    refine ⟨fun _ => ?_, fun hsame => ?_⟩
    -- Shadow mode records the value as if it were written.
    · rw [meetsOn_bind, meetsOn_ite]
      exact ⟨fun _ => hwritten true rfl, fun _ => ⟨trivial, fun ok hok => hwritten ok (hok rfl)⟩⟩
    · -- Nothing is written: the value stands.
      have happlied : c.kbd.kbdApplied = some (levelToRaw pct max) := by
        simpa [hsession] using hsame
      refine ⟨c.kbd.kbdApplied, rfl, ?_⟩
      rintro name' max' ⟨⟩
      exact happlied

include hsession in
/-- After the check the LED follows the rules, whatever stood before. -/
theorem kbdPolicyCheck_follows (sample : Bool) (c : Context) :
    MeetsOn ledWrites (fx.kbdPolicyCheck sample) c (fun _ _ => True) fun _ c' => LedFollows c' := by
  -- What the check does once the room and the typing are sampled.
  have hset : ∀ c₁ : Context, MeetsOn ledWrites (do
      let c ← get
      let lit := kbdLit
        { locked := c.locked
          sleeping := c.kbd.kbdSleeping
          typing := c.kbd.kbdTyping
          dark := c.kbd.kbdDark
          overrideArmed := c.kbd.kbdOverride }
      fx.kbdSet (if lit then c.kbd.kbdLevel else 0)
      fx.kbdWriteStatus lit) c₁ (fun _ _ => True) fun _ c' => LedFollows c' := by
    intro c₁
    rw [meetsOn_bind, meetsOn_get]
    refine (kbdSet_applied fx hsession _ c₁).bind ?_
    rintro _ _ ⟨applied, rfl, happlied⟩
    refine ((kbdWriteStatus_spec fx _ _).on.mono (fun _ _ _ => trivial) fun _ _ => id).imp ?_
    rintro _ _ rfl
    intro _ name max hled
    exact (happlied name max hled).trans (congrArg some (levelToRaw_ite _ _ _))
  rw [Effectors.kbdPolicyCheck, meetsOn_bind, meetsOn_get, meetsOn_when]
  refine ⟨fun _ => ?_, fun hoff hactive => ?_⟩
  · rw [meetsOn_bind, meetsOn_when]
    exact ⟨fun _ => (kbdSample_spec c).on.mono (fun _ _ _ => trivial) fun _ c' _ => hset c',
      fun _ => hset c⟩
  · rw [hoff] at hactive
    cases hactive

end

/-! ## What leaves the rules' inputs alone -/

/-- What the rules read, with the LED's record. -/
def ledView (c : Context) : KbdContext × Bool := (c.kbd, c.locked)

/-- The rule reads the view alone. -/
theorem ledFollows_of_view {c c' : Context} (h : ledView c' = ledView c) :
    LedFollows c' ↔ LedFollows c := by
  obtain ⟨hkbd, hlocked⟩ := Prod.mk.inj h
  unfold LedFollows ledTarget Context.kbdActive Context.kbdInputs
  rw [hkbd, hlocked]

/-- A piece that moves neither the keyboard's record nor `locked`. -/
abbrev LeavesLed {α : Type} (x : Daemon α) : Prop := Leaves (fun _ => False) ledView x

/-- A piece whose frame keeps the view leaves the LED. -/
theorem leavesLed_of_meets {α : Type} {x : Daemon α} {G : Context → Context → Eff → Prop}
    {Q : Context → α → Context → Prop} (h : ∀ c, Meets x c (G c) (Q c))
    (hQ : ∀ c a c', Q c a c' → ledView c' = ledView c) : LeavesLed x :=
  Leaves.of_meets h (fun _ _ _ _ => id) hQ

/-- A piece that leaves the records leaves the LED. -/
theorem LeavesRecords.led {α : Type} {x : Daemon α} (h : LeavesRecords x) : LeavesLed x :=
  h.view (fun _ => False.elim) fun _ _ hrecords =>
    Prod.ext (congrArg Records.kbd hrecords) (congrArg Records.locked hrecords)

section

variable (fx : Effectors)

/-- The power policy leaves it. -/
theorem powerPolicyCheck_leavesLed : LeavesLed fx.powerPolicyCheck :=
  leavesLed_of_meets (fun c => powerPolicyCheck_spec fx c) (by rintro _ _ _ ⟨p, b, rfl⟩; rfl)

/-- So does the GPU's check. -/
theorem gpuCheck_leavesLed (trigger : String) (chosen : Option MonitorProfile) :
    LeavesLed (fx.gpuCheck trigger chosen) :=
  leavesLed_of_meets (fun c => gpuCheck_spec fx c _ _) (by rintro _ _ _ ⟨g, p, rfl⟩; rfl)

/-- So does the tail of a turn. -/
theorem dispatchTail_leavesLed (ev : Event) : LeavesLed (fx.dispatchTail ev) := by
  rw [dispatchTail_eq]
  exact (leavesLed_of_meets (fun c => tailChecks_spec fx c ev)
    (by rintro _ _ _ ⟨g, p, b, rfl⟩; rfl)).bind fun _ => (evaluateFsms_records fx ev.kind).led

/-- So does a change of the monitors. -/
theorem handleMonitorsChanged_leavesLed : LeavesLed fx.handleMonitorsChanged :=
  handleMonitorsChanged_leaves fx currentMatch_records.led (fun _ => rfl)
    (fun p => (applyProfile_records fx p).led)
      (fun pref => (writeGpuBreadcrumb_records fx pref).led)
    (gpuCheck_leavesLed fx _) (powerPolicyCheck_leavesLed fx) (rehomeEdpWorkspaces_records fx).led

/-- The events whose arms end in the check. -/
def movesLed : Event → Bool
  | .sleeping | .kbdIdle _ | .kbdLevelChanged _ | .kbdOverrideChanged _ | .kbdLedHotplug
  | .lockChanged _ | .resumed => true
  | _ => false

/-- The other arms, but for the tick's, move nothing that the rules read. -/
theorem dispatchUpdate_leavesLed (ev : Event) (hev : movesLed ev = false)
    (htick : ∀ snap, ev ≠ .reconcileTick snap) : LeavesLed (fx.dispatchUpdate ev) := by
  by_cases hrecords : movesRecords ev = false
  · exact (dispatchUpdate_records fx ev hrecords).led
  -- The arms that move a record, but none that the rules read.
  rw [Effectors.dispatchUpdate.eq_def]
  cases ev with
  | reconcileTick snap => exact absurd rfl (htick snap)
  | monitorsChanged => exact .bind (handleMonitorsChanged_leavesLed fx) fun _ => .pure _
  | backlightHotplug =>
    exact .bind (leavesLed_of_meets discoverBacklight_spec (by rintro _ _ _ ⟨b, rfl⟩; rfl))
      fun _ => .pure _
  | powerOverrideChanged word =>
    intro c
    rw [meets_bind, meets_get]
    cases word with
    | none => rfl
    | some w =>
      dsimp only
      cases PowerProfile.parse w with
      | none => rfl
      | some p =>
        rw [meets_bind, meets_when]
        exact ⟨fun _ => rfl, fun _ => rfl⟩
  | platformProfileChanged value =>
    refine .bind (.ask id) fun now => .get_set_bind (fun _ => rfl) fun c => ?_
    refine .bind (.when _ ?_) fun _ => .pure _
    exact .bind (leavesLed_of_meets (fun c => adoptPowerOverride_spec fx c _)
      (by rintro _ _ _ ⟨p, rfl⟩; rfl)) fun _ => powerPolicyCheck_leavesLed fx
  | powerdAppeared =>
    exact .modify_bind (fun c => by dsimp only; split <;> rfl)
      (.modify_bind (fun _ => rfl) (.pure _))
  | sleeping | kbdIdle _ | kbdLevelChanged _ | kbdOverrideChanged _ | kbdLedHotplug | lockChanged _
  | resumed => exact absurd hev (by simp [movesLed])
  | _ => exact absurd rfl hrecords

end

/-! ## One event -/

section

variable (fx : Effectors) (hsession : fx.session = true)

/-- The tick repairs `locked`, and moves nothing else that the rules read. -/
theorem handleReconcileTick_view (snap : ReconcileSnapshot) (c : Context) :
    Meets (fx.handleReconcileTick snap) c (fun _ _ => True) fun _ c' =>
      ledView c' = (c.kbd, snap.locked.getD c.locked) := by
  -- Once the context is repaired, the tick goes on without a move of what the rules read.
  have hrest : ∀ drift : Bool × Bool, LeavesLed (do
      fx.driveRepairs drift.1 drift.2
      let c ← get
      Process.when (decide (c.state ≠ .suspending)) do
        let _ ← Effectors.ingestActiveProfile
        fx.enforceEdp snap
        fx.dpmsBackstop snap) := by
    intro drift
    have hdrive : LeavesLed (fx.driveRepairs drift.1 drift.2) := by
      refine .bind (.when _ ?_) fun _ => .when _ (evaluateFsms_records fx _).led
      refine .modify_bind (fun _ => rfl) (.bind (powerPolicyCheck_leavesLed fx) fun _ => ?_)
      exact .bind (batteryLowRequestCheck_records fx).led fun _ => .pure _
    refine .bind hdrive fun _ => .get_bind fun c => .when _ ?_
    refine .bind ingestActiveProfile_records.led fun _ => ?_
    exact .bind (enforceEdp_records fx snap).led fun _ => (dpmsBackstop_records fx snap).led
  refine ((repairContext_spec c snap).mono (fun _ _ _ => trivial) fun _ _ => id).bind ?_
  rintro drift _ ⟨req, t, rfl, -⟩
  exact (hrest drift _).mono (fun _ _ _ => trivial) fun _ _ h => h

include hsession in
/-- After the keyboard's check the LED follows the table. -/
theorem kbdPolicyCheck_falls (sample falls : Bool) (c : Context) :
    MeetsOn ledWrites (do fx.kbdPolicyCheck sample; pure falls) c (fun _ _ => True)
      fun _ c' => LedFollows c' :=
  (kbdPolicyCheck_follows fx hsession sample c).bind fun _ _ h => h

include hsession in
/-- An arm that moves what the rules read ends with the LED where they call for. -/
theorem dispatchUpdate_follows (ev : Event) (hev : movesLed ev = true) (c : Context) :
    MeetsOn ledWrites (fx.dispatchUpdate ev) c (fun _ _ => True) fun _ c' => LedFollows c' := by
  have hcheck := kbdPolicyCheck_falls fx hsession
  have hthen : ∀ {α : Type} {x : Daemon α} {G : Context → Eff → Prop} {Q : α → Context → Prop}
      (sample falls : Bool) (c₁ : Context), Meets x c₁ G Q → MeetsOn ledWrites (do
        let _ ← x
        fx.kbdPolicyCheck sample
        pure falls) c₁ (fun _ _ => True) fun _ c' => LedFollows c' := by
    intro α x G Q sample falls c₁ h
    refine ((h.on).mono (fun _ _ _ => trivial) fun _ _ => id).bind ?_
    exact fun _ c₂ _ => hcheck sample falls c₂
  cases ev with
  | sleeping | kbdLevelChanged _ | kbdOverrideChanged _ =>
    rw [Effectors.dispatchUpdate, meetsOn_bind, meetsOn_modify]
    exact hcheck _ _ _
  | kbdIdle idle =>
    rw [Effectors.dispatchUpdate, meetsOn_bind, meetsOn_modify, meetsOn_bind, meetsOn_when]
    refine ⟨fun _ => ?_, fun _ => hcheck _ _ _⟩
    exact ((kbdReleaseOverride_spec fx _).on.mono (fun _ _ _ => trivial)
      fun _ c₁ _ => hcheck _ _ c₁)
  | kbdLedHotplug =>
    rw [Effectors.dispatchUpdate]
    exact hthen _ _ c (discoverKbd_spec c)
  | lockChanged locked =>
    rw [Effectors.dispatchUpdate, meetsOn_bind, meetsOn_modify]
    exact hthen _ _ _ (requestReconcile_spec _ _)
  | resumed =>
    rw [Effectors.dispatchUpdate, meetsOn_bind, meetsOn_modify]
    -- The resume withdraws the suspend request first.
    rw [Effectors.clearSuspendRequest, meetsOn_bind, meetsOn_when]
    exact ⟨fun _ => ⟨trivial, fun _ _ => ⟨trivial, fun _ _ => hcheck _ _ _⟩⟩,
      fun _ => ⟨trivial, fun _ _ => hcheck _ _ _⟩⟩
  | _ => exact absurd hev (by simp [movesLed])

include hsession in
/-- After an event the LED follows the rules exactly when the event was a steady one. -/
theorem handle_follows (ev : Event) (c : Context) (hc : LedFollows c) :
    MeetsOn ledWrites (fx.handle ev) c (fun _ _ => True) fun _ c' =>
      LedFollows c' ↔ LedSteady c ev := by
  -- What follows the arm of an event leaves the LED and its record.
  have hrest : ∀ falls : Bool, LeavesLed
      (do Process.when falls (fx.dispatchTail ev); fx.syncWaybar) :=
    fun falls => .bind (.when _ (dispatchTail_leavesLed fx ev)) fun _ => (syncWaybar_records fx).led
  have hafter : ∀ (falls : Bool) (c₁ : Context), (LedFollows c₁ ↔ LedSteady c ev) →
      MeetsOn ledWrites (do Process.when falls (fx.dispatchTail ev); fx.syncWaybar) c₁
        (fun _ _ => True) fun _ c' => LedFollows c' ↔ LedSteady c ev := by
    intro falls c₁ h₁
    refine (hrest falls c₁).on.mono (fun _ _ _ => trivial) fun _ c' hview => ?_
    exact (ledFollows_of_view hview).trans h₁
  rw [Effectors.handle, Effectors.dispatch, bind_assoc]
  by_cases hmoves : movesLed ev = true
  · -- The arm ends in the check.
    refine (dispatchUpdate_follows fx hsession ev hmoves c).bind fun falls c₁ h₁ =>
      hafter falls c₁ ?_
    refine ⟨fun _ => ?_, fun _ => h₁⟩
    cases ev <;> first | exact trivial | exact absurd hmoves (by simp [movesLed])
  -- The tick repairs the lock and checks nothing.
  by_cases htick : ∃ snap, ev = .reconcileTick snap
  · obtain ⟨snap, rfl⟩ := htick
    refine MeetsOn.bind (Q := fun _ c' => ledView c' = (c.kbd, snap.locked.getD c.locked)) ?_
      fun falls c₁ h₁ => hafter falls c₁ ?_
    · refine (handleReconcileTick_view fx snap c).on.bind fun _ c₁ h₁ => h₁
    · -- The value last written is the one that was called for before the tick.
      have hview : ledView c₁ = ledView { c with locked := snap.locked.getD c.locked } := h₁
      rw [ledFollows_of_view hview]
      constructor
      · intro h hactive name max hled
        exact Option.some_inj.mp ((h hactive name max hled).symm.trans (hc hactive name max hled))
      · intro h hactive name max hled
        exact (hc hactive name max hled).trans (congrArg some (h hactive name max hled).symm)
  · refine ((dispatchUpdate_leavesLed fx ev (by simpa using hmoves)
      fun snap h => htick ⟨snap, h⟩) c).on.mono (fun _ _ _ => trivial) (fun _ _ => id) |>.bind ?_
    intro falls c₁ hview
    refine hafter falls c₁ ?_
    -- No other event moves what the table reads.
    have hsteady : LedSteady c ev := by
      cases ev <;> first | exact trivial | exact absurd ⟨_, rfl⟩ htick
    exact ⟨fun _ => hsteady, fun _ => (ledFollows_of_view hview).mpr hc⟩

/-! ## Runs -/

include hsession in
/-- The loop's prologue ends in the check. -/
theorem startup_follows (c : Context) :
    MeetsOn ledWrites fx.startup c (fun _ _ => True) fun _ c' => LedFollows c' := by
  have hany : ∀ {α β : Type} {x : Daemon α} {f : α → Daemon β} {c₁ : Context}
      {G : Context → Eff → Prop} {Q : α → Context → Prop} {R : β → Context → Prop}, Meets x c₁ G Q →
      (∀ a c₂, MeetsOn ledWrites (f a) c₂ (fun _ _ => True) R) →
      MeetsOn ledWrites (x >>= f) c₁ (fun _ _ => True) R := by
    intro α β x f c₁ G Q R h hf
    exact (h.on.mono (fun _ _ _ => trivial) fun _ _ => id).bind fun a c₂ _ => hf a c₂
  rw [Effectors.startup, meetsOn_bind, meetsOn_modify, meetsOn_bind, meetsOn_get]
  refine hany (onEnter_spec fx _ _ true (worldState_ne_suspending _)) fun _ c₁ => ?_
  refine hany (currentMatch_spec c₁) fun chosen c₂ => ?_
  refine hany (resolveSessionGpuMode_spec c₂ _) fun mode c₃ => ?_
  refine hany (syncDgpuPin_spec fx c₃ _) fun _ c₄ => ?_
  refine hany (syncWaybar_spec fx c₄) fun _ c₅ => ?_
  refine (kbdPolicyCheck_follows fx hsession true c₅).bind fun _ c₆ h₆ => ?_
  exact ⟨trivial, fun _ _ => h₆⟩

include hsession in
/-- In a run in which every write to the LED succeeds, the LED follows the rules after every event
exactly when no tick moves what they call for. -/
theorem ledFollows_iff_steady {tr₀ : List DaemonObs} {ts : List Turn} {c : Context}
    (hrun : Run fx tr₀ ts c) (hstart : ∀ o ∈ tr₀, ledWrites o.1.2 o.2)
    (hturns : ∀ t ∈ ts, ∀ o ∈ t.trace, ledWrites o.1.2 o.2) :
    (∀ t ∈ ts, LedFollows t.after) ↔ ∀ t ∈ ts, LedSteady t.before t.ev := by
  -- The induction carries that the context follows where every turn so far left it so.
  suffices h : ((∀ t ∈ ts, LedFollows t.after) → LedFollows c) ∧
      ((∀ t ∈ ts, LedFollows t.after) ↔ ∀ t ∈ ts, LedSteady t.before t.ev) from h.2
  induction hrun with
  | @start c c' tr tr' _ hruns =>
    have hok : ∀ o ∈ tr', ledWrites o.1.2 o.2 := fun o ho => hstart o (List.mem_append_right _ ho)
    exact ⟨fun _ => (hruns.of_meetsOn hok (startup_follows fx hsession c)).2, by simp⟩
  | @turn c c' tr₀ tr ts ev _ hruns ih =>
    obtain ⟨hlast, hiff⟩ := ih hstart fun t ht => hturns t (List.mem_append_left _ ht)
    have hok : ∀ o ∈ tr, ledWrites o.1.2 o.2 :=
      hturns ⟨c, ev, tr, c'⟩ (List.mem_append_right _ (List.mem_singleton_self _))
    have hstep : LedFollows c → (LedFollows c' ↔ LedSteady c ev) := fun hc =>
      (hruns.of_meetsOn hok (handle_follows fx hsession ev c hc)).2
    simp only [List.forall_mem_append, List.forall_mem_singleton]
    refine ⟨fun h => h.2, ?_⟩
    constructor
    · rintro ⟨hts, hafter⟩
      exact ⟨hiff.mp hts, (hstep (hlast hts)).mp hafter⟩
    · rintro ⟨hts, hsteady⟩
      exact ⟨hiff.mpr hts, (hstep (hlast (hiff.mpr hts))).mpr hsteady⟩

end

/-- A machine with a keyboard light, in a dark room. -/
def darkRoom : (e : Eff) → e.Ans
  | .findKbdLed => some ("platform::kbd_backlight", 100)
  | .findAls => some "in_illuminance_raw"
  | .readLux _ => some 0
  | e => e.quiet

/-- In the dark room every write of the LED is taken. -/
theorem darkRoom_writes (e : Eff) : ledWrites e (darkRoom e) := by
  cases e <;> first | exact trivial | exact fun _ => rfl

/-- So it is along every run there. -/
theorem ledWrites_answered {α : Type} (x : Daemon α) (c : Context) :
    ∀ o ∈ (x.answered darkRoom c).2.2, ledWrites o.1.2 o.2 := by
  intro o ho
  rw [answer_of_mem_answered ho]
  exact darkRoom_writes o.1.2

/-- The first key lights the keyboard. -/
theorem ledFollows_iff_steady_typing : ∃ tr₀ t c, Run ⟨false, true⟩ tr₀ [t] c ∧
    LedFollows t.after ∧ t.after.kbdActive = true ∧ t.after.kbd.kbdApplied = some 50 := by
  have hrun := Run.turn (.kbdIdle false)
    (Run.start (runs_answered (Effectors.setup ⟨false, true⟩) darkRoom {})
      (runs_answered (Effectors.startup ⟨false, true⟩) darkRoom _))
    (runs_answered (Effectors.handle ⟨false, true⟩ (.kbdIdle false)) darkRoom _)
  have hiff := ledFollows_iff_steady ⟨false, true⟩ rfl hrun
    (fun o ho => (List.mem_append.mp ho).elim (ledWrites_answered _ _ o) (ledWrites_answered _ _ o))
    (by simpa using ledWrites_answered _ _)
  have hfollows := hiff.mpr (by simp [LedSteady])
  exact ⟨_, _, _, hrun, hfollows _ (by simp), by decide +kernel, by decide +kernel⟩

/-- The screen was locked, and no signal told of it: the tick finds the hint. -/
def lockFound : ReconcileSnapshot := { locked := some true }

/-- The tick that finds the lock leaves the keyboard lit. -/
theorem not_ledFollows :
    ¬∀ (fx : Effectors) (tr₀ : List DaemonObs) (ts : List Turn) (c : Context), fx.session = true →
      Run fx tr₀ ts c → (∀ o ∈ tr₀, ledWrites o.1.2 o.2) →
      (∀ t ∈ ts, ∀ o ∈ t.trace, ledWrites o.1.2 o.2) → ∀ t ∈ ts, LedFollows t.after := by
  intro h
  have hrun := Run.turn (.reconcileTick lockFound)
    (Run.turn (.kbdIdle false)
      (Run.start (runs_answered (Effectors.setup ⟨false, true⟩) darkRoom {})
        (runs_answered (Effectors.startup ⟨false, true⟩) darkRoom _))
      (runs_answered (Effectors.handle ⟨false, true⟩ (.kbdIdle false)) darkRoom _))
    (runs_answered (Effectors.handle ⟨false, true⟩ (.reconcileTick lockFound)) darkRoom _)
  have hfollows := h _ _ _ _ rfl hrun
    (fun o ho => (List.mem_append.mp ho).elim (ledWrites_answered _ _ o) (ledWrites_answered _ _ o))
    (by simpa using ⟨ledWrites_answered _ _, ledWrites_answered _ _⟩) _
    (List.mem_append_right _ (List.mem_singleton_self _))
  have happlied := hfollows (by decide +kernel) "platform::kbd_backlight" 100 (by decide +kernel)
  exact absurd happlied (by decide +kernel)

end Hyprstate
