import Hyprstate.Daemon.Avoidance
import Hyprstate.Daemon.Reconciler

/-!
# The stuck-screen backstop

A reconcile pass lights a dark screen of a locked session only on evidence that somebody is there:
the cursor moved since the pass before. The position of the pass before is kept in the context, and
a pass that is handled while the machine is suspending returns before it is replaced. Every other
pass replaces it (`handleReconcileTick_cursor`), and no other event moves it or lights a screen
(`handle_cursor`).
-/

namespace Hyprstate

open Reactive Process

/-! ## What leaves the cursor and the screens alone -/

/-- A piece that lights no screen. -/
abbrev LightsNone {α : Type} (x : Daemon α) : Prop := Avoids (fun e => e = .trySend .dpmsOn) x

/-- A piece that lights no screen and keeps the position of the last pass. -/
abbrev LeavesCursor {α : Type} (x : Daemon α) : Prop :=
  Leaves (fun e => e = .trySend .dpmsOn) Context.lastCursorPos x

/-- A program whose footprint has no commands lights nothing. -/
theorem lightsNone_of_only {α : Type} {x : Daemon α} {rs : List Resource}
    {Q : Context → α → Context → Prop} (h : ∀ c, Meets x c (only rs) (Q c))
    (hrs : Resource.command ∉ rs) : LightsNone x := by
  refine .of_meets h fun _ _ e he heq => hrs ?_
  subst heq
  exact he

/-- And leaves the baseline, where it leaves that record. -/
theorem leavesCursor_of_only {α : Type} {x : Daemon α} {rs : List Resource}
    {Q : Context → α → Context → Prop} (h : ∀ c, Meets x c (only rs) (Q c))
    (hrs : Resource.command ∉ rs) (hQ : ∀ c a c', Q c a c' → c'.lastCursorPos = c.lastCursorPos) :
    LeavesCursor x :=
  (lightsNone_of_only h hrs).leaves h hQ

/-- No piece of a turn sends `DpmsOn`, the tick's backstop apart. -/
theorem apart_dpmsOn : PiecesApart fun e => e = .trySend .dpmsOn where
  plain e _ hcommand heq := hcommand (heq ▸ rfl)
  routine e he heq := by
    subst heq
    cases he

section

variable (fx : Effectors)

/-- The check of the GPU shows notices only. -/
theorem gpuCheck_lightsNone (trigger : String) (chosen : Option MonitorProfile) :
    LightsNone (fx.gpuCheck trigger chosen) := by
  have hcheck : ∀ mode source, LightsNone (fx.checkAndNotifyDrift trigger mode source) := by
    refine checkAndNotifyDrift_leaves fx ?_ (by simp) (fun _ _ _ => rfl) trigger
    rintro _ he rfl
    cases he
  rw [Effectors.gpuCheck, Effectors.gpuDriftCheck]
  refine .bind (.bind ?_ fun mode => .bind (hcheck _ _) fun _ => .pure _) fun mode => ?_
  · exact lightsNone_of_only (fun c => resolveSessionGpuMode_spec c _) (by decide)
  · exact lightsNone_of_only (fun c => syncDgpuPin_spec fx c _) (by decide)

/-- The apply of a profile sends other commands. -/
theorem applyProfile_lightsNone (profile : MonitorProfile) :
    LightsNone (fx.applyProfile profile) := by
  have hhooks : LightsNone (profile.hooks.forM fun hook =>
      fx.sendCmd (.runHook hook) : Daemon PUnit) := by
    have hhook : ∀ hook, LightsNone (fx.sendCmd (.runHook hook)) :=
      fun _ => sendCmd_avoids fx (by simp)
    refine fun c =>
      (meets_forM (I := fun _ => True) (fun hook c _ => ?_) profile.hooks c trivial).imp
      fun _ _ _ => rfl
    exact (hhook hook c).imp fun _ _ _ => trivial
  rw [Effectors.applyProfile]
  refine .bind (.ask (by simp)) fun symlinkOk => .get_bind fun c => .when _ ?_
  refine .bind (.ite (.pure _) (.ask (by simp))) fun repointed =>
    .when _ (.modify_bind (fun _ => rfl) ?_)
  exact .when _ (.bind (sendCmd_avoids fx (by simp)) fun _ => hhooks)

/-- The power policy leaves the baseline. -/
theorem powerPolicyCheck_cursor : LeavesCursor fx.powerPolicyCheck :=
  (apart_dpmsOn.powerPolicyCheck fx).leaves (powerPolicyCheck_spec fx)
    (by rintro _ _ _ ⟨p, b, rfl⟩; rfl)

/-- So does the check of the battery. -/
theorem batteryLowRequestCheck_cursor : LeavesCursor fx.batteryLowRequestCheck :=
  leavesCursor_of_only (batteryLowRequestCheck_spec fx) (by decide)
    (by rintro _ _ _ ⟨r, rfl, -⟩; rfl)

/-- So does that of the GPU. -/
theorem gpuCheck_cursor (trigger : String) (chosen : Option MonitorProfile) :
    LeavesCursor (fx.gpuCheck trigger chosen) :=
  (gpuCheck_lightsNone fx trigger chosen).leaves (fun c => gpuCheck_spec fx c trigger chosen)
    (by rintro _ _ _ ⟨g, p, rfl⟩; rfl)

/-- So does every piece of a turn. -/
theorem piecesLeave_cursor :
    PiecesLeave fx (fun e => e = .trySend .dpmsOn) Context.lastCursorPos where
  view _ _ h := h
  plain e he heq := by
    subst heq
    exact absurd he (by decide)
  enter state fresh := by
    by_cases hs : state = .suspending
    · subst hs
      exact (apart_dpmsOn.onEnter fx _ _).leaves (fun c => onEnter_suspending_spec fx c fresh)
        (by rintro _ _ _ ⟨t, w, rfl⟩; rfl)
    · exact (apart_dpmsOn.onEnter fx _ _).leaves (fun c => onEnter_spec fx c state fresh hs)
        (by rintro _ _ _ ⟨-, t, w, rfl⟩; rfl)
  kbd sample := leavesCursor_of_only (fun c => kbdPolicyCheck_spec fx c sample) (by decide)
    (by rintro _ _ _ ⟨k, rfl⟩; rfl)
  power := powerPolicyCheck_cursor fx
  adopt profile := (apart_dpmsOn.adoptPowerOverride fx profile).leaves
    (fun c => adoptPowerOverride_spec fx c profile) (by rintro _ _ _ ⟨p, rfl⟩; rfl)
  waybar := (apart_dpmsOn.syncWaybar fx).leaves (syncWaybar_spec fx) (by rintro _ _ _ ⟨v, rfl⟩; rfl)

/-- So does the arm of the monitors. -/
theorem handleMonitorsChanged_cursor : LeavesCursor fx.handleMonitorsChanged := by
  have hrehome : LightsNone fx.rehomeEdpWorkspaces := sendCmd_avoids fx (by simp)
  refine handleMonitorsChanged_leaves fx ?_ (fun _ => rfl) (fun p => ?_) (fun pref => ?_)
    (gpuCheck_cursor fx _)
    (powerPolicyCheck_cursor fx) (hrehome.leaves (fun c => sendCmd_spec fx c _) ?_)
  · exact leavesCursor_of_only currentMatch_spec (by decide) (by rintro _ _ _ rfl; rfl)
  · exact (applyProfile_lightsNone fx p).leaves (fun c => applyProfile_spec fx c p)
      (by rintro _ _ _ ⟨n, r, e, rfl⟩; rfl)
  · exact leavesCursor_of_only (fun c => writeGpuBreadcrumb_spec fx c pref) (by decide)
      (by rintro _ _ _ rfl; rfl)
  · rintro _ _ _ rfl
    rfl

/-- So does the common tail. -/
theorem dispatchTail_cursor (ev : Event) : LeavesCursor (fx.dispatchTail ev) := by
  rw [Effectors.dispatchTail]
  refine .bind (.when _ ?_) fun _ =>
    .bind (.when _ (.bind ?_ fun chosen => gpuCheck_cursor fx _ chosen))
    fun _ => .bind (.when _ (powerPolicyCheck_cursor fx)) fun _ =>
      (piecesLeave_cursor fx).evaluateFsms _
  · exact leavesCursor_of_only brightnessRearm_spec (by decide) (by rintro _ _ _ ⟨b, rfl⟩; rfl)
  · exact leavesCursor_of_only currentMatch_spec (by decide) (by rintro _ _ _ rfl; rfl)

/-- A turn of any event but a reconcile pass lights no screen and keeps the position. -/
theorem handle_cursor {ev : Event} (hev : ∀ snap, ev ≠ .reconcileTick snap) :
    LeavesCursor (fx.handle ev) := by
  rw [Effectors.handle, Effectors.dispatch]
  refine .bind (.bind ?_ fun falls => .when _ (dispatchTail_cursor fx ev)) fun _ =>
    (piecesLeave_cursor fx).waybar
  refine (piecesLeave_cursor fx).dispatchUpdate ev (fun _ => handleMonitorsChanged_cursor fx)
    (fun snap h => absurd h (hev snap)) (fun _ => batteryLowRequestCheck_cursor fx) fun _ => ?_
  exact .when _ (.bind (.ask (by simp)) fun _ => .pure _)

/-! ## A pass -/

/-- What the pass finds in the context makes it light the screens of a locked session. -/
def Moved (snap : ReconcileSnapshot) (c : Context) : Prop :=
  snap.dpmsOff = some true ∧ ∃ p q, c.lastCursorPos = some p ∧ snap.cursorPos = some q ∧ p ≠ q

/-- So does what the repairs drive. -/
theorem driveRepairs_cursor (fsm power : Bool) : LeavesCursor (fx.driveRepairs fsm power) := by
  rw [Effectors.driveRepairs]
  refine .bind (.when _ ?_) fun _ => .when _ ((piecesLeave_cursor fx).evaluateFsms _)
  refine .modify_bind (fun _ => rfl) (.bind (powerPolicyCheck_cursor fx) fun _ => ?_)
  exact .bind (batteryLowRequestCheck_cursor fx) fun _ => .pure _

/-- The repairs neither enter nor leave the suspending state. -/
theorem driveRepairs_suspending (fsm power : Bool) (c : Context) :
    Meets (fx.driveRepairs fsm power) c (fun _ _ => True)
      fun _ c' => c'.state = .suspending ↔ c.state = .suspending := by
  have hfsm : ∀ c₁ : Context, c₁.state = c.state →
      Meets (when fsm (fx.evaluateFsms .ctxRepaired)) c₁ (fun _ _ => True)
        fun _ c' => c'.state = .suspending ↔ c.state = .suspending := by
    intro c₁ hstate
    rw [meets_when]
    refine ⟨fun _ => ?_, fun _ => by rw [hstate]⟩
    refine (evaluateFsms_spec fx c₁ .ctxRepaired (by simp)).mono (fun _ _ _ => trivial) ?_
    rintro _ _ ⟨t, w, rfl⟩
    show settled .ctxRepaired c₁ = .suspending ↔ _
    rw [settled_eq c₁ (by simp) (by simp), hstate]
    split
    · exact ⟨fun _ => ‹_›, fun _ => rfl⟩
    · exact ⟨fun h => absurd h (worldState_ne_suspending _), fun h => absurd h ‹_›⟩
  rw [Effectors.driveRepairs, meets_bind, meets_when]
  refine ⟨fun _ => ?_, fun _ => hfsm c rfl⟩
  rw [meets_bind, meets_modify]
  refine Meets.bind ((powerPolicyCheck_spec fx _).mono (fun _ _ _ => trivial) fun _ _ => id) ?_
  rintro _ _ ⟨p, b, rfl⟩
  refine Meets.bind ((batteryLowRequestCheck_spec fx _).mono (fun _ _ _ => trivial)
    fun _ _ => id) ?_
  rintro _ _ ⟨r, rfl, -⟩
  exact hfsm _ rfl

/-- With the session locked, a screen is stuck only if the cursor moved. -/
theorem moved_of_dpmsStuckOff {main : State} {s : StuckScreenInputs}
    (h : dpmsStuckOff main s = true) (hlocked : s.locked = true) :
    s.dpmsOff = true ∧ s.cursorMoved = true := by
  simp only [dpmsStuckOff, hlocked, Bool.not_true, Bool.false_or] at h
  split at h
  · cases h
  · next hoff =>
    split at h
    · cases h
    · exact ⟨by simpa using hoff, h⟩

/-- The backstop itself: it takes the place of the cursor as the new position. -/
theorem dpmsBackstop_cursor (snap : ReconcileSnapshot) (c : Context) :
    Meets (fx.dpmsBackstop snap) c
      (fun c' e => e = .trySend .dpmsOn → c'.locked = true → Moved snap c)
      fun _ c' => c'.lastCursorPos = snap.cursorPos := by
  rw [Effectors.dpmsBackstop, meets_bind, meets_get, meets_bind, meets_set]
  cases hdark : snap.dpmsOff with
  | none => rfl
  | some dpmsOff =>
    rw [meets_when]
    refine ⟨fun hstuck => ?_, fun _ => rfl⟩
    refine (sendCmd_spec fx _ .dpmsOn).mono ?_ fun _ _ heq => by rw [heq]
    rintro _ _ ⟨rfl, -, -⟩ - hlocked
    obtain ⟨hoff, hmoved⟩ := moved_of_dpmsStuckOff hstuck hlocked
    dsimp only at hoff hmoved
    refine ⟨by rw [hdark, hoff], ?_⟩
    split at hmoved
    · next p q hp hq => exact ⟨p, q, hp, hq, of_decide_eq_true hmoved⟩
    · cases hmoved

/-- A pass lights the screens of a locked session on a position that differs from the last one
alone. It replaces the position, unless the machine is suspending. -/
theorem handleReconcileTick_cursor (snap : ReconcileSnapshot) (c : Context) :
    Meets (fx.handleReconcileTick snap) c
      (fun c' e => e = .trySend .dpmsOn → c'.locked = true → c.state ≠ .suspending ∧ Moved snap c)
      fun _ c' => c'.lastCursorPos = if c.state = .suspending then c.lastCursorPos
        else snap.cursorPos := by
  rw [Effectors.handleReconcileTick]
  -- The repairs and what they drive leave the baseline, and no state comes to or from the suspend.
  have hrepair : LightsNone (Effectors.repairContext snap) :=
    lightsNone_of_only (fun c => repairContext_spec c snap) (by decide)
  refine Meets.bind
    (((hrepair c).and (repairContext_spec c snap)).mono (fun _ _ h he => absurd he h.1)
    fun _ _ h => h.2) ?_
  rintro drift _ ⟨req, t, rfl, -⟩
  refine Meets.bind
    (((driveRepairs_cursor fx drift.1 drift.2 _).and (driveRepairs_suspending fx _ _ _)).mono
    (fun _ _ h he => absurd he h.1) fun _ _ => id) ?_
  rintro _ c₁ ⟨hcursor, hstate⟩
  have hcursor' : c₁.lastCursorPos = c.lastCursorPos := hcursor
  have hstate' : c₁.state = .suspending ↔ c.state = .suspending := hstate
  rw [meets_bind, meets_get, meets_when]
  constructor
  swap
  · intro hsuspending
    have hin : c.state = .suspending := hstate'.mp (by simpa using hsuspending)
    rw [if_pos hin]
    exact hcursor'
  intro hawake
  -- The machine is awake: the backstop runs, and takes the new baseline.
  have hout : c.state ≠ .suspending := fun h => by simp [hstate'.mpr h] at hawake
  have hingest : LightsNone Effectors.ingestActiveProfile :=
    lightsNone_of_only ingestActiveProfile_spec (by decide)
  refine Meets.bind
    (((hingest c₁).and (ingestActiveProfile_spec c₁)).mono (fun _ _ h he => absurd he h.1)
    fun _ _ h => h.2) ?_
  rintro _ _ ⟨pn, pr, pe, rfl⟩
  refine Meets.bind ((enforceEdp_spec fx _ snap).mono ?_ fun _ _ => id) ?_
  · rintro _ _ ⟨hres, -⟩ rfl
    exact absurd hres (by decide)
  rintro _ _ rfl
  refine (dpmsBackstop_cursor fx snap _).mono (fun _ _ h he hlocked => ⟨hout, ?_⟩) fun _ _ h => ?_
  · obtain ⟨hdark, p, q, hp, hq, hne⟩ := h he hlocked
    exact ⟨hdark, p, q, hcursor'.symm.trans hp, hq, hne⟩
  · rw [if_neg hout]
    exact h

/-- The setup leaves the baseline. -/
theorem setup_cursor : LeavesCursor fx.setup := apart_dpmsOn.setup fx fun _ _ h => h

/-- So does the startup. -/
theorem startup_cursor : LeavesCursor fx.startup :=
  (piecesLeave_cursor fx).startup fun awake =>
    leavesCursor_of_only (fun c => syncDgpuPin_spec fx c awake) (by decide)
      (by rintro _ _ _ ⟨g, p, rfl⟩; rfl)

/-! ## Runs -/

/-- The reconciler made the snapshot. -/
def FromGather (snap : ReconcileSnapshot) : Prop :=
  ∃ session lidPresent prev prev' tr gathered reasons,
    Process.Runs (Reconciler.gather session lidPresent) prev tr (some gathered) prev' ∧
      snap = { gathered with reasons := reasons }

/-- The cursor is sampled only while a screen is dark. -/
theorem FromGather.dark {snap : ReconcileSnapshot} (h : FromGather snap) {p : Int × Int}
    (hp : snap.cursorPos = some p) : snap.dpmsOff = some true := by
  obtain ⟨session, lidPresent, prev, prev', tr, gathered, reasons, hruns, rfl⟩ := h
  have hsampled : Meets (Reconciler.gather session lidPresent) prev (fun _ _ => True) fun snap _ =>
      ∀ s, snap = some s → s.cursorPos ≠ none → s.dpmsOff = some true := by
    have hrest : ∀ lid s, Meets (Reconciler.gatherRest session lid) s
        (fun _ _ => True) fun snap _ =>
        snap.cursorPos ≠ none → snap.dpmsOff = some true := by
      intro lid s
      rw [Reconciler.gatherRest]
      simp only [meets_bind, meets_ask, meets_get, meets_set, meets_ite, meets_pure,
        logindRealInhibitorActive, true_and]
      intro monitors rows clients
      exact ⟨fun _ _ _ => ⟨fun hdark _ _ => hdark, fun _ h => absurd rfl h⟩,
        fun _ _ => ⟨fun hdark _ _ => hdark, fun _ h => absurd rfl h⟩⟩
    rw [Reconciler.gather]
    refine Meets.bind (Q := fun _ _ => True) (by simp) fun lid s _ => ?_
    cases lid with
    | none =>
      rw [meets_pure]
      intro _ hnone
      cases hnone
    | some lid =>
      dsimp only
      rw [meets_map]
      exact (hrest lid s).imp fun snap _ h s hs => Option.some.inj hs ▸ h
  exact (Program.Runs.of_meets hruns hsampled).2 gathered rfl fun h =>
    Option.some_ne_none p (hp.symm.trans h)

/-- The snapshot of the turn, where it is a reconcile pass. -/
def Turn.pass (t : Turn) : Option ReconcileSnapshot :=
  match t.ev with
  | .reconcileTick snap => some snap
  | _ => none

/-- The pass that was handled last. -/
def lastPass (ts : List Turn) : Option ReconcileSnapshot := (ts.filterMap Turn.pass).getLast?

/-- A pass that is handled while the machine is suspending finds no position, or the one it
sampled. -/
def Turn.KeepsOwn (t : Turn) : Prop :=
  ∀ snap, t.ev = .reconcileTick snap → t.before.state = .suspending →
    t.before.lastCursorPos = none ∨ t.before.lastCursorPos = snap.cursorPos

/-- The turn lights the screens of a locked session only in a pass that follows one which saw a
screen dark and the cursor elsewhere. -/
def Turn.Evidenced (pre : List Turn) (t : Turn) : Prop :=
  ∀ o ∈ t.trace, o.1.2 = .trySend .dpmsOn → o.1.1.locked = true →
    ∃ snap last, t.pass = some snap ∧ lastPass pre = some last ∧ last.dpmsOff = some true ∧
      ∃ p q, last.cursorPos = some p ∧ snap.cursorPos = some q ∧ p ≠ q

/-- The position that is kept is that of the last pass. -/
def FromLastPass (ts : List Turn) (c : Context) : Prop :=
  ∀ p, c.lastCursorPos = some p → ∃ last, lastPass ts = some last ∧ FromGather last ∧
    last.cursorPos = some p

/-- The last pass of one turn more. -/
theorem lastPass_append (ts : List Turn) (t : Turn) :
    lastPass (ts ++ [t]) = t.pass.or (lastPass ts) := by
  unfold lastPass
  rw [List.filterMap_append, List.getLast?_append]
  cases ht : t.pass <;> simp [ht]

/-- One turn. -/
theorem turn_evidenced {ts : List Turn} {t : Turn} (hbefore : FromLastPass ts t.before)
    (hruns : Process.Runs (fx.handle t.ev) t.before t.trace () t.after)
    (hgather : ∀ snap, t.ev = .reconcileTick snap → FromGather snap) (hown : t.KeepsOwn) :
    t.Evidenced ts ∧ FromLastPass (ts ++ [t]) t.after := by
  obtain ⟨c, ev, tr, c'⟩ := t
  dsimp only at hbefore hruns hgather
  by_cases hpass : ∃ snap, ev = .reconcileTick snap
  · obtain ⟨snap, rfl⟩ := hpass
    -- A tick may send the command, and leaves its own cursor as the baseline unless it finds a
    -- suspend.
    have hturn : Meets (fx.handle (.reconcileTick snap)) c
        (fun c' e => e = .trySend .dpmsOn → c'.locked = true → c.state ≠ .suspending ∧ Moved snap c)
        fun _ c' => c'.lastCursorPos = if c.state = .suspending then c.lastCursorPos
          else snap.cursorPos := by
      rw [Effectors.handle, Effectors.dispatch, Effectors.dispatchUpdate]
      simp only [bind_assoc, pure_bind]
      refine (handleReconcileTick_cursor fx snap c).bind ?_
      intro _ c₁ hcursor
      rw [show when false (fx.dispatchTail (.reconcileTick snap)) = pure () from rfl, pure_bind]
      exact ((piecesLeave_cursor fx).waybar c₁).mono (fun _ _ h he => absurd he h) fun _ _ h =>
        h.trans hcursor
    obtain ⟨hlit, hcursor⟩ := Program.Runs.of_meets hruns hturn
    have hlast : lastPass (ts ++ [⟨c, .reconcileTick snap, tr, c'⟩]) = some snap := by
      rw [lastPass_append]
      rfl
    refine ⟨fun o ho hdpms hlocked => ?_, fun p hp => ⟨snap, hlast, hgather snap rfl, ?_⟩⟩
    · obtain ⟨-, -, p, q, hp, hq, hne⟩ := hlit o ho hdpms hlocked
      obtain ⟨last, hlastPass, hmade, hat⟩ := hbefore p hp
      exact ⟨snap, last, rfl, hlastPass, hmade.dark hat, p, q, hat, hq, hne⟩
    · dsimp only at hcursor
      split at hcursor
      · next hsuspending =>
        rcases hown snap rfl hsuspending with hnone | hsame
        · rw [hcursor, hnone] at hp
          cases hp
        · rw [← hsame, ← hcursor, hp]
      · rw [← hcursor, hp]
  -- Any other event sends none and leaves the baseline.
  · have hev : ∀ snap, ev ≠ .reconcileTick snap := fun snap h => hpass ⟨snap, h⟩
    obtain ⟨hdark, hkept⟩ := Program.Runs.of_meets hruns (handle_cursor fx hev c)
    have hnone : (⟨c, ev, tr, c'⟩ : Turn).pass = none := by
      unfold Turn.pass
      split
      · next snap h => exact absurd h (hev snap)
      · rfl
    refine ⟨fun o ho hdpms => absurd hdpms (hdark o ho), fun p hp => ?_⟩
    have hkept' : c'.lastCursorPos = c.lastCursorPos := hkept
    rw [lastPass_append, hnone, Option.none_or]
    exact hbefore p (hkept'.symm.trans hp)

/-- In every run of the daemon in which each pass that is handled while suspending finds no position
or its own, the screens of a locked session are lit only by a pass right after one that saw a screen
dark and the cursor elsewhere. -/
theorem dpmsOn_evidenced {tr₀ : List DaemonObs} {ts : List Turn} {c : Context}
    (h : Run fx tr₀ ts c)
    (hgather : ∀ t ∈ ts, ∀ snap, t.ev = .reconcileTick snap → FromGather snap)
    (hown : ∀ t ∈ ts, t.KeepsOwn) :
    (∀ o ∈ tr₀, o.1.2 ≠ .trySend .dpmsOn) ∧ ∀ pre t post, ts = pre ++ t :: post →
    t.Evidenced pre := by
  -- The baseline the context holds comes from the last pass; that carries the induction.
  suffices hinv : FromLastPass ts c ∧ (∀ o ∈ tr₀, o.1.2 ≠ .trySend .dpmsOn) ∧
      ∀ pre t post, ts = pre ++ t :: post → t.Evidenced pre from hinv.2
  induction h with
  | @start c c' tr tr' hsetup hstart =>
    obtain ⟨hdark, hkept⟩ := Program.Runs.of_meets hsetup (setup_cursor fx {})
    obtain ⟨hdark', hkept'⟩ := Program.Runs.of_meets hstart (startup_cursor fx c)
    have hnone : c'.lastCursorPos = none := hkept'.trans hkept
    refine ⟨fun p hp => ?_, fun o ho => ?_, fun pre t post heq => absurd heq (by simp)⟩
    · rw [hnone] at hp
      cases hp
    · rcases List.mem_append.mp ho with ho | ho
      · exact hdark o ho
      · exact hdark' o ho
  | @turn c c' tr₀ tr ts ev _ hruns ih =>
    obtain ⟨hbefore, hdark, hts⟩ := ih (fun t ht => hgather t (List.mem_append_left _ ht))
      fun t ht => hown t (List.mem_append_left _ ht)
    have hmem : (⟨c, ev, tr, c'⟩ : Turn) ∈ ts ++ [⟨c, ev, tr, c'⟩] := by simp
    obtain ⟨hevidenced, hafter⟩ := turn_evidenced fx (t := ⟨c, ev, tr, c'⟩) hbefore hruns
      (hgather _ hmem) (hown _ hmem)
    refine ⟨hafter, hdark, fun pre t post heq => ?_⟩
    -- The turn asked about is the last one, or one the hypothesis covers.
    rcases List.eq_nil_or_concat post with rfl | ⟨post, t', rfl⟩
    · obtain ⟨rfl, ht⟩ := List.append_inj' heq rfl
      obtain rfl := (List.cons.inj ht).1
      exact hevidenced
    · rw [List.concat_eq_append, ← List.cons_append, ← List.append_assoc] at heq
      exact hts pre t post (List.append_inj' heq rfl).1

end

/-! ## Two nights -/

/-- A snapshot that the answers make is one of the reconciler's. -/
theorem fromGather_snapshot {session lid : Bool} (lidPresent : Bool) (prev : Nat)
    {r : Reconciler.Reads} (hlid : r.lidOf lidPresent = some lid) :
    FromGather (Reconciler.snapshot session prev r lid) := by
  have hruns := runs_answered (Reconciler.gather session lidPresent) r.answers prev
  have hsnap := Reconciler.gather_spec session lidPresent hruns fun _ ho =>
    answer_of_mem_answered ho
  rw [hlid, Option.map_some] at hsnap
  rw [hsnap] at hruns
  exact ⟨session, lidPresent, prev, _, _, _, "", hruns, rfl⟩

/-- The reads of a pass over a locked session, with the panel dark or lit. -/
def panelReads (lidClosed dark : Bool) (cursor : Int × Int) : Reconciler.Reads where
  lid := some lidClosed
  monitors := some [{ name := "eDP-2", dpmsStatus := !dark }]
  inhibitors := some []
  clients := some []
  lockedHint := some true
  onAc := none
  cursorPos := some cursor

/-- What a pass reads of a lid, a dark panel and a cursor. -/
def panelPass (lidClosed dark : Bool) (cursor : Int × Int) : ReconcileSnapshot :=
  Reconciler.snapshot true 0 (panelReads lidClosed dark cursor) lidClosed

/-- A locked machine with its lid open or shut, and a live locker. -/
def lockedWorld (lidClosed : Bool) : (e : Eff) → e.Ans
  | .lidClosed => some lidClosed
  | .lockedHint => some true
  | .hyprctlLocked => some "true"
  | e => e.quiet

/-- A pass of those is one of the reconciler's. -/
theorem fromGather_panelPass (lidClosed dark : Bool) (cursor : Int × Int) :
    FromGather (panelPass lidClosed dark cursor) :=
  fromGather_snapshot true 0 (r := panelReads lidClosed dark cursor) rfl

/-- Two passes over dark screens, with the cursor moved in between: the second one lights them. -/
theorem dpmsOn_evidenced_awake : ∃ tr₀ t₁ t₂ c, Run ⟨false, true⟩ tr₀ [t₁, t₂] c ∧
    (∃ o ∈ t₂.trace, o.1.2 = .trySend .dpmsOn ∧ o.1.1.locked = true) ∧ t₂.Evidenced [t₁] := by
  have hstart := Run.start (runs_answered (Effectors.setup ⟨false, true⟩) (lockedWorld false) {})
    (runs_answered (Effectors.startup ⟨false, true⟩) (lockedWorld false) _)
  have hfirst := hstart.turn (.reconcileTick (panelPass false true (0, 0)))
    (runs_answered (Effectors.handle ⟨false, true⟩ _) (lockedWorld false) _)
  have hrun := hfirst.turn (.reconcileTick (panelPass false true (5, 5)))
    (runs_answered (Effectors.handle ⟨false, true⟩ _) (lockedWorld false) _)
  refine ⟨_, _, _, _, hrun, by decide +kernel, (dpmsOn_evidenced _ hrun ?_ ?_).2 [_] _ [] rfl⟩
  · intro t ht snap hev
    simp only [List.nil_append, List.mem_append, List.mem_singleton] at ht
    rcases ht with rfl | rfl
    · obtain rfl := Event.reconcileTick.inj hev
      exact fromGather_panelPass _ _ _
    · obtain rfl := Event.reconcileTick.inj hev
      exact fromGather_panelPass _ _ _
  · intro t ht snap hev hstate
    simp only [List.nil_append, List.mem_append, List.mem_singleton] at ht
    rcases ht with rfl | rfl
    · exact absurd hstate (by decide +kernel)
    · exact absurd hstate (by decide +kernel)

/-- A dark screen before a suspend, a lit one while the machine is suspending, and a dark one after
it. -/
theorem exists_run_resumed : ∃ tr₀ pre t c, Run ⟨false, true⟩ tr₀ (pre ++ [t]) c ∧
    (∀ t' ∈ pre ++ [t], ∀ snap, t'.ev = .reconcileTick snap → FromGather snap) ∧
    lastPass pre = some (panelPass false false (0, 0)) ∧
    ∃ o ∈ t.trace, o.1.2 = .trySend .dpmsOn ∧ o.1.1.locked = true := by
  have hstart := Run.start (runs_answered (Effectors.setup ⟨false, true⟩) (lockedWorld true) {})
    (runs_answered (Effectors.startup ⟨false, true⟩) (lockedWorld true) _)
  have hdark := hstart.turn (.reconcileTick (panelPass true true (0, 0)))
    (runs_answered (Effectors.handle ⟨false, true⟩ _) (lockedWorld true) _)
  have hsuspended := hdark.turn .timerExpired
    (runs_answered (Effectors.handle ⟨false, true⟩ _) (lockedWorld true) _)
  have hlit := hsuspended.turn (.reconcileTick (panelPass false false (0, 0)))
    (runs_answered (Effectors.handle ⟨false, true⟩ _) (lockedWorld false) _)
  have hresumed :=
    hlit.turn .resumed (runs_answered (Effectors.handle ⟨false, true⟩ _) (lockedWorld false) _)
  have hrun := hresumed.turn (.reconcileTick (panelPass false true (5, 5)))
    (runs_answered (Effectors.handle ⟨false, true⟩ _) (lockedWorld false) _)
  refine ⟨_, _, _, _, hrun, ?_, rfl, by decide +kernel⟩
  intro t ht snap hev
  simp only [List.nil_append, List.mem_append, List.mem_singleton, or_assoc] at ht
  rcases ht with rfl | rfl | rfl | rfl | rfl
  · obtain rfl := Event.reconcileTick.inj hev
    exact fromGather_panelPass _ _ _
  · cases hev
  · obtain rfl := Event.reconcileTick.inj hev
    exact fromGather_panelPass _ _ _
  · cases hev
  · obtain rfl := Event.reconcileTick.inj hev
    exact fromGather_panelPass _ _ _

/-- A position from before a suspend lights the screens after it: the pass over lit screens in
between was handled while the machine was suspending. -/
theorem not_evidenced_resumed :
    ¬∀ (fx : Effectors) (tr₀ : List DaemonObs) (ts : List Turn) (c : Context), Run fx tr₀ ts c →
      (∀ t ∈ ts, ∀ snap, t.ev = .reconcileTick snap → FromGather snap) →
        ∀ pre t post, ts = pre ++ t :: post → t.Evidenced pre := by
  intro h
  obtain ⟨tr₀, pre, t, c, hrun, hmade, hlit, o, ho, hdpms, hlocked⟩ := exists_run_resumed
  obtain ⟨-, last, -, hlast, hdark, -⟩ := h _ _ _ _ hrun hmade pre t [] rfl o ho hdpms hlocked
  rw [hlit] at hlast
  obtain rfl := Option.some.inj hlast
  exact absurd hdark (by decide)

end Hyprstate
