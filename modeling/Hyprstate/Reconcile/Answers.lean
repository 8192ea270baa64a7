import Hyprstate.Reconcile.Tick

/-!
# The answers of a tick

The outcome of a tick is a function of the answers to a few requests of its own (`TickReads`). Each
of them is made at most once, so the trace of a tick has one set of answers (`exists_of`).
-/

namespace Hyprstate

open Reactive Process

/-- The requests whose answers the outcome of a tick depends on. -/
def Eff.tickRead : Eff → Bool
  | .suspendRequestExists | .suspendRequestWrite _ | .suspendRequestRead | .suspendRequestRemove
  | .activeProfileName | .loadProfiles => true
  | _ => false

/-! ## The pieces that make none of them -/

/-- A piece that makes none of these requests. -/
abbrev Unread {α : Type} (x : Daemon α) : Prop := Avoids (fun e : Eff => e.tickRead = true) x

/-- They are queries, and operations on the request file. -/
theorem unread_of_only {α : Type} {x : Daemon α} {rs : List Resource}
    {Q : Context → α → Context → Prop} (h : ∀ c, Meets x c (only rs) (Q c))
    (hrs : Resource.query ∉ rs ∧ Resource.requestFile ∉ rs) : Unread x := by
  refine .of_meets h fun _ _ e he hread => ?_
  have hresource : e.resource ∈ rs := he
  cases e with
  | suspendRequestExists | suspendRequestRead | activeProfileName | loadProfiles =>
    exact hrs.1 hresource
  | suspendRequestWrite _ | suspendRequestRemove => exact hrs.2 hresource
  | _ => exact absurd hread (by simp [Eff.tickRead])

section

variable (fx : Effectors)

/-- A command is none of them. -/
theorem sendCmd_unread (cmd : Cmd) : Unread (fx.sendCmd cmd) := by
  refine .of_meets (fun c => sendCmd_spec fx c cmd) ?_
  rintro _ _ _ ⟨-, rfl, -⟩ h
  exact absurd h (by simp [Eff.tickRead])

/-- Nor is a panel command. -/
theorem setEdp_unread (on : Bool) : Unread (fx.setEdp on) := by
  rw [Effectors.setEdp]
  exact .get_bind fun _ => .when _ (sendCmd_unread fx _)

/-- The level of the panel is read from sysfs. -/
theorem brightnessRead_unread : Unread Effectors.brightnessRead := by
  rw [Effectors.brightnessRead]
  refine .get_bind fun c => ?_
  cases c.brightness.brightnessDev with
  | none => exact .pure _
  | some dev => exact .ask (by simp [Eff.tickRead])

/-- So is it for the takeover guard. -/
theorem brightnessUserTookOver_unread : Unread Effectors.brightnessUserTookOver := by
  rw [Effectors.brightnessUserTookOver]
  refine .get_bind fun c => ?_
  cases c.brightness.brightnessSet with
  | none => exact .pure _
  | some set =>
    refine .bind brightnessRead_unread fun cur => ?_
    cases cur with
    | none => exact .pure _
    | some cur => exact .pure _

/-- The brightness effects read the panel and write it. -/
theorem brightnessEdge_unread (prev base : BaseState) : Unread (fx.brightnessEdge prev base) := by
  have hwrite : ∀ value, Unread (fx.brightnessWrite value) := fun value =>
    unread_of_only (fun c => brightnessWrite_spec fx c value) (by decide)
  have hlimit : ∀ save den, Unread (fx.brightnessLimit save den) := by
    intro save den
    rw [Effectors.brightnessLimit]
    refine .bind brightnessUserTookOver_unread fun tookOver => .ite ?_ ?_
    · rw [Effectors.brightnessYield]
      exact .modify_bind (fun _ => rfl) (.bind brightnessRead_unread fun _ => .modify fun _ => rfl)
    · refine .bind brightnessRead_unread fun cur => ?_
      cases cur with
      | none => exact .pure _
      | some cur =>
        refine .bind (.when _ (.modify fun _ => rfl)) fun _ => ?_
        exact .get_bind fun c => .when _ (hwrite _)
  have hrestore : Unread fx.brightnessRestore := by
    rw [Effectors.brightnessRestore]
    refine .get_bind fun c => ?_
    cases c.brightness.brightnessSaved with
    | none => exact .pure _
    | some saved =>
      refine Avoids.set_bind (.bind brightnessUserTookOver_unread fun tookOver =>
        .ite ?_ (hwrite _))
      exact .bind brightnessRead_unread fun _ => .modify fun _ => rfl
  rw [Effectors.brightnessEdge]
  refine .when _ (.bind (.when _ (hlimit _ _)) fun _ => ?_)
  exact .bind (.when _ (hlimit _ _)) fun _ => .when _ hrestore

/-- The power policy asks for the time, the panel and powerd. -/
theorem powerPolicyCheck_unread : Unread fx.powerPolicyCheck := by
  have happly : ∀ profile, Unread (fx.applyPowerProfile profile) := by
    intro profile
    rw [Effectors.applyPowerProfile]
    refine .get_bind fun c => .when _ (.bind (.ask (by simp [Eff.tickRead])) fun now => ?_)
    refine .modify_bind (fun _ => rfl) (.bind (.ite (.pure _) ?_) fun ok => .ite ?_ ?_)
    · exact .ask (by simp [Eff.tickRead])
    · exact .modify fun _ => rfl
    · exact .modify fun _ => rfl
  rw [Effectors.powerPolicyCheck]
  refine .get_bind fun c => .bind ?_ fun _ => .get_bind fun c₁ => .bind (happly _) fun _ => ?_
  · exact unread_of_only (fun c => powerOverrideStep_spec fx c _) (by decide)
  · refine .get_bind fun c₂ => Avoids.set_bind ?_
    cases c₂.power.powerLastBase with
    | none => exact .pure _
    | some prev => exact brightnessEdge_unread fx prev _

/-- The timers ask whether their task is finished. -/
theorem taskLive_unread (task : Context → Option Handle) : Unread (taskLive task) := by
  rw [taskLive]
  refine .get_bind fun c => ?_
  cases task c with
  | none => exact .pure _
  | some h => exact .bind (.ask (by simp [Eff.tickRead])) fun _ => .pure _

/-- A state is entered without them. -/
theorem onEnter_unread (state : State) (fresh : Bool) : Unread (fx.onEnter state fresh) := by
  have hask : ∀ e : Eff, e.tickRead = false → Unread (request e : Daemon e.Ans) := fun e he =>
    .ask (by simp [he])
  have hcancel : Unread Effectors.cancelGraceTimer :=
    unread_of_only cancelGraceTimer_spec (by decide)
  have hwatch : Unread (Effectors.enterClaimWatch state) := by
    rw [Effectors.enterClaimWatch]
    refine .get_bind fun c => .ite ?_ (unread_of_only cancelClaimWatch_spec (by decide))
    rw [Effectors.startClaimWatch]
    refine .bind (taskLive_unread _) fun live => .when _ (.bind (hask _ rfl) fun h => ?_)
    exact .modify fun _ => rfl
  have hlive : Unread fx.liveLocker := by
    rw [Effectors.liveLocker, Hyprctl.sessionIsLocked]
    refine .ite (.bind (hask _ rfl) fun hint => .ite (.bind ?_ fun held => .pure _) (.pure _))
      (.pure _)
    exact .bind (hask _ rfl) fun out => .pure _
  rw [Effectors.onEnter.eq_def]
  refine .bind hwatch fun _ => ?_
  -- What an entry asks beside the panel and the timers is read by no tick.
  cases state with
  | lidOpen | docked => exact .bind hcancel fun _ => .bind (setEdp_unread fx _) fun _ => .pure _
  | deferred =>
    refine .bind hcancel fun _ => .bind (setEdp_unread fx _) fun _ => .get_bind fun c => ?_
    exact .bind (.when _ (sendCmd_unread fx _)) fun _ => .pure _
  | countdown =>
    refine .bind (setEdp_unread fx _) fun _ => .bind ?_ fun _ => .pure _
    rw [Effectors.startGraceTimer]
    refine .bind (.ite (.pure _) (taskLive_unread _)) fun live =>
      .when _ (.bind hcancel fun _ => ?_)
    exact .get_bind fun c => .bind (hask _ rfl) fun h => .modify fun _ => rfl
  -- Only this entry asks for the lock, and its answers go to the suspend alone.
  | suspending =>
    refine .bind hcancel fun _ => ?_
    rw [Effectors.suspendingTail]
    refine .bind hlive fun live => .bind (.ite (.pure _) ?_) fun proven => .ite ?_ (.pure _)
    · rw [Effectors.lockAndProve, Effectors.requestLock, Effectors.waitForLock]
      refine .bind (.when _ (hask _ rfl)) fun _ => .bind (.get_bind fun c => ?_) fun engaged =>
        .ite hlive (.pure _)
      exact .bind (.ite hlive (.pure _)) fun live => .ite (.pure _) (hask _ rfl)
    · rw [Effectors.doSuspend]
      exact .ite (.pure _) (hask _ rfl)

/-- The machine is evaluated without them. -/
theorem evaluateFsms_unread (kind : EventKind) : Unread (fx.evaluateFsms kind) := by
  rw [Effectors.evaluateFsms]
  refine .get_bind fun c => ?_
  split
  · exact .pure _
  · refine .when _ (.ite (.bind (onEnter_unread fx _ true) fun entered => .ite ?_ ?_) ?_)
    · exact .modify fun _ => rfl
    · rw [Effectors.startGraceTimer]
      refine .bind (.ite (.pure _) (taskLive_unread _)) fun live => .when _ (.bind ?_ fun _ => ?_)
      · exact unread_of_only cancelGraceTimer_spec (by decide)
      · exact .get_bind fun c => .bind (.ask (by simp [Eff.tickRead])) fun h => .modify fun _ => rfl
    · exact .modify_bind (fun _ => rfl) (.bind (onEnter_unread fx _ true) fun _ => .pure _)

/-- The panel is enforced without them. -/
theorem enforceEdp_unread (snap : ReconcileSnapshot) : Unread (fx.enforceEdp snap) := by
  rw [Effectors.enforceEdp]
  refine .get_bind fun c => ?_
  cases snap.edpDisabled with
  | none => exact .pure _
  | some disabled => exact .ite (setEdp_unread fx _) (.when _ (setEdp_unread fx _))

end

/-! ## One set of answers -/

namespace TickReads

/-- Log the requests that matter, with their answers. -/
def reads (log : List DaemonObs) (o : DaemonObs) : List DaemonObs :=
  if o.1.2.tickRead then log ++ [o] else log

/-- The other requests are admitted in any case. -/
theorem admits_of_unread {a : TickReads} {e : Eff} (h : e.tickRead = false) (b : e.Ans) :
    a.admits e b := by
  cases e with
  | suspendRequestExists | suspendRequestWrite _ | suspendRequestRead | suspendRequestRemove
  | activeProfileName | loadProfiles => exact absurd h (by simp [Eff.tickRead])
  | _ => trivial

/-- What the log was answered as, the trace was. -/
theorem of_reads {a : TickReads} {tr log : List DaemonObs} (h : a.Of (tr.foldl reads log)) :
    a.Of log ∧ a.Of tr := by
  induction tr generalizing log with
  | nil => exact ⟨h, by simp [Of]⟩
  | cons o tr ih =>
    obtain ⟨hlog, htr⟩ := ih h
    unfold reads at hlog
    cases ho : o.1.2.tickRead with
    | true =>
      simp only [ho, if_true] at hlog
      refine ⟨fun o' ho' => hlog o' (List.mem_append_left _ ho'), ?_⟩
      rintro o' (- | ⟨-, ho'⟩)
      · exact hlog o (by simp)
      · exact htr o' ho'
    | false =>
      simp only [ho, Bool.false_eq_true, if_false] at hlog
      refine ⟨hlog, ?_⟩
      rintro o' (- | ⟨-, ho'⟩)
      · exact admits_of_unread ho _
      · exact htr o' ho'

/-- The log was answered as every set of answers with `K` says. -/
def Known (K : TickReads → Prop) (log : List DaemonObs) : Prop := ∀ a, K a → a.Of log

/-- One more answer is known. -/
theorem Known.snoc {K K' : TickReads → Prop} {log : List DaemonObs} {c : Context} {e : Eff}
    {b : e.Ans} (h : Known K log) (hK : ∀ a, K' a → K a ∧ a.admits e b) :
    Known K' (log ++ [⟨(c, e), b⟩]) := by
  intro a ha o ho
  obtain ⟨hold, hnew⟩ := hK a ha
  rcases List.mem_append.mp ho with ho | ho
  · exact h a hold o ho
  · rw [List.mem_singleton.mp ho]
    exact hnew

/-- What is known of fewer sets of answers is no less. -/
theorem Known.mono {K K' : TickReads → Prop} {log : List DaemonObs} (h : Known K log)
    (hK : ∀ a, K' a → K a) : Known K' log := fun a ha => h a (hK a ha)

end TickReads

section

open TickReads

variable (fx : Effectors) {log : List DaemonObs} {c : Context} {K : TickReads → Prop}

/-- The world that answers anything, and logs the requests that matter. -/
abbrev readWorld : World (Context × Eff) (stamped Eff.Ans) (List DaemonObs) :=
  World.observer (fun _ => True) reads

/-- The other pieces leave the log as it is. -/
theorem wp_unread {α : Type} {x : Daemon α} (hx : Unread x) (c : Context)
    (log : List DaemonObs) :
    Wp readWorld (fun _ _ _ => True) (fun _ _ log' => log' = log) x c log := by
  refine (wp_observer_of_meets (J := fun log' => log' = log) (hx c) rfl ?_).mono
    (fun _ _ _ _ => trivial) fun _ _ _ h => h.2
  rintro s e w b he - rfl
  have hread : e.tickRead = false := by simpa using he
  simp [reads, hread]

/-- The repair looks for the request file once. -/
theorem repairContext_known (snap : ReconcileSnapshot) (c : Context) :
    Wp readWorld (fun _ _ _ => True)
      (fun _ _ log => ∃ standing, Known (fun a => a.standing = standing) log)
      (Effectors.repairContext snap) c [] := by
  rw [Effectors.repairContext, wp_get_bind, wp_modify_bind]
  refine (wp_observer_ask_bind (e := Eff.suspendRequestExists)).mpr ⟨trivial, ?_⟩
  intro standing _
  have hrest : Unread (do
      modify fun c' : Context => { c' with
        suspendRequested := standing, extMonCount := snap.extMonCount }
      when (decide (snap.extMonCount ≠ c.extMonCount)) Effectors.scheduleProfileReconcile
      modify fun c' => { c' with
        logindInhibitor := snap.logindInhibitor
        waylandInhibitor := snap.waylandInhibitor.getD c'.waylandInhibitor
        locked := snap.locked.getD c'.locked }
      when (decide (snap.locked.getD c.locked ≠ c.locked))
        (request (.lockedSend (snap.locked.getD c.locked)))
      modify fun c' => { c' with onAc := snap.onAc.getD c'.onAc }
      pure (Effectors.fsmDrift snap c standing, Effectors.powerDrift snap c) :
        Daemon (Bool × Bool)) := by
    refine .modify_bind (fun _ => rfl) (.bind (.when _ ?_) fun _ => ?_)
    · exact unread_of_only scheduleProfileReconcile_spec (by decide)
    · refine .modify_bind (fun _ => rfl)
        (.bind (.when _ (.ask (by simp [Eff.tickRead]))) fun _ => ?_)
      exact .modify_bind (fun _ => rfl) (.pure _)
  refine (wp_unread hrest _ _).mono (fun _ _ _ => id) ?_
  rintro _ _ _ rfl
  have hnothing : Known (fun _ => True) [] := fun _ _ _ ho => absurd ho List.not_mem_nil
  exact ⟨standing, hnothing.snoc fun a ha => ⟨trivial, ha.symm⟩⟩

/-- The battery-low check writes the request once, or reads it and removes it once. -/
theorem batteryLowRequestCheck_known (h : Known K log) :
    Wp readWorld (fun _ _ _ => True)
      (fun _ _ log' => ∃ written body removed, Known (fun a => K a ∧ a.written = written ∧
        a.body = body ∧ a.removed = removed) log')
      fx.batteryLowRequestCheck c log := by
  -- Where nothing is written or removed, the answers are any.
  have hnone : ∀ {log' : List DaemonObs}, log' = log → ∃ written body removed, Known (fun a =>
      K a ∧ a.written = written ∧ a.body = body ∧ a.removed = removed) log' := by
    rintro _ rfl
    exact ⟨false, none, false, h.mono fun _ ha => ha.1⟩
  have hset : ∀ (answer standing : Bool), Unread (do
      when answer (modify fun c : Context => { c with suspendRequested := standing })
      pure answer : Daemon Bool) := fun _ _ =>
    .bind (.when _ (.modify fun _ => rfl)) fun _ => .pure _
  rw [Effectors.batteryLowRequestCheck, wp_get_bind]
  cases batteryLowAction c.lowBattery c.onAc c.onAcSettled c.suspendRequested with
  | request =>
    rw [wp_bind, Effectors.requestSuspend, wp_ite]
    refine ⟨fun _ => wp_observer_pure.mpr
      ((wp_unread (hset false true) c log).mono (fun _ _ _ => id) ?_), fun _ =>
        (wp_observer_ask (e := Eff.suspendRequestWrite _)).mpr ⟨trivial, ?_⟩⟩
    · exact fun _ _ _ => hnone
    · intro written _
      refine (wp_unread (hset written true) c _).mono (fun _ _ _ => id) ?_
      rintro _ _ _ rfl
      exact ⟨written, none, false, h.snoc fun a ha => ⟨ha.1, ha.2.1.symm⟩⟩
  -- The body is read before the file is removed, and decides whether it is.
  | withdraw =>
    rw [wp_bind, Effectors.clearBatteryLowRequest, wp_ite]
    refine ⟨fun _ => wp_observer_pure.mpr
      ((wp_unread (hset false false) c log).mono (fun _ _ _ => id) ?_), fun _ =>
        (wp_observer_ask_bind (e := Eff.suspendRequestRead)).mpr ⟨trivial, ?_⟩⟩
    · exact fun _ _ _ => hnone
    · intro body _
      have hbody : Known (fun a => K a ∧ a.body = body)
          (reads log ⟨(c, .suspendRequestRead), body⟩) :=
        h.snoc fun a ha => ⟨ha.1, ha.2.symm⟩
      rw [wp_ite]
      refine ⟨fun _ => (wp_observer_ask (e := Eff.suspendRequestRemove)).mpr ⟨trivial, ?_⟩,
        fun _ =>
          wp_observer_pure.mpr ((wp_unread (hset false false) c _).mono (fun _ _ _ => id) ?_)⟩
      · intro removed _
        refine (wp_unread (hset removed false) c _).mono (fun _ _ _ => id) ?_
        rintro _ _ _ rfl
        exact ⟨false, body, removed,
          hbody.snoc fun a ha => ⟨⟨ha.1, ha.2.2.1⟩, ha.2.2.2.symm⟩⟩
      · rintro _ _ _ rfl
        exact ⟨false, body, false, hbody.mono fun _ ha => ⟨ha.1, ha.2.2.1⟩⟩
  | hold => exact wp_observer_pure.mpr (hnone rfl)

/-- The repairs are driven with at most one battery-low check. -/
theorem driveRepairs_known (h : Known K log) (fsm power : Bool) :
    Wp readWorld (fun _ _ _ => True)
      (fun _ _ log' => ∃ written body removed, Known (fun a => K a ∧ a.written = written ∧
        a.body = body ∧ a.removed = removed) log')
      (fx.driveRepairs fsm power) c log := by
  have hfsm : Unread (when fsm (fx.evaluateFsms .ctxRepaired)) := .when _ (evaluateFsms_unread fx _)
  rw [Effectors.driveRepairs, wp_bind, wp_when]
  refine ⟨fun _ => ?_, fun _ => wp_observer_pure.mpr ?_⟩
  · rw [wp_modify_bind]
    refine (wp_unread (powerPolicyCheck_unread fx) _ log).bind ?_
    rintro _ c₁ _ rfl
    refine (batteryLowRequestCheck_known fx h).bind ?_
    rintro _ c₂ log' hknown
    refine wp_observer_pure.mpr ((wp_unread hfsm c₂ log').mono (fun _ _ _ => id) ?_)
    rintro _ _ _ rfl
    exact hknown
  · refine (wp_unread hfsm c log).mono (fun _ _ _ => id) ?_
    rintro _ _ _ rfl
    exact ⟨false, none, false, h.mono fun _ ha => ha.1⟩

/-- The active profile is read once, and the profiles at most once. -/
theorem ingestActiveProfile_known (h : Known K log) :
    Wp readWorld (fun _ _ _ => True)
      (fun _ _ log' => ∃ active profiles, Known (fun a => K a ∧ a.active = active ∧
        a.profiles = profiles) log')
      Effectors.ingestActiveProfile c log := by
  rw [Effectors.ingestActiveProfile]
  refine (wp_observer_ask_bind (e := Eff.activeProfileName)).mpr ⟨trivial, ?_⟩
  intro active _
  have hactive : Known (fun a => K a ∧ a.active = active)
      (reads log ⟨(c, .activeProfileName), active⟩) :=
    h.snoc fun a ha => ⟨ha.1, ha.2.symm⟩
  cases active with
  | none => exact wp_observer_pure.mpr ⟨none, [], hactive.mono fun _ ha => ⟨ha.1, ha.2.1⟩⟩
  | some name =>
    dsimp only
    rw [wp_get_bind, wp_ite]
    refine ⟨fun _ => wp_observer_pure.mpr ?_, fun _ => ?_⟩
    · exact ⟨some name, [], hactive.mono fun _ ha => ⟨ha.1, ha.2.1⟩⟩
    · refine (wp_observer_ask_bind (e := Eff.loadProfiles)).mpr ⟨trivial, ?_⟩
      intro profiles _
      rw [wp_modify_bind]
      refine wp_observer_pure.mpr ⟨some name, profiles, ?_⟩
      exact hactive.snoc fun a ha => ⟨⟨ha.1, ha.2.1⟩, ha.2.2.symm⟩

/-- A tick has one set of answers. -/
theorem handleReconcileTick_known (snap : ReconcileSnapshot) (c : Context) :
    Wp readWorld (fun _ _ _ => True) (fun _ _ log => ∃ a : TickReads, a.Of log)
      (fx.handleReconcileTick snap) c [] := by
  rw [Effectors.handleReconcileTick]
  refine (repairContext_known snap c).bind ?_
  rintro drift c₁ log₁ ⟨standing, h₁⟩
  refine (driveRepairs_known fx h₁ _ _).bind ?_
  rintro _ c₂ log₂ ⟨written, body, removed, h₂⟩
  rw [wp_get_bind, wp_when]
  refine ⟨fun _ => ?_, fun _ => wp_observer_pure.mpr ?_⟩
  · refine (ingestActiveProfile_known h₂).bind ?_
    rintro _ c₃ log₃ ⟨active, profiles, h₃⟩
    have hrest : Unread (do
        fx.enforceEdp snap
        fx.dpmsBackstop snap) :=
      .bind (enforceEdp_unread fx snap) fun _ =>
        unread_of_only (fun c => dpmsBackstop_spec fx c snap) (by decide)
    refine (wp_unread hrest c₃ log₃).mono (fun _ _ _ => id) ?_
    rintro _ _ _ rfl
    exact ⟨⟨standing, written, body, removed, active, profiles⟩, h₃ _ (by simp)⟩
  · exact ⟨⟨standing, written, body, removed, none, []⟩, h₂ _ (by simp)⟩

/-- The whole turn of a tick was answered as one set of answers says. -/
theorem TickReads.exists_of {snap : ReconcileSnapshot} {c c' : Context} {tr : List DaemonObs}
    (h : Process.Runs (fx.handle (.reconcileTick snap)) c tr () c') : ∃ a : TickReads, a.Of tr := by
  have hwp : Wp readWorld (fun _ _ _ => True) (fun _ _ log => ∃ a : TickReads, a.Of log)
      (fx.handle (.reconcileTick snap)) c [] := by
    simp only [Effectors.handle, Effectors.dispatch, Effectors.dispatchUpdate, bind_assoc]
    refine (handleReconcileTick_known fx snap c).bind ?_
    rintro _ c₁ log ⟨a, ha⟩
    have hsync : Unread fx.syncWaybar := unread_of_only (syncWaybar_spec fx) (by decide)
    refine (wp_unread hsync c₁ log).mono (fun _ _ _ => id) ?_
    rintro _ _ _ rfl
    exact ⟨a, ha⟩
  obtain ⟨a, ha⟩ := (Program.Runs.of_wp_observer h (fun _ _ => trivial) hwp).2
  exact ⟨a, (of_reads ha).2⟩

/-- The inputs and the state that the whole turn leaves, by its answers. -/
theorem turn_tick_spec {a : TickReads} {snap : ReconcileSnapshot} {c c' : Context}
    {tr : List DaemonObs} (h : Process.Runs (fx.handle (.reconcileTick snap)) c tr () c')
    (ha : a.Of tr) :
    c'.inputs = (repairedInputs fx a snap c).inputs ∧ c'.state = tickState fx a snap c := by
  have hwp : Wp (tickWorld a) (fun _ _ _ => True)
      (fun _ c' _ => c'.inputs = (repairedInputs fx a snap c).inputs ∧
        c'.state = tickState fx a snap c)
      (fx.handle (.reconcileTick snap)) c [] := by
    rw [Effectors.handle]
    refine (dispatch_reconcileTick_log fx a snap c []).bind ?_
    rintro _ c₁ log ⟨hin, hst, -, -⟩
    refine (unlogged (syncWaybar_spec fx c₁) (by simp) log).mono (fun _ _ _ => id) ?_
    rintro _ _ _ ⟨⟨v, rfl⟩, -⟩
    exact ⟨hin, hst⟩
  exact (Program.Runs.of_wp_observer h ha hwp).2

end

end Hyprstate
