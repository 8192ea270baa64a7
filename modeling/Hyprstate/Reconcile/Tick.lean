import Hyprstate.Daemon.Transition
import Hyprstate.Reactive.World

/-!
# What a reconcile tick does

The outcome of `handle_reconcile_tick` as a function of the context, the snapshot and the answers to
the tick's own reads: the inputs and the state it leaves, the panel policy it ingests, and the panel
commands it gives, each with whether the worker's queue took it.

A command that the queue refuses is dropped by the source, so a log of panel commands keeps the
answer beside the command.
-/

namespace Hyprstate

open Reactive Process

/-! ## Panel commands -/

/-- The panel commands given so far, each with whether the worker's queue took it. -/
abbrev PanelLog := List (Bool × Bool)

/-- Log one request. -/
def commanded (log : PanelLog) : DaemonObs → PanelLog
  | ⟨(_, .trySend (.setEdp on)), taken⟩ => log ++ [(on, taken)]
  | _ => log

/-- A request of another resource commands nothing. -/
theorem commanded_of_resource {log : PanelLog} {o : DaemonObs} (h : o.1.2.resource ≠ .panel) :
    commanded log o = log := by
  rcases o with ⟨⟨c, e⟩, b⟩
  cases e with
  | trySend cmd =>
    cases cmd with
    | setEdp on => exact absurd rfl h
    | _ => rfl
  | _ => rfl

/-- The log has grown by these commands, whatever the queue answered. -/
def Sent (cmds : List Bool) (log log' : PanelLog) : Prop :=
  ∃ l : PanelLog, l.map Prod.fst = cmds ∧ log' = log ++ l

/-- Nothing is sent. -/
theorem sent_nil (log : PanelLog) : Sent [] log log := ⟨[], rfl, by simp⟩

/-- What two parts send, one behind the other. -/
theorem Sent.append {as bs : List Bool} {log log' log'' : PanelLog} (h : Sent as log log')
    (h' : Sent bs log' log'') : Sent (as ++ bs) log log'' := by
  obtain ⟨l, rfl, rfl⟩ := h
  obtain ⟨l', rfl, rfl⟩ := h'
  exact ⟨l ++ l', by simp, by simp⟩

/-- The world that answers as `ok` admits and logs the panel commands. -/
abbrev panelWorld (ok : DaemonObs → Prop) : World (Context × Eff) (stamped Eff.Ans) PanelLog :=
  World.observer ok commanded

section

variable (fx : Effectors) {ok : DaemonObs → Prop}

/-- The commands of `setEdp on`: the only output is never turned off. -/
def edpCommands (policy : EdpPolicy) (ext : Nat) (on : Bool) : List Bool :=
  if !fx.shadow && (policy.resolve on || edpMayDisable ext) then [policy.resolve on] else []

/-- A piece that does not touch the panel leaves the log as it is. -/
theorem unlogged {α : Type} {x : Daemon α} {c : Context} {rs : List Resource}
    {Q : α → Context → Prop} (hx : Meets x c (only rs) Q) (hp : Resource.panel ∉ rs)
    (log : PanelLog) :
    Wp (panelWorld ok) (fun _ _ _ => True) (fun a c' log' => Q a c' ∧ log' = log) x c log := by
  refine (wp_observer_of_meets (J := fun log' => log' = log) hx rfl ?_).mono
    (fun _ _ _ _ => trivial) fun _ _ _ h => h
  rintro s e w b he - rfl
  have hres : e.resource ∈ rs := he
  exact commanded_of_resource fun h => hp (h ▸ hres)

/-- `set_edp` sends what `edpCommands` says. -/
theorem setEdp_log (c : Context) (on : Bool) (log : PanelLog) :
    Wp (panelWorld ok) (fun _ _ _ => True)
      (fun _ c' log' => c' = c ∧ Sent (edpCommands fx c.edpPolicy c.extMonCount on) log log')
      (fx.setEdp on) c log := by
  simp only [Effectors.setEdp, Effectors.sendCmd, wp_get_bind, wp_when]
  refine ⟨fun hguard => ⟨fun hshadow => ?_, fun hshadow => ?_⟩, fun hguard => ?_⟩
  · refine (wp_observer_ask_bind (e := Eff.trySend _)).mpr ⟨trivial, fun taken _ => ?_⟩
    rw [wp_observer_pure]
    exact ⟨rfl, [(_, taken)], by simp [edpCommands, hshadow, hguard], rfl⟩
  · rw [wp_observer_pure]
    refine ⟨rfl, ?_⟩
    rw [edpCommands, hshadow]
    exact sent_nil log
  · rw [wp_observer_pure]
    refine ⟨rfl, ?_⟩
    rw [edpCommands, hguard, Bool.and_false]
    exact sent_nil log

/-! ## The transition map -/

/-- The commands of entering a state, afresh or on a re-assert. -/
def entryCommands (c : Context) (state : State) : List Bool :=
  if state = .suspending then []
  else edpCommands fx c.edpPolicy c.extMonCount (decide (state = .lidOpen))

/-- The entry of a state sends what `entryCommands` says. -/
theorem onEnter_log (c : Context) (state : State) (fresh : Bool) (hne : state ≠ .suspending)
    (log : PanelLog) :
    Wp (panelWorld ok) (fun _ _ _ => True)
      (fun entered c' log' => entered = true ∧ onlyTimers c c' ∧
        Sent (entryCommands fx c state) log log')
      (fx.onEnter state fresh) c log := by
  -- Every state but the suspend sets the panel once, with the policy and the count it finds.
  have hedp : ∀ (c' : Context) (on : Bool) (log' : PanelLog), c'.edpPolicy = c.edpPolicy →
      c'.extMonCount = c.extMonCount → log' = log → decide (state = .lidOpen) = on →
      Wp (panelWorld ok) (fun _ _ _ => True)
        (fun _ c'' log'' => c'' = c' ∧ Sent (entryCommands fx c state) log log'')
        (fx.setEdp on) c' log' := by
    rintro c' _ _ hpol hext rfl rfl
    rw [entryCommands, if_neg hne, ← hpol, ← hext]
    exact setEdp_log fx c' _ _
  refine (unlogged (enterClaimWatch_spec c state) (by simp) log).bind ?_
  rintro _ _ _ ⟨⟨w, rfl⟩, rfl⟩
  cases state with
  | lidOpen | docked =>
    refine (unlogged (cancelGraceTimer_spec _) (by simp) _).bind ?_
    rintro _ _ _ ⟨rfl, rfl⟩
    refine (hedp _ _ _ (by rfl) (by rfl) (by rfl) (by rfl)).bind ?_
    rintro _ _ log' ⟨rfl, hsent⟩
    rw [wp_observer_pure]
    exact ⟨rfl, ⟨_, _, rfl⟩, hsent⟩
  | deferred =>
    refine (unlogged (cancelGraceTimer_spec _) (by simp) _).bind ?_
    rintro _ _ _ ⟨rfl, rfl⟩
    refine (hedp _ _ _ (by rfl) (by rfl) (by rfl) (by rfl)).bind ?_
    rintro _ _ log' ⟨rfl, hsent⟩
    have hpause : ∀ c', Meets (when (claimGoverns c'.world) fx.pauseMedia) c' (only [.command])
        fun _ c'' => c'' = c' := by
      intro c'
      simp [Effectors.pauseMedia, Effectors.sendCmd, only]
    rw [wp_get_bind]
    refine (unlogged (hpause _) (by simp) log').bind ?_
    rintro _ _ _ ⟨rfl, rfl⟩
    rw [wp_observer_pure]
    exact ⟨rfl, ⟨_, _, rfl⟩, hsent⟩
  | countdown =>
    refine (hedp _ _ _ (by rfl) (by rfl) (by rfl) (by rfl)).bind ?_
    rintro _ _ log' ⟨rfl, hsent⟩
    refine (unlogged (startGraceTimer_spec _ fresh) (by simp) log').bind ?_
    rintro _ _ _ ⟨⟨t, rfl⟩, rfl⟩
    rw [wp_observer_pure]
    exact ⟨rfl, ⟨_, _, rfl⟩, hsent⟩
  | suspending => exact absurd rfl hne

/-- The commands of evaluating the machine. -/
def moveCommands (kind : EventKind) (c : Context) : List Bool :=
  if settled kind c = c.state then [] else entryCommands fx c (settled kind c)

/-- An evaluation sends what its move does. -/
theorem evaluateFsms_log (c : Context) (kind : EventKind) (hk : kind ≠ .timerExpired)
    (log : PanelLog) :
    Wp (panelWorld ok) (fun _ _ _ => True)
      (fun _ c' log' =>
        (∃ t w, c' = { c with graceTimer := t, claimWatch := w, state := settled kind c }) ∧
          Sent (moveCommands fx kind c) log log')
      (fx.evaluateFsms kind) c log := by
  have hstay : settled kind c = c.state → Wp (panelWorld ok) (fun _ _ _ => True)
      (fun _ c' log' =>
        (∃ t w, c' = { c with graceTimer := t, claimWatch := w, state := settled kind c }) ∧
          Sent (moveCommands fx kind c) log log')
      (pure () : Daemon Unit) c log := by
    intro h
    rw [wp_observer_pure, moveCommands, if_pos h, h]
    exact ⟨⟨c.graceTimer, c.claimWatch, rfl⟩, sent_nil log⟩
  simp only [Effectors.evaluateFsms, wp_get_bind]
  cases hd : desiredState c.state kind c.world with
  | none => exact hstay (by simp [settled, hd])
  | some new =>
    obtain rfl : settled kind c = new := by simp [settled, hd]
    have hne : settled kind c ≠ .suspending := fun h =>
      hk ((desiredState_eq_suspending_iff c.state kind c.world).mp (by rw [hd, h])).1
    dsimp only
    rw [wp_when, if_neg hne]
    refine ⟨fun hmove => ?_, fun h => hstay (by simpa using h)⟩
    rw [wp_modify_bind]
    refine (onEnter_log fx _ _ true hne log).bind ?_
    rintro _ _ log' ⟨-, ⟨t, w, rfl⟩, hsent⟩
    rw [wp_observer_pure, moveCommands, if_neg (by simpa using hmove)]
    exact ⟨⟨t, w, rfl⟩, hsent⟩

/-- The panel is commanded on just by a move, out of `suspending`, to a state that resolves to
on. -/
theorem true_mem_moveCommands_iff {kind : EventKind} (ht : kind ≠ .timerExpired)
    (hr : kind ≠ .resumed) (c : Context) :
    true ∈ moveCommands fx kind c ↔ fx.shadow = false ∧ c.state ≠ .suspending ∧
      worldState c.world ≠ c.state ∧
      c.edpPolicy.resolve (decide (worldState c.world = .lidOpen)) = true := by
  rw [moveCommands, settled_eq c ht hr]
  by_cases hs : c.state = .suspending
  · simp [hs]
  · rw [if_neg hs]
    by_cases hw : worldState c.world = c.state
    · simp [hw]
    · rw [if_neg hw, entryCommands, if_neg (worldState_ne_suspending _), edpCommands]
      cases c.edpPolicy.resolve (decide (worldState c.world = .lidOpen)) <;> simp [hs, hw]

/-! ## The reads of a tick -/

/-- The answers to a tick's own reads and to the battery-low check's file operations. -/
structure TickReads where
  /-- Whether the request file stands. -/
  standing : Bool
  /-- Whether the battery-low check could write its request. -/
  written : Bool
  /-- The body of the request file, and whether it could be removed. -/
  body : Option String
  removed : Bool
  /-- The name of the active profile link, and the profiles. -/
  active : Option String
  profiles : List MonitorProfile

namespace TickReads

/-- The request was answered as named. -/
def admits (a : TickReads) : (e : Eff) → e.Ans → Prop
  | .suspendRequestExists, b => b = a.standing
  | .suspendRequestWrite _, b => b = a.written
  | .suspendRequestRead, b => b = a.body
  | .suspendRequestRemove, b => b = a.removed
  | .activeProfileName, b => b = a.active
  | .loadProfiles, b => b = a.profiles
  | _, _ => True

/-- The trace was answered as named. -/
def Of (a : TickReads) (tr : List DaemonObs) : Prop := ∀ o ∈ tr, a.admits o.1.2 o.2

/-- A program that is answered as the reads say. -/
theorem of_answered {a : TickReads} {answers : (e : Eff) → e.Ans} {α : Type} {x : Daemon α}
    {c : Context} (h : ∀ e, a.admits e (answers e)) : a.Of (x.answered answers c).2.2 := by
  intro o ho
  rw [answer_of_mem_answered ho]
  exact h o.1.2

/-- The answers of a quiet machine. -/
def quiet : TickReads where
  standing := false
  written := true
  body := none
  removed := true
  active := none
  profiles := []

/-- The quiet answers are answers. -/
theorem quiet_admits (e : Eff) : quiet.admits e e.quiet := by
  cases e <;> first | rfl | trivial

/-- The request after the battery-low check. -/
def requestAfter (a : TickReads) (c : Context) : Bool :=
  match batteryLowAction c.lowBattery c.onAc c.onAcSettled c.suspendRequested with
  | .request => !fx.shadow && a.written
  | .withdraw => !(!fx.shadow && (a.body.map Effectors.isBatteryLowBody).getD false && a.removed)
  | .hold => c.suspendRequested

/-- The panel policy after the active profile link was read. -/
def policyAfter (a : TickReads) (c : Context) : EdpPolicy :=
  match a.active with
  | none => c.edpPolicy
  | some name =>
    if c.currentProfile = some name then c.edpPolicy
    else ((a.profiles.find? fun p => p.name == name).map MonitorProfile.edp).getD .auto

end TickReads

/-! ## The outcome -/

section

variable (a : TickReads) (snap : ReconcileSnapshot) (c : Context)

/-- The context that the repairs leave: what the snapshot says, and where the power policy's inputs
moved, the AC axis settled and the request after the battery-low check. -/
def repairedInputs : Context :=
  let c₁ := repaired snap a.standing c
  if Effectors.powerDrift snap c then
    let c₂ := { c₁ with onAcSettled := c₁.onAc }
    { c₂ with suspendRequested := a.requestAfter fx c₂ }
  else c₁

/-- The fields that a tick leaves, but for the request and the settled AC axis. -/
theorem repairedInputs_fields :
    (repairedInputs fx a snap c).extMonCount = snap.extMonCount ∧
      (repairedInputs fx a snap c).waylandInhibitor =
        snap.waylandInhibitor.getD c.waylandInhibitor ∧
      (repairedInputs fx a snap c).logindInhibitor = snap.logindInhibitor ∧
      (repairedInputs fx a snap c).locked = snap.locked.getD c.locked ∧
      (repairedInputs fx a snap c).onAc = snap.onAc.getD c.onAc := by
  rw [repairedInputs]
  split <;> exact ⟨rfl, rfl, rfl, rfl, rfl⟩

/-- The state that a tick leaves. -/
def tickState : State :=
  if Effectors.fsmDrift snap c a.standing then settled .ctxRepaired (repairedInputs fx a snap c)
  else c.state

/-- The panel policy that a tick leaves. -/
def tickPolicy : EdpPolicy :=
  if tickState fx a snap c = .suspending then c.edpPolicy else a.policyAfter c

/-- The panel commands of the repaired machine's move. -/
def tickMoveCommands : List Bool :=
  if Effectors.fsmDrift snap c a.standing then
    moveCommands fx .ctxRepaired (repairedInputs fx a snap c)
  else []

/-- The panel commands that enforce the resolved panel against the observed one. -/
def enforceCommands (policy : EdpPolicy) (state : State) : List Bool :=
  let on := policy.resolve (decide (state = .lidOpen))
  match snap.edpDisabled with
  | none => []
  | some disabled =>
    if on && disabled then edpCommands fx policy snap.extMonCount true
    else if !on && !disabled then edpCommands fx policy snap.extMonCount false
    else []

/-- The panel commands of a tick. -/
def tickCommands : List Bool :=
  tickMoveCommands fx a snap c ++
    if tickState fx a snap c = .suspending then []
    else enforceCommands fx snap (tickPolicy fx a snap c) (tickState fx a snap c)

end

/-! ## The tick -/

section

variable (a : TickReads)

/-- The world of a tick whose reads are answered as named. -/
abbrev tickWorld : World (Context × Eff) (stamped Eff.Ans) PanelLog :=
  panelWorld fun o => a.admits o.1.2 o.2

/-- The repairs send nothing. -/
theorem repairContext_log (snap : ReconcileSnapshot) (c : Context) (log : PanelLog) :
    Wp (tickWorld a) (fun _ _ _ => True)
      (fun drift c' log' =>
        (∃ t, c' = { repaired snap a.standing c with profileDebounce := t }) ∧
          drift = (Effectors.fsmDrift snap c a.standing, Effectors.powerDrift snap c) ∧ log' = log)
      (Effectors.repairContext snap) c log := by
  -- After the count the repair sends the locked state only, whatever became of the debounce.
  have hrest : ∀ (t : Option Handle), Wp (tickWorld a) (fun _ _ _ => True)
      (fun drift c' log' =>
        (∃ t, c' = { repaired snap a.standing c with profileDebounce := t }) ∧
          drift = (Effectors.fsmDrift snap c a.standing, Effectors.powerDrift snap c) ∧ log' = log)
      (do
        modify fun c => { c with
          logindInhibitor := snap.logindInhibitor
          waylandInhibitor := snap.waylandInhibitor.getD c.waylandInhibitor
          locked := snap.locked.getD c.locked }
        when (decide (snap.locked.getD c.locked ≠ c.locked))
          (request (.lockedSend (snap.locked.getD c.locked)))
        modify fun c => { c with onAc := snap.onAc.getD c.onAc }
        pure (Effectors.fsmDrift snap c a.standing, Effectors.powerDrift snap c) :
          Daemon (Bool × Bool))
      { c with
        lidClosed := if c.lidPresent then snap.lidClosed else c.lidClosed
        suspendRequested := a.standing
        extMonCount := snap.extMonCount
        profileDebounce := t } log := by
    intro t
    have hsend : ∀ c', Meets (when (decide (snap.locked.getD c.locked ≠ c.locked))
        (request (.lockedSend (snap.locked.getD c.locked)))) c' (only [.query])
        fun _ c'' => c'' = c' := by
      intro c'
      simp [only]
    rw [wp_modify_bind]
    refine (unlogged (hsend _) (by simp) log).bind ?_
    rintro _ _ _ ⟨rfl, rfl⟩
    rw [wp_modify_bind, wp_observer_pure]
    exact ⟨⟨t, rfl⟩, rfl, rfl⟩
  simp only [Effectors.repairContext]
  rw [wp_get_bind, wp_modify_bind]
  refine (wp_observer_ask_bind (e := Eff.suspendRequestExists)).mpr ⟨trivial, ?_⟩
  rintro _ rfl
  have hschedule : ∀ c' : Context, Meets (when (decide (snap.extMonCount ≠ c.extMonCount))
      Effectors.scheduleProfileReconcile) c' (only [.abort, .timer])
      fun _ c'' => ∃ t, c'' = { c' with profileDebounce := t } := by
    intro c'
    rw [meets_when]
    exact ⟨fun _ => scheduleProfileReconcile_spec c', fun _ => ⟨c'.profileDebounce, rfl⟩⟩
  rw [wp_modify_bind]
  refine (unlogged (hschedule _) (by simp) log).bind ?_
  rintro _ _ _ ⟨⟨t, rfl⟩, rfl⟩
  exact hrest t

/-- The battery-low check asks for a suspend where no request stands, and withdraws one that
does. -/
theorem requestStanding_of_action (low ac settled standing : Bool) :
    (batteryLowAction low ac settled standing = .request → standing = false) ∧
      (batteryLowAction low ac settled standing = .withdraw → standing = true) := by
  cases low <;> cases ac <;> cases settled <;> cases standing <;> decide

/-- The request of a suspend is written, or is not. -/
theorem requestSuspend_log (c : Context) (log : PanelLog) :
    Wp (tickWorld a) (fun _ _ _ => True)
      (fun written c' log' => written = (!fx.shadow && a.written) ∧ c' = c ∧ log' = log)
      fx.requestSuspend c log := by
  rw [Effectors.requestSuspend, wp_ite]
  refine ⟨fun h => wp_observer_pure.mpr ⟨by simp [h], rfl, rfl⟩, fun h => ?_⟩
  refine (wp_observer_ask (e := Eff.suspendRequestWrite _)).mpr ⟨trivial, ?_⟩
  rintro _ rfl
  exact ⟨by simp [h], rfl, rfl⟩

/-- The request of a low battery is removed, or is not. -/
theorem clearBatteryLowRequest_log (c : Context) (log : PanelLog) :
    Wp (tickWorld a) (fun _ _ _ => True)
      (fun removed c' log' =>
        removed = (!fx.shadow && (a.body.map Effectors.isBatteryLowBody).getD false && a.removed) ∧
          c' = c ∧ log' = log)
      fx.clearBatteryLowRequest c log := by
  rw [Effectors.clearBatteryLowRequest, wp_ite]
  refine ⟨fun h => wp_observer_pure.mpr ⟨by simp [h], rfl, rfl⟩, fun h => ?_⟩
  refine (wp_observer_ask_bind (e := Eff.suspendRequestRead)).mpr ⟨trivial, ?_⟩
  rintro _ rfl
  rw [wp_ite]
  refine ⟨fun hbody => ?_, fun hbody => wp_observer_pure.mpr ⟨?_, rfl, rfl⟩⟩
  · refine (wp_observer_ask (e := Eff.suspendRequestRemove)).mpr ⟨trivial, ?_⟩
    rintro _ rfl
    exact ⟨by simp [h, hbody], rfl, rfl⟩
  · rw [Bool.not_eq_true] at hbody
    rw [hbody, Bool.and_false, Bool.false_and]

/-- The check of the battery sends nothing. -/
theorem batteryLowRequestCheck_log (c : Context) (log : PanelLog) :
    Wp (tickWorld a) (fun _ _ _ => True)
      (fun _ c' log' => c' = { c with suspendRequested := a.requestAfter fx c } ∧ log' = log)
      fx.batteryLowRequestCheck c log := by
  obtain ⟨hrequest, hwithdraw⟩ :=
    requestStanding_of_action c.lowBattery c.onAc c.onAcSettled c.suspendRequested
  simp only [Effectors.batteryLowRequestCheck, wp_get_bind, TickReads.requestAfter]
  generalize batteryLowAction c.lowBattery c.onAc c.onAcSettled c.suspendRequested = action
    at hrequest hwithdraw ⊢
  -- A request is recorded, or its end, only once the file operation went through.
  cases action with
  | request =>
    refine (requestSuspend_log fx a c log).bind ?_
    rintro written c _ ⟨rfl, rfl, rfl⟩
    have hnone := hrequest rfl
    dsimp only
    cases !fx.shadow && a.written
    · show Wp _ _ _ (pure _) _ _
      rw [wp_observer_pure]
      exact ⟨by rw [← hnone], rfl⟩
    · show Wp _ _ _ (modify _ >>= _) _ _
      rw [wp_modify_bind, wp_observer_pure]
      exact ⟨rfl, rfl⟩
  | withdraw =>
    refine (clearBatteryLowRequest_log fx a c log).bind ?_
    rintro removed c _ ⟨rfl, rfl, rfl⟩
    have hstanding := hwithdraw rfl
    dsimp only
    cases !fx.shadow && (a.body.map Effectors.isBatteryLowBody).getD false && a.removed
    · show Wp _ _ _ (pure _) _ _
      rw [wp_observer_pure]
      exact ⟨by rw [Bool.not_false, ← hstanding], rfl⟩
    · show Wp _ _ _ (modify _ >>= _) _ _
      rw [wp_modify_bind, wp_observer_pure]
      exact ⟨rfl, rfl⟩
  | hold => exact wp_observer_pure.mpr ⟨rfl, rfl⟩

/-- The active profile's policy is the one after. -/
theorem ingestActiveProfile_log (c : Context) (log : PanelLog) :
    Wp (tickWorld a) (fun _ _ _ => True)
      (fun _ c' log' => (∃ n r, c' = { c with
          currentProfile := n, activeProfileRev := r, edpPolicy := a.policyAfter c }) ∧ log' = log)
      Effectors.ingestActiveProfile c log := by
  rw [Effectors.ingestActiveProfile]
  refine (wp_observer_ask_bind (e := Eff.activeProfileName)).mpr ⟨trivial, ?_⟩
  rintro _ rfl
  rw [TickReads.policyAfter]
  cases a.active with
  | none => exact wp_observer_pure.mpr ⟨⟨c.currentProfile, c.activeProfileRev, rfl⟩, rfl⟩
  | some name =>
    dsimp only
    rw [wp_get_bind, wp_ite]
    refine ⟨fun hsame => ?_, fun hsame => ?_⟩
    · rw [if_pos hsame]
      exact wp_observer_pure.mpr ⟨⟨c.currentProfile, c.activeProfileRev, rfl⟩, rfl⟩
    · refine (wp_observer_ask_bind (e := Eff.loadProfiles)).mpr ⟨trivial, ?_⟩
      rintro _ rfl
      rw [if_neg hsame, wp_modify_bind, wp_observer_pure]
      exact ⟨⟨_, _, rfl⟩, rfl⟩

/-- The enforcement sends what `enforceCommands` says. -/
theorem enforceEdp_log (snap : ReconcileSnapshot) (c : Context) (log : PanelLog)
    (hext : c.extMonCount = snap.extMonCount) :
    Wp (tickWorld a) (fun _ _ _ => True)
      (fun _ c' log' => c' = c ∧ Sent (enforceCommands fx snap c.edpPolicy c.state) log log')
      (fx.enforceEdp snap) c log := by
  have hset : ∀ on, Wp (tickWorld a) (fun _ _ _ => True)
      (fun _ c' log' => c' = c ∧ Sent (edpCommands fx c.edpPolicy snap.extMonCount on) log log')
      (fx.setEdp on) c log := fun on => hext ▸ setEdp_log fx c on log
  have hnone : Wp (tickWorld a) (fun _ _ _ => True)
      (fun _ c' log' => c' = c ∧ Sent [] log log') (pure () : Daemon Unit) c log :=
    wp_observer_pure.mpr ⟨rfl, sent_nil log⟩
  simp only [Effectors.enforceEdp, wp_get_bind, enforceCommands]
  cases snap.edpDisabled with
  | none => exact hnone
  | some disabled =>
    have hon : ∀ on : Bool, Wp (tickWorld a) (fun _ _ _ => True)
        (fun _ c' log' => c' = c ∧ Sent
          (if on && disabled then edpCommands fx c.edpPolicy snap.extMonCount true
            else if !on && !disabled then edpCommands fx c.edpPolicy snap.extMonCount false
            else []) log log')
        (if on && disabled then fx.setEdp true
          else when (!on && !disabled) (fx.setEdp false) : Daemon Unit) c log := by
      intro on
      cases on <;> cases disabled
      · exact hset false
      · exact hnone
      · exact hnone
      · exact hset true
    exact hon _

/-- What the repairs drive sends what their move does. -/
theorem driveRepairs_log (snap : ReconcileSnapshot) (c : Context) (t : Option Handle)
    (log : PanelLog) :
    Wp (tickWorld a) (fun _ _ _ => True)
      (fun _ c' log' => c'.inputs = (repairedInputs fx a snap c).inputs ∧
        c'.state = tickState fx a snap c ∧ c'.edpPolicy = c.edpPolicy ∧
        c'.currentProfile = c.currentProfile ∧ Sent (tickMoveCommands fx a snap c) log log')
      (fx.driveRepairs (Effectors.fsmDrift snap c a.standing) (Effectors.powerDrift snap c))
      { repaired snap a.standing c with profileDebounce := t } log := by
  -- The machine moves over the repaired inputs; the power policy's record is not among them.
  have hfsm : ∀ (c₁ : Context), c₁.inputs = (repairedInputs fx a snap c).inputs →
      c₁.state = c.state → c₁.edpPolicy = c.edpPolicy → c₁.currentProfile = c.currentProfile →
      Wp (tickWorld a) (fun _ _ _ => True)
        (fun _ c' log' => c'.inputs = (repairedInputs fx a snap c).inputs ∧
          c'.state = tickState fx a snap c ∧ c'.edpPolicy = c.edpPolicy ∧
          c'.currentProfile = c.currentProfile ∧ Sent (tickMoveCommands fx a snap c) log log')
        (when (Effectors.fsmDrift snap c a.standing) (fx.evaluateFsms .ctxRepaired)) c₁ log := by
    intro c₁ hin hst hpol hprof
    have hst' : c₁.state = (repairedInputs fx a snap c).state := by
      rw [hst, repairedInputs]
      split <;> rfl
    have hpol' : c₁.edpPolicy = (repairedInputs fx a snap c).edpPolicy := by
      rw [hpol, repairedInputs]
      split <;> rfl
    have hext : c₁.extMonCount = (repairedInputs fx a snap c).extMonCount :=
      congrArg Inputs.extMonCount hin
    have hsettled : settled .ctxRepaired c₁ = settled .ctxRepaired
        (repairedInputs fx a snap c) := by
      rw [settled, settled, world_eq_of_inputs_eq hin, hst']
    rw [wp_when, tickState, tickMoveCommands]
    refine ⟨fun h => ?_, fun h => ?_⟩
    · rw [if_pos h, if_pos h, ← hsettled]
      refine (evaluateFsms_log fx c₁ .ctxRepaired (by simp) log).mono (fun _ _ _ => id) ?_
      rintro _ _ log' ⟨⟨g, w, rfl⟩, hsent⟩
      refine ⟨hin, rfl, hpol, hprof, ?_⟩
      rwa [moveCommands, hsettled, hst', entryCommands, hpol', hext] at hsent
    · rw [if_neg (by simp [h]), if_neg (by simp [h]), wp_observer_pure]
      exact ⟨hin, hst, hpol, hprof, sent_nil log⟩
  rw [Effectors.driveRepairs]
  cases hp : Effectors.powerDrift snap c with
  | false => exact hfsm _ (by rw [repairedInputs, if_neg (by simp [hp])]; rfl) rfl rfl rfl
  | true =>
    rw [wp_bind, wp_when]
    refine ⟨fun _ => ?_, fun h => absurd h (by simp)⟩
    rw [wp_modify_bind]
    refine (unlogged (powerPolicyCheck_spec fx _) (by simp) log).bind ?_
    rintro _ _ _ ⟨⟨p, b, rfl⟩, rfl⟩
    refine (batteryLowRequestCheck_log fx a _ _).bind ?_
    rintro _ _ _ ⟨rfl, rfl⟩
    rw [wp_observer_pure]
    exact hfsm _ (by rw [repairedInputs, if_pos hp]; rfl) rfl rfl rfl

/-- What a tick leaves and commands, as a function of the context, the snapshot and the answers. -/
theorem handleReconcileTick_log (snap : ReconcileSnapshot) (c : Context) (log : PanelLog) :
    Wp (tickWorld a) (fun _ _ _ => True)
      (fun _ c' log' => c'.inputs = (repairedInputs fx a snap c).inputs ∧
        c'.state = tickState fx a snap c ∧ c'.edpPolicy = tickPolicy fx a snap c ∧
        Sent (tickCommands fx a snap c) log log')
      (fx.handleReconcileTick snap) c log := by
  rw [Effectors.handleReconcileTick]
  refine (repairContext_log a snap c log).bind ?_
  rintro _ _ _ ⟨⟨t, rfl⟩, rfl, rfl⟩
  refine (driveRepairs_log fx a snap c t _).bind ?_
  rintro _ c₁ log₁ ⟨hin, hst, hpol, hprof, hmove⟩
  have hext : c₁.extMonCount = snap.extMonCount :=
    (congrArg Inputs.extMonCount hin).trans (repairedInputs_fields fx a snap c).1
  rw [wp_get_bind, wp_when, tickPolicy, tickCommands]
  -- A tick that finds the machine suspending ends after the repairs.
  refine ⟨fun hawake => ?_, fun hasleep => ?_⟩
  · have hne : tickState fx a snap c ≠ .suspending := by
      rw [← hst]
      simpa using hawake
    -- The repairs leave the policy, so the ingested profile reads the same.
    have hpolicy : a.policyAfter c₁ = a.policyAfter c := by
      rw [TickReads.policyAfter, TickReads.policyAfter, hpol, hprof]
    refine (ingestActiveProfile_log a c₁ log₁).bind ?_
    rintro _ _ _ ⟨⟨n, r, rfl⟩, rfl⟩
    refine (enforceEdp_log fx a snap _ _ (by exact hext)).bind ?_
    rintro _ _ log₂ ⟨rfl, henforce⟩
    refine (unlogged (dpmsBackstop_spec fx _ snap) (by simp) log₂).mono (fun _ _ _ => id) ?_
    rintro _ _ _ ⟨rfl, rfl⟩
    rw [if_neg hne, if_neg hne, ← hst, tickPolicy, if_neg (hst ▸ hne), ← hpolicy]
    exact ⟨hin, rfl, rfl, hmove.append henforce⟩
  · have heq : tickState fx a snap c = .suspending := by
      rw [← hst]
      simpa using hasleep
    rw [wp_observer_pure, if_pos heq, if_pos heq, List.append_nil]
    exact ⟨hin, hst, hpol, hmove⟩

/-- The same of a whole dispatch. -/
theorem dispatch_reconcileTick_log (snap : ReconcileSnapshot) (c : Context) (log : PanelLog) :
    Wp (tickWorld a) (fun _ _ _ => True)
      (fun _ c' log' => c'.inputs = (repairedInputs fx a snap c).inputs ∧
        c'.state = tickState fx a snap c ∧ c'.edpPolicy = tickPolicy fx a snap c ∧
        Sent (tickCommands fx a snap c) log log')
      (fx.dispatch (.reconcileTick snap)) c log := by
  simp only [Effectors.dispatch, Effectors.dispatchUpdate, bind_assoc]
  refine (handleReconcileTick_log fx a snap c log).bind ?_
  rintro _ c' log' h
  exact wp_observer_pure.mpr h

/-- Every dispatch of a tick has this outcome. -/
theorem tick_spec {snap : ReconcileSnapshot} {c c' : Context} {tr : List DaemonObs}
    (h : Process.Runs (fx.dispatch (.reconcileTick snap)) c tr () c') (ha : a.Of tr) :
    c'.inputs = (repairedInputs fx a snap c).inputs ∧ c'.state = tickState fx a snap c ∧
      c'.edpPolicy = tickPolicy fx a snap c ∧
      Sent (tickCommands fx a snap c) [] (tr.foldl commanded []) :=
  (Program.Runs.of_wp_observer h ha (dispatch_reconcileTick_log fx a snap c [])).2

end

end

end Hyprstate
