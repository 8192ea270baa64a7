import Hyprstate.Daemon.Avoidance
import Hyprstate.Reactive.World

/-!
# The daemon's own suspend request

On a low battery the daemon writes the request file itself, and withdraws its own request when the
reason is gone. The check that does both (`batteryLowRequestCheck_minds`) is run by every arm that
moves the battery or an AC axis, so after each event a request of the daemon's own has its reason,
and a request of anybody else's stays as it was (`ownRequest_kept`).
-/

namespace Hyprstate

open Reactive Process

/-- A piece whose contract has few resources avoids the others. -/
theorem avoids_of_only {α : Type} {x : Daemon α} {rs : List Resource} {r : Resource}
    {Q : Context → α → Context → Prop} (h : ∀ c, Meets x c (only rs) (Q c)) (hr : r ∉ rs) :
    Avoids (fun e => e.resource = r) x :=
  Avoids.of_meets h fun _ _ _ he heq => hr (heq ▸ he)

/-! ## What leaves the request file alone -/

section

variable (fx : Effectors)

/-- No request of the piece is about the request file. -/
abbrev LeavesRequest {α : Type} (x : Daemon α) : Prop :=
  Avoids (fun e => e.resource = .requestFile) x

/-- The entry of a state leaves the request's file. -/
theorem onEnter_leavesRequest (state : State) (fresh : Bool) :
    LeavesRequest (fx.onEnter state fresh) := by
  by_cases hs : state = .suspending
  · subst hs
    exact avoids_of_only (fun c => onEnter_suspending_spec fx c fresh) (by simp [suspendResources])
  · exact Avoids.of_meets (fun c => onEnter_spec fx c state fresh hs) fun _ _ _ he heq =>
      absurd (heq ▸ he.1) (by simp [entryResources])

/-- So does the check of the GPU. -/
theorem gpuCheck_leavesRequest (trigger : String) (chosen : Option MonitorProfile) :
    LeavesRequest (fx.gpuCheck trigger chosen) :=
  avoids_of_only (fun c => gpuCheck_spec fx c trigger chosen) (by simp)

/-- So does the power policy. -/
theorem powerPolicyCheck_leavesRequest : LeavesRequest fx.powerPolicyCheck :=
  avoids_of_only (powerPolicyCheck_spec fx) (by simp)

/-- So does the check of the keys. -/
theorem kbdPolicyCheck_leavesRequest (sample : Bool) : LeavesRequest (fx.kbdPolicyCheck sample) :=
  avoids_of_only (fun c => kbdPolicyCheck_spec fx c sample) (by simp)

/-- So does a request of a pass. -/
theorem requestReconcile_leavesRequest (trigger : ReconcileTrigger) :
    LeavesRequest (Effectors.requestReconcile trigger) :=
  avoids_of_only (fun c => requestReconcile_spec c trigger) (by simp)

/-- So does the profile's debounce. -/
theorem scheduleProfileReconcile_leavesRequest : LeavesRequest Effectors.scheduleProfileReconcile :=
  avoids_of_only scheduleProfileReconcile_spec (by simp)

/-- So does the bar. -/
theorem syncWaybar_leavesRequest : LeavesRequest fx.syncWaybar :=
  avoids_of_only (syncWaybar_spec fx) (by simp)

/-- So does every piece of a turn. -/
theorem piecesAvoid_request : PiecesAvoid fx fun e => e.resource = .requestFile where
  plain e he heq := absurd (heq ▸ he) (by decide)
  enter := onEnter_leavesRequest fx
  kbd := kbdPolicyCheck_leavesRequest fx
  power := powerPolicyCheck_leavesRequest fx
  adopt profile := avoids_of_only (fun c => adoptPowerOverride_spec fx c profile) (by simp)
  waybar := syncWaybar_leavesRequest fx

/-- So does the common tail. -/
theorem dispatchTail_leavesRequest (ev : Event) : LeavesRequest (fx.dispatchTail ev) := by
  rw [Effectors.dispatchTail]
  refine .bind (.when _ (avoids_of_only brightnessRearm_spec (by simp))) fun _ => ?_
  refine .bind (.when _ (.bind (avoids_of_only currentMatch_spec (by simp)) fun chosen =>
    gpuCheck_leavesRequest fx _ chosen)) fun _ => ?_
  refine .bind (.when _ (powerPolicyCheck_leavesRequest fx)) fun _ => ?_
  exact (piecesAvoid_request fx).evaluateFsms _

/-- So does the arm of the monitors. -/
theorem handleMonitorsChanged_leavesRequest : LeavesRequest fx.handleMonitorsChanged :=
  handleMonitorsChanged_leaves fx (avoids_of_only currentMatch_spec (by simp)) (fun _ => rfl)
    (fun p => avoids_of_only (fun c => applyProfile_spec fx c p) (by simp))
    (fun pref => avoids_of_only (fun c => writeGpuBreadcrumb_spec fx c pref) (by simp))
    (gpuCheck_leavesRequest fx _) (powerPolicyCheck_leavesRequest fx) (sendCmd_avoids fx (by simp))

/-- The events whose arms run the battery-low check, or clear the request. -/
def mindsRequest : Event → Bool
  | .acChanged _ | .powerAcSettled | .batteryPercent _ | .reconcileTick _ | .resumed => true
  | _ => false

/-- So does an arm that does not mind the request. -/
theorem dispatchUpdate_leavesRequest (ev : Event) (hev : mindsRequest ev = false) :
    LeavesRequest (fx.dispatchUpdate ev) := by
  refine (piecesAvoid_request fx).dispatchUpdate ev
    (fun _ => handleMonitorsChanged_leavesRequest fx) ?_ ?_ ?_
  · rintro snap rfl
    cases hev
  · intro hbattery
    cases ev with
    | acChanged _ | powerAcSettled | batteryPercent _ => cases hev
    | _ => cases hbattery
  · rintro rfl
    cases hev

/-- Off the arms that mind the request, an event moves neither the battery nor the AC axis. -/
theorem Dispatched.reason {c c' : Context} {ev : Event} (h : Dispatched c ev c')
    (hev : mindsRequest ev = false) : c'.lowBattery = c.lowBattery ∧ c'.onAc = c.onAc := by
  obtain ⟨falls, c₁, harm, hin, -⟩ := h
  have hlow : c'.lowBattery = c₁.lowBattery := congrArg Inputs.lowBattery hin
  have hac : c'.onAc = c₁.onAc := congrArg Inputs.onAc hin
  have harm' : c₁.lowBattery = c.lowBattery ∧ c₁.onAc = c.onAc := by
    have hof : ∀ {i : Inputs}, c₁.inputs = i → i.lowBattery = c.lowBattery → i.onAc = c.onAc →
        c₁.lowBattery = c.lowBattery ∧ c₁.onAc = c.onAc := fun h hl ha =>
      ⟨(congrArg Inputs.lowBattery h).trans hl, (congrArg Inputs.onAc h).trans ha⟩
    cases ev with
    | acChanged _ | powerAcSettled | batteryPercent _ | reconcileTick _ | resumed =>
      exact absurd hev (by simp [mindsRequest])
    | lid closed =>
      obtain ⟨-, -, hif⟩ := harm
      split at hif
      · obtain ⟨w, h⟩ := hif
        exact hof h rfl rfl
      · exact hof hif rfl rfl
    | monitorHotplug _ _ =>
      obtain ⟨-, -, n, h⟩ := harm
      exact hof h rfl rfl
    | inhibitor wayland _ => cases wayland <;> exact hof harm.2.2 rfl rfl
    | lockChanged _ | powerdAppeared => exact hof harm.2.2 rfl rfl
    | suspendRequestChanged _ | timerExpired =>
      obtain ⟨-, -, w, h⟩ := harm
      exact hof h rfl rfl
    | _ => exact hof harm.2.1 rfl rfl
  exact ⟨hlow.trans harm'.1, hac.trans harm'.2⟩

end

/-! ## The file -/

/-- The body of the request file; `none` where there is no file. -/
abbrev RequestBody := Option String

namespace RequestBody

/-- The file while nobody else writes it, where every operation succeeds. -/
def world : World (Context × Eff) (stamped Eff.Ans) RequestBody where
  drift _ _ := False
  answer
    | (_, .suspendRequestExists), file, standing, file' => standing = file.isSome ∧ file' = file
    | (_, .suspendRequestRead), file, body, file' => body = file ∧ file' = file
    | (_, .suspendRequestWrite body), _, ok, file' => ok = true ∧ file' = some body
    | (_, .suspendRequestRemove), file, ok, file' => ok = file.isSome ∧ file' = none
    | _, file, _, file' => file' = file

/-- Nobody else moves the file during a turn. -/
theorem still (file file' : RequestBody) : ¬world.drift file file' := id

/-- A request of the daemon's own has its reason. In shadow mode there is none. -/
def Reasoned (fx : Effectors) (c : Context) (file : RequestBody) : Prop :=
  ∀ body, file = some body → Effectors.isBatteryLowBody body = true →
    fx.shadow = false ∧ c.lowBattery = true ∧ c.onAc = false

/-- A request of somebody else stays as it was. -/
def Spares (file file' : RequestBody) : Prop :=
  ∀ body, file = some body → Effectors.isBatteryLowBody body = false → file' = some body

/-- A file that stays is spared. -/
theorem spares_refl (file : RequestBody) : Spares file file := fun _ h _ => h

/-- So is one that is not there. -/
@[simp] theorem spares_none (file : RequestBody) : Spares none file := by simp [Spares]

variable (fx : Effectors) {c c' : Context} {file : RequestBody}

/-- Without a file there is nothing to reason. -/
theorem reasoned_none (c : Context) : Reasoned fx c none := by simp [Reasoned]

/-- The reason is on the battery and the AC axis. -/
theorem Reasoned.same (h : Reasoned fx c file) (hlow : c'.lowBattery = c.lowBattery)
    (hac : c'.onAc = c.onAc) : Reasoned fx c' file := fun body hbody hown => by
  rw [hlow, hac]
  exact h body hbody hown

/-- A piece that leaves the request file alone. -/
theorem untouched {α : Type} {x : Daemon α} {G : Context → Eff → Prop} {Q : α → Context → Prop}
    (hx : Meets x c G Q) (hleaves : LeavesRequest x) :
    Wp world (fun _ _ _ => True) (fun a c' file' => Q a c' ∧ file' = file) x c file := by
  refine (wp_of_meets (J := fun file' => file' = file) (hx.and (hleaves c)) rfl
    (fun _ _ hdrift => absurd hdrift (still _ _)) ?_).mono (fun _ _ _ _ => trivial)
    fun _ _ _ h => ⟨h.1.1, h.2⟩
  rintro c' e w b w' ⟨-, he⟩ hanswer rfl
  cases e with
  | suspendRequestWrite _ | suspendRequestRemove => exact absurd rfl he
  | suspendRequestExists | suspendRequestRead => exact hanswer.2
  | _ => exact hanswer

/-- A program that ends here. -/
theorem stays {α : Type} {a : α} {Q : α → Context → RequestBody → Prop} (h : Q a c file) :
    Wp world (fun _ _ _ => True) Q (pure a) c file :=
  (wp_still_pure still).mpr h

/-- A program that asks first. -/
theorem asks {α : Type} {e : Eff} {f : e.Ans → Daemon α} {Q : α → Context → RequestBody → Prop}
    (h : ∀ b file', world.answer (c, e) file b file' →
      Wp world (fun _ _ _ => True) Q (f b) c file') :
    Wp world (fun _ _ _ => True) Q (request e >>= f) c file :=
  (wp_still_ask_bind still).mpr ⟨trivial, h⟩

/-- What the action says of its inputs. -/
theorem batteryLowAction_cases (low ac settled standing : Bool) :
    match batteryLowAction low ac settled standing with
    | .request => low = true ∧ ac = false ∧ standing = false
    | .withdraw => standing = true
    | .hold => standing = true → low = true ∧ ac = false := by
  cases low <;> cases ac <;> cases settled <;> cases standing <;> simp [batteryLowAction]

/-- The check, where the daemon knows whether the file stands, leaves no request of its own without
a reason, and touches no other. -/
theorem batteryLowRequestCheck_minds (hagree : c.suspendRequested = file.isSome)
    (hshadow : fx.shadow = true → ∀ body, file = some body →
      Effectors.isBatteryLowBody body = false) :
    Wp world (fun _ _ _ => True)
      (fun _ c' file' => (∃ r, c' = { c with suspendRequested := r }) ∧ Reasoned fx c' file' ∧
        Spares file file')
      fx.batteryLowRequestCheck c file := by
  have hcases := batteryLowAction_cases c.lowBattery c.onAc c.onAcSettled c.suspendRequested
  -- Where the file stays, it is not the daemon's, or has its reason.
  have hkeep : ∀ r, (∀ body, file = some body → Effectors.isBatteryLowBody body = true →
      fx.shadow = false ∧ c.lowBattery = true ∧ c.onAc = false) →
      (∃ r', { c with suspendRequested := r } = { c with suspendRequested := r' }) ∧
        Reasoned fx { c with suspendRequested := r } file ∧ Spares file file :=
    fun r h => ⟨⟨r, rfl⟩, h, spares_refl file⟩
  rw [Effectors.batteryLowRequestCheck, wp_get_bind]
  generalize batteryLowAction c.lowBattery c.onAc c.onAcSettled c.suspendRequested = action
    at hcases
  cases action with
  | request =>
    obtain ⟨hlow, hac, hstanding⟩ := hcases
    have hnone : file = none := by simpa [hstanding] using hagree.symm
    subst hnone
    by_cases hs : fx.shadow = true
    · rw [Effectors.requestSuspend, if_pos hs, pure_bind]
      exact stays (hkeep c.suspendRequested (by simp))
    · rw [Effectors.requestSuspend, if_neg hs]
      refine asks ?_
      rintro _ _ ⟨rfl, rfl⟩
      have hreason : Reasoned fx { c with suspendRequested := true } (some "battery-low\n") :=
        fun _ _ _ => ⟨by simpa using hs, hlow, hac⟩
      intro file' hdrift
      obtain rfl := (World.drifts_iff_of_still still).mp hdrift
      exact ⟨⟨true, rfl⟩, hreason, spares_none _⟩
  | withdraw =>
    by_cases hs : fx.shadow = true
    · rw [Effectors.clearBatteryLowRequest, if_pos hs, pure_bind]
      refine stays (hkeep c.suspendRequested fun body hbody hown => ?_)
      exact absurd hown (by simp [hshadow hs body hbody])
    · rw [Effectors.clearBatteryLowRequest, if_neg hs, bind_assoc]
      refine asks ?_
      rintro _ file ⟨rfl, rfl⟩
      by_cases hown : (file.map Effectors.isBatteryLowBody).getD false = true
      · -- The daemon's own request is removed.
        rw [if_pos hown]
        refine asks ?_
        rintro _ _ ⟨rfl, rfl⟩
        have hspares : Spares file none := by
          intro body hbody hforeign
          subst hbody
          exact absurd hown (by simp [hforeign])
        cases file with
        | none => exact absurd hown (by simp)
        | some body =>
          intro file' hdrift
          obtain rfl := (World.drifts_iff_of_still still).mp hdrift
          exact ⟨⟨false, rfl⟩, reasoned_none fx _, hspares⟩
      · rw [if_neg hown, pure_bind]
        refine stays (hkeep c.suspendRequested fun body hbody h => ?_)
        subst hbody
        exact absurd h hown
  | hold =>
    refine stays (hkeep c.suspendRequested fun body hbody hown => ?_)
    obtain ⟨hlow, hac⟩ := hcases (by rw [hagree, hbody]; rfl)
    refine ⟨?_, hlow, hac⟩
    by_contra hs
    exact absurd hown (by simp [hshadow (by simpa using hs) body hbody])

/-! ## The arms -/

/-- In shadow mode no request is the daemon's own. -/
theorem Reasoned.shadow (h : Reasoned fx c file) (hs : fx.shadow = true) (body : String)
    (hbody : file = some body) : Effectors.isBatteryLowBody body = false := by
  by_contra hown
  obtain ⟨hs', -⟩ := h body hbody (by simpa using hown)
  exact absurd (hs.symm.trans hs') (by simp)

/-- The check after the context was moved, and what follows it in an arm. -/
theorem checked_minds {α : Type} {k : Bool → Daemon α} (h : Reasoned fx c file)
    (hagree : c'.suspendRequested = file.isSome)
    (hk : ∀ changed r file', Reasoned fx { c' with suspendRequested := r } file' →
      Wp world (fun _ _ _ => True) (fun _ c'' file'' => Reasoned fx c'' file'' ∧ file'' = file')
        (k changed) { c' with suspendRequested := r } file') :
    Wp world (fun _ _ _ => True) (fun _ c'' file'' => Reasoned fx c'' file'' ∧ Spares file file'')
      (fx.batteryLowRequestCheck >>= k) c' file := by
  refine (batteryLowRequestCheck_minds fx hagree (h.shadow fx)).bind ?_
  rintro changed _ file₁ ⟨⟨r, rfl⟩, hreason, hspares⟩
  refine (hk changed r file₁ hreason).mono (fun _ _ _ => id) ?_
  rintro _ c'' file'' ⟨hreason', rfl⟩
  exact ⟨hreason', hspares⟩

/-- What leaves the request file alone, and keeps the battery and the AC axis, keeps the reason. -/
theorem Reasoned.kept {α : Type} {x : Daemon α} {G : Context → Eff → Prop}
    {Q : α → Context → Prop} (h : Reasoned fx c file) (hx : Meets x c G Q)
    (hleaves : LeavesRequest x)
    (hQ : ∀ a c', Q a c' → c'.lowBattery = c.lowBattery ∧ c'.onAc = c.onAc) :
    Wp world (fun _ _ _ => True) (fun _ c' file' => Reasoned fx c' file' ∧ file' = file)
      x c file := by
  refine (untouched hx hleaves).mono (fun _ _ _ => id) ?_
  rintro a c' _ ⟨hq, rfl⟩
  obtain ⟨hlow, hac⟩ := hQ a c' hq
  exact ⟨h.same fx hlow hac, rfl⟩

/-- A plug or unplug minds the request. -/
theorem acChanged_minds (onAc : Bool) (h : Reasoned fx c file)
    (hagree : c.suspendRequested = file.isSome) :
    Wp world (fun _ _ _ => True) (fun _ c' file' => Reasoned fx c' file' ∧ Spares file file')
      (fx.dispatchUpdate (.acChanged onAc)) c file := by
  rw [Effectors.dispatchUpdate, wp_get_bind, wp_ite]
  refine ⟨fun _ => stays ⟨h, spares_refl file⟩, fun _ => ?_⟩
  rw [wp_modify_bind]
  refine checked_minds fx h hagree fun changed r file' hreason => ?_
  have hrest : Meets (do
      Effectors.schedulePowerSettle
      Effectors.requestReconcile .acChanged
      pure true) { c with onAc := onAc, suspendRequested := r } (only [.query, .abort, .timer])
      fun _ c' => ∃ t, c' =
        { c with onAc := onAc, suspendRequested := r, powerDebounce := t } := by
    refine (weaken (schedulePowerSettle_spec _) (by simp)).bind ?_
    rintro _ _ ⟨t, rfl⟩
    exact ⟨by simp [only], fun _ => ⟨t, rfl⟩⟩
  refine hreason.kept fx hrest ?_ ?_
  · exact .bind (avoids_of_only schedulePowerSettle_spec (by simp)) fun _ =>
      .bind (requestReconcile_leavesRequest _) fun _ => .pure _
  · rintro _ _ ⟨t, rfl⟩
    exact ⟨rfl, rfl⟩

/-- So does the supply that settled. -/
theorem powerAcSettled_minds (h : Reasoned fx c file) (hagree : c.suspendRequested = file.isSome) :
    Wp world (fun _ _ _ => True) (fun _ c' file' => Reasoned fx c' file' ∧ Spares file file')
      (fx.dispatchUpdate .powerAcSettled) c file := by
  rw [Effectors.dispatchUpdate, wp_modify_bind]
  exact checked_minds fx h hagree fun changed r file' hreason => stays ⟨hreason, rfl⟩

/-- So does a percentage. -/
theorem batteryPercent_minds (pct : Rat) (h : Reasoned fx c file)
    (hagree : c.suspendRequested = file.isSome) :
    Wp world (fun _ _ _ => True) (fun _ c' file' => Reasoned fx c' file' ∧ Spares file file')
      (fx.dispatchUpdate (.batteryPercent pct)) c file := by
  rw [Effectors.dispatchUpdate, wp_get_bind, wp_set_bind]
  refine checked_minds fx h hagree fun changed r file' hreason => ?_
  have hrest : ∀ (p q : Bool) (c₁ : Context), Meets (do
      when p (Effectors.requestReconcile .batteryLowChanged)
      pure q : Daemon Bool) c₁ (fun _ _ => True)
      fun _ c' => c'.lowBattery = c₁.lowBattery ∧ c'.onAc = c₁.onAc := by
    intro p q c₁
    rw [meets_bind, meets_when]
    exact ⟨fun _ => ⟨trivial, fun _ => ⟨rfl, rfl⟩⟩, fun _ => ⟨rfl, rfl⟩⟩
  refine hreason.kept fx (hrest _ _ _) ?_ fun _ _ => id
  exact .bind (.when _ (requestReconcile_leavesRequest _)) fun _ => .pure _

/-- The repair reads whether the file stands. -/
theorem repairContext_agrees (snap : ReconcileSnapshot) :
    Wp world (fun _ _ _ => True)
      (fun drift c' file' =>
        ((∃ t, c' = { repaired snap file.isSome c with profileDebounce := t }) ∧
          drift = (Effectors.fsmDrift snap c file.isSome, Effectors.powerDrift snap c)) ∧
          file' = file)
      (Effectors.repairContext snap) c file := by
  rw [Effectors.repairContext, wp_get_bind, wp_modify_bind]
  refine asks ?_
  rintro _ file ⟨rfl, rfl⟩
  refine untouched (repairFound_spec c snap file.isSome) ?_
  refine .modify_bind (fun _ => rfl)
    (.bind (.when _ scheduleProfileReconcile_leavesRequest) fun _ => ?_)
  refine .modify_bind (fun _ => rfl) (.bind (.when _ (.ask (by simp))) fun _ => ?_)
  exact .modify_bind (fun _ => rfl) (.pure _)

/-- The repair of the power policy's inputs runs the check. -/
theorem driveRepairs_minds (fsm power : Bool)
    (hshadow : fx.shadow = true → ∀ body, file = some body →
      Effectors.isBatteryLowBody body = false)
    (hagree : c.suspendRequested = file.isSome) (h : power = false → Reasoned fx c file) :
    Wp world (fun _ _ _ => True) (fun _ c' file' => Reasoned fx c' file' ∧ Spares file file')
      (fx.driveRepairs fsm power) c file := by
  have hfsm : ∀ (c₁ : Context) (file₁ : RequestBody), Reasoned fx c₁ file₁ → Spares file file₁ →
      Wp world (fun _ _ _ => True) (fun _ c' file' => Reasoned fx c' file' ∧ Spares file file')
        (when fsm (fx.evaluateFsms .ctxRepaired)) c₁ file₁ := by
    intro c₁ file₁ h₁ hspares
    rw [wp_when]
    refine ⟨fun _ => ?_, fun _ => stays ⟨h₁, hspares⟩⟩
    refine (h₁.kept fx (evaluateFsms_spec fx c₁ _ (by simp))
      ((piecesAvoid_request fx).evaluateFsms _) ?_).mono
      (fun _ _ _ => id) ?_
    · rintro _ _ ⟨t, w, rfl⟩
      exact ⟨rfl, rfl⟩
    · rintro _ c' _ ⟨h', rfl⟩
      exact ⟨h', hspares⟩
  rw [Effectors.driveRepairs, wp_bind, wp_when]
  refine ⟨fun _ => ?_, fun hp => stays (hfsm c file (h hp) (spares_refl file))⟩
  rw [wp_modify_bind]
  refine (untouched (powerPolicyCheck_spec fx _) (powerPolicyCheck_leavesRequest fx)).bind ?_
  rintro _ _ file ⟨⟨p, b, rfl⟩, rfl⟩
  refine (batteryLowRequestCheck_minds fx (by exact hagree) hshadow).bind ?_
  rintro changed _ file₁ ⟨⟨r, rfl⟩, hreason, hspares⟩
  exact stays (hfsm _ file₁ hreason hspares)

/-- So does a tick. -/
theorem reconcileTick_minds (snap : ReconcileSnapshot) (h : Reasoned fx c file) :
    Wp world (fun _ _ _ => True) (fun _ c' file' => Reasoned fx c' file' ∧ Spares file file')
      (fx.dispatchUpdate (.reconcileTick snap)) c file := by
  rw [Effectors.dispatchUpdate, Effectors.handleReconcileTick, bind_assoc]
  refine (repairContext_agrees snap).bind ?_
  rintro _ _ file ⟨⟨⟨t, rfl⟩, rfl⟩, rfl⟩
  rw [bind_assoc]
  refine (driveRepairs_minds fx _ _ (h.shadow fx) rfl ?_).bind ?_
  · intro hp
    -- The AC axis agreed.
    have hac : snap.onAc.getD c.onAc = c.onAc := by
      have hp' : Effectors.powerDrift snap c = false := hp
      simpa [Effectors.powerDrift] using (Bool.or_eq_false_iff.mp hp').2
    exact h.same fx rfl hac
  · rintro _ c₁ file₁ ⟨h₁, hspares⟩
    have hrest : Meets (do
        let c ← get
        when (decide (c.state ≠ .suspending)) do
          let _ ← Effectors.ingestActiveProfile
          fx.enforceEdp snap
          fx.dpmsBackstop snap
        pure false) c₁ (fun _ _ => True)
        fun _ c' => c'.lowBattery = c₁.lowBattery ∧ c'.onAc = c₁.onAc := by
      rw [meets_bind, meets_get, meets_bind, meets_when]
      refine ⟨fun _ => ?_, fun _ => ⟨rfl, rfl⟩⟩
      refine Meets.bind ((ingestActiveProfile_spec c₁).mono (fun _ _ _ => trivial) fun _ _ => id) ?_
      rintro _ _ ⟨n, r, e, rfl⟩
      refine Meets.bind ((enforceEdp_spec fx _ snap).mono (fun _ _ _ => trivial) fun _ _ => id) ?_
      rintro _ _ rfl
      refine (dpmsBackstop_spec fx _ snap).mono (fun _ _ _ => trivial) ?_
      rintro _ _ rfl
      exact ⟨rfl, rfl⟩
    refine (h₁.kept fx hrest ?_ fun _ _ => id).mono (fun _ _ _ => id) ?_
    · refine .get_bind fun c => .bind (.when _ ?_) fun _ => .pure _
      refine .bind (avoids_of_only ingestActiveProfile_spec (by simp)) fun _ => ?_
      refine .bind (Avoids.of_meets (fun c => enforceEdp_spec fx c snap) fun _ _ _ he heq => ?_)
        fun _ =>
        avoids_of_only (fun c => dpmsBackstop_spec fx c snap) (by simp)
      exact absurd (heq ▸ he.1) (by simp)
    · rintro _ c' _ ⟨h', rfl⟩
      exact ⟨h', hspares⟩

/-- A resume clears the request, whoever wrote it. -/
theorem resumed_reasoned (h : Reasoned fx c file) :
    Wp world (fun _ _ _ => True) (fun _ c' file' => Reasoned fx c' file')
      (fx.dispatchUpdate .resumed) c file := by
  -- After the request is cleared nothing moves the battery or the AC state.
  have hrest : ∀ c₁ : Context, Meets (do
      Effectors.requestReconcile .resumed
      modify fun c => { c with kbd := { c.kbd with kbdSleeping := false } }
      fx.kbdPolicyCheck false
      pure true) c₁ (fun _ _ => True)
      fun _ c' => c'.lowBattery = c₁.lowBattery ∧ c'.onAc = c₁.onAc := by
    intro c₁
    refine Meets.bind ((requestReconcile_spec c₁ .resumed).mono (fun _ _ _ => trivial)
      fun _ _ => id) ?_
    rintro _ _ rfl
    rw [meets_bind, meets_modify]
    refine Meets.bind ((kbdPolicyCheck_spec fx _ false).mono (fun _ _ _ => trivial)
      fun _ _ => id) ?_
    rintro _ _ ⟨k, rfl⟩
    exact ⟨rfl, rfl⟩
  have hleaves : LeavesRequest (do
      Effectors.requestReconcile .resumed
      modify fun c => { c with kbd := { c.kbd with kbdSleeping := false } }
      fx.kbdPolicyCheck false
      pure true) :=
    .bind (requestReconcile_leavesRequest _) fun _ => .modify_bind (fun _ => rfl)
      (.bind (kbdPolicyCheck_leavesRequest fx _) fun _ => .pure _)
  rw [Effectors.dispatchUpdate, wp_modify_bind, Effectors.clearSuspendRequest, wp_bind, wp_when]
  refine ⟨fun _ => asks ?_, fun _ => stays ?_⟩
  · rintro _ _ ⟨-, rfl⟩
    exact stays (((reasoned_none fx _).kept fx (hrest _) hleaves fun _ _ => id).mono
      (fun _ _ _ => id) fun _ _ _ h => h.1)
  · have hsame : Reasoned fx { c with suspendRequested := false } file := h
    exact (hsame.kept fx (hrest _) hleaves fun _ _ => id).mono (fun _ _ _ => id) fun _ _ _ h => h.1

/-! ## Turns and runs -/

/-- A turn leaves no request of the daemon's own without a reason, and only a resume touches
another. -/
theorem handle_reasoned (ev : Event) (h : Reasoned fx c file)
    (hagree : c.suspendRequested = file.isSome) :
    Wp world (fun _ _ _ => True)
      (fun _ c' file' => Reasoned fx c' file' ∧ (ev ≠ .resumed → Spares file file'))
      (fx.handle ev) c file := by
  -- An arm that does not look at the request leaves its file and its reason.
  by_cases hminds : mindsRequest ev = false
  · have hleaves : LeavesRequest (fx.handle ev) :=
      .bind (.bind (dispatchUpdate_leavesRequest fx ev hminds) fun falls =>
        .when _ (dispatchTail_leavesRequest fx ev)) fun _ => syncWaybar_leavesRequest fx
    refine (h.kept fx (handle_spec fx c ev) hleaves fun _ _ hd => hd.reason hminds).mono
      (fun _ _ _ => id) ?_
    rintro _ c' _ ⟨h', rfl⟩
    exact ⟨h', fun _ => spares_refl _⟩
  have hev : ev ≠ .timerExpired := by
    rintro rfl
    exact hminds rfl
  -- After an arm the rest of the turn leaves the file.
  have htail : ∀ (falls : Bool) (c₁ : Context) (file₁ : RequestBody), Reasoned fx c₁ file₁ →
      Wp world (fun _ _ _ => True) (fun _ c' file' => Reasoned fx c' file' ∧ file' = file₁)
        (do when falls (fx.dispatchTail ev); fx.syncWaybar) c₁ file₁ := by
    intro falls c₁ file₁ h₁
    have hmeets : Meets (do when falls (fx.dispatchTail ev); fx.syncWaybar) c₁ (fun _ _ => True)
        fun _ c' => c'.lowBattery = c₁.lowBattery ∧ c'.onAc = c₁.onAc := by
      have hbar : ∀ c₂ : Context, c₂.lowBattery = c₁.lowBattery ∧ c₂.onAc = c₁.onAc →
          Meets fx.syncWaybar c₂ (fun _ _ => True)
            fun _ c' => c'.lowBattery = c₁.lowBattery ∧ c'.onAc = c₁.onAc := by
        intro c₂ h₂
        refine (syncWaybar_spec fx c₂).mono (fun _ _ _ => trivial) ?_
        rintro _ _ ⟨v, rfl⟩
        exact h₂
      rw [meets_bind, meets_when]
      refine ⟨fun _ => ?_, fun _ => hbar c₁ ⟨rfl, rfl⟩⟩
      refine (dispatchTail_spec fx c₁ ev hev).mono (fun _ _ _ => trivial) ?_
      rintro _ c₂ ⟨hin, -⟩
      exact hbar c₂ ⟨congrArg Inputs.lowBattery hin, congrArg Inputs.onAc hin⟩
    exact h₁.kept fx hmeets (.bind (.when _ (dispatchTail_leavesRequest fx ev)) fun _ =>
      syncWaybar_leavesRequest fx) fun _ _ => id
  rw [Effectors.handle, Effectors.dispatch, bind_assoc]
  by_cases hres : ev = .resumed
  · subst hres
    refine (resumed_reasoned fx h).bind ?_
    rintro falls c₁ file₁ h₁
    exact (htail falls c₁ file₁ h₁).mono (fun _ _ _ => id) fun _ _ _ h' =>
      ⟨h'.1, fun hne => absurd rfl hne⟩
  -- The four arms that do look at it.
  have harm : Wp world (fun _ _ _ => True) (fun _ c' file' => Reasoned fx c' file' ∧
      Spares file file')
      (fx.dispatchUpdate ev) c file := by
    cases ev with
    | acChanged onAc => exact acChanged_minds fx onAc h hagree
    | powerAcSettled => exact powerAcSettled_minds fx h hagree
    | batteryPercent pct => exact batteryPercent_minds fx pct h hagree
    | reconcileTick snap => exact reconcileTick_minds fx snap h
    | resumed => exact absurd rfl hres
    | _ => exact absurd rfl hminds
  refine harm.bind ?_
  rintro falls c₁ file₁ ⟨h₁, hspares⟩
  refine (htail falls c₁ file₁ h₁).mono (fun _ _ _ => id) ?_
  rintro _ c' _ ⟨h', rfl⟩
  exact ⟨h', fun _ => hspares⟩

/-! ## The start -/

/-- The setup removes the file, and the check after it knows that there is none. -/
theorem seedContext_reasoned (conf : PowerConf) (hs : c.suspendRequested = false) :
    Wp world (fun _ _ _ => True) (fun _ c' file' => Reasoned fx c' file')
      (fx.seedContext conf) c none := by
  rw [Effectors.seedContext]
  refine (untouched (seedPower_spec c) (avoids_of_only seedPower_spec (by simp))).bind ?_
  rintro _ _ file ⟨⟨ac, acs, pct, low, rfl⟩, hfile⟩
  refine (untouched (discoverBacklight_spec _)
    (avoids_of_only discoverBacklight_spec (by simp))).bind ?_
  rintro _ _ _ ⟨⟨b, rfl⟩, rfl⟩
  refine (untouched (seedKbd_spec _ conf)
    (avoids_of_only (fun c => seedKbd_spec c conf) (by simp))).bind ?_
  rintro _ _ _ ⟨⟨k, rfl⟩, rfl⟩
  subst hfile
  -- The check of the battery is the one that may write the file; the seeds after it keep its
  -- reason.
  refine (batteryLowRequestCheck_minds fx (by exact hs) fun _ _ h => absurd h (by simp)).bind ?_
  rintro _ _ file ⟨⟨r, rfl⟩, hreason, -⟩
  have hworld : ∀ c : Context, Meets Effectors.seedWorld c (only [.query])
      fun _ c' => c'.lowBattery = c.lowBattery ∧ c'.onAc = c.onAc := by
    intro c
    refine (seedWorld_exact c).imp ?_
    rintro _ _ ⟨closed, logind, wayland, count, rfl, -⟩
    exact ⟨rfl, rfl⟩
  refine (hreason.kept fx (hworld _) (avoids_of_only seedWorld_spec (by simp))
    fun _ _ => id).bind ?_
  rintro _ c₁ file₁ ⟨h₁, -⟩
  have hprofile : Wp world (fun _ _ _ => True) (fun _ c' file' => Reasoned fx c' file' ∧
      file' = file₁)
      Effectors.seedProfile c₁ file₁ := by
    refine h₁.kept fx (seedProfile_spec c₁) (avoids_of_only seedProfile_spec (by simp)) ?_
    rintro _ _ ⟨n, rev, e, rfl⟩
    exact ⟨rfl, rfl⟩
  refine hprofile.bind ?_
  rintro _ c₂ file₂ ⟨h₂, -⟩
  refine asks ?_
  rintro _ file₂ rfl
  refine asks ?_
  rintro word file₂ rfl
  refine asks ?_
  rintro _ file₂ rfl
  have hhint : Meets
      (if fx.session then request .lockedHint else pure none : Daemon (Option Bool)) c₂
      (only [.query]) fun _ c' => c' = c₂ := by
    rw [meets_ite]
    exact ⟨fun _ => ⟨by simp [only], fun _ => rfl⟩, fun _ => rfl⟩
  refine (untouched hhint (.ite (.ask (by simp)) (.pure _))).bind ?_
  rintro hint _ file₃ ⟨rfl, rfl⟩
  rw [wp_modify_bind]
  intro file₄ hdrift
  obtain rfl := (World.drifts_iff_of_still still).mp hdrift
  refine ⟨trivial, ?_⟩
  rintro _ _ rfl file₅ hdrift
  obtain rfl := (World.drifts_iff_of_still still).mp hdrift
  exact h₂

/-- The setup leaves no request without its reason. -/
theorem setup_reasoned (file : RequestBody) :
    Wp world (fun _ _ _ => True) (fun _ c' file' => Reasoned fx c' file') fx.setup {} file := by
  rw [Effectors.setup, Effectors.loadConf, bind_assoc]
  refine asks ?_
  rintro conf _ rfl
  rw [bind_assoc, wp_modify_bind, wp_pure_bind]
  refine asks ?_
  rintro _ _ ⟨-, rfl⟩
  rw [wp_get_bind]
  have hheld : ∀ c : Context, Meets (if fx.shadow || !c.lidPresent then pure true
      else request .inhibitLidSwitch : Daemon Bool) c (only [.query]) fun _ c' => c' = c := by
    intro c
    rw [meets_ite]
    exact ⟨fun _ => rfl, fun _ => ⟨by simp [only], fun _ => rfl⟩⟩
  refine (untouched (hheld _) (.ite (.pure _) (.ask (by simp)))).bind ?_
  rintro held _ _ ⟨rfl, rfl⟩
  rw [wp_bind, wp_when]
  constructor
  · intro _
    refine (seedContext_reasoned fx conf (by rfl)).mono (fun _ _ _ => id) ?_
    exact fun _ c' file' h => stays h
  · intro _
    exact stays (stays (reasoned_none fx _))

/-- The startup leaves the file. -/
theorem startup_leavesRequest : LeavesRequest fx.startup :=
  (piecesAvoid_request fx).startup fun awake =>
    avoids_of_only (fun c => syncDgpuPin_spec fx c awake) (by simp)

/-! ## Runs -/

/-- What the outside writers leave of the file: it stays, it is removed, or it is a request of their
own. -/
def Outside (file file' : RequestBody) : Prop :=
  file' = file ∨ file' = none ∨ ∃ body, file' = some body ∧ Effectors.isBatteryLowBody body = false

/-- What others do to the file between the turns keeps the reason. -/
theorem Reasoned.outside {file' : RequestBody} (h : Reasoned fx c file)
    (hout : Outside file file') : Reasoned fx c file' := by
  rcases hout with rfl | rfl | ⟨body, rfl, hforeign⟩
  · exact h
  · exact reasoned_none fx c
  · rintro _ ⟨rfl⟩ hown
    exact absurd hown (by simp [hforeign])

/-- The daemon started and took any number of turns, and the outside writers wrote in between. At
the start of each turn the context agrees with the file. -/
inductive Run (fx : Effectors) : Context → RequestBody → Prop
  | start {c c' : Context} {file file₁ file₂ file' : RequestBody} {tr tr' : List DaemonObs} :
      Execs world fx.setup {} file tr true c file₁ → Outside file₁ file₂ →
      Execs world fx.startup c file₂ tr' () c' file' → Run fx c' file'
  | turn {c c' : Context} {file file₁ file' : RequestBody} {ev : Event} {tr : List DaemonObs} :
      Run fx c file → Outside file file₁ → c.suspendRequested = file₁.isSome →
      Execs world (fx.handle ev) c file₁ tr () c' file' → Run fx c' file'

/-- Every run does, by induction over its turns. -/
theorem Run.reasoned (h : Run fx c file) : Reasoned fx c file := by
  induction h with
  | @start c c' file file₁ file₂ file' tr tr' hsetup hout hstart =>
    have h₁ : Reasoned fx c file₁ := hsetup.of_wp (setup_reasoned fx file)
    have hkeep := (h₁.outside fx hout).kept fx (startup_spec fx c) (startup_leavesRequest fx)
      fun _ _ h => ⟨congrArg Inputs.lowBattery h.1, congrArg Inputs.onAc h.1⟩
    exact (hstart.of_wp hkeep).1
  | @turn c c' file file₁ file' ev tr _ hout hagree hturn ih =>
    exact (hturn.of_wp (handle_reasoned fx ev (ih.outside fx hout) hagree)).1

/-- A request of the daemon's own has its reason after every event, and no event but a resume
removes or overwrites another's. -/
theorem ownRequest_kept (h : Run fx c file) :
    (∀ body, file = some body → Effectors.isBatteryLowBody body = true →
      c.lowBattery = true ∧ c.onAc = false) ∧
    ∀ file₁ ev tr c' file', Outside file file₁ → c.suspendRequested = file₁.isSome → ev ≠ .resumed →
      Execs world (fx.handle ev) c file₁ tr () c' file' →
      ∀ body, file₁ = some body → Effectors.isBatteryLowBody body = false → file' = some body := by
  refine ⟨fun body hbody hown => (h.reasoned fx body hbody hown).2, ?_⟩
  intro file₁ ev tr c' file' hout hagree hev hturn
  exact (hturn.of_wp (handle_reasoned fx ev ((h.reasoned fx).outside fx hout) hagree)).2 hev

/-! ## A battery that runs out -/

/-- A machine on battery, at three percent. -/
def draining : (r : Context × Eff) → RequestBody → stamped Eff.Ans r × RequestBody
  | (_, .upower), file => (true, file)
  | (_, .onBattery), file => (some true, file)
  | (_, .batteryInitial), file => (some 3, file)
  | (_, .suspendRequestExists), file => (file.isSome, file)
  | (_, .suspendRequestRead), file => (file, file)
  | (_, .suspendRequestWrite body), _ => (true, some body)
  | (_, .suspendRequestRemove), file => (file.isSome, none)
  | (_, e), file => (e.quiet, file)

/-- The answers of the run are the file's. -/
theorem draining_answer (r : Context × Eff) (file : RequestBody) (_ : True) :
    world.answer r file (draining r file).1 (draining r file).2 ∧ True := by
  refine ⟨?_, trivial⟩
  obtain ⟨c, e⟩ := r
  cases e <;> first | rfl | exact ⟨rfl, rfl⟩

/-- The context and the file after a piece of the dispatcher's code in that world. -/
def after {α : Type} (x : Daemon α) (p : Context × RequestBody) : Context × RequestBody :=
  (((x.run p.1).exec draining p.2).1.2, ((x.run p.1).exec draining p.2).2.1)

/-- The daemon has started, and requested the suspend. -/
def requesting : Context × RequestBody :=
  after (Effectors.startup ⟨false, true⟩) (after (Effectors.setup ⟨false, true⟩) ({}, none))

/-- A run whose battery asks for the suspend. -/
theorem run_requesting : Run ⟨false, true⟩ requesting.1 requesting.2 :=
  .start (execs_exec draining_answer (Effectors.setup ⟨false, true⟩) {} (w := none) trivial)
    (.inl rfl)
    (execs_exec draining_answer (Effectors.startup ⟨false, true⟩)
      (after (Effectors.setup ⟨false, true⟩) ({}, none)).1 trivial)

/-- The daemon's own request stands after the start, and another's stays as the charger is plugged
in. -/
theorem ownRequest_kept_requesting : ∃ c body c', Run ⟨false, true⟩ c (some body) ∧
    Effectors.isBatteryLowBody body = true ∧ (c.lowBattery = true ∧ c.onAc = false) ∧
    ∃ tr file',
      Execs world ((⟨false, true⟩ : Effectors).handle (.acChanged true)) c (some "idle") tr () c'
        file' ∧ file' = some "idle" := by
  have hfile : requesting.2 = some "battery-low\n" := by decide +kernel
  have hrun := run_requesting
  rw [hfile] at hrun
  have hturn := execs_exec draining_answer ((⟨false, true⟩ : Effectors).handle (.acChanged true))
    requesting.1 (w := some "idle") trivial
  obtain ⟨hreason, hspares⟩ := ownRequest_kept ⟨false, true⟩ hrun
  refine ⟨requesting.1, "battery-low\n", _, hrun, by decide, hreason _ rfl (by decide),
    _, _, hturn, ?_⟩
  exact hspares (some "idle") (.acChanged true) _ _ _ (.inr (.inr ⟨"idle", rfl, by decide⟩))
    (by decide +kernel) (by simp) hturn "idle" rfl (by decide)

end RequestBody

end Hyprstate
