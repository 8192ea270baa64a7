import Hyprstate.Daemon.Avoidance
import Hyprstate.Powerd.Client
import Hyprstate.Reactive.Stays

/-!
# Invariants of the subsystems' state

Beside the main machine the context holds what the subsystems keep (`Groups`): the GPU record, the
power policy's, the brightness effects', the keyboard backlight's, the active profile, and the
handles of the tasks. Each is moved by few pieces of the dispatcher. A `GroupInvariant` is kept by
those pieces, by a frame for all the others, and then by every turn (`GroupInvariant.handle`), by
the start, and along a whole run (`Run.observed`).
-/

namespace Hyprstate

open Reactive Process

/-- What the subsystems keep in the context. -/
structure Groups where
  gpu : GpuContext
  power : PowerContext
  brightness : BrightnessContext
  kbd : KbdContext
  currentProfile : Option String
  activeProfileRev : Option MonitorProfile
  edpPolicy : EdpPolicy
  graceTimer : Option Handle
  profileDebounce : Option Handle
  powerDebounce : Option Handle
  claimWatch : Option Handle

/-- The groups of the context. -/
def Context.groups (c : Context) : Groups where
  gpu := c.gpu
  power := c.power
  brightness := c.brightness
  kbd := c.kbd
  currentProfile := c.currentProfile
  activeProfileRev := c.activeProfileRev
  edpPolicy := c.edpPolicy
  graceTimer := c.graceTimer
  profileDebounce := c.profileDebounce
  powerDebounce := c.powerDebounce
  claimWatch := c.claimWatch

/-- A command that is neither the panel's nor an apply. -/
theorem command_spec (fx : Effectors) (c : Context) {cmd : Cmd} (hcmd : cmd.resource = .command) :
    Meets (fx.sendCmd cmd) c (only [.command]) fun _ c' => c' = c := by
  refine (sendCmd_spec fx c cmd).mono ?_ fun _ _ => id
  rintro _ _ ⟨-, rfl, -⟩
  exact List.mem_singleton.mpr hcmd

/-- The expiry of an override makes none of the requests that stand apart. -/
theorem PiecesApart.powerOverrideStep {R : Eff → Prop} (h : PiecesApart R) (fx : Effectors)
    (base : BaseState) : Avoids R (fx.powerOverrideStep base) := by
  rw [Effectors.powerOverrideStep]
  refine .get_bind fun c => ?_
  split
  · exact .pure _
  · exact fun _ => rfl
  · refine .when _ (.bind (h.only (clearPowerOverride_spec fx) (by decide)) fun _ => ?_)
    exact sendCmd_avoids fx (h.routine _ rfl)

/-- What the rest of the dispatcher touches: no light, no task, no call of powerd, no command but
the panel's. -/
def framedResources : List Resource :=
  [.query, .suspend, .lock, .requestFile, .powerOverride, .kbdOverride, .file, .panel, .queue]

section

variable {σ : Type} (fx : Effectors) (ok : DaemonObs → Prop) (upd : σ → DaemonObs → σ)
  (G : Context → Eff → σ → Prop) (I : Context → σ → Prop)

/-- What touches these resources alone, and keeps the view, stays within the invariant. -/
def Frames (rs : List Resource) {V : Type} (v : Context → V) : Prop :=
  ∀ {α : Type} {x : Daemon α} {rs' : List Resource} {Q : Context → α → Context → Prop},
    (∀ c, Meets x c (fun _ e => e.resource ∈ rs') (Q c)) → rs' ⊆ rs →
    (∀ c a c', Q c a c' → v c' = v c) → Stays ok upd G I x

/-! ### The pieces that move the groups -/

/-- The profile's pieces keep the invariant. -/
structure ProfilePieces : Prop where
  /-- What a monitor change begins with: the match, and its profile applied or forgotten. -/
  matched : ∀ f : Option MonitorProfile → Daemon Unit, (∀ chosen, Stays ok upd G I (f chosen)) →
    Stays ok upd G I (Effectors.currentMatch >>= fun chosen => match chosen with
      | none => (modify fun c => { c with activeProfileRev := none }) >>= fun _ => f none
      | some p => fx.applyProfile p >>= fun _ => f (some p))
  ingest : Stays ok upd G I Effectors.ingestActiveProfile

/-- So do those of the power policy. -/
structure PowerPieces : Prop where
  step : ∀ base, Stays ok upd G I (fx.powerOverrideStep base)
  adopt : ∀ profile, Stays ok upd G I (fx.adoptPowerOverride profile)
  lastBase : ∀ c b w, I c w → I { c with power := { c.power with powerLastBase := b } } w
  judged : ∀ c t w, I c w → I { c with power := { c.power with selfWrites := t } } w
  heard : ∀ c o b w, I c w →
    I { c with power := { c.power with powerOverride := o, powerOverrideBase := b } } w

/-- So do those of the panel's brightness. -/
structure BrightnessPieces : Prop where
  edge : ∀ prev base, Stays ok upd G I (fx.brightnessEdge prev base)
  rearm : Stays ok upd G I Effectors.brightnessRearm
  discoverBacklight : Stays ok upd G I Effectors.discoverBacklight

/-- So do those of the keyboard. -/
structure KbdPieces : Prop where
  kbd : ∀ sample, Stays ok upd G I (fx.kbdPolicyCheck sample)
  inputs : ∀ c k w, k.kbdLed = c.kbd.kbdLed → k.kbdApplied = c.kbd.kbdApplied → I c w →
    I { c with kbd := k } w
  release : Stays ok upd G I fx.kbdReleaseOverride
  discoverKbd : Stays ok upd G I Effectors.discoverKbd

/-- The pieces that call powerd. -/
structure CallPieces : Prop where
  apply : ∀ profile, Stays ok upd G I (fx.applyPowerProfile profile)
  pin : ∀ awake, Stays ok upd G I (fx.syncDgpuPin awake)

/-- The pieces that spawn a task. -/
structure TaskPieces : Prop where
  grace : ∀ fresh, Stays ok upd G I (Effectors.startGraceTimer fresh)
  profileDebounce : Stays ok upd G I Effectors.scheduleProfileReconcile
  settle : Stays ok upd G I Effectors.schedulePowerSettle

/-- The pieces that send commands; an entry also arms and cancels. -/
structure CommandPieces : Prop where
  enter : ∀ state fresh, Stays ok upd G I (fx.onEnter state fresh)
  dpmsOn : Stays ok upd G I fx.dpmsOn
  rehome : Stays ok upd G I fx.rehomeEdpWorkspaces
  waybar : Stays ok upd G I fx.syncWaybar

/-- An invariant of the groups and an observer, kept by the pieces that move the groups, and by the
rest. -/
structure GroupInvariant : Prop extends ProfilePieces fx ok upd G I, PowerPieces fx ok upd G I,
    BrightnessPieces fx ok upd G I, KbdPieces fx ok upd G I, CallPieces fx ok upd G I,
    TaskPieces ok upd G I, CommandPieces fx ok upd G I where
  core : ∀ c c' w, c'.groups = c.groups → I c w → I c' w
  frame : Frames ok upd G I framedResources Context.groups
  drift : ∀ trigger mode source, Stays ok upd G I (fx.checkAndNotifyDrift trigger mode source)

end

/-! ### An invariant of a view that leaves a group out -/

section

variable {σ V : Type} {fx : Effectors} {ok : DaemonObs → Prop} {upd : σ → DaemonObs → σ}
  {G : Context → Eff → σ → Prop} {J : V → σ → Prop} {v : Context → V} {rs : List Resource}

/-- The requests outside `R` satisfy the guard and leave the observer's part alone, so that what
keeps the view and makes none of them is framed. -/
theorem framed_of_view {R : Eff → Prop} (hR : ∀ e, R e → e.resource ∉ rs)
    (hG : ∀ c e w, ¬R e → G c e w)
    (hupd : ∀ a c e w b, ¬R e → ok ⟨(c, e), b⟩ → J a w → J a (upd w ⟨(c, e), b⟩)) :
    Frames ok upd G (fun c w => J (v c) w) rs v :=
  fun hx hrs hQ =>
  .of_leaves (.of_meets hx (fun _ _ e he hr => hR e hr (hrs he)) hQ) hG hupd

variable (h : Frames ok upd G (fun c w => J (v c) w) rs v)
include h

/-- They do where the invariant reads a view that they leave. -/
theorem ProfilePieces.of_view (hrs : [.query, .file, .profile, .command] ⊆ rs)
    (hv : ∀ c n r e,
      v { c with currentProfile := n, activeProfileRev := r, edpPolicy := e } = v c) :
    ProfilePieces fx ok upd G fun c w => J (v c) w where
  matched f hf := by
    have hmatch : Stays ok upd G (fun c w => J (v c) w) Effectors.currentMatch :=
      h currentMatch_spec (List.Subset.trans (by decide) hrs) (by rintro c _ _ rfl; rfl)
    have happly : ∀ p, Stays ok upd G (fun c w => J (v c) w) (fx.applyProfile p) := fun p =>
      h (fun c => applyProfile_spec fx c p) hrs (by rintro c _ _ ⟨n, r, e, rfl⟩; exact hv c n r e)
    refine .bind hmatch fun chosen => ?_
    cases chosen with
    | none => exact .modify_bind (fun c w hJ =>
      (hv c c.currentProfile none c.edpPolicy).symm ▸ hJ) (hf none)
    | some p => exact .bind (happly p) fun _ => hf (some p)
  ingest := h ingestActiveProfile_spec (List.Subset.trans (by decide) hrs)
    (by rintro c _ _ ⟨n, r, e, rfl⟩; exact hv c n r e)

/-- The same of the power policy. -/
theorem PowerPieces.of_view (hrs : [.powerOverride, .command] ⊆ rs)
    (hv : ∀ c o b l t, v { c with power := { c.power with
      powerOverride := o, powerOverrideBase := b, powerLastBase := l, selfWrites := t } } = v c) :
    PowerPieces fx ok upd G fun c w => J (v c) w where
  step base := h (fun c => powerOverrideStep_exact fx c base) hrs (by
    rintro c _ _ rfl
    obtain ⟨o, b, hstep⟩ := c.power.overrideStep_eq base
    rw [hstep]
    exact hv c o b _ _)
  adopt profile := h (fun c => adoptPowerOverride_exact fx c profile) hrs
    (by rintro c _ _ rfl; exact hv c _ _ _ _)
  lastBase c b w hJ :=
    (hv c c.power.powerOverride c.power.powerOverrideBase b c.power.selfWrites).symm ▸ hJ
  judged c t w hJ :=
    (hv c c.power.powerOverride c.power.powerOverrideBase c.power.powerLastBase t).symm ▸ hJ
  heard c o b w hJ := (hv c o b c.power.powerLastBase c.power.selfWrites).symm ▸ hJ

/-- The same of the brightness. -/
theorem BrightnessPieces.of_view (hrs : [.query, .light] ⊆ rs)
    (hv : ∀ c b, v { c with brightness := b } = v c) :
    BrightnessPieces fx ok upd G fun c w => J (v c) w where
  edge prev base := h (fun c => brightnessEdge_spec fx c prev base) hrs
    (by rintro c _ _ ⟨b, rfl⟩; exact hv c b)
  rearm := h brightnessRearm_spec (List.Subset.trans (by decide) hrs)
    (by rintro c _ _ ⟨b, rfl⟩; exact hv c b)
  discoverBacklight := h discoverBacklight_spec (List.Subset.trans (by decide) hrs)
    (by rintro c _ _ ⟨b, rfl⟩; exact hv c b)

/-- The same of the keyboard. -/
theorem KbdPieces.of_view (hrs : [.query, .light, .file, .kbdOverride] ⊆ rs)
    (hv : ∀ c k, v { c with kbd := k } = v c) : KbdPieces fx ok upd G fun c w => J (v c) w where
  kbd sample := h (fun c => kbdPolicyCheck_spec fx c sample) (List.Subset.trans (by decide) hrs)
    (by rintro c _ _ ⟨k, rfl⟩; exact hv c k)
  inputs c k w _ _ hJ := (hv c k).symm ▸ hJ
  release := h (kbdReleaseOverride_spec fx) (List.Subset.trans (by decide) hrs)
    (by rintro c _ _ ⟨k, rfl⟩; exact hv c k)
  discoverKbd := h discoverKbd_spec (List.Subset.trans (by decide) hrs)
    (by rintro c _ _ ⟨k, rfl⟩; exact hv c k)

/-- The same of the calls of powerd. -/
theorem CallPieces.of_view (hrs : [.query, .powerd] ⊆ rs)
    (hv : ∀ c p g, v { c with power := p, gpu := g } = v c) :
    CallPieces fx ok upd G fun c w => J (v c) w where
  apply profile := h (fun c => applyPowerProfile_spec fx c profile) hrs
    (by rintro c _ _ ⟨p, rfl⟩; exact hv c p c.gpu)
  pin awake := h (fun c => syncDgpuPin_spec fx c awake) (List.Subset.trans (by decide) hrs)
    (by rintro c _ _ ⟨g, p, rfl⟩; exact hv c p g)

/-- The same of the tasks. -/
theorem TaskPieces.of_view (hrs : [.query, .abort, .timer, .graceTimer] ⊆ rs)
    (hv : ∀ c g p s w, v
      { c with graceTimer := g, profileDebounce := p, powerDebounce := s, claimWatch := w } = v c) :
    TaskPieces ok upd G fun c w => J (v c) w where
  grace fresh := h (fun c => startGraceTimer_spec c fresh) (List.Subset.trans (by decide) hrs)
    (by rintro c _ _ ⟨t, rfl⟩; exact hv c t _ _ _)
  profileDebounce := h scheduleProfileReconcile_spec (List.Subset.trans (by decide) hrs)
    (by rintro c _ _ ⟨t, rfl⟩; exact hv c _ t _ _)
  settle := h schedulePowerSettle_spec (List.Subset.trans (by decide) hrs)
    (by rintro c _ _ ⟨t, rfl⟩; exact hv c _ _ t _)

/-- The machine moves no group but the handles. -/
theorem CommandPieces.of_view (hrs : entryResources ++ suspendResources ⊆ rs)
    (hv : ∀ c g w x, v { c with graceTimer := g, claimWatch := w, waybarView := x } = v c) :
    CommandPieces fx ok upd G fun c w => J (v c) w where
  enter state fresh := by
    by_cases hs : state = .suspending
    · subst hs
      refine h (fun c => onEnter_suspending_spec fx c fresh) (List.Subset.trans (by decide) hrs) ?_
      rintro c _ _ ⟨t, w, rfl⟩
      exact hv c _ _ _
    · refine h (fun c => (onEnter_spec fx c state fresh hs).mono (fun _ _ he => he.1) fun _ _ => id)
        (List.Subset.trans (by decide) hrs) ?_
      rintro c _ _ ⟨-, t, w, rfl⟩
      exact hv c _ _ _
  dpmsOn := h (fun c => command_spec fx c rfl) (List.Subset.trans (by decide) hrs)
    (by rintro c _ _ rfl; rfl)
  rehome := h (fun c => command_spec fx c rfl) (List.Subset.trans (by decide) hrs)
    (by rintro c _ _ rfl; rfl)
  waybar := h (syncWaybar_spec fx) (List.Subset.trans (by decide) hrs)
    (by rintro c _ _ ⟨x, rfl⟩; exact hv c _ _ x)

end

/-! ### A family of commands apart -/

section

variable {σ V : Type} {fx : Effectors} {ok : DaemonObs → Prop} {upd : σ → DaemonObs → σ}
  {G : Context → Eff → σ → Prop} {J : V → σ → Prop} {v : Context → V} {R : Eff → Prop}
  (hapart : PiecesApart R)
  (hstays : ∀ {α : Type} {x : Daemon α}, Leaves R v x → Stays ok upd G (fun c w => J (v c) w) x)
include hapart hstays

/-- Commands that do not stand apart keep an invariant of what does. -/
theorem CommandPieces.of_apart (hdpms : ¬R (.trySend .dpmsOn))
    (hrehome : ¬R (.trySend .rehomeEdpWorkspaces))
    (hv : ∀ c g w x, v { c with graceTimer := g, claimWatch := w, waybarView := x } = v c) :
    CommandPieces fx ok upd G fun c w => J (v c) w where
  enter state fresh := by
    refine hstays ?_
    by_cases hs : state = .suspending
    · subst hs
      refine (hapart.onEnter fx .suspending fresh).leaves
        (fun c => onEnter_suspending_spec fx c fresh) ?_
      rintro c _ _ ⟨t, w, rfl⟩
      exact hv c _ _ _
    · refine (hapart.onEnter fx state fresh).leaves (fun c => onEnter_spec fx c state fresh hs) ?_
      rintro c _ _ ⟨-, t, w, rfl⟩
      exact hv c _ _ _
  dpmsOn := hstays ((sendCmd_avoids fx hdpms).leaves (fun c => sendCmd_spec fx c _)
    (by rintro c _ _ rfl; rfl))
  rehome := hstays ((sendCmd_avoids fx hrehome).leaves (fun c => sendCmd_spec fx c _)
    (by rintro c _ _ rfl; rfl))
  waybar := hstays ((hapart.syncWaybar fx).leaves (syncWaybar_spec fx)
    (by rintro c _ _ ⟨x, rfl⟩; exact hv c _ _ x))

/-- So does a profile. -/
theorem ProfilePieces.of_apart (hlink : ∀ name, ¬R (.repointActive name))
    (happlied : ¬R (.trySend .applyProfile)) (hhook : ∀ hook, ¬R (.trySend (.runHook hook)))
    (hv : ∀ c n r e, v
      { c with currentProfile := n, activeProfileRev := r, edpPolicy := e } = v c) :
    ProfilePieces fx ok upd G fun c w => J (v c) w where
  matched f hf := by
    have hmatch : Stays ok upd G (fun c w => J (v c) w) Effectors.currentMatch :=
      hstays ((hapart.only currentMatch_spec (by decide)).leaves currentMatch_spec
        (by rintro c _ _ rfl; rfl))
    have hlinkRead : ∀ name, ¬R (.activeLinkIs name) :=
      fun name => hapart.plain _ (by simp) (by simp)
    have hhooks : ∀ hooks : List String, Leaves R v
        (hooks.forM fun hook => fx.sendCmd (.runHook hook)) := by
      intro hooks
      induction hooks with
      | nil => exact .pure _
      | cons hook hooks ih =>
        have hsend : Leaves R v (fx.sendCmd (.runHook hook)) :=
          (sendCmd_avoids fx (hhook hook)).leaves (fun c => sendCmd_spec fx c _)
            (by rintro c _ _ rfl; rfl)
        exact .bind hsend fun _ => ih
    -- An apply is the link, the record, the command and the hooks, all of them elsewhere.
    have happly : ∀ p, Leaves R v (fx.applyProfile p) := by
      intro p
      have hsend : Leaves R v (fx.sendCmd .applyProfile) :=
        (sendCmd_avoids fx happlied).leaves (fun c => sendCmd_spec fx c _)
          (by rintro c _ _ rfl; rfl)
      rw [Effectors.applyProfile]
      refine .bind (.ask (hlinkRead _)) fun linked => .get_bind fun c => .when _ ?_
      refine .bind (.ite (.pure _) (.ask (hlink _))) fun repointed => .when _ ?_
      exact .modify_bind (fun c => hv c _ _ _) (.when _ (.bind hsend fun _ => hhooks _))
    refine .bind hmatch fun chosen => ?_
    cases chosen with
    | none => exact .modify_bind (fun c w hJ =>
      (hv c c.currentProfile none c.edpPolicy).symm ▸ hJ) (hf none)
    | some p => exact .bind (hstays (happly p)) fun _ => hf (some p)
  ingest :=
    hstays ((hapart.only ingestActiveProfile_spec (by decide)).leaves ingestActiveProfile_spec
    (by rintro c _ _ ⟨n, r, e, rfl⟩; exact hv c n r e))

/-- So does the power policy. -/
theorem PowerPieces.of_apart
    (hv : ∀ c o b l t, v { c with power := { c.power with
      powerOverride := o, powerOverrideBase := b, powerLastBase := l, selfWrites := t } } = v c) :
    PowerPieces fx ok upd G fun c w => J (v c) w where
  step base := by
    refine hstays
      ((hapart.powerOverrideStep fx base).leaves (fun c => powerOverrideStep_exact fx c base) ?_)
    rintro c _ _ rfl
    obtain ⟨o, b, hstep⟩ := c.power.overrideStep_eq base
    rw [hstep]
    exact hv c o b _ _
  adopt profile := hstays ((hapart.adoptPowerOverride fx profile).leaves
    (fun c => adoptPowerOverride_exact fx c profile) (by rintro c _ _ rfl; exact hv c _ _ _ _))
  lastBase c b w hJ :=
    (hv c c.power.powerOverride c.power.powerOverrideBase b c.power.selfWrites).symm ▸ hJ
  judged c t w hJ :=
    (hv c c.power.powerOverride c.power.powerOverrideBase c.power.powerLastBase t).symm ▸ hJ
  heard c o b w hJ := (hv c o b c.power.powerLastBase c.power.selfWrites).symm ▸ hJ

end

section

variable {σ : Type} {fx : Effectors} {ok : DaemonObs → Prop} {upd : σ → DaemonObs → σ}
  {G : Context → Eff → σ → Prop} {I : Context → σ → Prop}

namespace GroupInvariant

variable (h : GroupInvariant fx ok upd G I)
include h

/-- A request of a framed resource keeps the invariant. -/
theorem ask {e : Eff} {r : Resource} (he : e.resource = r) (hr : r ∈ framedResources) :
    Stays ok upd G I (request e : Daemon e.Ans) := by
  refine h.frame (Q := fun c _ c' => c' = c)
    (fun c => ⟨List.mem_singleton.mpr he, fun _ => rfl⟩) ?_ ?_
  · simpa using hr
  · rintro c _ _ rfl
    rfl

/-- So does a query. -/
theorem query {e : Eff} (he : e.resource = .query) : Stays ok upd G I (request e : Daemon e.Ans) :=
  h.ask he (by decide)

/-- An update of the core of the context. -/
theorem modify_bind {α : Type} {g : Context → Context} {f : PUnit → Daemon α}
    (hg : ∀ c, (g c).groups = c.groups) (hf : Stays ok upd G I (f ⟨⟩)) :
    Stays ok upd G I (modify g >>= f) :=
  .modify_bind (fun c w hI => h.core c (g c) w (hg c) hI) hf

/-- So does an evaluation. -/
theorem evaluateFsms (kind : EventKind) : Stays ok upd G I (fx.evaluateFsms kind) := by
  rw [Effectors.evaluateFsms]
  refine .get_bind fun c => ?_
  split
  · exact .pure _
  · refine .when _ (.ite (.bind (h.enter _ true) fun entered => .ite ?_ ?_) ?_)
    · exact .modify fun c w hI => h.core c _ w rfl hI
    · exact h.grace true
    · exact h.modify_bind (fun _ => rfl) (.bind (h.enter _ true) fun _ => .pure _)

/-- So does a re-assert. -/
theorem reassert (trigger : ReconcileTrigger) : Stays ok upd G I (fx.reassert trigger) := by
  rw [Effectors.reassert]
  refine .get_bind fun c => .bind (.when _ ?_) fun _ => h.query rfl
  exact .bind h.ingest fun _ => .get_bind fun c₁ => .bind (h.enter _ false) fun _ => .pure _

/-- So does the power policy. -/
theorem powerPolicyCheck : Stays ok upd G I fx.powerPolicyCheck := by
  rw [Effectors.powerPolicyCheck]
  refine .get_bind fun c => .bind (h.step _) fun _ => .get_bind fun c₁ =>
    .bind (h.apply _) fun _ => ?_
  refine .get_set_bind (fun c w hI => h.lastBase c _ w hI) fun c₂ => ?_
  cases c₂.power.powerLastBase with
  | none => exact .pure _
  | some prev => exact h.edge prev _

/-- So does the GPU's check. -/
theorem gpuCheck (trigger : String) (chosen : Option MonitorProfile) :
    Stays ok upd G I (fx.gpuCheck trigger chosen) := by
  rw [Effectors.gpuCheck, Effectors.gpuDriftCheck]
  refine .bind (.bind ?_ fun mode => .bind (h.drift _ _ _) fun _ => .pure _) fun mode => h.pin _
  exact h.frame (fun c => resolveSessionGpuMode_spec c _) (by decide) (by rintro _ _ _ rfl; rfl)

/-- So does the match. -/
theorem currentMatch : Stays ok upd G I Effectors.currentMatch :=
  h.frame currentMatch_spec (by decide) (by rintro _ _ _ rfl; rfl)

/-- So does the low-battery check. -/
theorem battery : Stays ok upd G I fx.batteryLowRequestCheck :=
  h.frame (batteryLowRequestCheck_spec fx) (by decide) (by rintro _ _ _ ⟨r, rfl, -⟩; rfl)

/-- So does a change of the monitors. -/
theorem handleMonitorsChanged : Stays ok upd G I fx.handleMonitorsChanged := by
  have hcrumb : ∀ pref, Stays ok upd G I (fx.writeGpuBreadcrumb pref) := fun pref =>
    h.frame (fun c => writeGpuBreadcrumb_spec fx c pref) (by decide) (by rintro _ _ _ rfl; rfl)
  have hrest : ∀ chosen : Option MonitorProfile, Stays ok upd G I (do
      fx.writeGpuBreadcrumb (chosen.map MonitorProfile.gpu)
      fx.gpuCheck "monitors changed" chosen
      fx.powerPolicyCheck
      let c ← get
      Process.when (!Effectors.edpShouldBeOn c && decide (c.extMonCount > 0))
        fx.rehomeEdpWorkspaces) := by
    intro chosen
    refine .bind (hcrumb _) fun _ => .bind (h.gpuCheck _ _) fun _ =>
      .bind h.powerPolicyCheck fun _ => ?_
    exact .get_bind fun c => .when _ h.rehome
  have hall := h.matched _ hrest
  rw [Effectors.handleMonitorsChanged]
  convert hall using 2
  funext chosen
  cases chosen <;> rfl

/-- So does a pass of the reconciler. -/
theorem handleReconcileTick (snap : ReconcileSnapshot) :
    Stays ok upd G I (fx.handleReconcileTick snap) := by
  have hdrive : ∀ fsm power, Stays ok upd G I (fx.driveRepairs fsm power) := by
    intro fsm power
    rw [Effectors.driveRepairs]
    refine .bind (.when _ (h.modify_bind (fun _ => rfl) ?_)) fun _ => .when _ (h.evaluateFsms _)
    exact .bind h.powerPolicyCheck fun _ => .bind h.battery fun _ => .pure _
  have hbackstop : Stays ok upd G I (fx.dpmsBackstop snap) := by
    rw [Effectors.dpmsBackstop]
    refine .get_set_bind (fun c w hI => h.core c _ w rfl hI) fun c => ?_
    cases snap.dpmsOff with
    | none => exact .pure _
    | some dpmsOff => exact .when _ h.dpmsOn
  have hrepair : Stays ok upd G I (Effectors.repairContext snap) := by
    rw [Effectors.repairContext]
    refine .get_bind fun c => h.modify_bind (fun _ => rfl) (.bind (h.query rfl) fun standing => ?_)
    refine h.modify_bind (fun _ => rfl) (.bind (.when _ h.profileDebounce) fun _ => ?_)
    refine h.modify_bind (fun _ => rfl) (.bind (.when _ (h.query rfl)) fun _ => ?_)
    exact h.modify_bind (fun _ => rfl) (.pure _)
  rw [Effectors.handleReconcileTick]
  refine .bind hrepair fun drift => .bind (hdrive _ _) fun _ => .get_bind fun c => .when _ ?_
  refine .bind h.ingest fun _ => .bind ?_ fun _ => hbackstop
  exact h.frame (fun c => (enforceEdp_spec fx c snap).mono (fun _ _ he => he.1) fun _ _ =>
    id) (by decide)
    (by rintro _ _ _ rfl; rfl)

/-- An arm that updates the keyboard's inputs and then runs its check. -/
theorem kbdArm {g : Context → Context} (sample falls : Bool)
    (hg : ∀ c, ∃ k : KbdContext, g c = { c with kbd := k } ∧ k.kbdLed = c.kbd.kbdLed ∧
      k.kbdApplied = c.kbd.kbdApplied) : Stays ok upd G I (do
        modify g
        fx.kbdPolicyCheck sample
        pure falls : Daemon Bool) := by
  refine .modify_bind (fun c w hI => ?_) (.bind (h.kbd sample) fun _ => .pure _)
  obtain ⟨k, heq, hled, happlied⟩ := hg c
  rw [heq]
  exact h.inputs c k w hled happlied hI

/-- Every arm but that of powerd's appearance. -/
theorem dispatchUpdate (ev : Event) (hev : ev ≠ .powerdAppeared) :
    Stays ok upd G I (fx.dispatchUpdate ev) := by
  have hclaim : Stays ok upd G I Effectors.refreshWaylandClaim :=
    h.frame refreshWaylandClaim_spec (by decide) (by rintro _ _ _ ⟨w, rfl⟩; rfl)
  rw [Effectors.dispatchUpdate.eq_def]
  cases ev with
  | powerdAppeared => exact absurd rfl hev
  | monitorsChanged => exact .bind h.handleMonitorsChanged fun _ => .pure _
  | reconcileTick snap => exact .bind (h.handleReconcileTick snap) fun _ => .pure _
  | configReloaded | profileApplied => exact .bind (h.reassert _) fun _ => .pure _
  | profilesChanged => exact .bind h.profileDebounce fun _ => .pure _
  | backlightHotplug => exact .bind h.discoverBacklight fun _ => .pure _
  | sleeping | kbdLevelChanged _ | kbdOverrideChanged _ => exact h.kbdArm _ _ fun c =>
    ⟨_, rfl, rfl, rfl⟩
  | kbdIdle idle =>
    refine .modify_bind (fun c w hI => h.inputs c _ w rfl rfl hI)
      (.bind (.when _ h.release) fun _ => ?_)
    exact .bind (h.kbd _) fun _ => .pure _
  | kbdLedHotplug => exact .bind h.discoverKbd fun _ => .bind (h.kbd _) fun _ => .pure _
  | lid closed =>
    refine .get_bind fun c => .ite (h.modify_bind (fun _ => rfl) ?_) (.pure _)
    exact .bind (.when _ hclaim) fun _ => .pure _
  | monitorHotplug added name =>
    refine .get_bind fun c => .bind (.bind (h.query rfl) fun _ => .pure _) fun _ => ?_
    refine h.modify_bind (fun _ => rfl) (.bind h.profileDebounce fun _ => .bind (h.query rfl)
      fun _ => .pure _)
  | inhibitor wayland active => exact h.modify_bind (fun c => by cases wayland <;> rfl) (.pure _)
  | lockChanged locked =>
    refine h.modify_bind (fun _ => rfl) (.bind (h.query rfl) fun _ => ?_)
    exact .bind (h.kbd _) fun _ => .pure _
  | acChanged onAc =>
    refine .get_bind fun c =>
      .ite (.pure _) (h.modify_bind (fun _ => rfl) (.bind h.battery fun _ => ?_))
    exact .bind h.settle fun _ => .bind (h.query rfl) fun _ => .pure _
  | powerAcSettled => exact h.modify_bind (fun _ => rfl) (.bind h.battery fun _ => .pure _)
  | powerOverrideChanged word =>
    intro c w hI
    rw [wp_get_bind]
    cases word with
    | none => exact Stays.pure _ _ w (h.heard c none none w hI)
    | some s =>
      dsimp only
      cases PowerProfile.parse s with
      | none => exact Stays.pure _ c w hI
      | some p =>
        dsimp only
        rw [wp_bind, wp_when]
        have hfalls : Stays ok upd G I (pure true : Daemon Bool) := .pure _
        exact ⟨fun _ w' hdrift => Wp.drifts (hfalls _ w (h.heard c (some p) none w hI)) hdrift,
          fun _ w' hdrift => Wp.drifts (hfalls c w hI) hdrift⟩
  | batteryPercent pct =>
    refine .get_set_bind (fun c w hI => h.core c _ w rfl hI) fun c => .bind h.battery
      fun changed => ?_
    exact .bind (.when _ (h.query rfl)) fun _ => .pure _
  | platformProfileChanged value =>
    refine .bind (h.query rfl) fun now =>
      .get_set_bind (fun c w hI => h.judged c _ w hI) fun c => ?_
    refine .bind (.when _ ?_) fun _ => .pure _
    exact .bind (h.adopt _) fun _ => h.powerPolicyCheck
  | gpuOverrideChanged word => exact .pure _
  | suspendRequestChanged word =>
    exact h.modify_bind (fun _ => rfl) (.bind (.when _ hclaim) fun _ => .pure _)
  | timerExpired =>
    refine .get_bind fun c => .bind (.when _ (.bind (h.query rfl) fun standing => .when _ ?_))
      fun _ => .pure _
    exact .modify fun c w hI => h.core c _ w rfl hI
  | resumed =>
    have hclear : Stays ok upd G I fx.clearSuspendRequest :=
      .when _ (.bind (h.ask (r := .requestFile) rfl (by decide)) fun _ => .pure _)
    refine h.modify_bind (fun _ => rfl) (.bind hclear fun _ => .bind (h.query rfl) fun _ => ?_)
    exact h.kbdArm _ _ fun c => ⟨_, rfl, rfl, rfl⟩

/-- So does the tail of a turn. -/
theorem dispatchTail (ev : Event) : Stays ok upd G I (fx.dispatchTail ev) := by
  rw [Effectors.dispatchTail]
  refine .bind (.when _ h.rearm) fun _ => .bind (.when _ ?_) fun _ => ?_
  · exact .bind h.currentMatch fun chosen => h.gpuCheck _ _
  · exact .bind (.when _ h.powerPolicyCheck) fun _ => h.evaluateFsms _

/-- A turn whose arm keeps the invariant, or establishes it after the event was taken, keeps it. -/
theorem handle {ev : Event} {c : Context} {w : σ}
    (harm : Wp (World.observer ok upd) G (fun _ c' w' => I c' w') (fx.dispatchUpdate ev) c w) :
    Wp (World.observer ok upd) G (fun _ c' w' => I c' w') (fx.handle ev) c w := by
  rw [Effectors.handle, Effectors.dispatch, bind_assoc]
  refine harm.bind fun falls c₁ w₁ hI => ?_
  have hrest : Stays ok upd G I (Process.when falls (fx.dispatchTail ev) >>= fun _ =>
      fx.syncWaybar) :=
    .bind (.when _ (h.dispatchTail ev)) fun _ => h.waybar
  exact hrest c₁ w₁ hI

/-- So does the startup. -/
theorem startup : Stays ok upd G I fx.startup := by
  rw [Effectors.startup]
  refine h.modify_bind (fun _ => rfl) (.get_bind fun c => .bind (h.enter _ _) fun _ => ?_)
  refine .bind h.currentMatch fun chosen => .bind ?_ fun mode => .bind (h.pin _) fun _ => ?_
  · exact h.frame (fun c => resolveSessionGpuMode_spec c _) (by decide) (by rintro _ _ _ rfl; rfl)
  · exact .bind h.waybar fun _ => .bind (h.kbd _) fun _ => h.query rfl

/-- The setup keeps it, where the pieces of the setup that fill the groups do. The profile is the
last of them: there is no body on record before. -/
theorem setup
    (hconf : ∀ c policy w, I c w → I { c with power := { c.power with powerPolicy := policy } } w)
    (hkbd : ∀ conf, Stays ok upd G I (Effectors.seedKbd conf))
    (hprofile : ∀ c w, c.activeProfileRev = none → I c w →
      Wp (World.observer ok upd) G (fun _ c' w' => I c' w') Effectors.seedProfile c w)
    {c : Context} {w : σ} (hI : I c w) (hrev : c.activeProfileRev = none) :
    Wp (World.observer ok upd) G (fun _ c' w' => I c' w') fx.setup c w := by
  -- No profile is recorded before the last seed, so the parts before it keep that too.
  have hblank : ∀ {α : Type} {x : Daemon α} {rs : List Resource} {Q : Context → α → Context → Prop},
      Stays ok upd G I x → (∀ c, Meets x c (only rs) (Q c)) →
      (∀ c a c', Q c a c' → c'.activeProfileRev = c.activeProfileRev) →
      Stays ok upd G (fun c w => I c w ∧ c.activeProfileRev = none) x := fun hx hspec hQ =>
    hx.and_view (R := fun _ => False) (v := Context.activeProfileRev) (p := (· = none))
      (.of_meets hspec (fun _ _ _ _ => id) hQ)
  have hrest : Stays ok upd G I (do
      request (.sendEvent .monitorsChanged)
      let word ← request .powerOverrideWord
      request (.sendEvent (.powerOverrideChanged word))
      let hint ← (if fx.session then request .lockedHint else pure none : Daemon (Option Bool))
      modify fun c => { c with locked := hint.getD false }
      request (.lockedSend (hint.getD false))) := by
    refine .bind (h.ask (r := .queue) rfl (by decide)) fun _ => ?_
    refine .bind (h.ask (r := .powerOverride) rfl (by decide)) fun word => ?_
    refine .bind (h.ask (r := .queue) rfl (by decide)) fun _ => .bind (.ite (h.query rfl) (.pure _))
      fun hint => ?_
    exact h.modify_bind (fun _ => rfl) (h.query rfl)
  -- The seeds in their order; the profile's comes last but the events.
  have hseed : ∀ conf c w, I c w ∧ c.activeProfileRev = none →
      Wp (World.observer ok upd) G (fun _ c' w' => I c' w') (fx.seedContext conf) c w := by
    intro conf c w hI
    rw [Effectors.seedContext]
    refine (hblank (h.frame seedPower_spec (by decide) ?_) seedPower_spec ?_ c w hI).bind
      fun _ c w hI => ?_
    · rintro _ _ _ ⟨ac, acs, pct, low, rfl⟩
      rfl
    · rintro _ _ _ ⟨ac, acs, pct, low, rfl⟩
      rfl
    refine (hblank h.discoverBacklight discoverBacklight_spec ?_ c w hI).bind fun _ c w hI => ?_
    · rintro _ _ _ ⟨b, rfl⟩
      rfl
    refine (hblank (hkbd conf) (fun c => seedKbd_spec c conf) ?_ c w hI).bind fun _ c w hI => ?_
    · rintro _ _ _ ⟨k, rfl⟩
      rfl
    refine (hblank h.battery (batteryLowRequestCheck_spec fx) ?_ c w hI).bind fun _ c w hI => ?_
    · rintro _ _ _ ⟨r, rfl, -⟩
      rfl
    refine (hblank (h.frame seedWorld_exact (by decide) ?_) seedWorld_exact ?_ c w hI).bind
      fun _ c w hI => ?_
    · rintro _ _ _ ⟨closed, logind, wayland, count, rfl, -⟩
      rfl
    · rintro _ _ _ ⟨closed, logind, wayland, count, rfl, -⟩
      rfl
    exact (hprofile c w hI.2 hI.1).bind fun _ c w hI => hrest c w hI
  -- The reads before the seeds keep both.
  have hread : ∀ {e : Eff} {r : Resource}, e.resource = r → r ∈ framedResources →
      Stays ok upd G (fun c w => I c w ∧ c.activeProfileRev = none)
        (request e : Daemon e.Ans) := fun he hr =>
    (h.ask he hr).and_view (R := fun _ => False) (v := Context.activeProfileRev)
      (p := (· = none)) (.ask id)
  have hload : Stays ok upd G (fun c w => I c w ∧ c.activeProfileRev = none)
      Effectors.loadConf := by
    rw [Effectors.loadConf]
    refine .bind (hread (e := .loadPowerConf) rfl (by decide)) fun conf =>
      .modify_bind (fun c w hI => ?_) (.pure _)
    exact ⟨h.core { c with power := { c.power with powerPolicy := conf.policy } } _ w rfl
      (hconf c conf.policy w hI.1), hI.2⟩
  rw [Effectors.setup]
  refine (hload c w ⟨hI, hrev⟩).bind fun conf c w hI => ?_
  refine (hread (e := .suspendRequestRemove) rfl (by decide) c w hI).bind fun _ c w hI => ?_
  rw [wp_get_bind]
  have hheld : Stays ok upd G (fun c w => I c w ∧ c.activeProfileRev = none)
      (if fx.shadow || !c.lidPresent then pure true else request .inhibitLidSwitch : Daemon Bool) :=
    .ite (.pure _) (hread (e := .inhibitLidSwitch) rfl (by decide))
  refine (hheld c w hI).bind fun held c w hI => ?_
  cases held
  · exact Stays.pure _ c w hI.1
  · exact (hseed conf c w hI).bind fun _ c w hI => Stays.pure _ c w hI

end GroupInvariant

end

/-! ## Whole runs -/

/-- What the dispatcher sees, in order: the events it takes, and its requests with their answers. -/
abbrev Sight := Event ⊕ DaemonObs

/-- All that was seen in a run. -/
def sights (tr₀ : List DaemonObs) (ts : List Turn) : List Sight :=
  tr₀.map .inr ++ ts.flatMap fun t => .inl t.ev :: t.trace.map .inr

/-- What is seen with one more turn: its event, and then its requests. -/
@[simp] theorem history_append (tr₀ : List DaemonObs) (ts : List Turn) (t : Turn) :
    sights tr₀ (ts ++ [t]) = sights tr₀ ts ++ .inl t.ev :: t.trace.map .inr := by
  simp [sights]

section

variable {σ : Type}

/-- An observer that is also told the events. -/
def observe (take : σ → Event → σ) (upd : σ → DaemonObs → σ) (w : σ) : Sight → σ
  | .inl ev => take w ev
  | .inr o => upd w o

/-- An observer of the requests sees a turn's trace. -/
theorem foldl_observe_inr (take : σ → Event → σ) (upd : σ → DaemonObs → σ) (w : σ)
    (tr : List DaemonObs) : (tr.map Sum.inr).foldl (observe take upd) w = tr.foldl upd w := by
  rw [List.foldl_map]
  rfl

/-- Along a run whose start and whose turns keep the invariant, each request satisfies the guard for
what was seen before it, and the invariant holds at the end. -/
theorem Run.observed {fx : Effectors} {ok : DaemonObs → Prop} {take : σ → Event → σ}
    {upd : σ → DaemonObs → σ} {G : Context → Eff → σ → Prop} {I : Context → σ → Prop}
    {tr₀ : List DaemonObs} {ts : List Turn} {c : Context} {w₀ : σ} (h : Run fx tr₀ ts c)
    (hsetup : Wp (World.observer ok upd) G (fun _ c' w' => I c' w') fx.setup {} w₀)
    (hstartup : Stays ok upd G I fx.startup)
    (hturn : ∀ ev c w, I c w → Wp (World.observer ok upd) G (fun _ c' w' => I c' w')
      (fx.handle ev) c (take w ev))
    (hok : ∀ o, .inr o ∈ sights tr₀ ts → ok o) :
    Along (observe take upd) (fun w => Sum.elim (fun _ => True) fun o => G o.1.1 o.1.2 w) w₀
      (sights tr₀ ts) ∧
      I c ((sights tr₀ ts).foldl (observe take upd) w₀) := by
  induction h with
  | @start c₁ c₂ tr tr' hruns hruns' =>
    have hok' : ∀ o ∈ tr ++ tr', ok o := fun o ho => hok o (by simpa [sights] using ho)
    obtain ⟨hG, hI₁⟩ := hruns.along_of_wp hsetup fun o ho => hok' o (List.mem_append_left _ ho)
    obtain ⟨hG', hI₂⟩ := hruns'.along_of_wp (hstartup c₁ _ hI₁) fun o ho =>
      hok' o (List.mem_append_right _ ho)
    simp only [sights, List.flatMap_nil, List.append_nil, foldl_observe_inr, along_map,
      List.foldl_append]
    exact ⟨along_append.mpr ⟨hG, hG'⟩, hI₂⟩
  | @turn c₁ c₂ tr₀ tr ts ev _ hruns ih =>
    rw [history_append] at hok ⊢
    obtain ⟨hG, hI₁⟩ := ih fun o ho => hok o (List.mem_append_left _ ho)
    obtain ⟨hG', hI₂⟩ := hruns.along_of_wp (hturn ev c₁ _ hI₁) fun o ho =>
      hok o (List.mem_append_right _ (List.mem_cons_of_mem _ (List.mem_map_of_mem ho)))
    rw [List.foldl_append, List.foldl_cons, foldl_observe_inr]
    exact ⟨along_append.mpr ⟨hG, trivial, along_map.mpr hG'⟩, hI₂⟩

/-- The requests of a run, with their answers. -/
def requested (tr₀ : List DaemonObs) (ts : List Turn) : List DaemonObs :=
  tr₀ ++ ts.flatMap Turn.trace

/-- The requests are what is seen but for the events. -/
theorem requested_eq (tr₀ : List DaemonObs) (ts : List Turn) :
    requested tr₀ ts = (sights tr₀ ts).filterMap Sum.getRight? := by
  have hright : ∀ tr : List DaemonObs, (tr.map (Sum.inr : DaemonObs → Sight)).filterMap
      Sum.getRight? = tr := fun tr => by
    rw [List.filterMap_map]
    exact List.filterMap_some
  rw [requested, sights, List.filterMap_append, hright, List.filterMap_flatMap]
  congr 2
  funext t
  rw [List.filterMap_cons_none rfl, hright]

/-- An observer of the requests alone may be given the requests alone. -/
theorem foldl_observe_requested (upd : σ → DaemonObs → σ) (w : σ) (seen : List Sight) :
    seen.foldl (observe (fun w _ => w) upd) w = (seen.filterMap Sum.getRight?).foldl upd w := by
  induction seen generalizing w with
  | nil => rfl
  | cons x seen ih =>
    rw [List.foldl_cons, ih]
    cases x <;> rfl

/-- So may what holds along them. -/
theorem along_requested {upd : σ → DaemonObs → σ} {P : σ → DaemonObs → Prop} {w : σ}
    {seen : List Sight}
    (h : Along (observe (fun w _ => w) upd) (fun w => Sum.elim (fun _ => True) (P w)) w seen) :
    Along upd P w (seen.filterMap Sum.getRight?) := by
  induction seen generalizing w with
  | nil => trivial
  | cons x seen ih =>
    obtain ⟨hx, hrest⟩ := h
    cases x with
    | inl ev => exact ih hrest
    | inr o => exact ⟨hx, ih hrest⟩

/-- For an observer that is told no events: an invariant that every event may meet. -/
theorem Run.recorded {fx : Effectors} {ok : DaemonObs → Prop} {upd : σ → DaemonObs → σ}
    {G : Context → Eff → σ → Prop} {I : Context → σ → Prop} {tr₀ : List DaemonObs}
    {ts : List Turn} {c : Context} {w₀ : σ} (h : Run fx tr₀ ts c)
    (hsetup : Wp (World.observer ok upd) G (fun _ c' w' => I c' w') fx.setup {} w₀)
    (hstartup : Stays ok upd G I fx.startup) (hturn : ∀ ev, Stays ok upd G I (fx.handle ev))
    (hok : ∀ o ∈ requested tr₀ ts, ok o) :
    Along upd (fun w o => G o.1.1 o.1.2 w) w₀ (requested tr₀ ts) ∧
    I c ((requested tr₀ ts).foldl upd w₀) := by
  have hok' : ∀ o, .inr o ∈ sights tr₀ ts → ok o := fun o ho =>
    hok o (requested_eq tr₀ ts ▸ List.mem_filterMap.mpr ⟨_, ho, rfl⟩)
  have hobserved : Along (observe (fun w _ => w) upd)
        (fun w => Sum.elim (fun _ => True) fun o => G o.1.1 o.1.2 w) w₀ (sights tr₀ ts) ∧
      I c ((sights tr₀ ts).foldl (observe (fun w _ => w) upd) w₀) :=
    h.observed hsetup hstartup hturn hok'
  obtain ⟨hG, hI⟩ := hobserved
  rw [requested_eq]
  exact ⟨along_requested hG, by rwa [foldl_observe_requested] at hI⟩

end

end Hyprstate
