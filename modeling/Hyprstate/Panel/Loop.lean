import Hyprstate.Daemon.Worker
import Hyprstate.Reactive.Budget
import Hyprstate.Reactive.Flight

/-!
# The reload loop

To turn the panel on, the worker removes the edp-off marker and has the compositor reload its
config: the body of the active profile, and then the marker. The compositor reports every reload,
the dispatcher re-asserts the panel on every report, and the worker reads the panel before it acts.
So the loop stops once a reload leaves the panel on.

The loop has two more ways around. A panel that goes on or off is an output that comes or goes: the
compositor reports a hotplug, which has the dispatcher count the monitors and arm a timer. The timer
has it match the monitors against the profiles, and a match may repoint the active link and apply
another profile. So do the outputs that a profile itself turns on or off.

Nothing comes in from outside here: the loop is left alone with what is in flight, and with the
passes of the reconciler, which come as they like (`Run` in `Panel/Reloads.lean`).
-/

namespace Hyprstate

open Reactive Process

/-- The dispatcher's and the worker's queues, the timers, and the compositor. -/
structure Loop where
  events : List Event
  /-- The reloads that the compositor has reported, and the socket reader has not read. -/
  socket : Nat := 0
  /-- The outputs that it has reported as added or removed, and the socket reader has not read. -/
  hotplugs : List (Bool × String) := []
  /-- What the timers will send that the dispatcher has spawned. -/
  timers : List Event := []
  cmds : List Cmd := []
  /-- Whether the panel is disabled in the compositor. -/
  disabled : Bool
  /-- Whether the edp-off marker is there, and whether it can be written and removed. -/
  marker : Bool := false
  writable : Bool := true
  /-- The profile that the active link names, and whether the link leads to that profile's own
  file. -/
  active : Option String := none
  direct : Bool := true
  profiles : List MonitorProfile := []
  /-- Whether the body of the active profile disables the panel, or enables it, if it names it at
  all. -/
  body : Option String → Option Bool := fun _ => none
  /-- The reload commands so far. -/
  reloads : Nat := 0

namespace Loop

/-- The events that have the dispatcher re-assert the panel. -/
def reasserts : Event → Bool
  | .configReloaded | .profileApplied => true
  | _ => false

/-- The config runs: the profile's body, and then the marker. -/
def configured (w : Loop) : Bool := decide (w.body w.active = some true) || w.marker

/-- `hyprctl reload`. -/
def reload (w : Loop) : Loop :=
  { w with
    disabled := w.configured
    socket := w.socket + 1
    reloads := w.reloads + 1 }

/-- Some outputs came up or went, and are reported. -/
def plugged (w : Loop) (plugs : List (Bool × String)) : Loop :=
  { w with hotplugs := w.hotplugs ++ plugs }

/-- Whether a reload after the removal of the marker leaves the panel disabled: the profile's body
disables it, or the marker is there to stay. -/
def dark (w : Loop) : Bool := decide (w.body w.active = some true) || (w.marker && !w.writable)

/-- The worker's world while it runs one command. Nobody else touches the compositor then. Whatever
moves outputs may move others with the panel, so any of them are reported. A call that fails may
have been made or not. -/
def compositor : World (Unit × Eff) (stamped Eff.Ans) Loop where
  drift _ _ := False
  answer
    | (_, .monitorsAll), w, monitors, w' => w' = w ∧ ∀ ms, monitors = some ms →
      edpIsDisabledIn ms = none ∨ edpIsDisabledIn ms = some w.disabled
    | (_, .edpMarkerRemove), w, _, w' => w' = { w with marker := w.marker && !w.writable }
    | (_, .edpMarkerWrite), w, _, w' => w' = { w with marker := w.marker || w.writable }
    | (_, .hyprctlOk .reload), w, ok, w' =>
      (ok = false ∧ w' = w) ∨ ∃ plugs, w' = w.reload.plugged plugs
    | (_, .hyprctlOk .disableEdp), w, ok, w' => ∃ disabled plugs,
      (w.disabled = true ∨ ok = true → disabled = true) ∧ w' = plugged { w with disabled } plugs
    | (_, .hyprctlOk .applyProfile), w, ok, w' => ∃ disabled plugs,
      (ok = true → disabled = (w.body w.active).getD w.disabled) ∧
        w' = plugged { w with disabled } plugs
    | (_, .sendEvent ev), w, _, w' => w' = { w with events := w.events ++ [ev] }
    | _, w, _, w' => w' = w

/-- The socket reader sends the report of a reload or of a hotplug, a timer fires, and the worker
runs a command. -/
inductive Drift : Loop → Loop → Prop
  | relay {w : Loop} {n : Nat} : w.socket = n + 1 →
      Drift w { w with
        socket := n
        events := w.events ++ [.configReloaded] }
  | plug {w : Loop} {added : Bool} {name : String} {rest : List (Bool × String)} :
      w.hotplugs = (added, name) :: rest →
      Drift w { w with
        hotplugs := rest
        events := w.events ++ [.monitorHotplug added name] }
  | fire {w : Loop} {ev : Event} {before after : List Event} :
      w.timers = before ++ ev :: after →
      Drift w { w with
        timers := before ++ after
        events := w.events ++ [ev] }
  | work {w w' : Loop} {cmd : Cmd} {rest : List Cmd}
      {tr : List (Obs (Unit × Eff) (stamped Eff.Ans))} :
      w.cmds = cmd :: rest →
      Execs compositor (EffectorWorker.run cmd) () { w with cmds := rest } tr () () w' → Drift w w'

/-- The dispatcher's world. The worker's queue takes a command or refuses it. A timer that is
aborted may have fired before, so an abort takes none away. -/
def world : World (Context × Eff) (stamped Eff.Ans) Loop where
  drift := Drift
  answer
    | (_, .trySend cmd), w, taken, w' =>
      w' = if taken then { w with cmds := w.cmds ++ [cmd] } else w
    | (_, .spawnTimer _ ev), w, _, w' => w' = { w with timers := w.timers ++ [ev] }
    | (_, .activeProfileName), w, name, w' => name = w.active ∧ w' = w
    | (_, .activeLinkIs name), w, leads, w' =>
      (w.active = some name ∧ w.direct = true → leads = true) ∧ w' = w
    | (_, .loadProfiles), w, profiles, w' => profiles = w.profiles ∧ w' = w
    | (_, .repointActive name), w, ok, w' =>
      w' = if ok then
        { w with
          active := some name
          direct := true }
      else w
    | (_, .sendEvent ev), w, _, w' => w' = { w with events := w.events ++ [ev] }
    | _, w, _, w' => w' = w

/-! ## The worker -/

/-- Nothing moves between the requests of one command. -/
theorem compositor_still (w w' : Loop) : ¬compositor.drift w w' := id

/-- What a command does: a command to turn the panel on runs a reload only where it finds the panel
disabled; a command to turn it off runs none, and an apply at most one. -/
def Ran : Cmd → Loop → Loop → Prop
  | .setEdp true, w, w' => ∃ k p, (k && !w.writable) = (w.marker && !w.writable) ∧
      (w' = { w with marker := k } ∨ (w.disabled = true ∧ w' = { w with
        marker := k
        disabled := w.dark
        socket := w.socket + 1
        reloads := w.reloads + 1
        hotplugs := p }))
  | .setEdp false, w, w' => ∃ k d p, (k && !w.writable) = (w.marker && !w.writable) ∧
      (w.disabled = true → d = true) ∧ w' = { w with
        marker := k
        disabled := d
        hotplugs := p }
  | .applyProfile, w, w' => ∃ d r p, r ≤ 1 ∧ w' = { w with
      disabled := d
      socket := w.socket + r
      reloads := w.reloads + r
      hotplugs := p
      events := w.events ++ [.profileApplied] }
  | _, w, w' => w' = w

/-- A request of a command, whatever it is answered. -/
theorem compositor_asks {α : Type} {e : Eff} {f : e.Ans → EffectorWorker.Task α} {w : Loop}
    {Q : α → Unit → Loop → Prop}
    (h : ∀ b w', compositor.answer ((), e) w b w' →
      Wp compositor (fun _ _ _ => True) Q (f b) () w') :
    Wp compositor (fun _ _ _ => True) Q (request e >>= f) () w :=
  (wp_still_ask_bind compositor_still).mpr ⟨trivial, h⟩

/-- A command is over where it is. -/
theorem compositor_stays {α : Type} {a : α} {w : Loop} {Q : α → Unit → Loop → Prop} (h : Q a () w) :
    Wp compositor (fun _ _ _ => True) Q (pure a) () w := (wp_still_pure compositor_still).mpr h

/-- A marker that cannot be moved is kept by its removal. -/
theorem marker_removed (marker writable : Bool) :
    ((marker && !writable) && !writable) = (marker && !writable) := by
  cases marker <;> cases writable <;> rfl

/-- The same of the write. -/
theorem marker_written (marker writable : Bool) :
    ((marker || writable) && !writable) = (marker && !writable) := by
  cases marker <;> cases writable <;> rfl

/-- A panel command reads the panel and the marker before it moves either. -/
theorem setEdp_ran (on : Bool) (w : Loop) :
    Wp compositor (fun _ _ _ => True) (fun _ _ w' => Ran (.setEdp on) w w')
      (EffectorWorker.setEdp on)
      () w := by
  rw [EffectorWorker.setEdp, EffectorWorker.edpIsDisabled, bind_assoc]
  refine compositor_asks ?_
  rintro monitors _ ⟨rfl, htrue⟩
  rw [wp_pure_bind]
  cases hread : monitors.bind edpIsDisabledIn with
  | none =>
    -- no panel, or the listing failed
    refine compositor_stays ?_
    cases on with
    | true => exact ⟨_, [], rfl, .inl rfl⟩
    | false => exact ⟨_, _, _, rfl, id, rfl⟩
  | some disabled =>
    obtain ⟨ms, hms, hpanel⟩ := Option.bind_eq_some_iff.mp hread
    obtain rfl : disabled = _ := by
      rcases htrue ms hms with h | h
      · exact absurd (hpanel.symm.trans h) (by simp)
      · exact Option.some.inj (hpanel.symm.trans h)
    dsimp only
    cases on with
    | true =>
      rw [EffectorWorker.syncEdpMarker, if_pos rfl, if_pos rfl, bind_assoc]
      refine compositor_asks ?_
      rintro _ _ rfl
      rw [wp_pure_bind, wp_when]
      constructor
      · intro hdisabled
        refine compositor_asks ?_
        rintro _ _ (⟨-, rfl⟩ | ⟨plugs, rfl⟩)
        · exact compositor_stays ⟨_, [], marker_removed _ _, .inl rfl⟩
        · exact compositor_stays ⟨_, _, marker_removed _ _, .inr ⟨hdisabled, rfl⟩⟩
      · intro _
        exact compositor_stays ⟨_, [], marker_removed _ _, .inl rfl⟩
    | false =>
      rw [EffectorWorker.syncEdpMarker, if_neg (by simp), if_neg (by simp), bind_assoc]
      refine compositor_asks ?_
      rintro _ _ rfl
      rw [wp_pure_bind, wp_when]
      constructor
      · intro _
        refine compositor_asks ?_
        rintro _ _ ⟨disabled, plugs, hdisabled, rfl⟩
        exact compositor_stays ⟨_, _, _, marker_written _ _, fun h => hdisabled (.inl h), rfl⟩
      · intro _
        exact compositor_stays ⟨_, _, _, marker_written _ _, id, rfl⟩

/-- An apply runs the profile, and reloads where that fails. -/
theorem applyProfile_ran (w : Loop) :
    Wp compositor (fun _ _ _ => True) (fun _ _ w' => Ran .applyProfile w w')
      EffectorWorker.applyProfile
      () w := by
  have hsend : ∀ (r : Nat) (w' : Loop), r ≤ 1 → (∃ d p, w' = { w with
      disabled := d
      socket := w.socket + r
      reloads := w.reloads + r
      hotplugs := p }) →
      Wp compositor (fun _ _ _ => True) (fun _ _ w' => Ran .applyProfile w w')
        (request (.sendEvent .profileApplied) : EffectorWorker.Task Unit) () w' := by
    rintro r _ hr ⟨d, p, rfl⟩
    rw [wp_still_ask compositor_still]
    refine ⟨trivial, ?_⟩
    rintro _ _ rfl
    exact ⟨d, r, p, hr, rfl⟩
  rw [EffectorWorker.applyProfile]
  refine compositor_asks ?_
  rintro ok _ ⟨disabled, plugs, -, rfl⟩
  rw [wp_bind, wp_when]
  constructor
  · intro _
    -- the reload that it falls back to
    refine compositor_asks ?_
    rintro _ _ (⟨-, rfl⟩ | ⟨plugs', rfl⟩)
    · exact compositor_stays (hsend 0 _ (Nat.zero_le 1) ⟨_, _, rfl⟩)
    · exact compositor_stays (hsend 1 _ (Nat.le_refl 1) ⟨_, _, rfl⟩)
  · intro _
    exact compositor_stays (hsend 0 _ (Nat.zero_le 1) ⟨_, _, rfl⟩)

/-- Each command does what `Ran` says. -/
theorem run_ran (cmd : Cmd) (w : Loop) :
    Wp compositor (fun _ _ _ => True) (fun _ _ w' => Ran cmd w w')
      (EffectorWorker.run cmd) () w := by
  -- A command that makes no request of the panel or the profile leaves the loop as it is.
  have hquiet : ∀ {α : Type} {x : EffectorWorker.Task α} {G : Unit → Eff → Prop},
      Meets x () G (fun _ _ => True) →
      (∀ e (b : e.Ans) w w', G () e → compositor.answer ((), e) w b w' → w' = w) →
      Wp compositor (fun _ _ _ => True) (fun _ _ w' => w' = w) x () w := by
    intro α x G hx hG
    refine (wp_of_meets (J := fun w' => w' = w) hx rfl
      (fun _ _ hdrift => absurd hdrift (compositor_still _ _)) ?_).mono
      (fun _ _ _ _ => trivial) fun _ _ _ h => h.2
    rintro _ e w₁ b w₂ he ha rfl
    exact hG e b _ _ he ha
  cases cmd with
  | setEdp on => exact setEdp_ran on w
  | applyProfile => exact applyProfile_ran w
  | rehomeEdpWorkspaces =>
    have hmove : Meets EffectorWorker.rehomeEdpWorkspaces () (fun _ e => e = .workspaces ∨
        e = .monitors ∨ ∃ ws dest, e = .hyprctlOk (.moveWorkspace ws dest)) fun _ _ => True := by
      rw [EffectorWorker.rehomeEdpWorkspaces, meets_bind, meets_ask]
      refine ⟨.inl rfl, fun workspaces => ?_⟩
      rw [meets_when]
      refine ⟨fun _ => ?_, fun _ => trivial⟩
      rw [meets_bind, meets_ask]
      refine ⟨.inr (.inl rfl), fun monitors => ?_⟩
      cases monitors.bind EffectorWorker.firstExternalIn with
      | none => trivial
      | some dest =>
        refine meets_forM (fun ws _ _ => ?_) _ _ trivial
        exact ⟨.inr (.inr ⟨ws, dest, rfl⟩), fun _ => trivial⟩
    refine hquiet hmove ?_
    rintro e b w w' (rfl | rfl | ⟨ws, dest, rfl⟩) ha
    · exact ha
    · exact ha
    · exact ha
  | dpmsOn =>
    refine compositor_asks ?_
    rintro _ _ rfl
    exact compositor_stays rfl
  | pauseMedia =>
    exact (wp_still_ask compositor_still (e := Eff.playerctlPause)).mpr ⟨trivial, fun _ _ ha => ha⟩
  | notify summary body tag =>
    exact (wp_still_ask compositor_still (e := Eff.notifySend summary body tag)).mpr
      ⟨trivial, fun _ _ ha => ha⟩
  | runHook hook =>
    exact (wp_still_ask compositor_still (e := Eff.spawnHook hook)).mpr ⟨trivial, fun _ _ ha => ha⟩

/-! ## What is in flight -/

/-- What an event in flight may have the loop do, in commands. A re-assert is counted by itself, and
an event of the loop's own, a hotplug or a timer of the dispatcher's, is free where it finds
nothing new. The settling of the AC state and any event from outside may move the dispatcher
anywhere; a flip of the AC state has the settling follow. -/
def worth : Event → Nat
  | .configReloaded | .profileApplied | .monitorHotplug _ _ | .monitorsChanged
  | .timerExpired => 0
  | .powerAcSettled => 28
  | _ => 56

/-- A re-assert is counted by itself. -/
theorem worth_of_reasserts {ev : Event} (h : reasserts ev = true) : worth ev = 0 := by
  cases ev with
  | configReloaded | profileApplied => rfl
  | _ => exact absurd h (by simp [reasserts])

/-- What several events are worth. -/
def worths : List Event → Nat
  | [] => 0
  | ev :: evs => worth ev + worths evs

/-- No events are worth nothing. -/
@[simp] theorem worths_nil : worths [] = 0 := rfl

/-- An event's worth is added to that of the others. -/
@[simp] theorem worths_cons (ev : Event) (evs : List Event) :
    worths (ev :: evs) = worth ev + worths evs := rfl

/-- The worth of two queues is the sum. -/
@[simp] theorem worths_append (evs evs' : List Event) :
    worths (evs ++ evs') = worths evs + worths evs' := by
  induction evs with
  | nil => exact (Nat.zero_add _).symm
  | cons ev evs ih => rw [List.cons_append, worths_cons, worths_cons, ih, Nat.add_assoc]

/-- The commands and events in flight, with a budget of `n` commands. -/
def flight (n : Nat) (w : Loop) : Flight where
  level := w.cmds.count .applyProfile + worths w.events + worths w.timers + n
  ons := w.cmds.count (.setEdp true)
  offs := w.cmds.count (.setEdp false)
  echoes := w.socket + w.events.countP reasserts + w.timers.countP reasserts
  disabled := w.disabled

/-- The modes `lit` and `dark` say what a reload comes to. -/
def Fits (m : Flight.Mode) (w : Loop) : Prop :=
  (m = .lit → w.dark = false) ∧ (m = .dark → w.dark = true)

/-- What no step of the loop moves but a repoint of the active link. -/
def config (w : Loop) : Option String × Bool × List MonitorProfile × Bool :=
  (w.active, w.direct, w.profiles, w.dark)

/-- What the loop can still cost, with what it has cost, in a mode that fits. -/
def Bounded (bound : Nat) (m : Flight.Mode) (n : Nat) (w : Loop) : Prop :=
  (w.flight n).potential m + w.reloads ≤ bound

variable {bound n n' k : Nat} {m m' : Flight.Mode} {w w' : Loop}

/-- A mode fits as long as the config stays. -/
theorem Fits.of_config (h : Fits m w) (hc : w'.config = w.config) : Fits m w' := by
  have hdark : w'.dark = w.dark := congrArg (fun p => p.2.2.2) hc
  unfold Fits
  rw [hdark]
  exact h

/-- A smaller budget is worth less in every mode. -/
theorem Bounded.stir (hw : Bounded bound m n w) (h : n' < n) : Bounded bound m' n' w := by
  have hless : (w.flight n').level < (w.flight n).level := by
    simp only [flight]
    omega
  have hpotential : (w.flight n').potential m' ≤ (w.flight n).potential m :=
    Nat.le_of_succ_le (Flight.potential_stirred hless (Nat.le_succ _) (Nat.le_succ _)
      (Nat.le_add_right _ _))
  calc (w.flight n').potential m' + w.reloads
      ≤ (w.flight n).potential m + w.reloads := Nat.add_le_add_right hpotential _
    _ ≤ bound := hw

/-- A budget that is no larger is worth no more. -/
theorem Bounded.lower (hw : Bounded bound m n w) (h : n' ≤ n) : Bounded bound m n' w := by
  rcases Nat.lt_or_eq_of_le h with h | rfl
  · exact hw.stir h
  · exact hw

/-- The turn is over: whatever it came to, the dispatcher is in some mode. -/
theorem Bounded.settle (hw : Bounded bound .busy n w) (h : n' ≤ n) : Bounded bound m n' w :=
  calc (w.flight n').potential m + w.reloads
      ≤ (w.flight n').potential .busy + w.reloads :=
        Nat.add_le_add_right (Flight.potential_le_busy m _) _
    _ ≤ bound := hw.lower h

/-- A step that costs no more than it was worth: it lifts the level never, and moves no config. -/
structure Paid (n : Nat) (m : Flight.Mode) (w w' : Loop) : Prop where
  paid : (w'.flight n).potential m + w'.reloads ≤ (w.flight n).potential m + w.reloads
  level : (w'.flight n).level ≤ (w.flight n).level
  config : w'.config = w.config

/-- A step that moves nothing in flight. -/
theorem Paid.of_flight (h : w'.flight n = w.flight n) (hreloads : w'.reloads = w.reloads)
    (hc : w'.config = w.config) : Paid n m w w' :=
  ⟨by rw [h, hreloads], by rw [h], hc⟩

/-- A step that runs some reloads. -/
theorem Paid.of_reloads {r : Nat} (hreloads : w'.reloads = w.reloads + r)
    (h : (w'.flight n).potential m + r ≤ (w.flight n).potential m)
    (hlevel : (w'.flight n).level ≤ (w.flight n).level) (hc : w'.config = w.config) :
    Paid n m w w' :=
  ⟨by omega, hlevel, hc⟩

/-- A command that the worker ran. -/
theorem Ran.paid {cmd : Cmd} {rest : List Cmd} (hcmds : w.cmds = cmd :: rest)
    (h : Ran cmd { w with cmds := rest } w') (hm : Fits m w) : Paid n m w w' := by
  -- A command of another kind only leaves the queue.
  have hother : cmd ≠ .setEdp true → cmd ≠ .setEdp false → cmd ≠ .applyProfile →
      w' = { w with cmds := rest } → Paid n m w w' := by
    rintro hon hoff happly rfl
    refine .of_flight ?_ rfl rfl
    simp [flight, hcmds, hon, hoff, happly]
  cases cmd with
  | setEdp on =>
    cases on with
    | true =>
      -- The panel is lit as it was, or it was disabled and lighting it reloads.
      obtain ⟨k, p, hk, rfl | ⟨hdisabled, rfl⟩⟩ := h
      · refine .of_reloads (r := 0) rfl (Flight.potential_on ?_ ?_ ?_ rfl rfl) ?_ ?_
        · simp [flight, hcmds]
        · simp [flight, hcmds]
        · simp [flight, hcmds]
        · simp [flight, hcmds]
        · simp only [config, dark, hk]
      · refine .of_reloads (r := 1) rfl
          (Flight.potential_reset ?_ ?_ ?_ ?_ hdisabled hm.1 hm.2) ?_ ?_
        · simp [flight, hcmds]
        · simp [flight, hcmds]
        · simp [flight, hcmds]
        · simp only [flight]
          omega
        · simp [flight, hcmds]
        · simp only [config, dark, hk]
    | false =>
      obtain ⟨k, d, p, hk, hd, rfl⟩ := h
      refine .of_reloads (r := 0) rfl (Flight.potential_off ?_ ?_ ?_ rfl hd) ?_ ?_
      · simp [flight, hcmds]
      · simp [flight, hcmds]
      · simp [flight, hcmds]
      · simp [flight, hcmds]
      · simp only [config, dark, hk]
  | applyProfile =>
    obtain ⟨d, r, p, hr, rfl⟩ := h
    -- An apply reloads once at most, which the level it takes off pays for.
    have hstirred : ∀ w' : Loop, (w'.flight n).level < (w.flight n).level →
        w'.cmds = rest → w'.socket = w.socket + r → w'.timers = w.timers →
        w'.events = w.events ++ [.profileApplied] →
        (w'.flight n).potential m + r ≤ (w.flight n).potential m := by
      intro w' hlevel hrest hsocket htimers hevents
      refine Nat.le_trans (Nat.add_le_add_left hr _) (Flight.potential_stirred hlevel ?_ ?_ ?_)
      · simp [flight, hcmds, hrest]
      · simp [flight, hcmds, hrest]
      · simp [flight, hsocket, hevents, htimers, reasserts]
        omega
    refine .of_reloads rfl (hstirred _ ?_ rfl rfl rfl rfl) ?_ rfl
    · simp [flight, hcmds, worth]
    · simp [flight, hcmds, worth]
  | _ => exact hother (by simp) (by simp) (by simp) h

/-- No step of the worker, of the socket reader or of a timer costs more than it was worth. -/
theorem Drift.paid (h : Drift w w') (hm : Fits m w) : Paid n m w w' := by
  cases h with
  | relay hsocket =>
    refine .of_flight ?_ rfl rfl
    simp [flight, hsocket, worth, reasserts]
    omega
  | plug =>
    refine .of_flight ?_ rfl rfl
    simp [flight, worth, reasserts]
  | @fire ev before after htimers =>
    refine .of_flight ?_ rfl rfl
    simp only [flight, htimers, worths_append, worths_cons, worths_nil, List.countP_append,
      List.countP_cons, List.countP_nil, Flight.mk.injEq, and_true, true_and]
    omega
  | work hcmds hexec => exact (hexec.of_wp (run_ran _ _)).paid hcmds hm

end Loop

end Hyprstate
