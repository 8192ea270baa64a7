import Hyprstate.Daemon.Invariant
import Hyprstate.Safety.Tasks

/-!
# One task of a kind

The dispatcher keeps one handle for each kind of task: the grace timer, the two debounces and the
watch over a Wayland claim. Before it spawns another of a kind it aborts the one that it holds, or
has found it finished. An observer of the spawns, the aborts and the answers (`Outstanding`) sees in
every run that no task is spawned while an earlier one of its kind may still run
(`Run.spawns_once`), whatever the handles are.
-/

namespace Hyprstate

open Reactive Process Tasks

/-- The kind of the task that a request spawns. -/
def Eff.spawns : Eff → Option Slot
  | .spawnTimer _ .timerExpired => some .grace
  | .spawnTimer _ .powerAcSettled => some .settle
  | .spawnTimer _ .monitorsChanged => some .profile
  | .spawnClaimWatch => some .watch
  | _ => none

/-- The task that a request spawned. -/
def spawnedBy : DaemonObs → Option (Slot × Handle)
  | ⟨(_, .spawnTimer delay ev), h⟩ => (Eff.spawnTimer delay ev).spawns.map fun s => (s, h)
  | ⟨(_, .spawnClaimWatch), h⟩ => some (.watch, h)
  | _ => none

/-- The task that a request stopped, or found to be over. -/
def endedBy : DaemonObs → Option Handle
  | ⟨(_, .abort h), _⟩ => some h
  | ⟨(_, .isFinished h), finished⟩ => if finished then some h else none
  | _ => none

/-- The tasks that were spawned, and neither stopped nor found to be over. -/
abbrev Outstanding : Type := Slot → Option Handle

namespace Outstanding

/-- The outstanding tasks after one observation. -/
def told (w : Outstanding) (o : DaemonObs) : Outstanding :=
  match spawnedBy o with
  | some (s, h) => Function.update w s (some h)
  | none => fun s => if endedBy o ≠ none ∧ w s = endedBy o then none else w s

/-- A task is spawned where none of its kind is outstanding. -/
def Apart (w : Outstanding) (e : Eff) : Prop := ∀ s, e.spawns = some s → w s = none

/-- What is outstanding is held in its slot. -/
def Held (v : Slot → Option Handle) (w : Outstanding) : Prop := ∀ s h, w s = some h → v s = some h

/-- The handles in the slots. -/
def handles (c : Context) : Slot → Option Handle
  | .grace => c.graceTimer
  | .settle => c.powerDebounce
  | .profile => c.profileDebounce
  | .watch => c.claimWatch

/-- The handles are what the slots hold. -/
theorem handles_apply (c : Context) (s : Slot) : handles c s = s.held c := by cases s <;> rfl

/-- The pieces that spawn one task of a kind at a time. -/
abbrev Kept {α : Type} (x : Daemon α) : Prop :=
  Stays (fun _ => True) told (fun _ e w => w.Apart e) (fun c w => Held (handles c) w) x

variable {w : Outstanding}

/-- A request that spawns nothing has spawned nothing. -/
theorem spawnedBy_eq_none {c : Context} {e : Eff} {b : stamped Eff.Ans (c, e)}
    (he : e.spawns = none) : spawnedBy ⟨(c, e), b⟩ = none := by
  cases e with
  | spawnTimer delay ev => simp only [spawnedBy, he, Option.map_none]
  | spawnClaimWatch => cases he
  | _ => rfl

/-- A request that spawns nothing only takes tasks away. -/
theorem told_of_spawns_none {c : Context} {e : Eff} {b : stamped Eff.Ans (c, e)}
    (he : e.spawns = none) {s : Slot} {h : Handle} (hw : w.told ⟨(c, e), b⟩ s = some h) :
    w s = some h := by
  rw [told, spawnedBy_eq_none he] at hw
  dsimp only at hw
  split at hw
  · cases hw
  · exact hw

/-- Its answer keeps what is held. -/
theorem Held.told_of_spawns_none {v : Slot → Option Handle} (hI : Held v w) {c : Context}
    {e : Eff} (b : stamped Eff.Ans (c, e)) (he : e.spawns = none) : Held v (w.told ⟨(c, e), b⟩) :=
  fun s h hw =>
  hI s h (Outstanding.told_of_spawns_none he hw)

/-- And it is apart from what runs. -/
theorem apart_of_spawns_none {e : Eff} (he : e.spawns = none) : w.Apart e := fun s hs =>
  absurd (he.symm.trans hs) (by simp)

/-- Only a timer's request spawns. -/
theorem resource_of_spawns {e : Eff} (he : e.spawns ≠ none) :
    e.resource = .graceTimer ∨ e.resource = .timer := by
  cases e with
  | spawnTimer delay ev => by_cases hev : ev = .timerExpired <;> simp [hev]
  | spawnClaimWatch => exact .inr rfl
  | _ => exact absurd rfl he

/-- What spawns nothing and keeps the handles. -/
theorem framed (rs : List Resource) (hgrace : Resource.graceTimer ∉ rs)
    (htimer : Resource.timer ∉ rs) :
    Frames (fun _ => True) told (fun _ e w => w.Apart e) (fun c w => Held (handles c) w)
      rs handles := by
  refine framed_of_view (R := fun e => e.spawns ≠ none) (J := Held) (fun e he hmem => ?_)
    (fun _ _ _ he => apart_of_spawns_none (not_not.mp he)) fun _ _ _ _ b he _ hI =>
      hI.told_of_spawns_none b (not_not.mp he)
  rcases resource_of_spawns he with h | h
  · exact hgrace (h ▸ hmem)
  · exact htimer (h ▸ hmem)

/-- A request that spawns nothing keeps the invariant. -/
theorem kept_request {e : Eff} (he : e.spawns = none) : Kept (request e : Daemon e.Ans) :=
  .ask (fun _ _ _ => apart_of_spawns_none he) fun _ _ b hI _ => hI.told_of_spawns_none b he

/-! ### Arming and cancelling -/

/-- The task of a slot is stopped before its handle is forgotten for good. -/
theorem kept_cancel (s : Slot) : Kept (cancelTask s.held fun c => s.fill none c) := by
  intro c w hI
  rw [cancelTask, wp_get_bind]
  generalize hheld : s.held c = held
  cases held with
  | none => exact wp_observer_pure.mpr hI
  | some t =>
    dsimp only
    rw [wp_set_bind]
    refine (wp_observer_ask (e := Eff.abort t)).mpr ⟨apart_of_spawns_none rfl, fun b _ => ?_⟩
    intro s' h hw
    have hnow : w s' = some h := Outstanding.told_of_spawns_none rfl hw
    have hs' : s'.held c = some h := (handles_apply c s').symm.trans (hI s' h hnow)
    by_cases hs : s' = s
    · subst hs
      obtain rfl : h = t := Option.some.inj (hs'.symm.trans hheld)
      simp [told, spawnedBy, endedBy, hnow] at hw
    · rw [handles_apply, Slot.held_fill_of_ne hs, hs']

/-- After a cancel nothing of the slot is outstanding. -/
theorem wp_cancel (s : Slot) {c : Context} (hI : Held (handles c) w) :
    Wp (World.observer (fun _ => True) told) (fun _ e w => w.Apart e)
      (fun _ c' w' => Held (handles c') w' ∧ s.held c' = none)
        (cancelTask s.held fun c => s.fill none c) c w := by
  have hempty : Meets (cancelTask s.held fun c => s.fill none c) c (fun _ _ => True)
      fun _ c' => s.held c' = none := by
    rw [cancelTask, meets_bind, meets_get]
    generalize hheld : s.held c = held
    cases held with
    | none => exact hheld
    | some t => exact ⟨trivial, fun _ => s.held_fill none c⟩
  exact (kept_cancel s c w hI).and_meets hempty

/-- A task is spawned into a slot that nothing is outstanding of. -/
theorem wp_arm {s : Slot} {e : Eff} {f : e.Ans → Daemon Unit} (answer : e.Ans → Handle)
    (he : e.spawns = some s)
    (hspawned : ∀ (c : Context) b, spawnedBy ⟨(c, e), b⟩ = some (s, answer b))
    (hf : ∀ b, f b = modify fun c => s.fill (some (answer b)) c) {c : Context}
    (hI : Held (handles c) w) (hnone : w s = none) :
    Wp (World.observer (fun _ => True) told) (fun _ e w => w.Apart e)
      (fun _ c' w' => Held (handles c') w')
      (request e >>= f) c w := by
  rw [wp_observer_ask_bind]
  refine ⟨fun s' hs' => ?_, fun b _ => ?_⟩
  · obtain rfl : s = s' := Option.some.inj (he.symm.trans hs')
    exact hnone
  · rw [hf b, wp_observer_modify]
    intro s' h hw
    rw [told, hspawned c b] at hw
    dsimp only at hw
    by_cases hs : s' = s
    · subst hs
      rw [handles_apply, Slot.held_fill]
      simpa using hw
    · rw [Function.update_of_ne hs] at hw
      rw [handles_apply, Slot.held_fill_of_ne hs, ← handles_apply]
      exact hI s' h hw

/-- An empty slot has nothing outstanding. -/
theorem Held.none_of_held {v : Slot → Option Handle} (hI : Held v w) {s : Slot} (hs : v s = none) :
    w s = none := by
  cases hw : w s with
  | none => rfl
  | some h => exact absurd (hs.symm.trans (hI s h hw)) (by simp)

/-- The task of the slot is stopped, and another one spawned. -/
theorem kept_rearm {s : Slot} {delay : Nat} {ev : Event}
    (hev : (Eff.spawnTimer delay ev).spawns = some s) :
    Kept (do
      cancelTask s.held fun c => s.fill none c
      let h ← request (.spawnTimer delay ev)
      modify fun c => s.fill (some h) c) :=
  fun _ _ hI =>
  (wp_cancel s hI).bind fun _ _ _ h => wp_arm (e := .spawnTimer delay ev) id hev
    (fun _ _ => by simp [spawnedBy, hev]) (fun _ => rfl) h.1
      (h.1.none_of_held ((handles_apply _ _).trans h.2))

/-- To ask whether a task runs keeps it. -/
theorem kept_live (s : Slot) : Kept (taskLive s.held) := by
  rw [taskLive]
  refine .get_bind fun c => ?_
  cases s.held c with
  | none => exact .pure _
  | some t => exact .bind (kept_request (e := .isFinished t) rfl) fun _ => .pure _

/-- To start the grace timer keeps it: the old one is aborted. -/
theorem kept_startGraceTimer (fresh : Bool) : Kept (Effectors.startGraceTimer fresh) := by
  rw [Effectors.startGraceTimer]
  refine .bind (.ite (.pure _) (kept_live .grace)) fun live => .when _ ?_
  intro c w hI
  refine (wp_cancel .grace hI).bind fun _ c₁ w₁ h => ?_
  rw [wp_get_bind]
  exact wp_arm (e := .spawnTimer _ .timerExpired) id rfl (fun _ _ => rfl) (fun _ => rfl) h.1
    (h.1.none_of_held ((handles_apply _ _).trans h.2))

/-- A watch that is found finished is not outstanding any more, and one that is not is left. -/
theorem kept_startClaimWatch : Kept Effectors.startClaimWatch := by
  intro c w hI
  have harm : ∀ {w : Outstanding}, Held (handles c) w → w .watch = none →
      Wp (World.observer (fun _ => True) told) (fun _ e w => w.Apart e)
        (fun _ c' w' => Held (handles c') w')
        (do
          let h ← request .spawnClaimWatch
          modify fun c => { c with claimWatch := some h } : Daemon Unit) c w := fun hI hnone =>
    wp_arm (s := .watch) (e := .spawnClaimWatch) id rfl (fun _ _ => rfl) (fun _ => rfl) hI hnone
  rw [Effectors.startClaimWatch, taskLive, bind_assoc, wp_get_bind]
  cases hheld : c.claimWatch with
  | none =>
    rw [pure_bind, wp_when]
    exact ⟨fun _ => harm hI (hI.none_of_held hheld), fun h => absurd h (by decide)⟩
  | some t =>
    dsimp only
    rw [bind_assoc, wp_observer_ask_bind]
    refine ⟨apart_of_spawns_none rfl, fun finished _ => ?_⟩
    have hI' := hI.told_of_spawns_none (c := c) (e := .isFinished t) finished rfl
    rw [pure_bind, wp_when]
    refine ⟨fun hdone => harm hI' ?_, fun _ => wp_observer_pure.mpr hI'⟩
    obtain rfl : finished = true := by simpa using hdone
    cases hw : w .watch with
    | none => simp [told, spawnedBy, endedBy, hw]
    | some h =>
      obtain rfl : h = t := Option.some.inj ((hI .watch h hw).symm.trans hheld)
      simp [told, spawnedBy, endedBy, hw]

/-! ### The dispatcher -/

section

variable (fx : Effectors)

/-- To send a command keeps it. -/
theorem kept_sendCmd (cmd : Cmd) : Kept (fx.sendCmd cmd) :=
  .when _ (.bind (kept_request (e := .trySend cmd) rfl) fun _ => .pure _)

/-- So does the entry of a state. -/
theorem kept_onEnter (state : State) (fresh : Bool) : Kept (fx.onEnter state fresh) := by
  have hcancel : Kept Effectors.cancelGraceTimer := kept_cancel .grace
  have hedp : ∀ on, Kept (fx.setEdp on) := fun on => .get_bind fun c => .when _ (kept_sendCmd fx _)
  have hwatch : Kept (Effectors.enterClaimWatch state) :=
    .get_bind fun c => .ite kept_startClaimWatch (kept_cancel .watch)
  rw [Effectors.onEnter.eq_def]
  refine .bind hwatch fun _ => ?_
  cases state with
  | lidOpen | docked => exact .bind hcancel fun _ => .bind (hedp _) fun _ => .pure _
  | deferred =>
    refine .bind hcancel fun _ => .bind (hedp _) fun _ => .get_bind fun c => ?_
    exact .bind (.when _ (kept_sendCmd fx _)) fun _ => .pure _
  | countdown => exact .bind (hedp _) fun _ => .bind (kept_startGraceTimer fresh) fun _ => .pure _
  | suspending =>
    refine .bind hcancel fun _ => ?_
    exact framed _ (by decide) (by decide) (suspendingTail_spec fx) (fun _ => id)
      (by rintro c _ _ rfl; rfl)

/-- So does every piece of a turn. -/
theorem invariant : GroupInvariant fx (fun _ => True) told (fun _ e w => w.Apart e)
    (fun c w => Held (handles c) w) := by
  -- The four handles are among the groups of records, and each piece that moves none keeps them.
  have hgroups : ∀ c c' : Context, c'.groups = c.groups → handles c' = handles c := by
    intro c c' hc
    funext s
    cases s
    · exact congrArg Groups.graceTimer hc
    · exact congrArg Groups.powerDebounce hc
    · exact congrArg Groups.profileDebounce hc
    · exact congrArg Groups.claimWatch hc
  exact {
    toProfilePieces :=
      .of_view (J := Held) (framed [.query, .file, .profile, .command] (by decide) (by decide))
      (fun _ => id) fun _ _ _ _ => rfl
    toPowerPieces :=
      .of_view (J := Held) (framed [.powerOverride, .command] (by decide) (by decide))
      (fun _ => id) fun _ _ _ _ _ => rfl
    toBrightnessPieces :=
      .of_view (J := Held) (framed [.query, .light] (by decide) (by decide)) (fun _ => id)
      fun _ _ => rfl
    toKbdPieces :=
      .of_view (J := Held) (framed [.query, .light, .file, .kbdOverride] (by decide) (by decide))
      (fun _ => id) fun _ _ => rfl
    toCallPieces :=
      .of_view (J := Held) (framed [.query, .powerd] (by decide) (by decide)) (fun _ => id)
      fun _ _ _ => rfl
    grace := kept_startGraceTimer
    profileDebounce := kept_rearm (s := .profile) rfl
    settle := kept_rearm (s := .settle) rfl
    enter := kept_onEnter fx
    dpmsOn := kept_sendCmd fx _
    rehome := kept_sendCmd fx _
    waybar := framed [.command] (by decide) (by decide) (syncWaybar_spec fx) (fun _ => id)
      (by rintro c _ _ ⟨x, rfl⟩; rfl)
    core := fun c c' _ hc hI => hgroups c c' hc ▸ hI
    frame := fun hx hrs hQ => framed framedResources (by decide) (by decide) hx hrs
      fun c a c' hc => hgroups c c' (hQ c a c' hc)
    drift := fun trigger mode source => framed [.query, .command] (by decide) (by decide)
      (fun c => checkAndNotifyDrift_spec fx c trigger mode source) (fun _ => id)
        (by rintro c _ _ ⟨g, rfl⟩; rfl) }

/-- The setup begins with it. -/
theorem kept_setup : Wp (World.observer (fun _ => True) told) (fun _ e w => w.Apart e)
    (fun _ c' w' => Held (handles c') w') fx.setup {} (fun _ => none) := by
  refine (invariant fx).setup (fun _ _ _ hI => hI) (fun conf => ?_) (fun c w _ hI => ?_) ?_ rfl
  · exact framed [.query, .kbdOverride] (by decide) (by decide)
      (fun c => seedKbd_spec c conf) (fun _ => id)
      (by rintro _ _ _ ⟨k, rfl⟩; rfl)
  · exact framed [.query] (by decide) (by decide) seedProfile_spec (fun _ => id)
      (by rintro _ _ _ ⟨n, r, e, rfl⟩; rfl) c w hI
  · rintro s h hw
    cases hw

/-- A handler keeps it. -/
theorem kept_handle (ev : Event) : Kept (fx.handle ev) := fun c w hI => by
  refine (invariant fx).handle ?_
  by_cases hev : ev = .powerdAppeared
  · subst hev
    rw [Effectors.dispatchUpdate, wp_modify_bind, wp_modify_bind, wp_observer_pure]
    split <;> exact hI
  · exact (invariant fx).dispatchUpdate ev hev c w hI

end

/-- A task is outstanding until it is stopped or found to be over. -/
theorem told_of_outstanding {s : Slot} {h : Handle} {o : DaemonObs} (hw : w s = some h)
    (hend : endedBy o ≠ some h) (hspawn : ∀ t, spawnedBy o ≠ some (s, t)) :
    w.told o s = some h := by
  rw [told]
  cases hby : spawnedBy o with
  | none => simp [hw, Ne.symm hend]
  | some p =>
    have hne : s ≠ p.1 := fun hs => hspawn p.2 (by rw [hby, hs])
    exact (Function.update_of_ne hne _ w).trans hw

/-- What spawned is a request that spawns. -/
theorem spawns_of_spawnedBy {o : DaemonObs} {s : Slot} {t : Handle}
    (h : spawnedBy o = some (s, t)) : o.1.2.spawns = some s := by
  obtain ⟨⟨c, e⟩, b⟩ := o
  cases e with
  | spawnTimer delay ev =>
    obtain ⟨s', hs', heq⟩ := Option.map_eq_some_iff.mp h
    rw [hs', (Prod.mk.inj heq).1]
  | spawnClaimWatch => rw [← (Prod.mk.inj (Option.some.inj h)).1]; rfl
  | _ => cases h

/-- A task that nothing ended is outstanding. -/
theorem outstanding_foldl {seen : List DaemonObs}
    (hseen : Along told (fun w o => w.Apart o.1.2) w seen) {s : Slot} {h : Handle}
    (hw : w s = some h) (hend : ∀ o ∈ seen, endedBy o ≠ some h) : seen.foldl told w s = some h := by
  induction seen generalizing w with
  | nil => exact hw
  | cons o seen ih =>
    obtain ⟨hapart, hrest⟩ := hseen
    obtain ⟨ho, hends⟩ := List.forall_mem_cons.mp hend
    refine ih hrest (told_of_outstanding hw ho fun t ht => ?_) hends
    exact absurd (hw.symm.trans (hapart s (spawns_of_spawnedBy ht))) (by simp)

end Outstanding

/-- Between two spawns of a kind the first task was stopped, or found to be over. -/
def SpawnsOnce (seen : List DaemonObs) : Prop :=
  ∀ pre mid post o o' s h, seen = pre ++ o :: mid ++ o' :: post → spawnedBy o = some (s, h) →
    o'.1.2.spawns = some s → ∃ o₁ ∈ mid, endedBy o₁ = some h

/-- In every run there is one task of a kind at a time. -/
theorem Run.spawns_once {fx : Effectors} {tr₀ : List DaemonObs} {ts : List Turn} {c : Context}
    (h : Hyprstate.Run fx tr₀ ts c) : SpawnsOnce (requested tr₀ ts) := by
  intro pre mid post o o' s t heq ho ho'
  have halong := (h.recorded (Outstanding.kept_setup fx) (Outstanding.invariant fx).startup
    (Outstanding.kept_handle fx) fun _ _ => trivial).1
  rw [heq, along_append, along_append] at halong
  obtain ⟨⟨-, -, hmid⟩, hapart, -⟩ := halong
  by_contra hnot
  push Not at hnot
  have hspawned : Outstanding.told (pre.foldl Outstanding.told fun _ => none) o s = some t := by
    rw [Outstanding.told, ho]
    exact Function.update_self s _ _
  have hstill := Outstanding.outstanding_foldl hmid hspawned hnot
  have hnone := hapart s ho'
  rw [List.foldl_append, List.foldl_cons] at hnone
  exact absurd (hstill.symm.trans hnone) (by simp)

/-- The charger is unplugged, and plugged in again before the power settles. -/
theorem Run.spawns_once_replugged : ∃ tr₀ ts c, Hyprstate.Run ⟨false, true⟩ tr₀ ts c ∧
    (requested tr₀ ts).filterMap spawnedBy = [(.settle, 0), (.settle, 0)] ∧
    (requested tr₀ ts).filterMap endedBy = [0] ∧ SpawnsOnce (requested tr₀ ts) := by
  have hstart := Hyprstate.Run.start (runs_answered (Effectors.setup ⟨false, true⟩) Eff.quiet {})
    (runs_answered (Effectors.startup ⟨false, true⟩) Eff.quiet _)
  have hunplugged :=
    hstart.turn (.acChanged false) (runs_answered (Effectors.handle ⟨false, true⟩ _) Eff.quiet _)
  have hrun :=
    hunplugged.turn (.acChanged true) (runs_answered (Effectors.handle ⟨false, true⟩ _) Eff.quiet _)
  exact ⟨_, _, _, hrun, by decide +kernel, by decide +kernel, hrun.spawns_once⟩

end Hyprstate
