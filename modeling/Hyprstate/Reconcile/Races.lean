import Hyprstate.Daemon.Reconciler
import Hyprstate.Daemon.Transition
import Hyprstate.Reactive.Server

/-!
# Racing the reconciler

A reconcile pass reads the lid, the monitors, the inhibitors, LockedHint and AC one after another
and hands its snapshot over as an event. Each of these also reports its changes as events. A change
that a pass has read past, and that is reported before the snapshot is, is undone by the snapshot.

The dispatcher runs as a server in a world of these five `Axis` values, their unsent reports, the
event queue and the pass in progress. `InSync` is the property of a world at rest, `Races.calm` the
condition on the steps of a run that has it. `Settles` is its invariant: where an axis has no report
left to send, the queue, applied to what the context has, comes to what the world has.
-/

namespace Hyprstate

open Reactive Process

/-- What the world has of its own, reports, and shows to a reconcile pass. -/
inductive Axis
  | lid
  | locked
  | inhibitor
  | monitors
  | ac
  deriving DecidableEq

namespace Axis

/-- The values of an axis. -/
@[reducible] def Val : Axis → Type
  | monitors => Nat
  | lid | locked | inhibitor | ac => Bool

/-- The events that report a value. A hotplug carries none, and is counted when it is dispatched. -/
def Reports : (a : Axis) → a.Val → Event → Prop
  | lid, closed, ev => ev = .lid closed
  | locked, hint, ev => ev = .lockChanged hint
  | inhibitor, active, ev => ev = .inhibitor false active
  | monitors, _, ev => ∃ added name, ev = .monitorHotplug added name
  | ac, onAc, ev => ev = .acChanged onAc

/-- What the context has of an axis after an event, where the world has `present` when the event is
dispatched. -/
def applied (lidPresent : Bool) : (a : Axis) → a.Val → a.Val → Event → a.Val
  | lid, _, closed, ev =>
    match ev with
    | .lid closed' => if lidPresent then closed' else closed
    | .reconcileTick snap => if lidPresent then snap.lidClosed else closed
    | _ => closed
  | locked, _, hint, ev =>
    match ev with
    | .lockChanged hint' => hint'
    | .reconcileTick snap => snap.locked.getD hint
    | _ => hint
  | inhibitor, _, active, ev =>
    match ev with
    | .inhibitor false active' => active'
    | .reconcileTick snap => snap.logindInhibitor
    | _ => active
  | monitors, present, count, ev =>
    match ev with
    | .monitorHotplug _ _ => present
    | .reconcileTick snap => snap.extMonCount
    | _ => count
  | ac, _, onAc, ev =>
    match ev with
    | .acChanged onAc' => onAc'
    | .reconcileTick snap => snap.onAc.getD onAc
    | _ => onAc

end Axis

/-- What a context has of an axis. -/
def Inputs.axis (i : Inputs) : (a : Axis) → a.Val
  | .lid => i.lidClosed
  | .locked => i.locked
  | .inhibitor => i.logindInhibitor
  | .monitors => i.extMonCount
  | .ac => i.onAc

/-- The axes of a context are those of its inputs. -/
abbrev Context.axis (c : Context) : (a : Axis) → a.Val := c.inputs.axis

/-- An event that carries no value of an axis. A hotplug may come without a change: the internal
panel has its own. -/
def Event.incidental : Event → Bool
  | .lid _ | .lockChanged _ | .inhibitor false _ | .acChanged _ | .reconcileTick _ => false
  | _ => true

/-- An event of another kind leaves an axis, or reads what is there. -/
theorem Axis.applied_incidental {lidPresent : Bool} {a : Axis} {ev : Event}
    (hev : ev.incidental = true) (present v : a.Val) :
    a.applied lidPresent present v ev = v ∨ a.applied lidPresent present v ev = present := by
  cases ev with
  | lid _ | lockChanged _ | acChanged _ | reconcileTick _ => exact absurd hev Bool.false_ne_true
  | inhibitor wayland active =>
    cases wayland
    · exact absurd hev Bool.false_ne_true
    · cases a <;> exact .inl rfl
  | monitorHotplug added name => cases a <;> first | exact .inl rfl | exact .inr rfl
  | _ => cases a <;> exact .inl rfl

/-- A report sets its own axis, where the machine has it. -/
theorem Axis.applied_reports {lidPresent : Bool} {a : Axis} {v : a.Val} {ev : Event}
    (h : a.Reports v ev) (hlid : a = .lid → lidPresent = true) (w : a.Val) :
    a.applied lidPresent v w ev = v := by
  cases a with
  | lid =>
    subst h
    exact if_pos (hlid rfl)
  | monitors =>
    obtain ⟨added, name, rfl⟩ := h
    rfl
  | _ =>
    subst h
    rfl

/-- A report leaves the other axes alone. -/
theorem Axis.applied_reports_ne {lidPresent : Bool} {a a' : Axis} {v : a.Val} {ev : Event}
    (h : a.Reports v ev) (hne : a' ≠ a) (present w : a'.Val) :
    a'.applied lidPresent present w ev = w := by
  cases a with
  | monitors =>
    obtain ⟨added, name, rfl⟩ := h
    cases a' <;> first | rfl | exact absurd rfl hne
  | _ =>
    subst h
    cases a' <;> first | rfl | exact absurd rfl hne

/-- An event that is no hotplug does to the axes of the context what it is applied as. -/
theorem Dispatched.axis {c c' : Context} {ev : Event} (h : Dispatched c ev c')
    (hev : ∀ added name, ev ≠ .monitorHotplug added name) (a : Axis) (present : a.Val) :
    c'.axis a = a.applied c.lidPresent present (c.axis a) ev := by
  obtain ⟨falls, c₁, harm, hin, -⟩ := h
  -- The tail leaves the inputs, so each axis is read off the arm.
  have of_inputs : ∀ {i : Inputs}, c₁.inputs = i → c'.axis a = i.axis a := by
    rintro _ rfl
    exact congrArg (fun i : Inputs => i.axis a) hin
  cases ev with
  | reconcileTick snap =>
    obtain ⟨-, req, ac, r, hin⟩ := harm
    rw [of_inputs hin]
    cases a <;> rfl
  | lid closed =>
    obtain ⟨-, -, harm⟩ := harm
    by_cases hp : c.lidPresent
    · rw [if_pos hp] at harm
      obtain ⟨w, hin⟩ := harm
      rw [of_inputs hin]
      -- The lid is an axis where there is one.
      cases a <;> first | rfl | exact (if_pos hp).symm
    · rw [if_neg hp] at harm
      rw [of_inputs harm]
      cases a <;> first | rfl | exact (if_neg hp).symm
  | inhibitor wayland active =>
    cases wayland
    all_goals
      rw [of_inputs harm.2.2]
      cases a <;> rfl
  | acChanged onAc =>
    obtain ⟨-, -, harm⟩ := harm
    by_cases hac : onAc = c.onAc
    · rw [if_pos hac] at harm
      rw [of_inputs harm]
      cases a <;> first | rfl | exact hac.symm
    · rw [if_neg hac] at harm
      obtain ⟨r, hin⟩ := harm
      rw [of_inputs hin]
      cases a <;> rfl
  | monitorHotplug added name => exact absurd rfl (hev added name)
  | batteryPercent pct =>
    obtain ⟨-, r, hin, -⟩ := harm
    rw [of_inputs hin]
    cases a <;> rfl
  | powerAcSettled | suspendRequestChanged _ | timerExpired =>
    obtain ⟨-, -, _, hin⟩ := harm
    rw [of_inputs hin]
    cases a <;> rfl
  | lockChanged _ | powerdAppeared | resumed =>
    rw [of_inputs harm.2.2]
    cases a <;> rfl
  | configReloaded | profileApplied | monitorsChanged | profilesChanged | backlightHotplug
  | sleeping | kbdIdle _ | kbdLevelChanged _ | kbdOverrideChanged _ | kbdLedHotplug
  | platformProfileChanged _ | gpuOverrideChanged _ | powerOverrideChanged _ =>
    rw [of_inputs harm.2.1]
    cases a <;> rfl

/-! ## The world -/

/-- The values of the world, the changes not reported yet, the event queue, what is left of the pass
in progress, and what it has read. -/
structure Races where
  value : (a : Axis) → a.Val
  unsent : (a : Axis) → List a.Val := fun _ => []
  queue : List Event := []
  pass : Program (Nat × Eff) (stamped Eff.Ans) (Unit × Nat) := .ret ((), 0)
  seen : (a : Axis) → Option a.Val := fun _ => none

namespace Races

variable (conf : PowerConf)

/-- Whether the machine has a lid. -/
abbrev lidPresent : Bool := decide (conf.lid = .present)

/-- Every read succeeds and finds what there is. -/
def Truthful (w : Races) : (e : Eff) → e.Ans → Prop
  | .loadPowerConf, b => b = conf
  | .inhibitLidSwitch, held => held = true
  | .upower, connected => connected = true
  | .lidClosed, closed => closed = some (w.value .lid)
  | .lockedHint, hint => hint = some (w.value .locked)
  | .listInhibitors, rows =>
    ∃ rows', rows = some rows' ∧ logindHasRealIdleBlock rows' = w.value .inhibitor
  | .monitors, monitors =>
    ∃ monitors', monitors = some monitors' ∧
      ∀ prev, extMonitorCountIn (some monitors') prev = w.value .monitors
  | .onAcSysfs, onAc => onAc = some (w.value .ac)
  | .onBattery, onBattery => onBattery = some (!w.value .ac)
  | _, _ => True

/-- What a request leaves behind: a send, its event. -/
def sent (w : Races) : Eff → Races
  | .sendEvent ev => { w with queue := w.queue ++ [ev] }
  | _ => w

/-- What a pass has read after a request. It ends with its send. -/
def seeing (seen : (a : Axis) → Option a.Val) : (e : Eff) → e.Ans → (a : Axis) → Option a.Val
  | .lidClosed, closed => Function.update seen .lid closed
  | .lockedHint, hint => Function.update seen .locked hint
  | .listInhibitors, rows => Function.update seen .inhibitor (rows.map logindHasRealIdleBlock)
  | .monitors, monitors =>
    Function.update seen .monitors (monitors.map fun ms => extMonitorCountIn (some ms) 0)
  | .onAcSysfs, onAc => Function.update seen .ac onAc
  | .sendEvent _, _ => fun _ => none
  | _, _ => seen

/-- A value changes; a change is reported, with the value it came to or the present one; another
source sends an event; a pass starts; or it goes on. -/
inductive Drift : Races → Races → Prop
  | change {w : Races} (a : Axis) (v : a.Val) : (a = .lid → lidPresent conf = true) →
      Drift w { w with
        value := Function.update w.value a v
        unsent := Function.update w.unsent a (w.unsent a ++ [v]) }
  | report {w : Races} {a : Axis} {v u : a.Val} {rest : List a.Val} {ev : Event} :
      w.unsent a = v :: rest → (u = v ∨ u = w.value a) → a.Reports u ev →
      Drift w { w with
        unsent := Function.update w.unsent a rest
        queue := w.queue ++ [ev] }
  | other {w : Races} {ev : Event} : ev.incidental = true →
      Drift w { w with queue := w.queue ++ [ev] }
  | start {w : Races} {prev : Nat} (reasons : List ReconcileTrigger) : w.pass = .ret ((), prev) →
      Drift w { w with
        pass := (Reconciler.pass true (lidPresent conf) reasons).run prev
        seen := fun _ => none }
  | work {w : Races} {r : Nat × Eff} {k} (b : stamped Eff.Ans r) : w.pass = .call r k →
      Truthful conf w r.2 b →
      Drift w { w.sent r.2 with pass := k b, seen := seeing w.seen r.2 b }

/-- The dispatcher's world. -/
def world : World (Context × Eff) (stamped Eff.Ans) Races where
  drift := Drift conf
  answer r w b w' := Truthful conf w r.2 b ∧ w' = w.sent r.2

/-- The dispatcher takes the first event of the queue. -/
def deliver (w : Races) (ev : Event) (w' : Races) : Prop :=
  w.queue.head? = some ev ∧ w' = { w with queue := w.queue.tail }

/-- When the last unsent change of an axis is reported, the pass in progress has not read the axis,
or has read what is there now. -/
def calm : World (Context × Eff) (stamped Eff.Ans) Races :=
  (world conf).under
    (fun w w' => ∀ a, w.unsent a ≠ [] → w'.unsent a = [] → ∀ v ∈ w.seen a, v = w.value a)
    fun _ _ => True

/-- In a world at rest, where everything is reported, no pass is in progress and the queue is empty,
the context has what the world has. -/
def InSync (c : Context) (w : Races) : Prop :=
  (∀ a, w.unsent a = []) → (∃ r, w.pass = .ret r) → w.queue = [] → ∀ a, c.axis a = w.value a

/-! ## The pass -/

/-- The snapshot has what the pass read. -/
def Agrees (snap : ReconcileSnapshot) (seen : (a : Axis) → Option a.Val) : Prop :=
  ∀ (a : Axis) (present v : a.Val),
    a.applied (lidPresent conf) present v (.reconcileTick snap) = (seen a).getD v

/-- The world as a pass sees it, where its reads succeed. -/
abbrev reading : World (Nat × Eff) (stamped Eff.Ans) ((a : Axis) → Option a.Val) :=
  .observer (fun o => ∃ w, Truthful conf w o.1.2 o.2) fun seen o => seeing seen o.1.2 o.2

/-- A send hands over a snapshot of what was read. -/
def HandsOver (e : Eff) (seen : (a : Axis) → Option a.Val) : Prop :=
  ∀ ev, e = .sendEvent ev → ∃ snap, ev = .reconcileTick snap ∧ Agrees conf snap seen

/-- A read hands nothing over. -/
theorem HandsOver.of_read {e : Eff} {seen : (a : Axis) → Option a.Val} (he : e.resource ≠ .queue) :
    HandsOver conf e seen := by
  rintro ev rfl
  exact absurd rfl he

/-- What is left of a pass sends no event but a snapshot of what it has read by then. -/
def Delivers (seen : (a : Axis) → Option a.Val)
    (p : Program (Nat × Eff) (stamped Eff.Ans) (Unit × Nat)) : Prop :=
  p.Wp (reading conf) (fun r => HandsOver conf r.2) (fun _ _ => True) seen

/-- What a pass has read when its snapshot is made, after the lid. -/
def Gathered (lid : Bool) (seen seen' : (a : Axis) → Option a.Val) (snap : ReconcileSnapshot) :
    Prop :=
  snap.lidClosed = lid ∧ seen' .lid = seen .lid ∧ seen' .locked = snap.locked ∧
    seen' .inhibitor = some snap.logindInhibitor ∧ seen' .monitors = some snap.extMonCount ∧
    seen' .ac = snap.onAc

/-- What the rest of a pass gathers is what it saw. -/
theorem gatherRest_gathered (lid : Bool) (prev : Nat) (seen : (a : Axis) → Option a.Val) :
    Process.Wp (reading conf) (fun _ => HandsOver conf)
      (fun snap _ seen' => Gathered lid seen seen' snap)
      (Reconciler.gatherRest true lid) prev seen := by
  have hread : ∀ (e : Eff) (seen : (a : Axis) → Option a.Val), e.resource ≠ .queue →
      HandsOver conf e seen := fun _ _ => .of_read conf
  simp only [Reconciler.gatherRest, logindRealInhibitorActive, bind_assoc]
  refine (wp_observer_ask_bind (e := Eff.monitors)).mpr ⟨hread _ _ (by simp), ?_⟩
  rintro _ ⟨w, ms, rfl, hcount⟩
  rw [wp_get_bind, wp_set_bind]
  refine (wp_observer_ask_bind (e := Eff.listInhibitors)).mpr ⟨hread _ _ (by simp), ?_⟩
  rintro _ ⟨w, rows, rfl, -⟩
  rw [pure_bind]
  refine (wp_observer_ask_bind (e := Eff.clients)).mpr ⟨hread _ _ (by simp), fun clients _ => ?_⟩
  rw [if_pos trivial]
  refine (wp_observer_ask_bind (e := Eff.lockedHint)).mpr ⟨hread _ _ (by simp), fun hint _ => ?_⟩
  refine (wp_observer_ask_bind (e := Eff.onAcSysfs)).mpr ⟨hread _ _ (by simp), fun onAc _ => ?_⟩
  have hcounted : some (extMonitorCountIn (some ms) 0) = some (extMonitorCountIn (some ms) prev) :=
    congrArg some ((hcount 0).trans (hcount prev).symm)
  -- Whether the cursor is read or not, the axes are.
  rw [wp_bind, wp_ite]
  refine ⟨fun _ => ?_, fun _ => ?_⟩
  · refine (wp_observer_ask (e := Eff.cursorPos)).mpr ⟨hread _ _ (by simp), fun cursorPos _ => ?_⟩
    exact wp_observer_pure.mpr ⟨rfl, rfl, rfl, rfl, hcounted, rfl⟩
  · exact wp_observer_pure.mpr (wp_observer_pure.mpr ⟨rfl, rfl, rfl, rfl, hcounted, rfl⟩)

/-- A pass delivers a snapshot of what it saw. -/
theorem pass_delivers (reasons : List ReconcileTrigger) (prev : Nat) :
    Delivers conf (fun _ => none)
      ((Reconciler.pass true (lidPresent conf) reasons).run prev) := by
  -- Past the lid the pass reads one axis after another and sends what it gathered.
  have hrest : ∀ (lid : Bool) (seen : (a : Axis) → Option a.Val),
      (∀ closed, (if lidPresent conf then lid else closed) = (seen .lid).getD closed) →
      Process.Wp (reading conf) (fun _ => HandsOver conf) (fun _ _ _ => True)
        (do
          let snap ← Reconciler.gatherRest true lid
          request (.sendEvent (.reconcileTick { snap with reasons := describe reasons })))
        prev seen := by
    intro lid seen hlid
    refine (gatherRest_gathered conf lid prev seen).bind ?_
    rintro snap s seen' ⟨hclosed, hl, hlocked, hinh, hmon, hac⟩
    refine (wp_observer_ask (e := Eff.sendEvent _)).mpr
      ⟨fun ev hev => ⟨_, (Eff.sendEvent.inj hev).symm, fun a present v => ?_⟩, fun _ _ => trivial⟩
    cases a with
    | lid =>
      rw [hl, ← hlid v]
      exact congrArg (fun closed => if lidPresent conf = true then closed else v) hclosed
    | locked => exact hlocked ▸ rfl
    | inhibitor => exact hinh ▸ rfl
    | monitors => exact hmon ▸ rfl
    | ac => exact hac ▸ rfl
  show Process.Wp (reading conf) (fun _ => HandsOver conf) (fun _ _ _ => True) _ prev _
  simp only [Reconciler.pass, Reconciler.gather, bind_assoc]
  -- Without a lid nothing is read for it, and the value of before stands.
  by_cases hlid : lidPresent conf
  · rw [if_pos hlid]
    refine (wp_observer_ask_bind (e := Eff.lidClosed)).mpr ⟨.of_read conf (by simp), ?_⟩
    rintro _ ⟨w, rfl⟩
    dsimp only
    rw [map_eq_pure_bind, bind_assoc]
    exact hrest _ _ fun closed => if_pos hlid
  · rw [if_neg hlid, pure_bind]
    dsimp only
    rw [map_eq_pure_bind, bind_assoc]
    exact hrest _ _ fun closed => if_neg hlid

/-! ## The invariant -/

/-- Where an axis has no report left to send, the queue, applied to `base`, comes to what the world
has, and the pass in progress has read nothing else. -/
def Tracks (a : Axis) (base : a.Val) (w : Races) : Prop :=
  w.unsent a = [] →
    w.queue.foldl (a.applied (lidPresent conf) (w.value a)) base = w.value a ∧
      ∀ v ∈ w.seen a, v = w.value a

/-- The axes in `known` are tracked from `v`, the others from what the world has. -/
structure Settles (known : List Axis) (v : (a : Axis) → a.Val) (w : Races) : Prop where
  tracks : ∀ a, Tracks conf a (if a ∈ known then v a else w.value a) w
  last : ∀ a, ∀ v ∈ (w.unsent a).getLast?, v = w.value a
  lidless : lidPresent conf = false → w.value .lid = false ∧ w.unsent .lid = []
  pass : Delivers conf w.seen w.pass

variable {conf} {known : List Axis} {axes : (a : Axis) → a.Val} {w w' : Races}

/-- An event at the end of the queue keeps an axis tracked where, after the others, it changes
nothing. -/
theorem Tracks.snoc {a : Axis} {base : a.Val} {ev : Event} (h : Tracks conf a base w)
    (hev : w.unsent a = [] →
      a.applied (lidPresent conf) (w.value a) (w.value a) ev = w.value a) :
    Tracks conf a base { w with queue := w.queue ++ [ev] } := by
  intro hsent
  obtain ⟨hfold, hseen⟩ := h hsent
  refine ⟨?_, hseen⟩
  rw [List.foldl_append, List.foldl_cons, List.foldl_nil]
  exact (congrArg (fun v => a.applied (lidPresent conf) (w.value a) v ev) hfold).trans (hev hsent)

/-- An event that does not matter to the axes may be queued. -/
theorem Settles.other {ev : Event} (hw : Settles conf known axes w) (hev : ev.incidental = true) :
    Settles conf known axes { w with queue := w.queue ++ [ev] } :=
  ⟨fun a => (hw.tracks a).snoc fun _ => (Axis.applied_incidental hev _ _).elim id id,
    hw.last, hw.lidless, hw.pass⟩

/-- What a pass has read of an axis it had read before, or finds now. -/
theorem seeing_of_truthful {e : Eff} {b : e.Ans} (h : Truthful conf w e b) {a : Axis}
    (hseen : ∀ v ∈ w.seen a, v = w.value a) : ∀ v ∈ seeing w.seen e b a, v = w.value a := by
  have hupdate : ∀ (a₀ : Axis) (o : Option a₀.Val), (∀ v ∈ o, v = w.value a₀) →
      ∀ v ∈ Function.update w.seen a₀ o a, v = w.value a := by
    intro a₀ o ho
    by_cases ha : a = a₀
    · subst ha
      rwa [Function.update_self]
    · rwa [Function.update_of_ne ha]
  cases e with
  | lidClosed =>
    obtain rfl : b = some (w.value .lid) := h
    exact hupdate _ _ fun v hv => (Option.some.inj hv).symm
  | lockedHint =>
    obtain rfl : b = some (w.value .locked) := h
    exact hupdate _ _ fun v hv => (Option.some.inj hv).symm
  | onAcSysfs =>
    obtain rfl : b = some (w.value .ac) := h
    exact hupdate _ _ fun v hv => (Option.some.inj hv).symm
  | listInhibitors =>
    obtain ⟨rows, rfl, hrows⟩ := h
    exact hupdate _ _ fun v hv => (Option.some.inj hv).symm.trans hrows
  | monitors =>
    obtain ⟨monitors, rfl, hcount⟩ := h
    exact hupdate _ _ fun v hv => (Option.some.inj hv).symm.trans (hcount 0)
  | sendEvent ev => exact fun v hv => absurd hv (by simp [seeing])
  | _ => exact hseen

/-- The tasks keep what settles. -/
theorem settles_drift (h : (calm conf).drift w w') (hw : Settles conf known axes w) :
    Settles conf known axes w' := by
  obtain ⟨hstep, hcalm⟩ := h
  cases hstep with
  | change a v hlid =>
    refine ⟨fun a' => ?_, fun a' u hu => ?_, fun hp => ?_, hw.pass⟩
    · by_cases ha : a' = a
      · subst ha
        intro hsent
        simp at hsent
      · have h := hw.tracks a'
        simpa [Tracks, Function.update_of_ne ha] using h
    · by_cases ha : a' = a
      · subst ha
        simpa using hu.symm
      · have h := hw.last a'
        simpa [Function.update_of_ne ha] using h u (by simpa [Function.update_of_ne ha] using hu)
    · have ha : Axis.lid ≠ a := fun h => by simp [hlid h.symm] at hp
      simpa [Function.update_of_ne ha] using hw.lidless hp
  | @report a v u rest ev hunsent hval hev =>
    -- The last report of an axis is of what is there now.
    have hlast : rest = [] → u = w.value a := by
      rintro rfl
      have hv : v = w.value a := hw.last a v (by simp [hunsent])
      exact hval.elim (fun h => h.trans hv) id
    have hlid : a = .lid → lidPresent conf = true := by
      rintro rfl
      refine Bool.of_not_eq_false fun hp => ?_
      rw [(hw.lidless hp).2] at hunsent
      exact absurd hunsent (by simp)
    refine ⟨fun a' => ?_, fun a' => ?_, fun hp => ?_, hw.pass⟩
    · by_cases ha : a' = a
      · subst ha
        intro hsent
        have hrest : rest = [] := by simpa using hsent
        refine ⟨?_, hcalm a' (by simp [hunsent]) hsent⟩
        rw [List.foldl_append, List.foldl_cons, List.foldl_nil]
        obtain rfl : u = w.value a' := hlast hrest
        exact Axis.applied_reports hev hlid _
      · have h := (hw.tracks a').snoc fun _ =>
          Axis.applied_reports_ne hev ha _ _
        simpa [Tracks, Function.update_of_ne ha] using h
    · by_cases ha : a' = a
      · subst ha
        intro x hx
        have hx' : x ∈ rest.getLast? := by simpa using hx
        refine hw.last a' x ?_
        rw [hunsent]
        cases rest with
        | nil => simp at hx'
        | cons y ys => simpa using hx'
      · simpa [Function.update_of_ne ha] using hw.last a'
    · have ha : Axis.lid ≠ a := fun h => by simp [hlid h.symm] at hp
      simpa [Function.update_of_ne ha] using hw.lidless hp
  | other hev => exact hw.other hev
  | start reasons hpass =>
    exact ⟨fun a hsent => ⟨(hw.tracks a hsent).1, by simp⟩, hw.last, hw.lidless,
      pass_delivers conf reasons _⟩
  | @work r k b hpass hans =>
    obtain ⟨hover, hrest⟩ :=
      (show Delivers conf w.seen (.call r k) from hpass ▸ hw.pass) w.seen .refl
    have hdelivers : Delivers conf (seeing w.seen r.2 b) (k b) := hrest b _ ⟨⟨w, hans⟩, rfl⟩
    have hkeep : w.sent r.2 = w → Settles conf known axes
        { w.sent r.2 with pass := k b, seen := seeing w.seen r.2 b } := by
      intro hsent
      rw [hsent]
      exact ⟨fun a hu => ⟨(hw.tracks a hu).1, seeing_of_truthful hans (hw.tracks a hu).2⟩,
        hw.last, hw.lidless, hdelivers⟩
    obtain ⟨s, e⟩ := r
    cases e with
    | sendEvent ev =>
      obtain ⟨snap, rfl, hagrees⟩ := hover ev rfl
      -- The snapshot has of each axis what the pass has read of it, which is what is there now.
      have hsnap : ∀ a, Tracks conf a (if a ∈ known then axes a else w.value a)
          { w with queue := w.queue ++ [.reconcileTick snap] } := by
        refine fun a => (hw.tracks a).snoc fun hu => ?_
        rw [hagrees a]
        cases hs : w.seen a with
        | none => rfl
        | some v => exact (hw.tracks a hu).2 v hs
      exact ⟨fun a hu => ⟨(hsnap a hu).1, by simp [seeing]⟩, hw.last, hw.lidless, hdelivers⟩
    | _ => exact hkeep rfl

end Races

end Hyprstate
