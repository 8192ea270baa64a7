import Mathlib.Logic.Function.Iterate
import Hyprstate.Reconcile.Races

/-!
# The context in step with the world

The dispatcher's side of the race with the reconciler: the start and each event keep `Synced`, so
that a run whose steps are calm is `InSync` whenever the world rests.
-/

namespace Hyprstate

open Reactive Process

namespace Races

variable {conf : PowerConf} {known : List Axis} {axes : (a : Axis) → a.Val} {w w' : Races}

/-- A request keeps what settles, unless it sends an event that matters. -/
theorem settles_answer {r : Context × Eff} {b : stamped Eff.Ans r} (hw : Settles conf known axes w)
    (he : ∀ ev, r.2 = .sendEvent ev → ev.incidental = true)
    (h : (calm conf).answer r w b w') : Settles conf known axes w' := by
  obtain ⟨c, e⟩ := r
  obtain ⟨⟨-, rfl⟩, -⟩ := h
  cases e with
  | sendEvent ev => exact hw.other (he ev rfl)
  | _ => exact hw

/-- What is tracked may be given another way. -/
theorem Settles.congr {known' : List Axis} {axes' : (a : Axis) → a.Val}
    (hw : Settles conf known axes w) (hknown : ∀ a, a ∈ known' ↔ a ∈ known)
    (haxes : ∀ a ∈ known, axes' a = axes a) : Settles conf known' axes' w := by
  refine ⟨fun a => ?_, hw.last, hw.lidless, hw.pass⟩
  have ht := hw.tracks a
  by_cases ha : a ∈ known
  · rw [if_pos ha] at ht
    rwa [if_pos ((hknown a).mpr ha), haxes a ha]
  · rw [if_neg ha] at ht
    rwa [if_neg fun h => ha ((hknown a).mp h)]

/-- An axis is read. -/
theorem Settles.read {axes' : (a : Axis) → a.Val} {a : Axis} (hw : Settles conf known axes w)
    (ha : a ∉ known) (hread : axes' a = w.value a) (haxes : ∀ a ∈ known, axes' a = axes a) :
    Settles conf (a :: known) axes' w := by
  refine ⟨fun a' => ?_, hw.last, hw.lidless, hw.pass⟩
  have ht := hw.tracks a'
  by_cases ha' : a' ∈ known
  · rw [if_pos ha'] at ht
    rwa [if_pos (List.mem_cons_of_mem _ ha'), haxes a' ha']
  · rw [if_neg ha'] at ht
    by_cases heq : a' = a
    · subst heq
      rwa [if_pos List.mem_cons_self, hread]
    · rwa [if_neg (by simp [heq, ha'])]

/-- All axes. -/
def allAxes : List Axis := [.monitors, .lid, .locked, .inhibitor, .ac]

/-- The list has every axis. -/
theorem mem_allAxes (a : Axis) : a ∈ allAxes := by
  cases a <;> decide

/-- An event is taken off the queue. It is applied to the axes, where they are known after it. -/
theorem Settles.taken {axes' : (a : Axis) → a.Val} {ev : Event} (hw : Settles conf allAxes axes w)
    (h : deliver w ev w')
    (haxes : ∀ a, a.applied (lidPresent conf) (w.value a) (axes a) ev =
      if a ∈ known then axes' a else w.value a) : Settles conf known axes' w' := by
  obtain ⟨hhead, rfl⟩ := h
  refine ⟨fun a hu => ?_, hw.last, hw.lidless, hw.pass⟩
  obtain ⟨hfold, hseen⟩ := hw.tracks a hu
  refine ⟨?_, hseen⟩
  rw [if_pos (mem_allAxes a)] at hfold
  cases hq : w.queue with
  | nil => simp [hq] at hhead
  | cons ev' rest =>
    obtain rfl : ev' = ev := by simpa [hq] using hhead
    rw [hq, List.foldl_cons, haxes a] at hfold
    simpa [hq] using hfold

/-- The invariant of the dispatcher at rest. -/
def Synced (conf : PowerConf) (c : Context) (w : Races) : Prop :=
  c.lidPresent = lidPresent conf ∧ Settles conf allAxes c.axis w

/-- In sync with what is queued, and so in sync. -/
theorem Synced.inSync {c : Context} (h : Synced conf c w) : InSync c w := by
  intro hu _ hqueue a
  have hfold := (h.2.tracks a (hu a)).1
  rwa [hqueue, if_pos (mem_allAxes a)] at hfold

end Races

section

open Races

variable (fx : Effectors) {conf : PowerConf} {known : List Axis} {axes : (a : Axis) → a.Val}
  {w : Races}

/-- A piece that sends no report keeps what is tracked. -/
theorem unreported {α : Type} {x : Daemon α} {c : Context} {rs : List Resource}
    {Q : α → Context → Prop} (hx : Meets x c (fun _ e => e.resource ∈ rs) Q)
    (hrs : Resource.queue ∉ rs) (hw : Settles conf known axes w) :
    Wp (calm conf) (fun _ _ _ => True)
      (fun a c' w' => Q a c' ∧ Settles conf known axes w') x c w := by
  refine (wp_of_meets (J := Settles conf known axes) hx hw (fun _ _ => settles_drift) ?_).mono
    (fun _ _ _ _ => trivial) fun _ _ _ h => h
  rintro s e w b w' he hans hw
  refine settles_answer hw ?_ hans
  rintro ev rfl
  exact absurd he hrs

/-- What follows the count in the arm of a hotplug, and the tail. -/
theorem hotplug_rest (c : Context) (ev : Event) (hev : ev ≠ .timerExpired) :
    Meets (do
        Effectors.scheduleProfileReconcile
        Effectors.requestReconcile .monitorHotplug
        fx.dispatchTail ev
        fx.syncWaybar) c (fun _ e => e.resource ∈ eventResources)
      fun _ c' => c'.inputs = c.inputs := by
  refine (weaken (scheduleProfileReconcile_spec c) (by simp [eventResources])).bind ?_
  rintro _ _ ⟨t, rfl⟩
  refine (weaken (requestReconcile_spec _ _) (by simp [eventResources])).bind ?_
  rintro _ _ rfl
  refine ((dispatchTail_spec fx _ ev hev).mono (fun _ _ h => h.1) fun _ _ => id).bind ?_
  rintro _ c₁ ⟨hin, -, -⟩
  refine (weaken (syncWaybar_spec fx c₁) (by simp [eventResources])).imp ?_
  rintro _ _ ⟨v, rfl⟩
  exact hin

/-- One handler keeps it. -/
theorem handle_synced (c : Context) (ev : Event) {w' : Races} (hw : Synced conf c w)
    (h : deliver w ev w') :
    Wp (calm conf) (fun _ _ _ => True) (fun _ c' w' => Synced conf c' w') (fx.handle ev) c w' := by
  obtain ⟨hlid, hw⟩ := hw
  by_cases hev : ∀ added name, ev ≠ .monitorHotplug added name
  · have htaken : Settles conf allAxes
        (fun a => a.applied (lidPresent conf) (w.value a) (c.axis a) ev) w' :=
      hw.taken h fun a => (if_pos (mem_allAxes a)).symm
    refine (unreported ((handle_spec fx c ev).mono (fun _ _ h => h.1) fun _ _ => id)
      (by split_ifs <;> simp [eventResources]) htaken).mono (fun _ _ _ => id) ?_
    rintro _ c' w₁ ⟨hd, hw₁⟩
    refine ⟨hd.lidPresent.trans hlid, hw₁.congr (fun _ => Iff.rfl) fun a _ => ?_⟩
    rw [hd.axis hev a, hlid]
  · push Not at hev
    obtain ⟨added, name, rfl⟩ := hev
    -- Until the count is read, the monitors are what the world has.
    have htaken : Settles conf [.lid, .locked, .inhibitor, .ac] c.axis w' :=
      hw.taken h fun a => by cases a <;> rfl
    simp only [Effectors.handle, Effectors.dispatch, Effectors.dispatchUpdate,
      Hyprctl.extMonitorCount, bind_assoc]
    rw [wp_get_bind]
    refine (wp_ask_bind (e := Eff.monitors)).mpr fun w₁ hdrift => ⟨trivial, ?_⟩
    rintro _ w₂ ⟨⟨⟨monitors, rfl, hcount⟩, hsent⟩, -⟩
    have hread : Settles conf allAxes
        { c with extMonCount := extMonitorCountIn (some monitors) c.extMonCount }.axis w₂ :=
      hsent ▸ (hdrift.keeps (fun _ _ => settles_drift) htaken).read (a := .monitors) (by simp)
        (hcount c.extMonCount) fun a ha => by cases a <;> first | rfl | exact absurd ha (by simp)
    rw [pure_bind, wp_modify_bind]
    refine (unreported (hotplug_rest fx _ (.monitorHotplug added name) (by simp))
      (by simp [eventResources]) hread).mono (fun _ _ _ => id) ?_
    rintro _ c' w₃ ⟨hin, hw₃⟩
    refine ⟨(congrArg Inputs.lidPresent hin).trans hlid, hw₃.congr (fun _ => Iff.rfl) fun a _ => ?_⟩
    exact congrArg (fun i : Inputs => i.axis a) hin

/-! ### The start -/

/-- A request that sends nothing goes on with its answer in a world it finds. -/
theorem wp_request {e : Eff} {f : e.Ans → Daemon Unit} {c : Context}
    {Q : Unit → Context → Races → Prop} (he : e.resource ≠ .queue)
    (hw : Settles conf known axes w)
    (hf : ∀ b w', Settles conf known axes w' → Truthful conf w' e b →
      Wp (calm conf) (fun _ _ _ => True) Q (f b) c w') :
    Wp (calm conf) (fun _ _ _ => True) Q (request e >>= f) c w := by
  refine wp_ask_bind.mpr fun w₁ hdrift => ⟨trivial, fun b w₂ hans => ?_⟩
  have hw₁ : Settles conf known axes w₁ := hdrift.keeps (fun _ _ => settles_drift) hw
  have hsame : w₂ = w₁ := by
    refine hans.1.2.trans ?_
    cases e with
    | sendEvent ev => exact absurd rfl he
    | _ => rfl
  exact hsame ▸ hf b w₁ hw₁ hans.1.1

/-- A send of an event that is no report. -/
theorem send_settles {ev : Event} {c : Context} (hev : ev.incidental = true)
    (hw : Settles conf known axes w) :
    Wp (calm conf) (fun _ _ _ => True) (fun _ c' w' => c' = c ∧ Settles conf known axes w')
      (request (.sendEvent ev)) c w := by
  refine (wp_ask (e := Eff.sendEvent ev)).mpr fun w₁ hdrift =>
    ⟨trivial, fun _ w₂ hans w₃ hdrift' => ⟨rfl, hdrift'.keeps (fun _ _ => settles_drift) ?_⟩⟩
  refine settles_answer (hdrift.keeps (fun _ _ => settles_drift) hw) (fun ev' heq => ?_) hans
  obtain rfl : ev = ev' := Eff.sendEvent.inj heq
  exact hev

/-- The seed of the power supply settles its axis. -/
theorem seedPower_settles (c : Context) (hw : Settles conf [] axes w) :
    Wp (calm conf) (fun _ _ _ => True)
      (fun _ c' w' => c'.lidPresent = c.lidPresent ∧ Settles conf [.ac] c'.axis w')
      Effectors.seedPower c w := by
  simp only [Effectors.seedPower]
  refine wp_request (by simp) hw ?_
  rintro _ w₁ hw₁ rfl
  simp only [if_true, bind_assoc]
  refine wp_request (by simp) hw₁ ?_
  rintro _ w₂ hw₂ rfl
  rw [wp_modify_bind]
  have hread : Settles conf [.ac] { c with
      onAc := (Option.map not (some (!w₂.value .ac))).getD c.onAc
      onAcSettled := (Option.map not (some (!w₂.value .ac))).getD c.onAcSettled }.axis w₂ :=
    hw₂.read (by simp) (Bool.not_not _) (by simp)
  refine wp_request (by simp) hread ?_
  intro pct w₃ hw₃ _ w₄ hdrift
  exact ⟨rfl, hdrift.keeps (fun _ _ => settles_drift) hw₃⟩

/-- That of the world settles the lid, the monitors and the inhibitor. -/
theorem seedWorld_settles (c : Context) (hlid : c.lidPresent = lidPresent conf)
    (hw : Settles conf [.ac] c.axis w) :
    Wp (calm conf) (fun _ _ _ => True)
      (fun _ c' w' => c'.lidPresent = c.lidPresent ∧
        Settles conf [.monitors, .inhibitor, .lid, .ac] c'.axis w')
      Effectors.seedWorld c w := by
  -- The lid is read where there is one, and open elsewhere.
  have hclosed : Wp (calm conf) (fun _ _ _ => True)
      (fun closed c' w' => c' = c ∧
        Settles conf [.lid, .ac] { c with lidClosed := closed.getD false }.axis w')
      (if c.lidPresent then request .lidClosed else pure (some false) : Daemon (Option Bool))
      c w := by
    have hac : ∀ (closed : Bool), ∀ a ∈ [Axis.ac], { c with lidClosed := closed }.axis a =
        c.axis a := by
      intro closed a ha
      obtain rfl := List.mem_singleton.mp ha
      rfl
    rw [wp_ite]
    refine ⟨fun hp => ?_, fun hp w₁ hdrift => ⟨rfl, ?_⟩⟩
    · refine (wp_ask (e := Eff.lidClosed)).mpr fun w₁ hdrift => ⟨trivial, ?_⟩
      rintro _ w₂ ⟨⟨rfl, hsent⟩, -⟩ w₃ hdrift'
      refine ⟨rfl, hdrift'.keeps (fun _ _ => settles_drift) ?_⟩
      have hsame : w₂ = w₁ := hsent
      rw [hsame]
      exact (hdrift.keeps (fun _ _ => settles_drift) hw).read (by simp) rfl (hac _)
    · have hw₁ : Settles conf [.ac] c.axis w₁ := hdrift.keeps (fun _ _ => settles_drift) hw
      have hno : lidPresent conf = false := by simpa [hlid] using hp
      exact hw₁.read (by simp) (hw₁.lidless hno).1.symm (hac _)
  simp only [Effectors.seedWorld, logindRealInhibitorActive, Hyprctl.waylandIdleInhibited,
    Hyprctl.extMonitorCount, bind_assoc, pure_bind]
  rw [wp_get_bind]
  refine hclosed.bind ?_
  rintro closed c w₁ ⟨rfl, hw₁⟩
  rw [wp_modify_bind]
  refine wp_request (by simp) hw₁ ?_
  rintro _ w₂ hw₂ ⟨rows, rfl, hrows⟩
  rw [wp_modify_bind]
  -- Each read settles its axis and leaves those that are settled.
  have hinh : Settles conf [.inhibitor, .lid, .ac]
      { c with lidClosed := closed.getD false, logindInhibitor := logindHasRealIdleBlock rows }.axis
      w₂ :=
    hw₂.read (by simp) hrows fun a ha => by cases a <;> first | rfl | exact absurd ha (by simp)
  refine wp_request (by simp) hinh ?_
  intro clients w₃ hw₃ _
  rw [wp_modify_bind]
  refine wp_request (by simp) hw₃ ?_
  rintro _ w₄ hw₄ ⟨monitors, rfl, hcount⟩ w₅ hdrift
  refine ⟨rfl, hdrift.keeps (fun _ _ => settles_drift) ?_⟩
  exact hw₄.read (by simp) (hcount 0) fun a ha => by
    cases a <;> first | rfl | exact absurd ha (by simp)

/-- The seeds together settle all of them. -/
theorem seedContext_settles (c : Context) (hs : fx.session = true)
    (hlid : c.lidPresent = lidPresent conf) (hw : Settles conf [] axes w) :
    Wp (calm conf) (fun _ _ _ => True) (fun _ c' w' => Synced conf c' w')
      (fx.seedContext conf) c w := by
  -- The list of axes still to be read shrinks seed by seed.
  rw [Effectors.seedContext]
  refine (seedPower_settles c hw).bind ?_
  rintro _ c₁ w₁ ⟨hlid₁, hw₁⟩
  refine (unreported (discoverBacklight_spec c₁) (by simp) hw₁).bind ?_
  rintro _ _ w₂ ⟨⟨b, rfl⟩, hw₂⟩
  refine (unreported (seedKbd_spec _ conf) (by simp) hw₂).bind ?_
  rintro _ _ w₃ ⟨⟨k, rfl⟩, hw₃⟩
  refine (unreported (batteryLowRequestCheck_spec fx _) (by simp) hw₃).bind ?_
  rintro _ _ w₄ ⟨⟨r, rfl, -⟩, hw₄⟩
  refine (seedWorld_settles _ (by exact hlid₁.trans hlid) (by exact hw₄)).bind ?_
  rintro _ c₅ w₅ ⟨hlid₅, hw₅⟩
  refine (unreported (seedProfile_spec c₅) (by simp) hw₅).bind ?_
  rintro _ _ w₆ ⟨⟨n, rev, e, rfl⟩, hw₆⟩
  -- The seeds that only queue an event read no axis.
  refine (send_settles (c := _) (by rfl) hw₆).bind ?_
  rintro _ _ w₇ ⟨rfl, hw₇⟩
  refine wp_request (by simp) hw₇ ?_
  intro word w₈ hw₈ _
  refine (send_settles (c := _) (by rfl) hw₈).bind ?_
  rintro _ _ w₉ ⟨rfl, hw₉⟩
  rw [if_pos hs]
  refine wp_request (by simp) hw₉ ?_
  rintro _ w₁₀ hw₁₀ rfl
  rw [wp_modify_bind]
  -- The lock is read last.
  have hlocked : Settles conf [.locked, .monitors, .inhibitor, .lid, .ac]
      { c₅ with locked := w₁₀.value .locked }.axis w₁₀ :=
    hw₁₀.read (by simp) rfl fun a ha => by cases a <;> first | rfl | exact absurd ha (by simp)
  refine (wp_ask (e := Eff.lockedSend _)).mpr fun w₁₁ hdrift =>
    ⟨trivial, fun _ w₁₂ hans w₁₃ hdrift' => ?_⟩
  have hdone := hdrift'.keeps (fun _ _ => settles_drift)
    (settles_answer (hdrift.keeps (fun _ _ => settles_drift) hlocked) (by simp) hans)
  exact ⟨hlid₅.trans (hlid₁.trans hlid),
    hdone.congr (fun a => by cases a <;> simp [mem_allAxes]) fun a _ => rfl⟩

/-- The start ends in sync. -/
theorem boot_synced (hs : fx.session = true) (value : (a : Axis) → a.Val)
    (hlid : lidPresent conf = false → value .lid = false) :
    Wp (calm conf) (fun _ _ _ => True) (fun _ c' w' => Synced conf c' w') fx.boot {}
      { value := value } := by
  -- Nothing is known at the start, and so nothing is out of sync.
  have hstart : Settles conf [] value { value := value } :=
    ⟨fun a _ => ⟨rfl, by simp⟩, by simp, fun hp => ⟨hlid hp, rfl⟩, fun _ _ => trivial⟩
  -- The inhibitor's answer decides whether there is anything to settle.
  have hheld : ∀ (c : Context) (w : Races), Settles conf [] value w →
      Wp (calm conf) (fun _ _ _ => True)
        (fun held c' w' => held = true ∧ c' = c ∧ Settles conf [] value w')
        (if fx.shadow || !c.lidPresent then pure true else request .inhibitLidSwitch : Daemon Bool)
        c w := by
    intro c w hw
    rw [wp_ite]
    refine ⟨fun _ w₁ hdrift => ⟨rfl, rfl, hdrift.keeps (fun _ _ => settles_drift) hw⟩, fun _ => ?_⟩
    refine (wp_ask (e := Eff.inhibitLidSwitch)).mpr fun w₁ hdrift => ⟨trivial, ?_⟩
    intro held w₂ hans w₃ hdrift'
    have hw₂ : Settles conf [] value w₂ :=
      settles_answer (hdrift.keeps (fun _ _ => settles_drift) hw) (by simp) hans
    exact ⟨hans.1.1, rfl, hdrift'.keeps (fun _ _ => settles_drift) hw₂⟩
  simp only [Effectors.boot, Effectors.setup, Effectors.loadConf, bind_assoc]
  refine wp_request (by simp) hstart ?_
  rintro _ w₁ hw₁ rfl
  rw [wp_modify_bind, pure_bind]
  refine wp_request (by simp) hw₁ ?_
  intro removed w₂ hw₂ _
  rw [wp_get_bind]
  refine (hheld _ _ hw₂).bind ?_
  rintro _ c w₃ ⟨rfl, hc, hw₃⟩
  rw [wp_bind, wp_when]
  refine ⟨fun _ => ?_, by simp⟩
  refine (seedContext_settles fx c hs (by rw [hc]) hw₃).mono (fun _ _ _ => id) ?_
  rintro _ c₁ w₄ ⟨hlid₁, hw₄⟩
  rw [pure_bind, wp_when]
  refine ⟨fun _ => ?_, by simp⟩
  refine (unreported ((startup_spec fx c₁).mono (fun _ _ h => h.1) fun _ _ => id)
    (by simp [eventResources]) hw₄).mono (fun _ _ _ => id) ?_
  rintro _ c₂ w₅ ⟨⟨hin, -⟩, hw₅⟩
  refine ⟨(congrArg Inputs.lidPresent hin).trans hlid₁, hw₅.congr (fun _ => Iff.rfl) fun a _ => ?_⟩
  exact congrArg (fun i : Inputs => i.axis a) hin

/-! ## Runs -/

/-- The dispatcher starts in a world with these values, where nothing is under way. -/
def raceStart (value : (a : Axis) → a.Val) : Config Context Eff Eff.Ans Races :=
  ⟨fx.boot.run {}, { value := value }⟩

/-- In every run whose steps are calm, no pass undoes a newer event. -/
theorem inSync_kept (hs : fx.session = true) {value : (a : Axis) → a.Val}
    (hlid : lidPresent conf = false → value .lid = false) {c : Context} {w : Races}
    (h : Config.Reaches (calm conf) deliver fx.handle (raceStart fx value) (Config.idle c w)) :
    InSync c w := by
  have htake : ∀ (c : Context) (w : Races) (ev : Event) (w' : Races), Synced conf c w →
      deliver w ev w' →
      Wp (calm conf) (fun _ _ _ => True) (fun _ c' w' => Synced conf c' w') (fx.handle ev) c w' :=
    fun c _ ev _ hw hev => handle_synced fx c ev hw hev
  have hinit : (raceStart fx value).task.Wp (calm conf) (fun _ _ => True)
      (fun r w => Synced conf r.2 w) (raceStart fx value).world := boot_synced fx hs value hlid
  exact (Config.inv_of_reaches_idle (s := c) (w := w) htake hinit h).inSync

end

/-! ## Losing the race -/

/-- The answers of an undocked laptop that nothing holds awake. -/
def Races.undocked (w : Races) : (e : Eff) → e.Ans
  | .upower => true
  | .lidClosed => some (w.value .lid)
  | .lockedHint => some (w.value .locked)
  | .listInhibitors => some []
  | .monitors => some []
  | .onAcSysfs => some (w.value .ac)
  | .onBattery => some (!w.value .ac)
  | e => e.quiet

/-- The undocked machine answers with what is there. -/
theorem Races.undocked_truthful {w : Races} (hinh : w.value .inhibitor = false)
    (hmon : w.value .monitors = 0) (e : Eff) : Truthful {} w e (w.undocked e) := by
  cases e with
  | listInhibitors => exact ⟨[], rfl, hinh.symm⟩
  | monitors => exact ⟨[], rfl, fun _ => hmon.symm⟩
  | lidClosed | lockedHint | onAcSysfs | onBattery | loadPowerConf | inhibitLidSwitch
  | upower => rfl
  | _ => trivial

/-- The context and the world after a piece of the dispatcher's code. -/
def Races.after (x : Daemon Unit) (c : Context) (w : Races) : Context × Races :=
  let r := (x.run c).exec (fun r w => (w.undocked r.2, w.sent r.2)) w
  (r.1.2, r.2.1)

/-- The pass in progress makes its next request. -/
def Races.stepped (w : Races) : Races :=
  match w.pass with
  | .ret _ => w
  | .call r k =>
    let b := w.undocked r.2
    { w.sent r.2 with pass := k b, seen := seeing w.seen r.2 b }

/-- The values of a laptop with its lid open. -/
def lidUp : (a : Axis) → a.Val
  | .monitors => 0
  | .ac => true
  | .lid | .locked | .inhibitor => false

open Races in
/-- What the dispatcher does against those answers is reachable. -/
theorem reaches_after {D : Races → Races → Prop} {fx : Effectors} {c : Context} {w : Races}
    {x : Daemon Unit} (hinh : w.value .inhibitor = false) (hmon : w.value .monitors = 0) :
    Config.Reaches ((world {}).under D fun _ _ => True) deliver fx.handle ⟨x.run c, w⟩
      (Config.idle (after x c w).1 (after x c w).2) := by
  have hanswer : ∀ (r : Context × Eff) (w : Races),
      w.value .inhibitor = false ∧ w.value .monitors = 0 →
      ((world {}).under D fun _ _ => True).answer r w (w.undocked r.2) (w.sent r.2) ∧
        (w.sent r.2).value .inhibitor = false ∧ (w.sent r.2).value .monitors = 0 := by
    rintro ⟨c, e⟩ w hw
    refine ⟨⟨⟨undocked_truthful hw.1 hw.2 e, rfl⟩, trivial⟩, ?_⟩
    cases e <;> exact hw
  exact Config.reaches_exec hanswer _ _ ⟨hinh, hmon⟩

open Races in
/-- To send an event moves no value. -/
theorem Races.sent_value (w : Races) (e : Eff) : (w.sent e).value = w.value := by
  cases e <;> rfl

/-- Nor does a step of the tasks. -/
theorem Races.stepped_value (w : Races) : w.stepped.value = w.value := by
  unfold stepped
  split
  · rfl
  · exact w.sent_value _

open Races in
/-- A pass against those answers is reachable. -/
theorem drifts_stepped {w : Races} (hinh : w.value .inhibitor = false)
    (hmon : w.value .monitors = 0) (n : Nat) : (world {}).Drifts w (stepped^[n] w) := by
  induction n generalizing w with
  | zero => exact .refl
  | succ n ih =>
    have hstep : (world {}).Drifts w w.stepped := by
      cases hp : w.pass with
      | ret r =>
        have hstay : w.stepped = w := by rw [stepped, hp]
        rw [hstay]
      | call r k =>
        have hgo := Drift.work (w.undocked r.2) hp (undocked_truthful hinh hmon r.2)
        rw [stepped, hp]
        exact .single hgo
    refine hstep.trans (ih ?_ ?_)
    · exact (congrFun (stepped_value w) .inhibitor).trans hinh
    · exact (congrFun (stepped_value w) .monitors).trans hmon

/-- The configuration after the start. -/
def Races.booted : Context × Races :=
  after (Effectors.boot ⟨false, true⟩) {} { value := lidUp }

/-- The dispatcher takes an event. -/
def Races.turned (ev : Event) (p : Context × Races) : Context × Races :=
  after ((⟨false, true⟩ : Effectors).handle ev) p.1 { p.2 with queue := p.2.queue.tail }

open Races in
/-- One turn of the loop. -/
theorem reaches_turned {D : Races → Races → Prop} {p : Context × Races} (ev : Event)
    (hinh : p.2.value .inhibitor = false) (hmon : p.2.value .monitors = 0)
    (hqueue : p.2.queue.head? = some ev) :
    Config.Reaches ((world {}).under D fun _ _ => True) deliver (Effectors.handle ⟨false, true⟩)
      (Config.idle p.1 p.2) (Config.idle (turned ev p).1 (turned ev p).2) :=
  .head (.take ⟨hqueue, rfl⟩) (reaches_after hinh hmon)

/-- The context and the world once the two events of the setup are dispatched. -/
def Races.drained : Context × Races :=
  turned (.powerOverrideChanged none) (turned .monitorsChanged booted)

open Races in
/-- The turns until the queue is empty. -/
theorem reaches_drained {D : Races → Races → Prop} :
    Config.Reaches ((world {}).under D fun _ _ => True) deliver (Effectors.handle ⟨false, true⟩)
      (raceStart ⟨false, true⟩ lidUp) (Config.idle drained.1 drained.2) := by
  have hboot : Config.Reaches ((world {}).under D fun _ _ => True) deliver
      (Effectors.handle ⟨false, true⟩) (raceStart ⟨false, true⟩ lidUp)
      (Config.idle booted.1 booted.2) := reaches_after rfl rfl
  refine (hboot.trans (reaches_turned .monitorsChanged ?_ ?_ ?_)).trans
    (reaches_turned (.powerOverrideChanged none) ?_ ?_ ?_)
  all_goals decide +kernel

open Races in
/-- A laptop started with its lid up is in step once the queue is drained. -/
theorem inSync_kept_lidUp : drained.2.queue = [] ∧ InSync drained.1 drained.2 :=
  ⟨by decide +kernel, inSync_kept ⟨false, true⟩ rfl (by decide) reaches_drained⟩

/-- A pass has read the lid, and no more. -/
def Races.read : Races :=
  stepped { drained.2 with
    pass := (Reconciler.pass true (lidPresent {}) [.safetyTick]).run 0
    seen := fun _ => none }

/-- The lid goes down. -/
def Races.lowered : Races :=
  { read with
    value := Function.update read.value .lid true
    unsent := Function.update read.unsent .lid (read.unsent .lid ++ [true]) }

/-- The lid has reported it. -/
def Races.reported : Races :=
  { lowered with
    unsent := Function.update lowered.unsent .lid []
    queue := lowered.queue ++ [.lid true] }

/-- The pass is done. -/
def Races.raced : Races := stepped^[6] reported

/-- The snapshot of that pass. -/
def staleSnapshot : ReconcileSnapshot where
  reasons := "safety tick"
  locked := some false
  onAc := some true
  dpmsOff := some false

/-- The context and the world once the lid's event and the snapshot are dispatched. -/
def Races.reopened : Context × Races :=
  turned (.reconcileTick staleSnapshot) (turned (.lid true) (drained.1, raced))

open Races in
/-- A snapshot from before the lid closed opens it again. -/
theorem not_inSync : ¬∀ (fx : Effectors) (conf : PowerConf) (value : (a : Axis) → a.Val)
    (c : Context) (w : Races), fx.session = true →
    (lidPresent conf = false → value .lid = false) →
    Config.Reaches (world conf) deliver fx.handle (raceStart fx value) (Config.idle c w) →
    InSync c w := by
  intro h
  have hdrained := Config.reaches_of_under (reaches_drained (D := fun _ _ => True))
  -- The lid is read open and goes down, and its report comes before the tick.
  have hraced : (world {}).Drifts drained.2 raced := by
    have hread : (world {}).Drifts drained.2 read :=
      .head (Drift.start [.safetyTick] rfl)
        (drifts_stepped (by decide +kernel) (by decide +kernel) 1)
    have hlowered : Drift {} read lowered := .change .lid true fun _ => rfl
    have hlid : Axis.Reports .lid true (.lid true) := rfl
    have hreported : Drift {} lowered reported := .report rfl (.inl rfl) hlid
    exact ((hread.tail hlowered).tail hreported).trans
      (drifts_stepped (by decide +kernel) (by decide +kernel) 6)
  have hidle : Config.Reaches (world {}) deliver (Effectors.handle ⟨false, true⟩)
      (Config.idle drained.1 drained.2) (Config.idle drained.1 raced) :=
    Config.reaches_of_drifts hraced
  have hreopened : Config.Reaches ((world {}).under (fun _ _ => True) fun _ _ => True) deliver
      (Effectors.handle ⟨false, true⟩) (Config.idle drained.1 raced)
      (Config.idle reopened.1 reopened.2) := by
    refine (reaches_turned (p := (drained.1, raced)) (.lid true) ?_ ?_ ?_).trans
      (reaches_turned (.reconcileTick staleSnapshot) ?_ ?_ ?_)
    all_goals decide +kernel
  have hsync := h ⟨false, true⟩ {} lidUp _ _ rfl (by decide)
    ((hdrained.trans hidle).trans (Config.reaches_of_under hreopened))
  -- The tick that comes last carries the older reading.
  have hopen : reopened.1.axis .lid = true := by
    refine (hsync (fun a => ?_) ⟨_, rfl⟩ (by decide +kernel) .lid).trans (by decide +kernel)
    cases a <;> decide +kernel
  exact absurd hopen (by decide +kernel)

end Hyprstate
