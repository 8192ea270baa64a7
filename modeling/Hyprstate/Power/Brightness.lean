import Hyprstate.Power.PanelTurn

/-!
# Plugging in leaves the user's brightness alone

The daemon caps the panel on battery and puts back what it saved on the next edge to AC. Where the
user moved the panel meanwhile, away from the value that stood after the daemon's last brightness
step, that edge should write nothing. The daemon infers this from `brightness_set`, which a step
that needs no cap does not record, and which a resume overwrites while what was saved is kept.

`Told` is the condition on a turn under which the record tells what stood (`Guarded`), and a run of
such turns spares the user (`sparesUser_of_told`). The user moves the panel at any time, and any
read or write of it may fail.
-/

namespace Hyprstate

open Reactive Process

/-! ## The panel and its edges -/

/-- The panel, since a turn began: the level it shows, whether the daemon asked for a write, and
whether the user moved it or one of the daemon's reads or writes failed. -/
structure Panel where
  level : Nat
  written : Bool := false
  disturbed : Bool := false

namespace Panel

/-- A read answers the level or fails, and a write sets it or fails. -/
def Answer (r : Context × Eff) (w : Panel) (b : stamped Eff.Ans r) (w' : Panel) : Prop :=
  match r, b with
  | (_, .readBrightness _), read =>
    read = some w.level ∧ w' = w ∨ read = none ∧ w' = { w with disturbed := true }
  | (_, .setBrightness subsystem _ value), ok =>
    w' = if subsystem ≠ "backlight" then w
      else if ok then { w with level := value, written := true }
      else { w with written := true, disturbed := true }
  | _, _ => w' = w

/-- The user moves the panel at any time. -/
def world : World (Context × Eff) (stamped Eff.Ans) Panel where
  drift w w' := ∃ level, w' = { w with level := level, disturbed := true }
  answer := Answer

/-- Nobody but the daemon moves the panel, and it does not fail. -/
def calm : World (Context × Eff) (stamped Eff.Ans) Panel where
  drift _ _ := False
  answer r w b w' := Answer r w b w' ∧ w'.disturbed = false

end Panel

/-- An edge of the base state from AC to battery. -/
def unplugs : Option BaseState → Option BaseState → Bool
  | some prev, some base => decide (acAxis prev = .ac ∧ acAxis base = .battery)
  | _, _ => false

/-- An edge from battery to AC. -/
def plugsIn : Option BaseState → Option BaseState → Bool
  | some prev, some base => decide (acAxis prev = .battery ∧ acAxis base = .ac)
  | _, _ => false

/-- An edge with a brightness step: an unplug, or the entry of battery-low. -/
def limits : Option BaseState → Option BaseState → Bool
  | some prev, some base =>
    unplugs (some prev) (some base) || decide (base = .batteryLow ∧ prev ≠ .batteryLow)
  | _, _ => false

/-- The part of the maximum that the step of an edge caps the panel at. -/
def limitDen (base : Option BaseState) : Nat := if base = some .batteryLow then 4 else 2

namespace BrightnessContext

/-- The level is off the value by more than the takeover slack. -/
def Off (b : BrightnessContext) (level value : Nat) : Prop :=
  b.brightnessMax / 200 < ((level : Int) - (value : Int)).natAbs

/-- The level is off the value last set. -/
def TakenOver (b : BrightnessContext) (level : Nat) : Prop :=
  ∃ value, b.brightnessSet = some value ∧ b.Off level value

/-- A step at this level leaves the value that stands on record: the panel is taken over, or it is
capped, or its level is on record already. -/
def Recorded (b : BrightnessContext) (level den : Nat) : Prop :=
  b.TakenOver level ∨ b.brightnessMax / den < level ∨ b.brightnessSet = some level

/-- What is saved is kept for a backlight, and beside the value that stands. -/
def Guarded (b : BrightnessContext) (stood : Option Nat) : Prop :=
  b.brightnessSaved ≠ none → b.brightnessDev ≠ none ∧ b.brightnessSet = stood

end BrightnessContext

/-! ## Runs -/

/-- One turn: the context it began in, the event, the value that stood after the last brightness
step before it, the level that the user has the panel at, and the context and the panel that it
left. -/
structure PanelTurn where
  before : Context
  ev : Event
  stood : Option Nat
  level : Nat
  after : Context
  left : Panel

namespace PanelTurn

variable (t : PanelTurn)

/-- This turn takes the base state from the mains to the battery. -/
def unplugs : Bool := Hyprstate.unplugs t.before.power.powerLastBase t.after.power.powerLastBase

/-- This turn takes it from the battery to the mains. -/
def plugsIn : Bool := Hyprstate.plugsIn t.before.power.powerLastBase t.after.power.powerLastBase

/-- This turn caps the backlight. -/
def limits : Bool := Hyprstate.limits t.before.power.powerLastBase t.after.power.powerLastBase

/-- The value that stands after the turn. -/
def stands : Option Nat := if t.limits then some t.left.level else t.stood

/-- Where the turn plugs in, and the user has the panel off the value that stood, nothing is
written. -/
def SparesUser : Prop :=
  t.plugsIn = true → (∃ value, t.stood = some value ∧ t.before.brightness.Off t.level value) →
    t.left.written = false

/-- The condition: nothing is saved and the turn saves nothing; or nothing disturbs an edge or a
resume, a brightness step leaves the value that stands on record, and a resume finds the value on
record. -/
def Told : Prop :=
  (t.before.brightness.brightnessSaved = none ∧
      (t.unplugs = true → t.before.brightness.brightnessDev = none)) ∨
    (t.limits = true ∨ t.plugsIn = true ∨ t.ev = .resumed → t.left.disturbed = false) ∧
      (t.limits = true →
        t.before.brightness.Recorded t.level (limitDen t.after.power.powerLastBase)) ∧
      (t.ev = .resumed → t.before.brightness.brightnessSet = some t.level)

end PanelTurn

/-- The daemon started and took the turns in order: the context, and the value that stands. Between
the turns the user puts the panel at any level. -/
inductive PanelRun (fx : Effectors) : List PanelTurn → Context → Option Nat → Prop
  | start {c c' : Context} {tr tr' : List DaemonObs} :
      Process.Runs fx.setup {} tr true c → Process.Runs fx.startup c tr' () c' →
      PanelRun fx [] c' none
  | turn {c c' : Context} {ts : List PanelTurn} {stood : Option Nat}
      {tr : List DaemonObs} {w : Panel}
      (ev : Event) (level : Nat) :
      PanelRun fx ts c stood → Execs Panel.world (fx.handle ev) c { level := level } tr () c' w →
      PanelRun fx (ts ++ [⟨c, ev, stood, level, c', w⟩]) c'
        (PanelTurn.stands ⟨c, ev, stood, level, c', w⟩)

/-! ## The effects of an edge -/

/-- The edge to AC puts the panel back, and does nothing else. -/
theorem brightnessEdge_plugsIn (fx : Effectors) {prev base : BaseState}
    (h : plugsIn (some prev) (some base) = true) :
    fx.brightnessEdge prev base = fx.brightnessRestore := by
  cases prev <;> cases base <;> first | rfl | exact absurd h (by decide)

/-- Any other edge runs the steps that it has. -/
theorem brightnessEdge_limits (fx : Effectors) {prev base : BaseState}
    (h : plugsIn (some prev) (some base) = false) :
    fx.brightnessEdge prev base = (do
      when (unplugs (some prev) (some base)) (fx.brightnessLimit true 2)
      when (decide (base = .batteryLow ∧ prev ≠ .batteryLow)) (fx.brightnessLimit false 4)) := by
  have hno : decide (acAxis prev = .battery ∧ acAxis base = .ac) = false := h
  have hoff : when false fx.brightnessRestore = pure () := rfl
  rw [Effectors.brightnessEdge, hno, hoff]
  simp only [bind_pure_unit]
  by_cases hedge : prev = base
  · subst hedge
    cases prev <;> rfl
  · rw [decide_eq_true hedge]
    rfl

/-! ## What the effects may ask, whatever they are answered -/

section

variable (fx : Effectors) (c : Context)

/-- The daemon writes to the panel: in a session, and not in shadow mode. -/
def Effectors.Live : Prop := fx.session = true ∧ fx.shadow = false

/-- A write of the level is made by a live daemon, and records what it set. -/
theorem brightnessWrite_asks (value : Nat) :
    Meets (fx.brightnessWrite value) c (fun _ _ => fx.Live) fun _ c' =>
      ∃ s, c' = { c with brightness := { c.brightness with brightnessSet := s } } := by
  rw [Effectors.brightnessWrite, meets_bind, meets_get]
  cases c.brightness.brightnessDev with
  | none => exact ⟨c.brightness.brightnessSet, rfl⟩
  | some dev =>
    dsimp only
    rw [meets_when]
    refine ⟨fun hsession => ?_, fun _ => ⟨c.brightness.brightnessSet, rfl⟩⟩
    have hdone : ∀ (v : Nat) (ok : Bool), Meets (when ok (modify fun c => { c with
        brightness := { c.brightness with brightnessSet := some v } }) : Daemon Unit) c
        (fun _ _ => fx.Live) fun _ c' =>
          ∃ s, c' = { c with brightness := { c.brightness with brightnessSet := s } } := by
      intro v ok
      rw [meets_when]
      exact ⟨fun _ => ⟨_, rfl⟩, fun _ => ⟨c.brightness.brightnessSet, rfl⟩⟩
    rw [meets_bind, meets_ite]
    exact ⟨fun _ => hdone _ true, fun hshadow => ⟨⟨hsession, by simpa using hshadow⟩, hdone _⟩⟩

/-- A step saves only where it is to, and where there is a backlight. -/
theorem brightnessLimit_asks (save : Bool) (den : Nat) :
    Meets (fx.brightnessLimit save den) c (fun _ e => e.writesPanel → fx.Live) fun _ c' =>
      ∃ b, c' = { c with brightness := b } ∧ b.brightnessDev = c.brightness.brightnessDev ∧
        (c.brightness.brightnessSaved = none → (save = true → c.brightness.brightnessDev = none) →
          b.brightnessSaved = none) := by
  have hread : ∀ c : Context, Meets Effectors.brightnessRead c (fun _ e => e.writesPanel → fx.Live)
      fun cur c' => c' = c ∧ (c.brightness.brightnessDev = none → cur = none) := by
    intro c
    rw [Effectors.brightnessRead, meets_bind, meets_get]
    cases c.brightness.brightnessDev with
    | none => exact ⟨rfl, fun _ => rfl⟩
    | some dev => exact ⟨fun h => absurd h (Eff.not_writesPanel (by simp)), fun _ => ⟨rfl, by simp⟩⟩
  have htook : Meets Effectors.brightnessUserTookOver c (fun _ e => e.writesPanel → fx.Live)
      fun _ c' => c' = c := by
    rw [Effectors.brightnessUserTookOver, meets_bind, meets_get]
    cases c.brightness.brightnessSet with
    | none => rfl
    | some value =>
      refine (hread c).bind ?_
      rintro cur _ ⟨rfl, -⟩
      cases cur <;> rfl
  rw [Effectors.brightnessLimit]
  refine htook.bind ?_
  rintro tookOver c rfl
  -- A panel that is taken over is left to the user, and nothing is saved.
  rw [meets_ite]
  refine ⟨fun _ => ?_, fun _ => ?_⟩
  · rw [Effectors.brightnessYield, meets_bind, meets_modify]
    refine (hread _).bind ?_
    rintro cur _ ⟨rfl, -⟩
    exact ⟨_, rfl, rfl, fun _ _ => rfl⟩
  · refine (hread c).bind ?_
    rintro cur c ⟨rfl, hdev⟩
    cases cur with
    | none => exact ⟨_, rfl, rfl, fun h _ => h⟩
    -- A level was read, so there is a backlight.
    | some cur =>
      have hcap : ∀ c₁ : Context, Meets (do
          let c ← get
          let cap := c.brightness.brightnessMax / den
          when (decide (cur > cap)) (fx.brightnessWrite cap)) c₁
            (fun _ e => e.writesPanel → fx.Live)
          fun _ c' => ∃ s, c' =
            { c₁ with brightness := { c₁.brightness with brightnessSet := s } } := by
        intro c₁
        rw [meets_bind, meets_get, meets_when]
        exact ⟨fun _ => (brightnessWrite_asks fx c₁ _).mono (fun _ _ h _ => h) fun _ _ => id,
          fun _ => ⟨c₁.brightness.brightnessSet, rfl⟩⟩
      dsimp only
      rw [meets_bind, meets_when]
      refine ⟨fun hsave => ?_, fun hsave => ?_⟩
      · rw [meets_modify]
        refine (hcap _).imp ?_
        rintro _ _ ⟨s, rfl⟩
        exact ⟨_, rfl, rfl, fun _ hnone => absurd (hdev (hnone hsave)) (by simp)⟩
      · refine (hcap _).imp ?_
        rintro _ _ ⟨s, rfl⟩
        exact ⟨_, rfl, rfl, fun hnone _ => hnone⟩

/-- The panel is put back only to what was saved. -/
theorem brightnessRestore_asks :
    Meets fx.brightnessRestore c
      (fun _ e => e.writesPanel → fx.Live ∧ c.brightness.brightnessSaved ≠ none)
      fun _ c' => ∃ b, c' = { c with brightness := b } ∧ b.brightnessSaved = none := by
  rw [Effectors.brightnessRestore, meets_bind, meets_get]
  cases hsaved : c.brightness.brightnessSaved with
  | none => exact ⟨c.brightness, rfl, hsaved⟩
  | some saved =>
    have hquery : ∀ {α : Type} {x : Daemon α} {c' : Context} {Q : α → Context → Prop},
        Meets x c' (only [.query]) Q →
        Meets x c' (fun _ e => e.writesPanel → fx.Live ∧ some saved ≠ none) Q := by
      intro α x c' Q h
      exact h.mono (fun _ _ he hwrites => absurd hwrites (not_writesPanel_of_only he (by decide)))
        fun _ _ => id
    dsimp only
    -- What was saved is spent here, whether it is written or not.
    rw [meets_bind, meets_set]
    refine (hquery (brightnessUserTookOver_spec _)).bind ?_
    rintro tookOver _ rfl
    rw [meets_ite]
    refine ⟨fun _ => ?_, fun _ => ?_⟩
    · refine (hquery (brightnessRead_spec _)).bind ?_
      rintro cur _ rfl
      exact ⟨_, rfl, rfl⟩
    · refine (brightnessWrite_asks fx _ _).mono (fun _ _ h _ => ⟨h, by simp⟩) ?_
      rintro _ _ ⟨s, rfl⟩
      exact ⟨_, rfl, rfl⟩

/-- An edge writes the panel in a live daemon, and restores a level that was saved. -/
theorem brightnessEdge_asks (prev base : BaseState) :
    Meets (fx.brightnessEdge prev base) c
      (fun _ e => e.writesPanel → fx.Live ∧
        (plugsIn (some prev) (some base) = true → c.brightness.brightnessSaved ≠ none))
      fun _ c' => ∃ b, c' = { c with brightness := b } ∧
        (c.brightness.brightnessSaved = none →
          (unplugs (some prev) (some base) = true → c.brightness.brightnessDev = none) →
          b.brightnessSaved = none) ∧
        (limits (some prev) (some base) = false → plugsIn (some prev) (some base) = false →
          b = c.brightness) := by
  -- Each step is taken or skipped; one that is skipped leaves the record as it was.
  have hlimit : ∀ (p save : Bool) (den : Nat) (c : Context), Meets
      (when p (fx.brightnessLimit save den)) c
      (fun _ e => e.writesPanel → fx.Live) fun _ c' =>
        ∃ b, c' = { c with brightness := b } ∧ b.brightnessDev = c.brightness.brightnessDev ∧
          (c.brightness.brightnessSaved = none →
            (p = true → save = true → c.brightness.brightnessDev = none) →
              b.brightnessSaved = none) ∧
          (p = false → b = c.brightness) := by
    intro p save den c
    rw [meets_when]
    refine ⟨fun hp => (brightnessLimit_asks fx c save den).imp ?_,
      fun _ => ⟨c.brightness, rfl, rfl, fun h _ => h, fun _ => rfl⟩⟩
    rintro _ _ ⟨b, rfl, hdev, hsaved⟩
    exact ⟨b, rfl, hdev, fun hnone hsave => hsaved hnone (hsave hp),
      fun h => absurd (hp.symm.trans h) (by simp)⟩
  by_cases hin : plugsIn (some prev) (some base) = true
  · rw [brightnessEdge_plugsIn fx hin]
    refine (brightnessRestore_asks fx c).mono ?_ ?_
    · exact fun _ _ h hwrites => ⟨(h hwrites).1, fun _ => (h hwrites).2⟩
    · rintro _ _ ⟨b, rfl, hsaved⟩
      exact ⟨b, rfl, fun _ _ => hsaved, fun _ h => absurd (hin.symm.trans h) (by simp)⟩
  · rw [brightnessEdge_limits fx (by simpa using hin)]
    -- Off the edge to AC every write of a live daemon is allowed.
    have hwrites : ∀ (_ : Context) (e : Eff), (e.writesPanel → fx.Live) → e.writesPanel → fx.Live ∧
        (plugsIn (some prev) (some base) = true → c.brightness.brightnessSaved ≠ none) :=
      fun _ _ h hwrites => ⟨h hwrites, fun h => absurd h hin⟩
    refine ((hlimit _ true 2 c).mono hwrites fun _ _ => id).bind ?_
    rintro _ _ ⟨b, rfl, hdev, hsaved, hsame⟩
    refine ((hlimit _ false 4 _).mono hwrites fun _ _ => id).imp ?_
    rintro _ _ ⟨b', rfl, -, hsaved', hsame'⟩
    refine ⟨b', rfl, fun hnone hunplug => hsaved' (hsaved hnone fun hp _ => hunplug hp)
      (by simp), ?_⟩
    intro hno _
    obtain ⟨hunplugs, hentry⟩ := Bool.or_eq_false_iff.mp hno
    exact (hsame' hentry).trans (hsame hunplugs)

/-- After a resume the level set last is what the backlight reads. -/
theorem brightnessRearm_exact :
    Meets Effectors.brightnessRearm c (only [.query]) fun _ c' =>
      ∃ s, c' = { c with brightness := { c.brightness with brightnessSet := s } } := by
  rw [Effectors.brightnessRearm, meets_bind, meets_get, meets_when]
  refine ⟨fun _ => (brightnessRead_spec c).bind ?_, fun _ => ⟨c.brightness.brightnessSet, rfl⟩⟩
  rintro cur _ rfl
  exact ⟨cur, rfl⟩

/-- Another backlight comes without what was saved for the last one. -/
theorem discoverBacklight_exact :
    Meets Effectors.discoverBacklight c (only [.query]) fun _ c' =>
      c' = c ∨ ∃ b : BrightnessContext, c' = { c with brightness := b } ∧
      b.brightnessSaved = none := by
  rw [Effectors.discoverBacklight, meets_bind, meets_ask]
  refine ⟨by simp [only], fun found => ?_⟩
  rw [meets_bind, meets_get, meets_when]
  exact ⟨fun _ => .inr ⟨_, rfl, rfl⟩, fun _ => .inl rfl⟩

end

/-! ## A turn that may be disturbed -/

/-- A request that does not write the panel leaves the mark. -/
theorem Panel.answer_written {c : Context} {e : Eff} {w w' : Panel} {b : stamped Eff.Ans (c, e)}
    (he : ¬e.writesPanel) (h : Panel.world.answer (c, e) w b w') : w'.written = w.written := by
  cases e with
  | readBrightness dev =>
    rcases h with ⟨-, rfl⟩ | ⟨-, rfl⟩
    · rfl
    · rfl
  | setBrightness subsystem dev value =>
    have hother : subsystem ≠ "backlight" := fun hsame => he ⟨dev, value, by rw [hsame]⟩
    obtain rfl : w' = w := h.trans (if_pos hother)
    rfl
  | _ =>
    obtain rfl : w' = w := h
    rfl

/-- A predicate of the records and the mark is framed. -/
theorem framed_written (R : PanelView → Bool → Prop) :
    Framed Panel.world fun v w => R v w.written where
  drift := by
    rintro v w _ ⟨level, rfl⟩ hw
    exact hw
  answer v c e w b w' he hanswer hw := by
    rw [Panel.answer_written he hanswer]
    exact hw

/-- Requests that write the panel only under a condition write nothing where it fails. -/
theorem wp_unwritten {α : Type} {x : Daemon α} {c : Context} {w : Panel} {P : Prop}
    {Q : α → Context → Prop} (hx : Meets x c (fun _ e => e.writesPanel → P) Q)
    (hw : w.written = false) :
    Wp Panel.world (fun _ _ _ => True)
      (fun a c' w' => Q a c' ∧ (¬P → w'.written = false)) x c w := by
  refine (wp_of_meets (J := fun w' => ¬P → w'.written = false) hx (fun _ => hw) ?_ ?_).mono
    (fun _ _ _ _ => trivial) fun _ _ _ => id
  · rintro w₁ _ ⟨level, rfl⟩ hw₁
    exact hw₁
  · intro c' e w₁ b w₂ hwrites hanswer hw₁ hP
    rw [Panel.answer_written (fun he => hP (hwrites he)) hanswer]
    exact hw₁ hP

/-- What a turn leaves, whatever disturbs it. Where nothing was saved nothing is, unless the turn
unplugs, and nothing is written on the edge to AC; a daemon that does not write writes nothing.
Without an edge and a resume the record is the same, or that of another backlight. -/
structure LeavesPlain (fx : Effectors) (ev : Event) (v₀ v : PanelView) (written : Bool) : Prop where
  saved : v₀.brightness.brightnessSaved = none →
    (unplugs v₀.base v.base = true → v₀.brightness.brightnessDev = none) →
    v.brightness.brightnessSaved = none
  unwritten : ¬fx.Live ∨ plugsIn v₀.base v.base = true ∧ v₀.brightness.brightnessSaved = none →
    written = false
  same : limits v₀.base v.base = false → plugsIn v₀.base v.base = false → ev ≠ .resumed →
    v.brightness = v₀.brightness ∨ v.brightness.brightnessSaved = none

/-- What an event leaves on a panel that may drift. -/
theorem panelRule_plain (fx : Effectors) (ev : Event) (v₀ : PanelView) :
    PanelRule fx Panel.world ev (fun v w => v = v₀ ∧ w.written = false)
      fun v w => LeavesPlain fx ev v₀ v w.written where
  before := framed_written fun v written => v = v₀ ∧ written = false
  after := framed_written (LeavesPlain fx ev v₀)
  rest := by
    rintro v w ⟨rfl, hw⟩
    exact ⟨fun h _ => h, fun _ => hw, fun _ _ _ => .inl rfl⟩
  first := by
    rintro b base w ⟨rfl, hw⟩
    exact ⟨fun h _ => h, fun _ => hw, fun _ _ _ => .inl rfl⟩
  edge := by
    rintro prev base c w ⟨rfl, hw⟩ hbase
    refine (wp_unwritten (P := fx.Live ∧ (plugsIn (some prev) (some base) = true →
      c.brightness.brightnessSaved ≠ none)) (brightnessEdge_asks fx c prev base) hw).mono
      (fun _ _ _ => id) ?_
    rintro _ _ w' ⟨⟨b, rfl, hsaved, hsame⟩, hw'⟩
    unfold Context.panelView
    rw [hbase]
    refine ⟨hsaved, fun h => hw' ?_, fun hlimits hin _ => .inl (hsame hlimits hin)⟩
    rintro ⟨hlive, hin⟩
    -- Only a live daemon writes, and on the edge to AC only what was saved.
    rcases h with h | ⟨hplug, hnone⟩
    · exact h hlive
    · exact hin hplug hnone
  rearm := by
    rintro hev c w ⟨rfl, hw⟩
    refine (wp_unwritten (P := False) ((brightnessRearm_exact c).mono
      (fun _ _ he => not_writesPanel_of_only he (by decide)) fun _ _ => id) hw).mono
      (fun _ _ _ => id) ?_
    rintro _ _ w' ⟨⟨s, rfl⟩, hw'⟩
    exact ⟨fun h _ => h, fun _ => hw' id, fun _ _ hno => absurd hev hno⟩
  discover := by
    rintro - c w ⟨rfl, hw⟩
    refine (wp_unwritten (P := False) ((discoverBacklight_exact c).mono
      (fun _ _ he => not_writesPanel_of_only he (by decide)) fun _ _ => id) hw).mono
      (fun _ _ _ => id) ?_
    rintro _ _ w' ⟨rfl | ⟨b, rfl, hb⟩, hw'⟩
    · exact ⟨fun h _ => h, fun _ => hw' id, fun _ _ _ => .inl rfl⟩
    · exact ⟨fun _ _ => hb, fun _ => hw' id, fun _ _ _ => .inr hb⟩

/-! ## A turn that nothing disturbs -/

/-- A calm panel does not drift. -/
theorem Panel.calm_still (w w' : Panel) : ¬Panel.calm.drift w w' := id

/-- A request that does not write a calm panel leaves it. -/
theorem Panel.answer_calm {c : Context} {e : Eff} {w w' : Panel} {b : stamped Eff.Ans (c, e)}
    (he : ¬e.writesPanel) (h : Panel.calm.answer (c, e) w b w') : w' = w := by
  obtain ⟨hanswer, hcalm⟩ := h
  cases e with
  | readBrightness dev =>
    rcases hanswer with ⟨-, hw⟩ | ⟨-, rfl⟩
    · exact hw
    · cases hcalm
  | setBrightness subsystem dev value =>
    have hother : subsystem ≠ "backlight" := fun hsame => he ⟨dev, value, by rw [hsame]⟩
    exact hanswer.trans (if_pos hother)
  | _ => exact hanswer

/-- Every predicate of a calm panel is framed. -/
theorem framed_calm (R : PanelView → Panel → Prop) : Framed Panel.calm R where
  drift _ w w' hdrift := absurd hdrift (Panel.calm_still w w')
  answer _ _ _ _ _ _ he hanswer hw := by rwa [Panel.answer_calm he hanswer]

/-- A turn that ends undisturbed ran in the calm world. -/
theorem execs_calm {α : Type} {x : Daemon α} {c c' : Context} {w w' : Panel} {tr : List DaemonObs}
    {a : α} (h : Execs Panel.world x c w tr a c' w') (hcalm : w'.disturbed = false) :
    Execs Panel.calm x c w tr a c' w' := by
  -- A disturbance stays on record to the end of the turn, so there was none at any step.
  refine h.retained (J := fun w => w.disturbed = false) ?_ ?_ hcalm
  · rintro w₁ _ ⟨level, rfl⟩ hw
    cases hw
  · intro r w₁ b w₂ hanswer hw
    refine ⟨⟨hanswer, hw⟩, ?_⟩
    obtain ⟨c₁, e⟩ := r
    cases e with
    | readBrightness dev =>
      rcases hanswer with ⟨-, rfl⟩ | ⟨-, rfl⟩
      · exact hw
      · cases hw
    | setBrightness subsystem dev value =>
      obtain rfl : w₂ = _ := hanswer
      revert hw
      split
      · exact id
      · split
        · exact id
        · simp
    | _ =>
      obtain rfl : w₂ = w₁ := hanswer
      exact hw

namespace BrightnessContext

/-- What a step leaves: the level on record, or everything as it was where there is nothing to
cap. -/
structure Limited (b b' : BrightnessContext) (den level level' : Nat) : Prop where
  dev : b'.brightnessDev = b.brightnessDev
  max : b'.brightnessMax = b.brightnessMax
  missing : b.brightnessDev = none → b'.brightnessSaved = b.brightnessSaved
  left : b.brightnessDev ≠ none → b'.brightnessSet = some level' ∨
    b'.brightnessSet = b.brightnessSet ∧ level' = level ∧ ¬b.TakenOver level ∧
      level ≤ b.brightnessMax / den

/-- A cap records the level that stands after it. -/
theorem Limited.recorded {b b' : BrightnessContext} {den level level' : Nat}
    (h : b.Limited b' den level level') (hrec : b.Recorded level den)
    (hdev : b.brightnessDev ≠ none) : b'.brightnessSet = some level' := by
  rcases h.left hdev with hset | ⟨hset, hlevel, hnot, hcap⟩
  · exact hset
  · rcases hrec with hoff | hlow | hsame
    · exact absurd hoff hnot
    · exact absurd hlow (Nat.not_lt.mpr hcap)
    · rw [hset, hsame, hlevel]

/-- A step leaves the next one as good a record. -/
theorem Limited.keeps {b b' : BrightnessContext} {den den' level level' : Nat}
    (h : b.Limited b' den level level') (hrec : b.Recorded level den')
    (hdev : b.brightnessDev ≠ none) : b'.Recorded level' den' := by
  rcases h.left hdev with hset | ⟨hset, hlevel, hnot, -⟩
  · exact .inr (.inr hset)
  · rcases hrec with hoff | hlow | hsame
    · exact absurd hoff hnot
    · exact .inr (.inl (by rwa [h.max, hlevel]))
    · exact .inr (.inr (by rw [hset, hsame, hlevel]))

/-- A cap keeps the guard. -/
theorem Limited.guarded {b b' : BrightnessContext} {den level level' : Nat} {stood : Option Nat}
    (h : b.Limited b' den level level') (hrec : b.Recorded level den) (hguard : b.Guarded stood) :
    b'.Guarded (some level') := by
  intro hsaved
  have hdev : b.brightnessDev ≠ none := by
    intro hnone
    rw [h.missing hnone] at hsaved
    exact (hguard hsaved).1 hnone
  exact ⟨by rwa [h.dev], h.recorded hrec hdev⟩

/-- Two steps in a row, where the first one has a higher cap. -/
theorem Limited.guarded_again {b b' b'' : BrightnessContext} {den den' level level' level'' : Nat}
    {stood : Option Nat} (h : b.Limited b' den level level')
    (h' : b'.Limited b'' den' level' level'') (hrec : b.Recorded level den')
    (hguard : b.Guarded stood) : b''.Guarded (some level'') := by
  intro hsaved
  have hdev : b.brightnessDev ≠ none := by
    intro hnone
    rw [h'.missing (h.dev.trans hnone), h.missing hnone] at hsaved
    exact (hguard hsaved).1 hnone
  have hdev' : b'.brightnessDev ≠ none := by rwa [h.dev]
  exact ⟨by rwa [h'.dev], h'.recorded (h.keeps hrec hdev) hdev'⟩

end BrightnessContext

section

variable (fx : Effectors) (c : Context) (w : Panel)

/-- `brightness_read` on a calm panel gives its level. -/
theorem brightnessRead_calm :
    Wp Panel.calm (fun _ _ _ => True)
      (fun cur c' w' => c' = c ∧ w' = w ∧ cur = c.brightness.brightnessDev.map fun _ => w.level)
      Effectors.brightnessRead c w := by
  rw [Effectors.brightnessRead, wp_get_bind]
  cases c.brightness.brightnessDev with
  | none => exact (wp_still_pure Panel.calm_still).mpr ⟨rfl, rfl, rfl⟩
  | some dev =>
    refine (wp_still_ask Panel.calm_still (e := Eff.readBrightness dev)).mpr ⟨trivial, ?_⟩
    rintro cur w' ⟨⟨rfl, rfl⟩ | ⟨rfl, rfl⟩, hcalm⟩
    · exact ⟨rfl, rfl, rfl⟩
    · cases hcalm

/-- `brightness_user_took_over` compares the level with the last one set. -/
theorem brightnessUserTookOver_calm :
    Wp Panel.calm (fun _ _ _ => True)
      (fun tookOver c' w' => c' = c ∧ w' = w ∧
        (tookOver = true ↔ c.brightness.brightnessDev ≠ none ∧ c.brightness.TakenOver w.level))
      Effectors.brightnessUserTookOver c w := by
  rw [Effectors.brightnessUserTookOver, wp_get_bind]
  cases hset : c.brightness.brightnessSet with
  | none =>
    refine (wp_still_pure Panel.calm_still).mpr ⟨rfl, rfl, by simp, ?_⟩
    rintro ⟨-, value, hvalue, -⟩
    cases hset.symm.trans hvalue
  | some value =>
    refine (brightnessRead_calm c w).bind ?_
    rintro cur c w ⟨rfl, rfl, rfl⟩
    cases hdev : c.brightness.brightnessDev with
    | none => exact (wp_still_pure Panel.calm_still).mpr ⟨rfl, rfl, by simp, fun h =>
      absurd rfl h.1⟩
    | some dev =>
      refine (wp_still_pure Panel.calm_still).mpr ⟨rfl, rfl, ?_⟩
      simp [BrightnessContext.TakenOver, BrightnessContext.Off, hset]

variable {fx} (hlive : fx.Live)
include hlive

/-- What is written is on record. -/
theorem brightnessWrite_calm (value : Nat) :
    Wp Panel.calm (fun _ _ _ => True)
      (fun _ c' w' => ∃ s, c' = { c with brightness := { c.brightness with brightnessSet := s } } ∧
        (c.brightness.brightnessDev = none → s = c.brightness.brightnessSet ∧ w' = w) ∧
        (c.brightness.brightnessDev ≠ none → s = some w'.level))
      (fx.brightnessWrite value) c w := by
  rw [Effectors.brightnessWrite, wp_get_bind]
  cases hdev : c.brightness.brightnessDev with
  | none =>
    exact (wp_still_pure Panel.calm_still).mpr
      ⟨c.brightness.brightnessSet, rfl, fun _ => ⟨rfl, rfl⟩, fun h => absurd rfl h⟩
  | some dev =>
    dsimp only
    rw [hlive.1, hlive.2]
    refine (wp_still_ask_bind Panel.calm_still (e := Eff.setBrightness "backlight" dev _)).mpr
      ⟨trivial, ?_⟩
    rintro ok w' ⟨hanswer, hcalm⟩
    obtain rfl : w' = _ := hanswer
    cases ok with
    | true =>
      intro w' hdrift
      obtain rfl := (World.drifts_iff_of_still Panel.calm_still).mp hdrift
      exact ⟨_, rfl, by simp, fun _ => rfl⟩
    | false => cases hcalm

/-- The cap of a step, on the record that the panel was read for. -/
theorem limitWrite_calm (den : Nat) {b : BrightnessContext} (hdev : b.brightnessDev ≠ none)
    (hnot : ¬b.TakenOver w.level) (hdev₁ : c.brightness.brightnessDev = b.brightnessDev)
    (hmax₁ : c.brightness.brightnessMax = b.brightnessMax)
    (hset₁ : c.brightness.brightnessSet = b.brightnessSet) :
    Wp Panel.calm (fun _ _ _ => True)
      (fun _ c' w' => ∃ b', c' = { c with brightness := b' } ∧ b.Limited b' den w.level w'.level)
        (do
        let c ← get
        let cap := c.brightness.brightnessMax / den
        Process.when (decide (w.level > cap)) (fx.brightnessWrite cap)) c w := by
  rw [wp_get_bind]
  dsimp only
  rw [wp_when]
  refine ⟨fun _ => ?_, fun hlow => ?_⟩
  · refine (brightnessWrite_calm c w hlive _).mono (fun _ _ _ => id) ?_
    rintro _ _ w' ⟨s, rfl, -, hs⟩
    refine ⟨_, rfl, hdev₁, hmax₁, fun h => absurd h hdev, fun h => .inl ?_⟩
    exact hs (by rwa [hdev₁])
  · refine (wp_still_pure Panel.calm_still).mpr
      ⟨_, rfl, hdev₁, hmax₁, fun h => absurd h hdev, fun _ => .inr ⟨hset₁, rfl, hnot, ?_⟩⟩
    rw [← hmax₁]
    simpa using hlow

/-- `brightnessLimit` on a calm panel. -/
theorem brightnessLimit_calm (save : Bool) (den : Nat) :
    Wp Panel.calm (fun _ _ _ => True)
      (fun _ c' w' => ∃ b, c' = { c with brightness := b } ∧
        c.brightness.Limited b den w.level w'.level)
      (fx.brightnessLimit save den) c w := by
  rw [Effectors.brightnessLimit]
  refine (brightnessUserTookOver_calm c w).bind ?_
  rintro tookOver c w ⟨rfl, rfl, htook⟩
  rw [wp_ite]
  refine ⟨fun h => ?_, fun h => ?_⟩
  · -- The panel is left to the user, at the level it is read at.
    obtain ⟨hdev, -⟩ := htook.mp h
    rw [Effectors.brightnessYield, wp_modify_bind]
    refine (brightnessRead_calm _ w).bind ?_
    rintro cur _ w ⟨rfl, rfl, rfl⟩
    intro w' hdrift
    obtain rfl := (World.drifts_iff_of_still Panel.calm_still).mp hdrift
    obtain ⟨dev, hdev⟩ := Option.ne_none_iff_exists'.mp hdev
    exact ⟨_, rfl, rfl, rfl, fun h => absurd (h.symm.trans hdev) (by simp), fun _ =>
      .inl (by simp [hdev])⟩
  · have hnot : c.brightness.brightnessDev ≠ none → ¬c.brightness.TakenOver w.level :=
      fun hdev hoff => h (htook.mpr ⟨hdev, hoff⟩)
    refine (brightnessRead_calm c w).bind ?_
    rintro cur c w ⟨rfl, rfl, rfl⟩
    cases hdev : c.brightness.brightnessDev with
    | none =>
      refine (wp_still_pure Panel.calm_still).mpr ⟨_, rfl, rfl, rfl, fun _ => rfl, ?_⟩
      exact fun h => absurd hdev h
    | some dev =>
      have hdev' : c.brightness.brightnessDev ≠ none := by simp [hdev]
      dsimp only [Option.map_some]
      rw [wp_bind, wp_when]
      -- The unplug's step saves the level before it caps it.
      refine ⟨fun _ => ?_, fun _ => ?_⟩
      · intro w' hdrift
        obtain rfl := (World.drifts_iff_of_still Panel.calm_still).mp hdrift
        exact limitWrite_calm { c with
            brightness := { c.brightness with brightnessSaved := some w'.level } }
          w' hlive den hdev' (hnot hdev') rfl rfl rfl
      · exact (wp_still_pure Panel.calm_still).mpr
          (limitWrite_calm c w hlive den hdev' (hnot hdev') rfl rfl rfl)

/-- The same under a condition. -/
theorem whenLimit_calm (p save : Bool) (den : Nat) :
    Wp Panel.calm (fun _ _ _ => True)
      (fun _ c' w' => ∃ b, c' = { c with brightness := b } ∧
        (p = true → c.brightness.Limited b den w.level w'.level) ∧
        (p = false → b = c.brightness ∧ w' = w))
      (when p (fx.brightnessLimit save den)) c w := by
  rw [wp_when]
  refine ⟨fun hp => (brightnessLimit_calm c w hlive save den).mono
    (fun _ _ _ => id) ?_, fun hp => ?_⟩
  · rintro _ _ w' ⟨b, rfl, hlim⟩
    exact ⟨b, rfl, fun _ => hlim, fun h => absurd (hp.symm.trans h) (by simp)⟩
  · exact (wp_still_pure Panel.calm_still).mpr
      ⟨_, rfl, fun h => absurd (hp.symm.trans h) (by simp), fun _ => ⟨rfl, rfl⟩⟩

/-- What was saved is put back, unless the user took over. -/
theorem brightnessRestore_calm :
    Wp Panel.calm (fun _ _ _ => True)
      (fun _ c' w' => (∃ b, c' = { c with brightness := b } ∧ b.brightnessSaved = none) ∧
        (c.brightness.brightnessSaved = none ∨ c.brightness.TakenOver w.level →
          w'.written = w.written))
      fx.brightnessRestore c w := by
  rw [Effectors.brightnessRestore, wp_get_bind]
  cases hsaved : c.brightness.brightnessSaved with
  | none => exact (wp_still_pure Panel.calm_still).mpr ⟨⟨c.brightness, rfl, hsaved⟩, fun _ => rfl⟩
  | some saved =>
    dsimp only
    rw [wp_set_bind]
    refine (brightnessUserTookOver_calm _ w).bind ?_
    rintro tookOver _ w ⟨rfl, rfl, htook⟩
    rw [wp_ite]
    refine ⟨fun _ => ?_, fun h => ?_⟩
    · refine (brightnessRead_calm _ w).bind ?_
      rintro cur _ w ⟨rfl, rfl, -⟩
      intro w' hdrift
      obtain rfl := (World.drifts_iff_of_still Panel.calm_still).mp hdrift
      exact ⟨⟨_, rfl, rfl⟩, fun _ => rfl⟩
    · refine (brightnessWrite_calm _ w hlive _).mono (fun _ _ _ => id) ?_
      rintro _ _ w' ⟨s, rfl, hmissing, -⟩
      refine ⟨⟨_, rfl, rfl⟩, fun hor => ?_⟩
      -- A panel that is taken over is written only where there is none.
      have hoff : c.brightness.TakenOver w.level := hor.resolve_left (by simp)
      have hdev : c.brightness.brightnessDev = none := by
        by_contra hdev
        exact h (htook.mpr ⟨hdev, hoff⟩)
      rw [(hmissing hdev).2]

/-- The effects of an edge keep what is saved beside the value that stands, and write nothing over
the user on the edge to AC. -/
theorem brightnessEdge_calm {prev base : BaseState} {stood : Option Nat}
    (hguard : c.brightness.Guarded stood) :
    Wp Panel.calm (fun _ _ _ => True)
      (fun _ c' w' => (∃ b, c' = { c with brightness := b } ∧
          ((limits (some prev) (some base) = true →
              c.brightness.Recorded w.level (limitDen (some base))) →
            b.Guarded (if limits (some prev) (some base) then some w'.level else stood))) ∧
        (plugsIn (some prev) (some base) = true →
          c.brightness.brightnessSaved = none ∨ c.brightness.TakenOver w.level →
          w'.written = w.written))
      (fx.brightnessEdge prev base) c w := by
  by_cases hin : plugsIn (some prev) (some base) = true
  · rw [brightnessEdge_plugsIn fx hin]
    refine (brightnessRestore_calm c w hlive).mono (fun _ _ _ => id) ?_
    rintro _ _ w' ⟨⟨b, rfl, hsaved⟩, hw'⟩
    exact ⟨⟨b, rfl, fun _ h => absurd hsaved h⟩, fun _ => hw'⟩
  · rw [brightnessEdge_limits fx (by simpa using hin)]
    refine (whenLimit_calm c w hlive _ true 2).bind ?_
    rintro _ _ w₁ ⟨b₁, rfl, hun, hnot⟩
    refine (whenLimit_calm _ w₁ hlive _ false 4).mono (fun _ _ _ => id) ?_
    rintro _ _ w₂ ⟨b₂, rfl, hlow, hhigh⟩
    refine ⟨⟨b₂, rfl, fun hrec => ?_⟩, fun h => absurd h hin⟩
    have hlimits : limits (some prev) (some base) =
        (unplugs (some prev) (some base) || decide (base = .batteryLow ∧ prev ≠ .batteryLow)) := rfl
    rw [hlimits] at hrec ⊢
    -- Which steps the edge has: neither, that of the entry, that of the unplug, or both.
    cases hunplugs : unplugs (some prev) (some base) with
    | false =>
      obtain ⟨rfl, rfl⟩ := hnot hunplugs
      cases hentry : decide (base = .batteryLow ∧ prev ≠ .batteryLow) with
      | false =>
        obtain ⟨rfl, rfl⟩ := hhigh hentry
        exact hguard
      | true =>
        have hden : limitDen (some base) = 4 := if_pos (by rw [(of_decide_eq_true hentry).1])
        rw [hunplugs, hentry, hden] at hrec
        exact (hlow hentry).guarded (hrec rfl) hguard
    | true =>
      cases hentry : decide (base = .batteryLow ∧ prev ≠ .batteryLow) with
      | false =>
        obtain ⟨rfl, rfl⟩ := hhigh hentry
        have hden : limitDen (some base) = 2 := by
          revert hunplugs hentry
          cases prev <;> cases base <;> decide
        rw [hunplugs, hentry, hden] at hrec
        exact (hun hunplugs).guarded (hrec rfl) hguard
      | true =>
        have hden : limitDen (some base) = 4 := if_pos (by rw [(of_decide_eq_true hentry).1])
        rw [hunplugs, hentry, hden] at hrec
        -- The condition is about the second cap, and the first one keeps it.
        exact (hun hunplugs).guarded_again (hlow hentry) (hrec rfl) hguard

end

/-- What an undisturbed turn leaves, from the record and the level that it began with. -/
def LeavesGuarded (v₀ : PanelView) (stood : Option Nat) (level : Nat) (v : PanelView)
    (w : Panel) : Prop :=
  ((limits v₀.base v.base = true → v₀.brightness.Recorded level (limitDen v.base)) →
      v.brightness.Guarded (if limits v₀.base v.base then some w.level else stood)) ∧
    (plugsIn v₀.base v.base = true →
      v₀.brightness.brightnessSaved = none ∨ v₀.brightness.TakenOver level → w.written = false)

/-- A base state that stays caps nothing. -/
theorem limits_self (base : Option BaseState) : limits base base = false := by
  cases base with
  | none => rfl
  | some base => cases base <;> rfl

/-- What an event leaves on a calm panel. -/
theorem panelRule_calm {fx : Effectors} (hlive : fx.Live) (ev : Event) {v₀ : PanelView} {w₀ : Panel}
    {stood : Option Nat} (hguard : v₀.brightness.Guarded stood) (hw₀ : w₀.written = false)
    (hresumed : ev = .resumed → v₀.brightness.brightnessSet = some w₀.level) :
    PanelRule fx Panel.calm ev (fun v w => v = v₀ ∧ w = w₀) (LeavesGuarded v₀ stood w₀.level) where
  before := framed_calm _
  after := framed_calm _
  rest := by
    rintro v w ⟨rfl, rfl⟩
    refine ⟨fun _ => ?_, fun _ _ => hw₀⟩
    rw [limits_self]
    exact hguard
  first := by
    rintro b base w ⟨rfl, rfl⟩
    exact ⟨fun _ => hguard, fun _ _ => hw₀⟩
  edge := by
    rintro prev base c w ⟨rfl, rfl⟩ hbase
    refine (brightnessEdge_calm c w hlive hguard).mono (fun _ _ _ => id) ?_
    rintro _ _ w' ⟨⟨b, rfl, hafter⟩, hwritten⟩
    unfold Context.panelView LeavesGuarded
    rw [hbase]
    exact ⟨hafter, fun hplug hor => (hwritten hplug hor).trans hw₀⟩
  rearm := by
    rintro hev c w ⟨rfl, rfl⟩
    have hset : c.brightness.brightnessSet = some w.level := hresumed hev
    have hview : ∀ b : BrightnessContext, b = c.brightness →
        LeavesGuarded c.panelView stood w.level { c.panelView with brightness := b } w := by
      rintro _ rfl
      refine ⟨fun _ => ?_, fun _ _ => hw₀⟩
      rw [limits_self]
      exact hguard
    -- The resume sets the record to the level it reads, which is there already.
    rw [Effectors.brightnessRearm, wp_get_bind, wp_when]
    refine ⟨fun hdev => ?_, fun _ => (wp_still_pure Panel.calm_still).mpr (hview _ rfl)⟩
    refine (brightnessRead_calm c w).bind ?_
    rintro cur c w ⟨rfl, rfl, rfl⟩
    intro w' hdrift
    obtain rfl := (World.drifts_iff_of_still Panel.calm_still).mp hdrift
    obtain ⟨dev, hdev⟩ := Option.isSome_iff_exists.mp hdev
    refine hview _ ?_
    rw [hdev, Option.map_some, ← hset]
  discover := by
    rintro - c w ⟨rfl, rfl⟩
    -- Another backlight comes with nothing saved.
    refine (wp_of_meets (J := fun w' => w' = w) (discoverBacklight_exact c) rfl ?_ ?_).mono
      (fun _ _ _ _ => trivial) ?_
    · exact fun w₁ w₂ hdrift => absurd hdrift (Panel.calm_still w₁ w₂)
    · exact fun _ e _ _ _ he hanswer hw =>
        (Panel.answer_calm (not_writesPanel_of_only he (by decide)) hanswer).trans hw
    · rintro _ _ _ ⟨rfl | ⟨b, rfl, hb⟩, rfl⟩
      · refine ⟨fun _ => ?_, fun _ _ => hw₀⟩
        rw [limits_self]
        exact hguard
      · exact ⟨fun _ h => absurd hb h, fun _ _ => hw₀⟩

/-! ## Runs of turns that tell the daemon -/

section

variable (fx : Effectors)

/-- Nothing is saved by the setup. -/
theorem setup_unsaved {c : Context} (hc : c.brightness.brightnessSaved = none) :
    Meets fx.setup c (fun _ _ => True) fun _ c' => c'.brightness.brightnessSaved = none := by
  have hany : ∀ {α : Type} {x : Daemon α} {c : Context} {rs : List Resource}
      {Q : α → Context → Prop},
      Meets x c (only rs) Q → Meets x c (fun _ _ => True) Q :=
    fun h => h.mono (fun _ _ _ => trivial) fun _ _ => id
  have hcontext : ∀ (conf : PowerConf) (c : Context), c.brightness.brightnessSaved = none →
      Meets (fx.seedContext conf) c (fun _ _ => True)
        fun _ c' => c'.brightness.brightnessSaved = none := by
    intro conf c hc
    refine (hany (seedPower_spec c)).bind ?_
    rintro _ _ ⟨ac, acs, pct, low, rfl⟩
    -- Only the discovery touches the brightness.
    refine (hany (discoverBacklight_exact _)).bind ?_
    rintro _ c₁ h₁
    have hc₁ : c₁.brightness.brightnessSaved = none := by
      rcases h₁ with rfl | ⟨b, rfl, hb⟩
      · exact hc
      · exact hb
    refine (hany (seedKbd_spec c₁ conf)).bind ?_
    rintro _ _ ⟨k, rfl⟩
    refine (hany (batteryLowRequestCheck_spec fx _)).bind ?_
    rintro _ _ ⟨r, rfl, -⟩
    refine (hany (seedWorld_exact _)).bind ?_
    rintro _ _ ⟨closed, logind, wayland, count, rfl, -⟩
    refine (hany (seedProfile_spec _)).bind ?_
    rintro _ _ ⟨n, rev, e, rfl⟩
    simp only [meets_bind, meets_ask, meets_ite, meets_pure, meets_modify]
    exact ⟨trivial, fun _ => ⟨trivial, fun _ => ⟨trivial, fun _ =>
      ⟨fun _ => ⟨trivial, fun _ => ⟨trivial, fun _ => hc₁⟩⟩, fun _ => ⟨trivial, fun _ => hc₁⟩⟩⟩⟩⟩
  exact setup_meets fx c (I := fun c₁ => c₁.brightness.brightnessSaved = none)
    (fun _ _ _ => trivial)
    (fun _ => hc) hcontext fun _ h₁ => h₁

/-- The loop's prologue runs no policy check. -/
theorem startup_leavesPanel : LeavesPanel fx.startup := by
  refine .modify_bind (fun _ => rfl) (.get_bind fun c => ?_)
  refine .bind (onEnter_records fx _ true).panel fun _ => .bind currentMatch_records.panel
    fun chosen => ?_
  refine .bind (leavesPanel_of_only (fun c => resolveSessionGpuMode_spec c _) (by decide)
    (by rintro _ _ _ rfl; rfl)) fun mode => ?_
  refine .bind (syncDgpuPin_leavesPanel fx _) fun _ =>
    .bind (syncWaybar_records fx).panel fun _ => ?_
  refine .bind (kbdPolicyCheck_leavesPanel fx true) fun _ => ?_
  exact leavesPanel_of_only (fun c => requestReconcile_spec c _) (by decide)
    (by rintro _ _ _ rfl; rfl)

variable {fx}

/-- One turn that tells the daemon keeps the record beside the value that stands, and spares the
user. -/
theorem turn_told {c c' : Context} {stood : Option Nat} {tr : List DaemonObs} {w : Panel}
    {ev : Event} {level : Nat} (hguard : fx.Live → c.brightness.Guarded stood)
    (h : Execs Panel.world (fx.handle ev) c { level := level } tr () c' w)
    (htold : PanelTurn.Told ⟨c, ev, stood, level, c', w⟩) :
    (fx.Live → c'.brightness.Guarded (PanelTurn.stands ⟨c, ev, stood, level, c', w⟩)) ∧
      PanelTurn.SparesUser ⟨c, ev, stood, level, c', w⟩ := by
  have hplain : LeavesPlain fx ev c.panelView c'.panelView w.written :=
    h.of_wp ((panelRule_plain fx ev c.panelView).handle c _ ⟨rfl, rfl⟩)
  by_cases hlive : fx.Live
  · rcases htold with ⟨hnone, hdev⟩ | ⟨hcalm, hrec, hresumed⟩
    · exact ⟨fun _ hsaved => absurd (hplain.saved hnone hdev) hsaved,
        fun hplug _ => hplain.unwritten (.inr ⟨hplug, hnone⟩)⟩
    -- Without an edge or a resume the record is the one before, and so is the value that stands.
    by_cases hquiet : limits c.panelView.base c'.panelView.base = false ∧
        plugsIn c.panelView.base c'.panelView.base = false ∧ ev ≠ .resumed
    · obtain ⟨hlimits, hin, hev⟩ := hquiet
      refine ⟨fun _ hsaved => ?_, fun hplug => absurd (hplug.symm.trans hin) (by simp)⟩
      have hsame : c'.brightness = c.brightness :=
        (hplain.same hlimits hin hev).resolve_right hsaved
      have hstands : PanelTurn.stands ⟨c, ev, stood, level, c', w⟩ = stood :=
        if_neg (by rw [Bool.not_eq_true]; exact hlimits)
      rw [hsame] at hsaved ⊢
      rw [hstands]
      exact hguard hlive hsaved
    · -- An edge or a resume: nothing disturbed it.
      have hcalm' : w.disturbed = false := by
        refine hcalm (Classical.byContradiction fun hno => hquiet ?_)
        obtain ⟨hlimits, hrest⟩ := not_or.mp hno
        obtain ⟨hin, hev⟩ := not_or.mp hrest
        exact ⟨Bool.not_eq_true _ ▸ hlimits, Bool.not_eq_true _ ▸ hin, hev⟩
      obtain ⟨hafter, hwritten⟩ : LeavesGuarded c.panelView stood level c'.panelView w :=
        (execs_calm h hcalm').of_wp
          ((panelRule_calm hlive ev (hguard hlive) rfl hresumed).handle c _ ⟨rfl, rfl⟩)
      refine ⟨fun _ => hafter hrec, ?_⟩
      rintro hplug ⟨value, hstood, hoff⟩
      refine hwritten hplug ?_
      by_cases hsaved : c.brightness.brightnessSaved = none
      · exact .inl hsaved
      · exact .inr ⟨value, (hguard hlive hsaved).2.trans hstood, hoff⟩
  · exact ⟨fun h => absurd h hlive, fun _ _ => hplain.unwritten (.inl hlive)⟩

/-- In every run whose turns meet the condition, no edge to AC writes the panel over the user. -/
theorem sparesUser_of_told {ts : List PanelTurn} {c : Context} {stood : Option Nat}
    (hrun : PanelRun fx ts c stood) (htold : ∀ t ∈ ts, t.Told) : ∀ t ∈ ts, t.SparesUser := by
  -- The induction carries the record beside the value that stands.
  suffices h : (fx.Live → c.brightness.Guarded stood) ∧ ∀ t ∈ ts, t.SparesUser from h.2
  induction hrun with
  | @start c c' tr tr' hsetup hstartup =>
    have hsaved : c.brightness.brightnessSaved = none := (hsetup.of_meets (setup_unsaved fx rfl)).2
    have hview : c'.panelView = c.panelView := (hstartup.of_meets (startup_leavesPanel fx c)).2
    have hsaved' : c'.brightness.brightnessSaved = none :=
      (congrArg (fun v => v.brightness.brightnessSaved) hview).trans hsaved
    exact ⟨fun _ h => absurd hsaved' h, by simp⟩
  | @turn c c' ts stood tr w ev level _ hturn ih =>
    obtain ⟨hguard, hspares⟩ := ih fun t ht => htold t (List.mem_append_left _ ht)
    obtain ⟨hguard', hspare⟩ := turn_told hguard hturn (htold _ (by simp))
    refine ⟨hguard', fun t ht => ?_⟩
    rcases List.mem_append.mp ht with ht | ht
    · exact hspares t ht
    · rw [List.mem_singleton.mp ht]
      exact hspare

end

/-! ## A laptop with a panel of a hundred levels -/

/-- The answers of a machine whose backlight has a hundred levels. -/
def hundredLevels : (e : Eff) → e.Ans
  | .findBacklight => some ("intel_backlight", 100)
  | e => e.quiet

/-- The panel does as it is told. -/
def obedient : (r : Context × Eff) → Panel → stamped Eff.Ans r × Panel
  | (_, .readBrightness _), w => (some w.level, w)
  | (_, .setBrightness subsystem _ value), w =>
    (true, if subsystem ≠ "backlight" then w else { w with level := value, written := true })
  | (_, e), w => (hundredLevels e, w)

/-- The obedient panel's answers are answers of the panel. -/
theorem obedient_answer (r : Context × Eff) (w : Panel) (_ : True) :
    Panel.world.answer r w (obedient r w).1 (obedient r w).2 ∧ True := by
  refine ⟨?_, trivial⟩
  obtain ⟨c, e⟩ := r
  cases e <;> first | rfl | exact .inl ⟨rfl, rfl⟩

namespace PanelTurn

/-- The daemon has started, on AC. -/
def booted : Context :=
  ((Effectors.startup ⟨false, true⟩).answered hundredLevels
    ((Effectors.setup ⟨false, true⟩).answered hundredLevels {}).1.2).1.2

/-- A turn that finds the panel at a level. -/
def played (ev : Event) (level : Nat) (c : Context) (stood : Option Nat) : PanelTurn :=
  let r := (((⟨false, true⟩ : Effectors).handle ev).run c).exec obedient { level := level }
  ⟨c, ev, stood, level, r.1.2, r.2.1⟩

/-- The run that ends with the start. -/
theorem run_booted : PanelRun ⟨false, true⟩ [] booted none :=
  .start (runs_answered (Effectors.setup ⟨false, true⟩) hundredLevels {})
    (runs_answered (Effectors.startup ⟨false, true⟩) hundredLevels _)

/-- The same with one event more. -/
theorem run_played {ts : List PanelTurn} {c : Context} {stood : Option Nat}
    (h : PanelRun ⟨false, true⟩ ts c stood) (ev : Event) (level : Nat) :
    PanelRun ⟨false, true⟩ (ts ++ [played ev level c stood]) (played ev level c stood).after
      (played ev level c stood).stands :=
  .turn ev level h (execs_exec obedient_answer _ _ trivial)

/-- The first policy check finds the laptop on AC. -/
def onAc : PanelTurn := played .powerAcSettled 80 booted none

/-- The charger is unplugged with the panel at this level. -/
def unplugging (level : Nat) : PanelTurn := played (.acChanged false) level onAc.after onAc.stands

/-- The turn of the unplug at this level. -/
def unplugged (level : Nat) : PanelTurn :=
  played .powerAcSettled level (unplugging level).after (unplugging level).stands

/-- It is plugged in again, and the user has put the panel at the other level. -/
def pluggingIn (level chosen : Nat) : PanelTurn :=
  played (.acChanged true) chosen (unplugged level).after (unplugged level).stands

/-- The turn that plugs in again, with the level the user chose meanwhile. -/
def pluggedIn (level chosen : Nat) : PanelTurn :=
  played .powerAcSettled chosen (pluggingIn level chosen).after (pluggingIn level chosen).stands

/-- The run of an unplug and a plug. -/
theorem run_pluggedIn (level chosen : Nat) :
    PanelRun ⟨false, true⟩
      [onAc, unplugging level, unplugged level, pluggingIn level chosen, pluggedIn level chosen]
      (pluggedIn level chosen).after (pluggedIn level chosen).stands :=
  run_played (run_played (run_played (run_played (run_played run_booted _ _) _ _) _ _) _ _) _ _

end PanelTurn

open PanelTurn in
/-- The panel was capped at the unplug, from 80 to 50, and the user put it at 30: it stays there. -/
theorem sparesUser_of_told_capped :
    (pluggedIn 80 30).plugsIn = true ∧ (pluggedIn 80 30).stood = some 50 ∧
      (pluggedIn 80 30).before.brightness.Off 30 50 ∧ (pluggedIn 80 30).left.written = false := by
  have htold : ∀ t ∈ [onAc, unplugging 80, unplugged 80, pluggingIn 80 30,
      pluggedIn 80 30], t.Told := by
    simp only [List.forall_mem_cons]
    refine ⟨.inl ⟨by decide +kernel, fun h => absurd h (by decide +kernel)⟩,
      .inl ⟨by decide +kernel, fun h => absurd h (by decide +kernel)⟩,
      .inr ⟨fun _ => by decide +kernel, fun _ => .inr (.inl (by decide +kernel)),
        fun h => absurd h (by decide +kernel)⟩,
      .inr ⟨fun _ => by decide +kernel, fun h => absurd h (by decide +kernel),
        fun h => absurd h (by decide +kernel)⟩,
      .inr ⟨fun _ => by decide +kernel, fun h => absurd h (by decide +kernel),
        fun h => absurd h (by decide +kernel)⟩, by simp⟩
  have hplug : (pluggedIn 80 30).plugsIn = true := by decide +kernel
  have hstood : (pluggedIn 80 30).stood = some 50 := by decide +kernel
  have hoff : (pluggedIn 80 30).before.brightness.Off 30 50 := by
    unfold BrightnessContext.Off
    decide +kernel
  exact ⟨hplug, hstood, hoff,
    sparesUser_of_told (run_pluggedIn 80 30) htold (pluggedIn 80 30) (by simp) hplug
      ⟨50, hstood, hoff⟩⟩

open PanelTurn in
/-- No cap was needed at the unplug, at 40, and the user put the panel at 10: the edge to AC puts it
back to 40. -/
theorem not_sparesUser :
    ¬∀ (fx : Effectors) (ts : List PanelTurn) (c : Context) (stood : Option Nat),
      PanelRun fx ts c stood → ∀ t ∈ ts, t.SparesUser := by
  intro h
  have hspares := h _ _ _ _ (run_pluggedIn 40 10) (pluggedIn 40 10) (by simp)
  have hoff : (pluggedIn 40 10).before.brightness.Off 10 40 := by
    unfold BrightnessContext.Off
    decide +kernel
  exact absurd (hspares (by decide +kernel) ⟨40, by decide +kernel, hoff⟩) (by decide +kernel)

end Hyprstate
