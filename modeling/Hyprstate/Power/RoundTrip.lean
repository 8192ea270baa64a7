import Hyprstate.Power.Brightness

/-!
# The brightness comes back from battery

An unplug saves the level of the panel and caps it, the entry of battery-low caps it again, and the
edge to AC puts back what was saved. Where nobody but the daemon moves the panel, the level on
record is the one that it shows (`Knows`), so the takeover guard never stands in the way, and what
is saved on battery is the level that the daemon started with (`RoundTrip`). A daemon that does not
write leaves the panel at that level throughout.
-/

namespace Hyprstate

open Reactive Process

/-! ## The panel in the hands of the daemon -/

/-- The level of the panel, and the levels it was put at since a turn began, the last one first. -/
structure Shown where
  level : Nat
  written : List Nat := []

namespace Shown

/-- There is one backlight, and it stays. Only the daemon moves it: a read answers the level, and a
write sets it. -/
def steady (dev : String) (max : Nat) : World (Context × Eff) (stamped Eff.Ans) Shown where
  drift _ _ := False
  answer r w b w' :=
    match r, b with
    | (_, .findBacklight), found => found = some (dev, max) ∧ w' = w
    | (_, .readBrightness _), read => read = some w.level ∧ w' = w
    | (_, .setBrightness subsystem _ value), ok =>
      if subsystem = "backlight" then ok = true ∧ w' = ⟨value, value :: w.written⟩ else w' = w
    | _, _ => w' = w

/-- Every level that the panel showed since the turn began is one that it may have on battery. -/
def Within (w : Shown) (start : Nat) : Prop :=
  ∀ level ∈ w.level :: w.written, 0 < level ∧ level ≤ start

end Shown

/-- The base state is on the battery side. -/
def OnBattery (base : Option BaseState) : Prop := base.map acAxis = some .battery

/-- Whether a base state is one on the battery is decidable. -/
instance (base : Option BaseState) : Decidable (OnBattery base) :=
  inferInstanceAs (Decidable (base.map acAxis = some .battery))

/-- No base state yet is none on the battery. -/
@[simp] theorem not_onBattery_none : ¬OnBattery none := by simp [OnBattery]

/-- A base state is on the battery as its axis says. -/
@[simp] theorem onBattery_some (base : BaseState) :
    OnBattery (some base) ↔ acAxis base = .battery := by
  simp [OnBattery]

/-- An unplug is a step from the mains to the battery. -/
theorem unplugs_iff (prev base : BaseState) :
    unplugs (some prev) (some base) = true ↔ ¬OnBattery (some prev) ∧ OnBattery (some base) := by
  cases prev <;> cases base <;> decide

/-- A plug is a step from the battery to the mains. -/
theorem plugsIn_iff (prev base : BaseState) :
    plugsIn (some prev) (some base) = true ↔ OnBattery (some prev) ∧ ¬OnBattery (some base) := by
  cases prev <;> cases base <;> decide

/-! ## Runs -/

/-- One turn: the context it began in, the event, the level of the panel, the level that it had at
the last unplug before the turn, and the context and the panel that it left. -/
structure SteadyTurn where
  before : Context
  ev : Event
  level : Nat
  unplugged : Option Nat
  after : Context
  left : Shown

namespace SteadyTurn

variable (t : SteadyTurn)

/-- The level at the last unplug, which may be that of the turn. -/
def lastUnplug : Option Nat :=
  if unplugs t.before.power.powerLastBase t.after.power.powerLastBase then some t.level
    else t.unplugged

/-- The turn that finds the first base state finds one on the AC side. -/
def StartsOnAc : Prop :=
  t.before.power.powerLastBase = none → ¬OnBattery t.after.power.powerLastBase

/-- On battery the panel was put at no level above that of the last unplug, and never at 0. -/
def Capped : Prop :=
  OnBattery t.after.power.powerLastBase →
    ∃ cap, t.lastUnplug = some cap ∧
      ∀ level ∈ t.left.level :: t.left.written, 0 < level ∧ level ≤ cap

end SteadyTurn

/-- The daemon started with the panel at the level `start` and took the turns in order: the context,
the level, and the level at the last unplug. There is no resume. -/
inductive SteadyRun (fx : Effectors) (dev : String) (max start : Nat) :
    List SteadyTurn → Context → Nat → Option Nat → Prop
  | start {c c' : Context} {tr tr' : List DaemonObs} {w w' : Shown} :
      Execs (Shown.steady dev max) fx.setup {} { level := start } tr true c w →
      Execs (Shown.steady dev max) fx.startup c w tr' () c' w' →
      SteadyRun fx dev max start [] c' w'.level none
  | turn {c c' : Context} {ts : List SteadyTurn} {level : Nat} {unplugged : Option Nat}
      {tr : List DaemonObs} {w : Shown} (ev : Event) :
      SteadyRun fx dev max start ts c level unplugged → ev ≠ .resumed →
      Execs (Shown.steady dev max) (fx.handle ev) c { level := level } tr () c' w →
      SteadyRun fx dev max start (ts ++ [⟨c, ev, level, unplugged, c', w⟩]) c' w.level
        (SteadyTurn.lastUnplug ⟨c, ev, level, unplugged, c', w⟩)

/-! ## What is on record -/

/-- The record is that of the backlight, and the level last set, if there is one, is the one it
shows. -/
structure BrightnessContext.Knows (b : BrightnessContext) (dev : String) (max level : Nat) :
    Prop where
  dev : b.brightnessDev = some dev
  max : b.brightnessMax = max
  set : b.brightnessSet = none ∨ b.brightnessSet = some level

/-- On battery the level to go back to is saved; on AC the panel shows it. -/
structure RoundTrip (dev : String) (max start : Nat) (v : PanelView) (w : Shown) : Prop where
  knows : v.brightness.Knows dev max w.level
  within : w.Within start
  saved : v.brightness.brightnessSaved = if OnBattery v.base then some start else none
  back : ¬OnBattery v.base → w.level = start

namespace Shown

variable {dev : String} {max : Nat}

/-- Nobody else moves a steady panel. -/
theorem steady_still (w w' : Shown) : ¬(steady dev max).drift w w' := id

/-- A request that does not write the panel leaves it. -/
theorem answer_steady {c : Context} {e : Eff} {w w' : Shown} {b : stamped Eff.Ans (c, e)}
    (he : ¬e.writesPanel) (h : (steady dev max).answer (c, e) w b w') : w' = w := by
  cases e with
  | findBacklight => exact h.2
  | readBrightness dev => exact h.2
  | setBrightness subsystem dev value =>
    have hother : subsystem ≠ "backlight" := fun hsame => he ⟨dev, value, by rw [hsame]⟩
    have hif : (if subsystem = "backlight" then b = true ∧ w' = ⟨value, value :: w.written⟩
      else w' = w) := h
    rwa [if_neg hother] at hif
  | _ => exact h

/-- Every predicate of a steady panel is framed. -/
theorem framed_steady (R : PanelView → Shown → Prop) : Framed (steady dev max) R where
  drift _ w w' hdrift := absurd hdrift (steady_still w w')
  answer _ _ _ _ _ _ he hanswer hw := by rwa [answer_steady he hanswer]

/-- One level more within the bounds. -/
theorem Within.put {w : Shown} {start level : Nat} (hw : w.Within start)
    (hlevel : 0 < level ∧ level ≤ start) : (⟨level, level :: w.written⟩ : Shown).Within start := by
  intro l hl
  rcases List.mem_cons.mp hl with rfl | hl
  · exact hlevel
  · rcases List.mem_cons.mp hl with rfl | hl
    · exact hlevel
    · exact hw l (List.mem_cons_of_mem _ hl)

end Shown

/-! ## The effects, where only the daemon moves the panel -/

section

variable {fx : Effectors} {dev : String} {max start : Nat} (c : Context) (w : Shown)

/-- `brightness_read` on a steady panel. -/
theorem brightnessRead_steady (hdev : c.brightness.brightnessDev = some dev) :
    Wp (Shown.steady dev max) (fun _ _ _ => True)
      (fun cur c' w' => c' = c ∧ w' = w ∧ cur = some w.level) Effectors.brightnessRead c w := by
  rw [Effectors.brightnessRead, wp_get_bind, hdev]
  refine (wp_still_ask Shown.steady_still (e := Eff.readBrightness dev)).mpr ⟨trivial, ?_⟩
  rintro cur w' ⟨hread, rfl⟩
  exact ⟨rfl, rfl, hread⟩

/-- Nobody took the panel over. -/
theorem brightnessUserTookOver_steady (hknows : c.brightness.Knows dev max w.level) :
    Wp (Shown.steady dev max) (fun _ _ _ => True)
      (fun tookOver c' w' => c' = c ∧ w' = w ∧ tookOver = false)
        Effectors.brightnessUserTookOver c w := by
  rw [Effectors.brightnessUserTookOver, wp_get_bind]
  rcases hknows.set with hset | hset
  · rw [hset]
    exact (wp_still_pure Shown.steady_still).mpr ⟨rfl, rfl, rfl⟩
  · rw [hset]
    refine (brightnessRead_steady c w hknows.dev).bind ?_
    rintro cur c w ⟨rfl, rfl, rfl⟩
    refine (wp_still_pure Shown.steady_still).mpr ⟨rfl, rfl, ?_⟩
    simp

variable (hlive : fx.Live)
include hlive

/-- A write puts the panel at the value, between 1 and the maximum, and records it. -/
theorem brightnessWrite_steady (value : Nat) (hdev : c.brightness.brightnessDev = some dev) :
    Wp (Shown.steady dev max) (fun _ _ _ => True)
      (fun _ c' w' => ∃ level, level = min (Nat.max value 1) c.brightness.brightnessMax ∧
        c' = { c with brightness := { c.brightness with brightnessSet := some level } } ∧
        w' = ⟨level, level :: w.written⟩)
      (fx.brightnessWrite value) c w := by
  rw [Effectors.brightnessWrite, wp_get_bind, hdev]
  dsimp only
  rw [hlive.1, hlive.2]
  refine (wp_still_ask_bind Shown.steady_still (e := Eff.setBrightness "backlight" dev _)).mpr
    ⟨trivial, ?_⟩
  rintro ok w' ⟨rfl, rfl⟩
  intro w' hdrift
  obtain rfl := (World.drifts_iff_of_still Shown.steady_still).mp hdrift
  exact ⟨_, rfl, rfl, rfl⟩

/-- Where a cap is needed, the panel is put at it, or at 1; the step of an unplug saves the level
first. -/
theorem brightnessLimit_steady (save : Bool) (den : Nat) (hstart : start ≤ max)
    (hknows : c.brightness.Knows dev max w.level) (hw : w.Within start) :
    Wp (Shown.steady dev max) (fun _ _ _ => True)
      (fun _ c' w' => ∃ b, c' = { c with brightness := b } ∧ b.Knows dev max w'.level ∧
        w'.Within start ∧
        b.brightnessSaved = if save then some w.level else c.brightness.brightnessSaved)
      (fx.brightnessLimit save den) c w := by
  -- The cap, on the record with the level saved or without.
  have hcap : ∀ c₁ : Context, c₁.brightness.Knows dev max w.level →
      Wp (Shown.steady dev max) (fun _ _ _ => True)
        (fun _ c' w' => ∃ b, c' = { c₁ with brightness := b } ∧ b.Knows dev max w'.level ∧
          w'.Within start ∧ b.brightnessSaved = c₁.brightness.brightnessSaved) (do
          let c ← get
          let cap := c.brightness.brightnessMax / den
          when (decide (w.level > cap)) (fx.brightnessWrite cap)) c₁ w := by
    intro c₁ hknows₁
    rw [wp_get_bind]
    dsimp only
    rw [wp_when]
    refine ⟨fun hhigh => ?_, fun _ => (wp_still_pure Shown.steady_still).mpr
      ⟨c₁.brightness, rfl, hknows₁, hw, rfl⟩⟩
    refine (brightnessWrite_steady c₁ w hlive _ hknows₁.dev).mono (fun _ _ _ => id) ?_
    rintro _ _ _ ⟨level, hlevel, rfl, rfl⟩
    refine ⟨_, rfl, ⟨hknows₁.dev, hknows₁.max, .inr rfl⟩, hw.put ?_, rfl⟩
    have hhigh : c₁.brightness.brightnessMax / den < w.level := of_decide_eq_true hhigh
    obtain ⟨hpos, hle⟩ := hw w.level List.mem_cons_self
    rw [hknows₁.max] at hlevel hhigh
    have hmax : Nat.max (max / den) 1 ≤ w.level := Nat.max_le.mpr ⟨hhigh.le, hpos⟩
    have hone : 1 ≤ Nat.max (max / den) 1 := Nat.le_max_right _ _
    omega
  rw [Effectors.brightnessLimit]
  refine (brightnessUserTookOver_steady c w hknows).bind ?_
  rintro _ c w ⟨rfl, rfl, rfl⟩
  rw [if_neg Bool.false_ne_true]
  refine (brightnessRead_steady c w hknows.dev).bind ?_
  rintro _ c w ⟨rfl, rfl, rfl⟩
  dsimp only
  rw [wp_bind, wp_when]
  refine ⟨fun hsave => ?_, fun hsave => ?_⟩
  · intro w' hdrift
    obtain rfl := (World.drifts_iff_of_still Shown.steady_still).mp hdrift
    rw [if_pos hsave]
    exact hcap { c with brightness := { c.brightness with brightnessSaved := some w'.level } }
      ⟨hknows.dev, hknows.max, hknows.set⟩
  · rw [hsave]
    exact (wp_still_pure Shown.steady_still).mpr (hcap c hknows)

/-- A cap under a condition: it writes within the bounds. -/
theorem whenLimit_steady (p save : Bool) (den : Nat) (hstart : start ≤ max)
    (hknows : c.brightness.Knows dev max w.level) (hw : w.Within start) :
    Wp (Shown.steady dev max) (fun _ _ _ => True)
      (fun _ c' w' => ∃ b, c' = { c with brightness := b } ∧ b.Knows dev max w'.level ∧
        w'.Within start ∧
        b.brightnessSaved = (if p && save then some w.level else c.brightness.brightnessSaved) ∧
        (p = false → w' = w))
      (when p (fx.brightnessLimit save den)) c w := by
  rw [wp_when]
  refine ⟨fun hp => ?_, fun hp => ?_⟩
  · rw [hp, Bool.true_and]
    refine (brightnessLimit_steady c w hlive save den hstart hknows hw).mono (fun _ _ _ => id) ?_
    rintro _ c' w' ⟨b, hc', hknows', hw', hsaved⟩
    exact ⟨b, hc', hknows', hw', hsaved, by simp⟩
  · rw [hp]
    exact (wp_still_pure Shown.steady_still).mpr ⟨c.brightness, rfl, hknows, hw, rfl, fun _ => rfl⟩

/-- What was saved is put back. -/
theorem brightnessRestore_steady (hstart : start ≤ max)
    (hknows : c.brightness.Knows dev max w.level) (hw : w.Within start)
    (hsaved : c.brightness.brightnessSaved = some start) :
    Wp (Shown.steady dev max) (fun _ _ _ => True)
      (fun _ c' w' => ∃ b, c' = { c with brightness := b } ∧ b.Knows dev max w'.level ∧
        w'.Within start ∧
        b.brightnessSaved = none ∧ w'.level = start)
      fx.brightnessRestore c w := by
  have hpos : 0 < start := by
    obtain ⟨hpos, hle⟩ := hw w.level List.mem_cons_self
    omega
  rw [Effectors.brightnessRestore, wp_get_bind, hsaved]
  dsimp only
  rw [wp_set_bind]
  have hspent : { c.brightness with brightnessSaved := none }.Knows dev max w.level :=
    ⟨hknows.dev, hknows.max, hknows.set⟩
  let spent : Context := { c with brightness := { c.brightness with brightnessSaved := none } }
  refine (brightnessUserTookOver_steady spent w hspent).bind ?_
  rintro _ _ w ⟨rfl, rfl, rfl⟩
  rw [if_neg Bool.false_ne_true]
  refine (brightnessWrite_steady spent w hlive start hspent.dev).mono (fun _ _ _ => id) ?_
  rintro _ _ _ ⟨level, hlevel, rfl, rfl⟩
  -- The start is between 1 and the maximum, so it is written as it is.
  obtain rfl : level = start := by
    have hmax : c.brightness.brightnessMax = max := hknows.max
    have hone : Nat.max start 1 = start := Nat.max_eq_left hpos
    rw [hlevel, hone, hmax, Nat.min_eq_left hstart]
  exact ⟨_, rfl, ⟨hknows.dev, hknows.max, .inr rfl⟩, hw.put ⟨hpos, le_rfl⟩, rfl, rfl⟩

/-- The effects of an edge keep the round trip. -/
theorem brightnessEdge_steady {prev base : BaseState} (hstart : start ≤ max)
    (h : RoundTrip dev max start ⟨c.brightness, some prev⟩ w) :
    Wp (Shown.steady dev max) (fun _ _ _ => True)
      (fun _ c' w' => ∃ b, c' = { c with brightness := b } ∧
        RoundTrip dev max start ⟨b, some base⟩ w')
      (fx.brightnessEdge prev base) c w := by
  obtain ⟨hknows, hw, hsaved, hback⟩ := h
  dsimp only at hknows hsaved hback
  -- Back on AC the saved level is restored; else the edge may cap, once for each of two reasons.
  by_cases hin : plugsIn (some prev) (some base) = true
  · obtain ⟨hprev, hbase⟩ := (plugsIn_iff prev base).mp hin
    rw [if_pos hprev] at hsaved
    rw [brightnessEdge_plugsIn fx hin]
    refine (brightnessRestore_steady c w hlive hstart hknows hw hsaved).mono (fun _ _ _ => id) ?_
    rintro _ _ w' ⟨b, rfl, hknows', hw', hspent, hlevel⟩
    exact ⟨b, rfl, hknows', hw', hspent.trans (if_neg hbase).symm, fun _ => hlevel⟩
  · have hkeeps : OnBattery (some prev) → OnBattery (some base) := fun hprev =>
      Classical.byContradiction fun hbase => hin ((plugsIn_iff prev base).mpr ⟨hprev, hbase⟩)
    rw [brightnessEdge_limits fx (by simpa using hin)]
    refine (whenLimit_steady c w hlive _ true 2 hstart hknows hw).bind ?_
    rintro _ _ w₁ ⟨b₁, rfl, hknows₁, hw₁, hsaved₁, hrest₁⟩
    refine (whenLimit_steady _ w₁ hlive _ false 4 hstart hknows₁ hw₁).mono (fun _ _ _ => id) ?_
    rintro _ _ w₂ ⟨b₂, rfl, hknows₂, hw₂, hsaved₂, hrest₂⟩
    rw [Bool.and_false, if_neg Bool.false_ne_true] at hsaved₂
    rw [Bool.and_true] at hsaved₁
    refine ⟨b₂, rfl, hknows₂, hw₂, ?_, fun hbase => ?_⟩
    · show b₂.brightnessSaved = if OnBattery (some base) then some start else none
      have hsaved₂ : b₂.brightnessSaved = b₁.brightnessSaved := hsaved₂
      rw [hsaved₂, hsaved₁]
      by_cases hunplugs : unplugs (some prev) (some base) = true
      · -- The unplug saves the level that AC is at.
        obtain ⟨hprev, hbase⟩ := (unplugs_iff prev base).mp hunplugs
        rw [if_pos hunplugs, if_pos hbase, hback hprev]
      · rw [if_neg hunplugs, hsaved]
        have hsame : OnBattery (some prev) ↔ OnBattery (some base) :=
          ⟨hkeeps, fun hbase => Classical.byContradiction fun hprev =>
            hunplugs ((unplugs_iff prev base).mpr ⟨hprev, hbase⟩)⟩
        simp only [hsame]
    · -- Both are on the AC side, where there is no cap.
      have hprev : ¬OnBattery (some prev) := fun hprev => hbase (hkeeps hprev)
      have hno : unplugs (some prev) (some base) = false :=
        Bool.eq_false_iff.mpr fun hunplugs => hbase ((unplugs_iff prev base).mp hunplugs).2
      have hentry : decide (base = .batteryLow ∧ prev ≠ .batteryLow) = false := by
        refine decide_eq_false ?_
        rintro ⟨rfl, -⟩
        exact hbase ((onBattery_some _).mpr rfl)
      rw [hrest₂ hentry, hrest₁ hno]
      exact hback hprev

end

/-- The one backlight is found, and the record is kept where it is of that one. -/
theorem discoverBacklight_steady (dev : String) (max : Nat) (c : Context) (w : Shown) :
    Wp (Shown.steady dev max) (fun _ _ _ => True)
      (fun _ c' w' => w' = w ∧ c' = if c.brightness.brightnessDev = some dev then c else
        { c with brightness := ⟨some dev, max, none, none⟩ })
      Effectors.discoverBacklight c w := by
  rw [Effectors.discoverBacklight]
  refine (wp_still_ask_bind Shown.steady_still (e := Eff.findBacklight)).mpr ⟨trivial, ?_⟩
  rintro _ w' ⟨rfl, rfl⟩
  rw [wp_get_bind, wp_when]
  refine ⟨fun hother => ?_, fun hsame => (wp_still_pure Shown.steady_still).mpr ⟨rfl, ?_⟩⟩
  · intro w' hdrift
    obtain rfl := (World.drifts_iff_of_still Shown.steady_still).mp hdrift
    have hother : some dev ≠ c.brightness.brightnessDev := of_decide_eq_true hother
    exact ⟨rfl, (if_neg hother.symm).symm⟩
  · have hsame : some dev = c.brightness.brightnessDev := not_not.mp (of_decide_eq_false hsame)
    exact (if_pos hsame.symm).symm

/-! ## One turn -/

section

variable {fx : Effectors} {dev : String} {max start : Nat}

/-- A turn starts with nothing written. -/
theorem RoundTrip.rest {v : PanelView} {w : Shown} (h : RoundTrip dev max start v w) :
    RoundTrip dev max start v { level := w.level } where
  knows := h.knows
  within l hl := h.within l (by simp_all)
  saved := h.saved
  back := h.back

/-- What an event leaves on a steady panel. -/
theorem panelRule_steady (hlive : fx.Live) (hstart : start ≤ max) {ev : Event} (hev : ev ≠ .resumed)
    {v₀ : PanelView} {w₀ : Shown} (h : RoundTrip dev max start v₀ w₀) :
    PanelRule fx (Shown.steady dev max) ev (fun v w => v = v₀ ∧ w = w₀)
      fun v w => (v₀.base = none → ¬OnBattery v.base) → RoundTrip dev max start v w where
  before := Shown.framed_steady _
  after := Shown.framed_steady _
  rest := by
    rintro v w ⟨rfl, rfl⟩ -
    exact h
  first := by
    rintro b base w ⟨rfl, rfl⟩ hac
    have hoff : ¬OnBattery (some base) := hac rfl
    exact ⟨h.knows, h.within, h.saved.trans (if_neg hoff).symm, fun _ => h.back not_onBattery_none⟩
  edge := by
    rintro prev base c w ⟨rfl, rfl⟩ hbase
    refine (brightnessEdge_steady c w hlive hstart h).mono (fun _ _ _ => id) ?_
    rintro _ _ w' ⟨b, rfl, hafter⟩ -
    unfold Context.panelView
    rw [hbase]
    exact hafter
  rearm hresumed := absurd hresumed hev
  discover := by
    rintro - c w ⟨rfl, rfl⟩
    refine (discoverBacklight_steady dev max c w).mono (fun _ _ _ => id) ?_
    rintro _ c' w ⟨rfl, rfl⟩ -
    have hdev : c.brightness.brightnessDev = some dev := h.knows.dev
    rw [if_pos hdev]
    exact h

/-- A daemon without a session, or in shadow mode, leaves the panel as it is. -/
theorem panelRule_idle (hidle : ¬fx.Live) (ev : Event) (w₀ : Shown) :
    PanelRule fx (Shown.steady dev max) ev (fun _ w => w = w₀) fun _ w => w = w₀ := by
  have hstays : ∀ {α : Type} {x : Daemon α} {c : Context} {P : Prop} {Q : α → Context → Prop},
      Meets x c (fun _ e => e.writesPanel → fx.Live ∧ P) Q → Wp (Shown.steady dev max)
        (fun _ _ _ => True) (fun _ _ w' => w' = w₀) x c w₀ := by
    intro α x c P Q hx
    refine (wp_of_meets (J := fun w => w = w₀) hx rfl ?_ ?_).mono (fun _ _ _ _ => trivial)
      fun _ _ _ h => h.2
    · exact fun w w' hdrift => absurd hdrift (Shown.steady_still w w')
    · intro c e w b w' hwrites hanswer hw
      exact (Shown.answer_steady (fun he => hidle (hwrites he).1) hanswer).trans hw
  have hquery : ∀ {α : Type} {x : Daemon α} {c : Context} {Q : α → Context → Prop},
      Meets x c (only [.query]) Q → Meets x c (fun _ e => e.writesPanel → fx.Live ∧ True) Q :=
    fun hx =>
      hx.mono (fun _ _ he hwrites => absurd hwrites (not_writesPanel_of_only he (by decide)))
      fun _ _ => id
  refine ⟨Shown.framed_steady _, Shown.framed_steady _, fun _ _ => id, fun _ _ _ => id, ?_, ?_, ?_⟩
  · rintro prev base c w rfl -
    exact hstays (brightnessEdge_asks fx c prev base)
  · rintro - c w rfl
    exact hstays (hquery (brightnessRearm_exact c))
  · rintro - c w rfl
    exact hstays (hquery (discoverBacklight_exact c))

/-! ## Runs in which only the daemon moves the panel -/

/-- The daemon starts with the record of the backlight, and with nothing saved. -/
theorem setup_roundTrip (hstart : 0 < start) :
    Wp (Shown.steady dev max) (fun _ _ _ => True)
      (fun held c' w' => held = true →
        RoundTrip dev max start c'.panelView w' ∧ c'.panelView.base = none)
      fx.setup {} { level := start } := by
  have hfresh : Framed (Shown.steady dev max) fun v w =>
      v = ({} : Context).panelView ∧ w = { level := start } := Shown.framed_steady _
  have hfound : Framed (Shown.steady dev max) fun v w =>
      RoundTrip dev max start v w ∧ v.base = none := Shown.framed_steady _
  -- The discovery is the one step of the setup that touches the panel's records.
  have hdiscover : PanelStep (Shown.steady dev max)
      (fun v w => v = ({} : Context).panelView ∧ w = { level := start })
      (fun v w => RoundTrip dev max start v w ∧ v.base = none) Effectors.discoverBacklight := by
    rintro c _ ⟨hview, rfl⟩
    refine (discoverBacklight_steady dev max c _).mono (fun _ _ _ => id) ?_
    rintro _ _ _ ⟨rfl, rfl⟩
    have hnone : c.brightness.brightnessDev = none :=
      congrArg (fun v => v.brightness.brightnessDev) hview
    have hbase : c.power.powerLastBase = none := congrArg PanelView.base hview
    have hoff : ¬OnBattery c.power.powerLastBase := by simp [hbase]
    rw [if_neg (by simp [hnone])]
    refine ⟨⟨⟨rfl, rfl, .inl rfl⟩, ?_, (if_neg hoff).symm, fun _ => rfl⟩, hbase⟩
    intro l hl
    rw [List.mem_singleton.mp hl]
    exact ⟨hstart, le_rfl⟩
  -- Everything after it leaves them, with the level as it was found.
  have hcontext : ∀ conf : PowerConf, PanelStep (Shown.steady dev max)
      (fun v w => v = ({} : Context).panelView ∧ w = { level := start })
      (fun v w => RoundTrip dev max start v w ∧ v.base = none) (fx.seedContext conf) := by
    intro conf
    refine .bind (hfresh.step (leavesPanel_of_only seedPower_spec (by decide)
      (by rintro c _ _ ⟨ac, acs, pct, low, rfl⟩; rfl))) fun _ => ?_
    refine .bind hdiscover fun _ => hfound.step ?_
    refine .bind (leavesPanel_of_only (fun c => seedKbd_spec c conf) (by decide)
      (by rintro c _ _ ⟨k, rfl⟩; rfl)) fun _ => ?_
    refine .bind (leavesPanel_of_only (batteryLowRequestCheck_spec fx) (by decide)
      (by rintro c _ _ ⟨r, rfl, -⟩; rfl)) fun _ => ?_
    refine .bind (leavesPanel_of_only seedWorld_exact (by decide)
      (by rintro c _ _ ⟨l, i, w, n, rfl, -⟩; rfl)) fun _ => ?_
    refine .bind (leavesPanel_of_only seedProfile_spec (by decide)
      (by rintro c _ _ ⟨n, r, e, rfl⟩; rfl)) fun _ => ?_
    refine .bind (.ask (Eff.not_writesPanel (by simp))) fun _ => ?_
    refine .bind (.ask (Eff.not_writesPanel (by simp))) fun word => ?_
    refine .bind (.ask (Eff.not_writesPanel (by simp))) fun _ => ?_
    refine .bind (.ite (.ask (Eff.not_writesPanel (by simp))) (.pure _)) fun hint => ?_
    exact .modify_bind (fun _ => rfl) (.ask (Eff.not_writesPanel (by simp)))
  have hload : LeavesPanel Effectors.loadConf :=
    .bind (.ask (Eff.not_writesPanel (by simp))) fun _ => .modify_bind (fun _ => rfl) (.pure _)
  rw [Effectors.setup]
  refine (hfresh.step hload _ _ ⟨rfl, rfl⟩).bind ?_
  rintro conf c w hw
  refine (hfresh.step (.ask (Eff.not_writesPanel (by simp))) c w hw).bind ?_
  rintro _ c w hw
  rw [wp_get_bind]
  refine (hfresh.step (.ite (.pure true) (.ask (Eff.not_writesPanel (by simp)))) c w hw).bind ?_
  rintro held c w hw
  rw [wp_bind, wp_when]
  refine ⟨fun _ => (hcontext conf c w hw).mono (fun _ _ _ => id) ?_, fun hno => ?_⟩
  · intro _ c' w' h
    exact (wp_still_pure Shown.steady_still).mpr fun _ => h
  · refine (wp_still_pure Shown.steady_still).mpr
      ((wp_still_pure Shown.steady_still).mpr fun hheld => ?_)
    cases hno.symm.trans hheld

/-- What the turns keep: the round trip, where the daemon writes, or the level, where it does not;
and the last unplug was at the level that the daemon started with. -/
structure SteadyRun.Kept (fx : Effectors) (dev : String) (max start : Nat) (c : Context)
    (level : Nat) (unplugged : Option Nat) : Prop where
  live : fx.Live → RoundTrip dev max start c.panelView { level := level }
  idle : ¬fx.Live → level = start
  last : OnBattery c.power.powerLastBase → unplugged = some start

/-- On the mains the level is the one of before the unplug. -/
theorem SteadyRun.Kept.back {c : Context} {level : Nat} {unplugged : Option Nat}
    (h : SteadyRun.Kept fx dev max start c level unplugged)
    (hac : ¬OnBattery c.power.powerLastBase) : level = start := by
  by_cases hlive : fx.Live
  · exact (h.live hlive).back hac
  · exact h.idle hlive

/-- One turn keeps what a run keeps. -/
theorem turn_roundTrips (hstart : 0 < start ∧ start ≤ max) {c c' : Context} {ev : Event}
    {level : Nat} {unplugged : Option Nat} {tr : List DaemonObs} {w : Shown}
    (h : SteadyRun.Kept fx dev max start c level unplugged) (hev : ev ≠ .resumed)
    (hexec : Execs (Shown.steady dev max) (fx.handle ev) c { level := level } tr () c' w)
    (hac : SteadyTurn.StartsOnAc ⟨c, ev, level, unplugged, c', w⟩) :
    SteadyRun.Kept fx dev max start c' w.level
      (SteadyTurn.lastUnplug ⟨c, ev, level, unplugged, c', w⟩) ∧
      SteadyTurn.Capped ⟨c, ev, level, unplugged, c', w⟩ := by
  have hlive : fx.Live → RoundTrip dev max start c'.panelView w := fun hlive =>
    hexec.of_wp ((panelRule_steady hlive hstart.2 hev (h.live hlive)).handle c _ ⟨rfl, rfl⟩) hac
  have hidle : ¬fx.Live → w = { level := start } := by
    intro hidle
    have hw : w = { level := level } := hexec.of_wp ((panelRule_idle hidle ev _).handle c _ rfl)
    rw [hw, h.idle hidle]
  have hlast : OnBattery c'.power.powerLastBase →
      SteadyTurn.lastUnplug ⟨c, ev, level, unplugged, c', w⟩ = some start := by
    intro hbattery
    obtain ⟨base, hbase⟩ : ∃ base, c'.power.powerLastBase = some base :=
      Option.ne_none_iff_exists'.mp fun hnone => not_onBattery_none (hnone ▸ hbattery)
    -- The first base state is not on battery, so there was one before.
    obtain ⟨prev, hprev⟩ : ∃ prev, c.power.powerLastBase = some prev :=
      Option.ne_none_iff_exists'.mp fun hnone => hac hnone hbattery
    unfold SteadyTurn.lastUnplug
    dsimp only
    rw [hbase, hprev]
    rw [hbase] at hbattery
    by_cases hunplugs : unplugs (some prev) (some base) = true
    · rw [if_pos hunplugs, h.back (hprev ▸ ((unplugs_iff prev base).mp hunplugs).1)]
    · rw [if_neg hunplugs]
      refine h.last (Classical.byContradiction fun hoff => hunplugs ?_)
      exact (unplugs_iff prev base).mpr ⟨hprev ▸ hoff, hbattery⟩
  refine ⟨⟨fun h => (hlive h).rest, fun h => congrArg Shown.level (hidle h), hlast⟩, ?_⟩
  intro hbattery
  refine ⟨start, hlast hbattery, ?_⟩
  by_cases hl : fx.Live
  · exact (hlive hl).within
  · intro l hmem
    dsimp only at hmem
    rw [hidle hl] at hmem
    rw [List.mem_singleton.mp hmem]
    exact ⟨hstart.1, le_rfl⟩

/-- A whole run keeps it, by induction over its turns. -/
theorem steadyRun_kept (hstart : 0 < start ∧ start ≤ max) {ts : List SteadyTurn} {c : Context}
    {level : Nat} {unplugged : Option Nat} (hrun : SteadyRun fx dev max start ts c level unplugged)
    (hac : ∀ t ∈ ts, t.StartsOnAc) :
    SteadyRun.Kept fx dev max start c level unplugged ∧ ∀ t ∈ ts, t.Capped := by
  induction hrun with
  | @start c c' tr tr' w w' hsetup hstartup =>
    have hround : RoundTrip dev max start c.panelView w ∧ c.panelView.base = none :=
      hsetup.of_wp (setup_roundTrip hstart.1) rfl
    obtain ⟨hround', hbase⟩ :
        RoundTrip dev max start c'.panelView w' ∧ c'.panelView.base = none :=
      hstartup.of_wp
        ((Shown.framed_steady fun v w => RoundTrip dev max start v w ∧ v.base = none).step
        (startup_leavesPanel fx) c w hround)
    -- There is no base state yet, so the panel is as it was.
    have hoff : ¬OnBattery c'.panelView.base := hbase ▸ not_onBattery_none
    exact ⟨⟨fun _ => hround'.rest, fun _ => hround'.back hoff, fun h => absurd h hoff⟩, by simp⟩
  | @turn c c' ts level unplugged tr w ev _ hev hexec ih =>
    obtain ⟨hkept, hcapped⟩ := ih fun t ht => hac t (List.mem_append_left _ ht)
    obtain ⟨hkept', hturn⟩ := turn_roundTrips hstart hkept hev hexec (hac _ (by simp))
    refine ⟨hkept', fun t ht => ?_⟩
    rcases List.mem_append.mp ht with ht | ht
    · exact hcapped t ht
    · rw [List.mem_singleton.mp ht]
      exact hturn

/-- From any level that the panel may have: on the AC side it is at that level again, and on battery
it stays below the level of the last unplug and above 0. -/
theorem brightness_roundTrips (hstart : 0 < start ∧ start ≤ max) {ts : List SteadyTurn}
    {c : Context} {level : Nat} {unplugged : Option Nat}
    (hrun : SteadyRun fx dev max start ts c level unplugged) (hac : ∀ t ∈ ts, t.StartsOnAc) :
    (¬OnBattery c.power.powerLastBase → level = start) ∧ ∀ t ∈ ts, t.Capped := by
  obtain ⟨hkept, hcapped⟩ := steadyRun_kept hstart hrun hac
  exact ⟨hkept.back, hcapped⟩

end

/-! ## A laptop with a panel of a hundred levels -/

/-- The panel does as it is told. -/
def Shown.obey : (r : Context × Eff) → Shown → stamped Eff.Ans r × Shown
  | (_, .readBrightness _), w => (some w.level, w)
  | (_, .setBrightness subsystem _ value), w =>
    (true, if subsystem = "backlight" then ⟨value, value :: w.written⟩ else w)
  | (_, e), w => (hundredLevels e, w)

/-- The obedient panel's answers are a steady panel's. -/
theorem Shown.obey_answer (r : Context × Eff) (w : Shown) (_ : True) :
    (Shown.steady "intel_backlight" 100).answer r w (Shown.obey r w).1
      (Shown.obey r w).2 ∧ True := by
  refine ⟨?_, trivial⟩
  obtain ⟨c, e⟩ := r
  cases e with
  | findBacklight => exact ⟨rfl, rfl⟩
  | readBrightness dev => exact ⟨rfl, rfl⟩
  | setBrightness subsystem dev value =>
    show if subsystem = "backlight" then _ else _
    by_cases hpanel : subsystem = "backlight"
    · rw [if_pos hpanel]
      exact ⟨rfl, if_pos hpanel⟩
    · rw [if_neg hpanel]
      exact if_neg hpanel
  | _ => rfl

namespace SteadyTurn

/-- The daemon has started, with the panel at 80. -/
def booted : Context × Shown :=
  let r := ((Effectors.setup ⟨false, true⟩).run {}).exec Shown.obey { level := 80 }
  let r' := ((Effectors.startup ⟨false, true⟩).run r.1.2).exec Shown.obey r.2.1
  (r'.1.2, r'.2.1)

/-- A turn that finds the panel at a level. -/
def played (ev : Event) (level : Nat) (c : Context) (unplugged : Option Nat) : SteadyTurn :=
  let r := (((⟨false, true⟩ : Effectors).handle ev).run c).exec Shown.obey { level := level }
  ⟨c, ev, level, unplugged, r.1.2, r.2.1⟩

/-- The turn after this one. -/
def next (t : SteadyTurn) (ev : Event) : SteadyTurn := played ev t.left.level t.after t.lastUnplug

/-- The run that ends with the start. -/
theorem run_booted :
    SteadyRun ⟨false, true⟩ "intel_backlight" 100 80 [] booted.1 booted.2.level none := by
  have hsetup : (((Effectors.setup ⟨false, true⟩).run {}).exec Shown.obey { level := 80 }).1.1 =
      true := by
    decide +kernel
  exact .start (hsetup ▸ execs_exec Shown.obey_answer (Effectors.setup ⟨false, true⟩) {} trivial)
    (execs_exec Shown.obey_answer (Effectors.startup ⟨false, true⟩) _ trivial)

/-- The same with one event more. -/
theorem run_next {start : Nat} {ts : List SteadyTurn} {t : SteadyTurn}
    (h : SteadyRun ⟨false, true⟩ "intel_backlight" 100 start ts t.after t.left.level t.lastUnplug)
    (ev : Event) (hev : ev ≠ .resumed) :
    SteadyRun ⟨false, true⟩ "intel_backlight" 100 start (ts ++ [t.next ev]) (t.next ev).after
      (t.next ev).left.level (t.next ev).lastUnplug :=
  .turn ev h hev (execs_exec Shown.obey_answer _ _ trivial)

/-- The first policy check finds the laptop on AC. -/
def onAc : SteadyTurn := played .powerAcSettled booted.2.level booted.1 none

/-- The charger is pulled, -/
def pulled : SteadyTurn := (onAc.next (.acChanged false)).next .powerAcSettled

/-- the battery runs low, -/
def drained : SteadyTurn := pulled.next (.batteryPercent 5)

/-- and the charger is back. -/
def charging : SteadyTurn := (drained.next (.acChanged true)).next .powerAcSettled

/-- An unplug, a drained battery and the charger. -/
theorem run_charging :
    SteadyRun ⟨false, true⟩ "intel_backlight" 100 80
      [onAc, onAc.next (.acChanged false), pulled, drained,
        drained.next (.acChanged true), charging]
      charging.after charging.left.level charging.lastUnplug := by
  have hon : SteadyRun ⟨false, true⟩ "intel_backlight" 100 80 [onAc] onAc.after onAc.left.level
      onAc.lastUnplug := .turn .powerAcSettled run_booted (by simp)
        (execs_exec Shown.obey_answer _ _ trivial)
  have hpulled := run_next (run_next hon (.acChanged false) (by simp)) .powerAcSettled (by simp)
  have hdrained := run_next hpulled (.batteryPercent 5) (by simp)
  exact run_next (run_next hdrained (.acChanged true) (by simp)) .powerAcSettled (by simp)

end SteadyTurn

open SteadyTurn in
/-- From 80 the panel is capped at 50 and then at 25, and it is put back to 80. -/
theorem brightness_roundTrips_drained :
    pulled.left.level = 50 ∧ drained.left.level = 25 ∧ drained.Capped ∧
    charging.left.level = 80 := by
  have hac : ∀ t ∈ [onAc, onAc.next (.acChanged false), pulled, drained,
      drained.next (.acChanged true), charging], t.StartsOnAc := by
    simp only [List.forall_mem_cons]
    refine ⟨fun _ => by decide +kernel, fun h => absurd h (by decide +kernel),
      fun h => absurd h (by decide +kernel), fun h => absurd h (by decide +kernel),
      fun h => absurd h (by decide +kernel), fun h => absurd h (by decide +kernel), by simp⟩
  obtain ⟨hback, hcapped⟩ := brightness_roundTrips (by decide) run_charging hac
  exact ⟨by decide +kernel, by decide +kernel, hcapped drained (by simp), hback (by decide +kernel)⟩

end Hyprstate
