import Hyprstate.Daemon.Invariant
import Hyprstate.Kbd.Levels
import Hyprstate.Power.Devices

/-!
# The lights are kept within their range

The daemon writes brightness in three places: it caps the panel on battery, gives back what the user
had, and lights the keyboard. On a machine whose lights keep their maxima (`LightFiles`), every
value that is written is within the range of the light that it is written to, an external monitor is
never written to, and a panel never goes dark (`Run.lights_within`). So the `clamp` of
`brightness_write` never has an empty range.
-/

namespace Hyprstate

open Reactive Process

/-- The `max_brightness` files of the machine's lights. -/
structure LightFiles where
  backlight : Text → Option Text
  led : Text → Option Text

namespace LightFiles

variable (m : LightFiles)

/-- The lights are looked for in what the directories list at the time. -/
def Answers : DaemonObs → Prop
  | ⟨(_, .findBacklight), found⟩ =>
    ∃ entries, found = (findBacklight entries m.backlight).map fun p => (String.ofList p.1, p.2)
  | ⟨(_, .findKbdLed), found⟩ =>
    ∃ entries, found = (findKbdLed entries m.led).map fun p => (String.ofList p.1, p.2)
  | _ => True

/-- A panel of the machine, and its maximum. -/
def Panel (dev : String) (max : Nat) : Prop :=
  isDdcci dev.toList = false ∧ max = backlightMax m.backlight dev.toList ∧ 0 < max

/-- A keyboard of the machine, and its maximum. -/
def Keyboard (name : String) (max : Nat) : Prop :=
  isKbdBacklight name.toList = true ∧ readU32 (m.led name.toList) = some max ∧ 0 < max

/-- A write of brightness is to a panel or a keyboard, and in its range. -/
def Within : Eff → Prop
  | .setBrightness subsystem name value =>
    (subsystem = "backlight" ∧ ∃ max, m.Panel name max ∧ 1 ≤ value ∧ value ≤ max) ∨
      (subsystem = "leds" ∧ ∃ max, m.Keyboard name max ∧ value ≤ max)
  | _ => True

/-- What the context keeps of the lights. -/
abbrev lightView (c : Context) : Option String × Nat × Option (String × Nat) :=
  (c.brightness.brightnessDev, c.brightness.brightnessMax, c.kbd.kbdLed)

/-- The lights in the view are the machine's. -/
structure Known (v : Option String × Nat × Option (String × Nat)) : Prop where
  panel : ∀ dev, v.1 = some dev → m.Panel dev v.2.1
  keyboard : ∀ led, v.2.2 = some led → m.Keyboard led.1 led.2

/-- The pieces that keep to the lights of the machine. -/
abbrev Kept {α : Type} (x : Daemon α) : Prop :=
  Stays m.Answers (fun w _ => w) (fun _ e (_ : Unit) => m.Within e)
    (fun c _ => m.Known (lightView c)) x

/-- A request of no light is within every range. -/
theorem within_of_ne {e : Eff} (he : e.resource ≠ .light) : m.Within e := by
  cases e with
  | setBrightness subsystem name value => exact absurd rfl he
  | _ => trivial

/-- What writes no brightness and keeps the lights. -/
theorem framed (rs : List Resource) (hrs : Resource.light ∉ rs) :
    Frames m.Answers (fun w _ => w) (fun _ e (_ : Unit) => m.Within e)
      (fun c _ => m.Known (lightView c)) rs
      lightView :=
  framed_of_view (R := fun e => e.resource = .light) (J := fun v _ => m.Known v)
    (fun _ he hmem => hrs (he ▸ hmem))
    (fun _ _ _ he => m.within_of_ne he) fun _ _ _ _ _ _ _ hv => hv

section

variable (fx : Effectors)

/-- A request that is no write of brightness. -/
theorem kept_request {e : Eff} (he : e.resource ≠ .light) : m.Kept (request e : Daemon e.Ans) :=
  .ask (fun _ _ _ => m.within_of_ne he) fun _ _ _ hI _ => hI

/-- An update that keeps the lights. -/
theorem kept_modify {g : Context → Context} (hg : ∀ c, lightView (g c) = lightView c) :
    m.Kept (modify g : Daemon PUnit) := .modify fun c _ hI => (hg c).symm ▸ hI

/-- A write in the range of its light, and what records it. -/
theorem wp_write {subsystem name : String} {value : Nat} {g : Context → Context} {c : Context}
    {w : Unit} (hwithin : m.Within (Eff.setBrightness subsystem name value))
    (hg : ∀ c, lightView (g c) = lightView c) (hI : m.Known (lightView c)) :
    Wp (World.observer m.Answers fun w _ => w) (fun _ e _ => m.Within e)
      (fun _ c' _ => m.Known (lightView c'))
      (do
        let ok ← (if fx.shadow then pure true else request (.setBrightness subsystem name value) :
          Daemon Bool)
        Process.when ok (modify g)) c w := by
  have hask : Wp (World.observer m.Answers fun w _ => w) (fun _ e _ => m.Within e)
      (fun _ c' _ => m.Known (lightView c'))
      (if fx.shadow then pure true else request (.setBrightness subsystem name value) :
        Daemon Bool) c w := by
    rw [wp_ite]
    refine ⟨fun _ => wp_observer_pure.mpr hI, fun _ => ?_⟩
    exact (wp_observer_ask (e := Eff.setBrightness subsystem name value)).mpr
      ⟨hwithin, fun _ _ => hI⟩
  exact hask.bind fun ok c' w' hI' => Stays.when ok (m.kept_modify hg) c' w' hI'

/-- A read of the level keeps the ranges. -/
theorem kept_read : m.Kept Effectors.brightnessRead := by
  rw [Effectors.brightnessRead]
  refine .get_bind fun c => ?_
  cases c.brightness.brightnessDev with
  | none => exact .pure _
  | some dev => exact m.kept_request (e := .readBrightness dev) (by simp)

/-- So does the question whether the user took over. -/
theorem kept_tookOver : m.Kept Effectors.brightnessUserTookOver := by
  rw [Effectors.brightnessUserTookOver]
  refine .get_bind fun c => ?_
  cases c.brightness.brightnessSet with
  | none => exact .pure _
  | some set =>
    refine .bind m.kept_read fun cur => ?_
    cases cur <;> exact .pure _

/-- What is written is at least one, and at most the maximum of the panel. -/
theorem kept_write (value : Nat) : m.Kept (fx.brightnessWrite value) := by
  intro c _ hI
  rw [Effectors.brightnessWrite, wp_get_bind]
  cases hdev : c.brightness.brightnessDev with
  | none => exact Stays.pure _ c _ hI
  | some dev =>
    have hpanel := hI.panel dev hdev
    refine wp_when.mpr ⟨fun _ => ?_, fun _ => wp_observer_pure.mpr hI⟩
    have hlow : 1 ≤ min (max value 1) c.brightness.brightnessMax :=
      le_min (le_max_right _ _) hpanel.2.2
    exact m.wp_write fx (.inl ⟨rfl, _, hpanel, hlow, min_le_right _ _⟩) (fun _ => rfl) hI

/-- To yield to the user keeps them. -/
theorem kept_yield : m.Kept Effectors.brightnessYield := by
  rw [Effectors.brightnessYield]
  refine .modify_bind (fun _ _ hI => hI) (.bind m.kept_read fun cur => m.kept_modify fun _ => rfl)

/-- A cap writes within the range. -/
theorem kept_limit (save : Bool) (den : Nat) : m.Kept (fx.brightnessLimit save den) := by
  rw [Effectors.brightnessLimit]
  refine .bind m.kept_tookOver fun tookOver => .ite m.kept_yield (.bind m.kept_read fun cur => ?_)
  cases cur with
  | none => exact .pure _
  | some cur =>
    exact .bind (.when _ (m.kept_modify fun _ => rfl)) fun _ => .get_bind fun c =>
      .when _ (m.kept_write fx _)

/-- So does a restore. -/
theorem kept_restore : m.Kept fx.brightnessRestore := by
  intro c w hI
  rw [Effectors.brightnessRestore, wp_get_bind]
  cases c.brightness.brightnessSaved with
  | none => exact Stays.pure _ c w hI
  | some saved =>
    have hrest : m.Kept (do
        let tookOver ← Effectors.brightnessUserTookOver
        if tookOver then do
          let cur ← Effectors.brightnessRead
          modify fun c => { c with brightness := { c.brightness with brightnessSet := cur } }
        else
          fx.brightnessWrite saved) :=
      .bind m.kept_tookOver fun tookOver =>
        .ite (.bind m.kept_read fun cur => m.kept_modify fun _ => rfl) (m.kept_write fx saved)
    exact hrest _ w hI

/-- So does an edge of the base state. -/
theorem kept_edge (prev base : BaseState) : m.Kept (fx.brightnessEdge prev base) := by
  rw [Effectors.brightnessEdge]
  refine .when _ (.bind (.when _ (m.kept_limit fx true 2)) fun _ => ?_)
  exact .bind (.when _ (m.kept_limit fx false 4)) fun _ => .when _ (m.kept_restore fx)

/-- So does the re-arm after a resume. -/
theorem kept_rearm : m.Kept Effectors.brightnessRearm := by
  rw [Effectors.brightnessRearm]
  exact .get_bind fun c => .when _ (.bind m.kept_read fun cur => m.kept_modify fun _ => rfl)

/-- The panel that is found is the machine's, and what is taken for its maximum is its own. -/
theorem kept_discoverBacklight : m.Kept Effectors.discoverBacklight := by
  intro c w hI
  rw [Effectors.discoverBacklight, wp_observer_ask_bind]
  refine ⟨trivial, fun found hfound => ?_⟩
  obtain ⟨entries, rfl⟩ := hfound
  rw [wp_get_bind, wp_when]
  refine ⟨fun _ => ?_, fun _ => wp_observer_pure.mpr hI⟩
  refine wp_observer_modify.mpr ⟨fun dev hdev => ?_, hI.keyboard⟩
  obtain ⟨found, hfound, rfl⟩ : ∃ found : Text × Nat, findBacklight entries
      m.backlight = some found ∧
      String.ofList found.1 = dev := by simpa using hdev
  obtain ⟨⟨⟨_, _, hfirst⟩, hmax⟩, hpos⟩ := findBacklight_eq_some.mp hfound
  simp only [hfound, Panel, Option.map_some, Option.getD_some, String.toList_ofList]
  exact ⟨hfirst.1.2, hmax, hpos⟩

/-- What is written is at most the maximum of the keyboard. -/
theorem kept_kbdSet (pct : Nat) : m.Kept (fx.kbdSet pct) := by
  intro c w hI
  rw [Effectors.kbdSet, wp_get_bind]
  cases hled : c.kbd.kbdLed with
  | none => exact Stays.pure _ c w hI
  | some led =>
    have hkeyboard := hI.keyboard led hled
    refine wp_when.mpr ⟨fun _ => ?_, fun _ => wp_observer_pure.mpr hI⟩
    exact m.wp_write fx (.inr ⟨rfl, led.2, hkeyboard, levelToRaw_le pct led.2⟩) (fun _ => rfl) hI

/-- The keys' light is written within its own. -/
theorem kept_kbdPolicyCheck (sample : Bool) : m.Kept (fx.kbdPolicyCheck sample) := by
  have hsample : m.Kept Effectors.kbdSample := by
    intro c w hI
    rw [Effectors.kbdSample, wp_get_bind]
    cases c.kbd.kbdAls with
    | none => exact Stays.pure _ c w hI
    | some als =>
      rw [wp_observer_ask_bind]
      refine ⟨trivial, fun lux _ => ?_⟩
      cases lux with
      | none => exact Stays.pure _ c w hI
      | some lux => exact wp_observer_modify.mpr hI
  rw [Effectors.kbdPolicyCheck]
  refine .get_bind fun c => .when _ (.bind (.when _ hsample) fun _ => .get_bind fun c => ?_)
  refine .bind (m.kept_kbdSet fx _) fun _ => ?_
  exact m.framed [.file] (by decide) (fun c => kbdWriteStatus_spec fx c _) (fun _ => id)
    (by rintro c _ _ rfl; rfl)

/-- So it is when its override ends. -/
theorem kept_release : m.Kept fx.kbdReleaseOverride := by
  intro c w hI
  rw [Effectors.kbdReleaseOverride, wp_get_bind, wp_when]
  refine ⟨fun _ => ?_, fun _ => wp_observer_pure.mpr hI⟩
  rw [wp_set_bind]
  exact Stays.when _ (m.kept_request (e := .kbdOverrideRemove) (by simp)) _ w hI

/-- The keyboard that is found is the machine's. -/
theorem kept_discoverKbd : m.Kept Effectors.discoverKbd := by
  intro c w hI
  rw [Effectors.discoverKbd, wp_observer_ask_bind]
  refine ⟨trivial, fun found hfound => ?_⟩
  obtain ⟨entries, rfl⟩ := hfound
  rw [wp_get_bind]
  -- The LED is on record only at the end.
  refine Wp.bind (Q := fun _ c' _ => m.Known (lightView c')) ?_ fun _ c' w' hI' => ?_
  · rw [wp_when]
    refine ⟨fun _ => ?_, fun _ => wp_observer_pure.mpr hI⟩
    cases findKbdLed entries m.led with
    | none => exact wp_observer_modify.mpr hI
    | some led =>
      refine Stays.bind (m.kept_request (e := .ledBrightness _) (by simp)) (fun raw => ?_) c w hI
      exact m.kept_modify fun _ => rfl
  · rw [wp_observer_ask_bind]
    refine ⟨trivial, fun als _ => wp_observer_modify.mpr ⟨hI'.panel, fun led hled => ?_⟩⟩
    obtain ⟨found, hfound, rfl⟩ := Option.map_eq_some_iff.mp hled
    obtain ⟨hname, hmax, hpos⟩ := findKbdLed_eq_some hfound
    simp only [Keyboard, String.toList_ofList]
    exact ⟨hname, hmax, hpos⟩

/-- Every piece of a turn keeps the ranges. -/
theorem invariant : GroupInvariant fx m.Answers (fun w _ => w) (fun _ e (_ : Unit) => m.Within e)
    (fun c _ => m.Known (lightView c)) := by
  -- The view holds the devices and their ranges, which only discovery sets.
  have hgroups : ∀ c c' : Context, c'.groups = c.groups →
      lightView c' = lightView c := fun c c' hc =>
    congrArg
      (fun g : Groups => (g.brightness.brightnessDev, g.brightness.brightnessMax, g.kbd.kbdLed)) hc
  exact {
    toProfilePieces := .of_view (J := fun v _ => m.Known v)
      (m.framed [.query, .file, .profile, .command] (by decide))
      (fun _ => id) fun _ _ _ _ => rfl
    toPowerPieces :=
      .of_view (J := fun v _ => m.Known v) (m.framed [.powerOverride, .command] (by decide))
      (fun _ => id) fun _ _ _ _ _ => rfl
    toCallPieces :=
      .of_view (J := fun v _ => m.Known v) (m.framed [.query, .powerd] (by decide)) (fun _ => id)
      fun _ _ _ => rfl
    toTaskPieces := .of_view (J := fun v _ => m.Known v)
      (m.framed [.query, .abort, .timer, .graceTimer] (by decide))
      (fun _ => id) fun _ _ _ _ _ => rfl
    toCommandPieces := .of_view (J := fun v _ => m.Known v)
      (m.framed (entryResources ++ suspendResources) (by decide))
      (fun _ => id) fun _ _ _ _ => rfl
    edge := m.kept_edge fx
    rearm := m.kept_rearm
    discoverBacklight := m.kept_discoverBacklight
    kbd := m.kept_kbdPolicyCheck fx
    inputs := fun c k w hled _ hI => ⟨hI.panel, fun led h => hI.keyboard led (hled.symm.trans h)⟩
    release := m.kept_release fx
    discoverKbd := m.kept_discoverKbd
    core := fun c c' _ hc hI => hgroups c c' hc ▸ hI
    frame := fun hx hrs hQ => m.framed framedResources (by decide) hx hrs fun c a c' hc =>
      hgroups c c' (hQ c a c' hc)
    drift := fun trigger mode source => .of_leaves (R := fun e => e.resource = .light)
      (J := fun v _ => m.Known v)
      (checkAndNotifyDrift_leaves fx (fun e he hr => absurd (he.symm.trans hr) (by decide))
        (fun _ _ => by simp)
        (fun _ _ _ => rfl) trigger mode source)
      (fun _ e _ he => m.within_of_ne he) fun _ _ _ _ _ _ _ hv => hv }

/-- The setup finds them. -/
theorem kept_setup : Wp (World.observer m.Answers fun w _ => w) (fun _ e (_ : Unit) => m.Within e)
    (fun _ c' _ => m.Known (lightView c')) fx.setup {} () := by
  refine (m.invariant fx).setup (fun _ _ _ hI => hI) (fun conf => ?_) (fun c w _ hI => ?_) ?_ rfl
  · rw [Effectors.seedKbd]
    refine .bind (m.kept_request (e := .kbdLevelWord) (by simp)) fun level => ?_
    refine .bind (m.kept_request (e := .kbdOverrideExists) (by simp)) fun override => ?_
    exact .modify_bind (fun _ _ hI => hI) m.kept_discoverKbd
  · exact m.framed [.query] (by decide) seedProfile_spec (fun _ => id)
      (by rintro _ _ _ ⟨n, r, e, rfl⟩; rfl) c w hI
  · exact ⟨by rintro dev ⟨⟩, by rintro led ⟨⟩⟩

/-- A handler keeps them. -/
theorem kept_handle (ev : Event) : m.Kept (fx.handle ev) := fun c w hI => by
  refine (m.invariant fx).handle ?_
  by_cases hev : ev = .powerdAppeared
  · subst hev
    rw [Effectors.dispatchUpdate, wp_modify_bind, wp_modify_bind, wp_observer_pure]
    split <;> exact hI
  · exact (m.invariant fx).dispatchUpdate ev hev c w hI

end

end LightFiles

/-- On a machine whose lights keep their maxima, in every run every write of brightness is in the
range of its light, and the panel on record has a range. -/
theorem Run.lights_within {fx : Effectors} {m : LightFiles} {tr₀ : List DaemonObs}
    {ts : List Turn} {c : Context} (h : Run fx tr₀ ts c)
    (hlights : ∀ o ∈ requested tr₀ ts, m.Answers o) :
    (∀ o ∈ requested tr₀ ts, m.Within o.1.2) ∧
      ∀ dev, c.brightness.brightnessDev = some dev → 1 ≤ c.brightness.brightnessMax := by
  obtain ⟨hG, hI⟩ := h.recorded (m.kept_setup fx) (m.invariant fx).startup
    (m.kept_handle fx) hlights
  refine ⟨fun o ho => ?_, fun dev hdev => (hI.panel dev hdev).2.2⟩
  obtain ⟨pre, post, heq⟩ := List.append_of_mem ho
  exact along_iff_split.mp hG pre o post heq

/-- A laptop with a panel of a hundred levels and a lit keyboard, in the dark. -/
def lampLit : (e : Eff) → e.Ans
  | .findBacklight => some ("amdgpu_bl1", 100)
  | .findKbdLed => some ("kbd_backlight", 3)
  | .findAls => some "in_illuminance_input"
  | .readLux _ => some 0
  | .loadPowerConf => { kbd := .auto }
  | .readBrightness _ => some 100
  | .setBrightness _ _ _ => true
  | e => e.quiet

/-- The files of a machine with a backlight of a hundred levels and keys of three. -/
def lampFiles : LightFiles where
  backlight _ := some "100\n".toList
  led _ := some "3\n".toList

/-- Its answers are answers of these files. -/
theorem lampFiles_answers {o : DaemonObs} (h : o.2 = lampLit o.1.2) : lampFiles.Answers o := by
  have hpanel : some ("amdgpu_bl1", 100) =
      (findBacklight (some ["amdgpu_bl1".toList]) lampFiles.backlight).map
      fun p => (String.ofList p.1, p.2) := by decide +kernel
  have hkeyboard : some ("kbd_backlight", 3) =
      (findKbdLed (some ["kbd_backlight".toList]) lampFiles.led).map
      fun p => (String.ofList p.1, p.2) := by decide +kernel
  obtain ⟨⟨c, e⟩, b⟩ := o
  cases e with
  | findBacklight => exact ⟨_, h.trans hpanel⟩
  | findKbdLed => exact ⟨_, h.trans hkeyboard⟩
  | _ => trivial

/-- The user types, and the charger is unplugged. -/
theorem Run.lights_within_unplugged : ∃ tr₀ ts c, Run ⟨false, true⟩ tr₀ ts c ∧
    ((requested tr₀ ts).map fun o => o.1.2).filter (fun e => decide (e.resource = .light)) =
      [.setBrightness "leds" "kbd_backlight" 0, .setBrightness "leds" "kbd_backlight" 2,
        .setBrightness "backlight" "amdgpu_bl1" 50] ∧
    (∀ o ∈ requested tr₀ ts, lampFiles.Within o.1.2) ∧
      ∀ dev, c.brightness.brightnessDev = some dev → 1 ≤ c.brightness.brightnessMax := by
  have hstart := Run.start (runs_answered (Effectors.setup ⟨false, true⟩) lampLit {})
    (runs_answered (Effectors.startup ⟨false, true⟩) lampLit _)
  have hsettled :=
    hstart.turn .powerAcSettled (runs_answered (Effectors.handle ⟨false, true⟩ _) lampLit _)
  have htyping :=
    hsettled.turn (.kbdIdle false) (runs_answered (Effectors.handle ⟨false, true⟩ _) lampLit _)
  have hunplugged :=
    htyping.turn (.acChanged false) (runs_answered (Effectors.handle ⟨false, true⟩ _) lampLit _)
  have hrun :=
    hunplugged.turn .powerAcSettled (runs_answered (Effectors.handle ⟨false, true⟩ _) lampLit _)
  refine ⟨_, _, _, hrun, by decide +kernel, hrun.lights_within fun o ho => lampFiles_answers ?_⟩
  simp only [requested, List.nil_append, List.cons_append, List.flatMap_cons,
    List.flatMap_nil, List.append_nil, List.mem_append] at ho
  rcases ho with (ho | ho) | ho | ho | ho | ho <;> exact answer_of_mem_answered ho

end Hyprstate
