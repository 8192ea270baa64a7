import Hyprstate.Daemon.Avoidance
import Hyprstate.Daemon.Records
import Hyprstate.Powerd.Client

/-!
# A failed monitor read looks like an undock

`monitor_signature` turns a failed read of the monitors into an empty list, and the profile
selection, the breadcrumb, the GPU mode and the pin follow from that list as they do after an
undock. A dispatch that finds the read failing leaves the profile on record, the breadcrumb and the
pin as they were exactly where an empty list leads to what stands already, or where powerd or a file
does not take the change and the attempt leaves the file as it was (`dispatch_keeps_iff`).
-/

namespace Hyprstate

open Reactive Process

/-- What a dispatch finds while the monitors cannot be read. The monitor profiles' own matching
answers `selected` for an empty list. -/
structure Blackout where
  profiles : List MonitorProfile := []
  selected : Option MonitorProfile := none
  override : Option String := none
  platform : Option String := none
  /-- The first reading of the clock. -/
  now : Nat := 0
  /-- The active link can be repointed. -/
  repoints : Bool := true
  /-- The breadcrumb can be written and removed. -/
  writable : Bool := true
  /-- What a write of the breadcrumb that fails leaves: `fs::write` empties the file first. -/
  left : Option String := none
  /-- powerd takes a pin, and a profile. -/
  pins : Bool := true
  applies : Bool := true

/-- The body of the breadcrumb, and the pin last pushed to powerd. -/
structure GpuSide where
  crumb : Option String := none
  pin : Option Bool := none
  /-- The clock was read. -/
  read : Bool := false

/-- What a preference overlays the mode with. -/
def GpuPref.overlay (pref : GpuPref) : Option String :=
  if pref = .auto then none else some pref.asStr

/-- The breadcrumb that a matched profile leaves. -/
def crumbOf (value : Option GpuPref) : Option String :=
  (value.bind GpuPref.overlay).map fun word => word ++ "\n"

namespace Blackout

variable (B : Blackout)

/-- The profile that matches no monitor at all. -/
def chosen : Option MonitorProfile :=
  B.selected.bind fun s => B.profiles.find? fun p => p.name == s.name

/-- The mode that follows. -/
def mode : GpuMode :=
  (resolveGpuMode B.override ((B.chosen.map MonitorProfile.gpu).getD .auto).overlay B.platform).1

/-- Whether the mode pins the discrete card awake. -/
def awake : Bool := dgpuRuntimePmPinned B.mode

/-- What is answered. A removal that fails leaves the breadcrumb, and a write that fails may leave
anything. -/
def Answer (r : Context × Eff) (w : GpuSide) (b : stamped Eff.Ans r) (w' : GpuSide) : Prop :=
  match r, b with
  | (_, .monitors), monitors => monitors = none ∧ w' = w
  | (_, .loadProfiles), profiles => profiles = B.profiles ∧ w' = w
  | (_, .selectProfile _ _), selected => selected = B.selected ∧ w' = w
  | (_, .gpuOverrideWord), word => word = B.override ∧ w' = w
  | (_, .platformProfileWord), word => word = B.platform ∧ w' = w
  | (_, .now), now => (w.read = false → now = B.now) ∧ w' = { w with read := true }
  | (_, .repointActive _), ok => ok = B.repoints ∧ w' = w
  | (_, .gpuBreadcrumbExists), present => present = w.crumb.isSome ∧ w' = w
  | (_, .gpuBreadcrumbRemove), ok =>
    ok = B.writable ∧ w' = if ok then { w with crumb := none } else w
  | (_, .gpuBreadcrumbWrite pref), ok =>
    ok = B.writable ∧ w' = { w with crumb := if ok then some (pref.asStr ++ "\n") else B.left }
  | (_, .powerdSetDgpuAwake awake), ok =>
    ok = B.pins ∧ w' = if ok then { w with pin := some awake } else w
  | (_, .powerdApplyProfile _), ok => ok = B.applies ∧ w' = w
  | _, _ => w' = w

/-- The daemon alone moves the breadcrumb and the pin. -/
def world : World (Context × Eff) (stamped Eff.Ans) GpuSide where
  drift _ _ := False
  answer := B.Answer

/-! ## The condition -/

variable (fx : Effectors) (c : Context) (w : GpuSide)

/-- The profile of no monitors is on record already, or it cannot be linked. -/
def KeepsRev : Prop :=
  c.activeProfileRev = B.chosen ∨ B.chosen ≠ none ∧ fx.shadow = false ∧ B.repoints = false

/-- Its breadcrumb is on disk already; or it cannot be put there, and the attempt leaves the file as
it was. -/
def KeepsCrumb : Prop :=
  fx.shadow = true ∨
    B.writable = true ∧ w.crumb = crumbOf (B.chosen.map MonitorProfile.gpu) ∨
    B.writable = false ∧ (crumbOf (B.chosen.map MonitorProfile.gpu) = none ∨ w.crumb = B.left)

/-- The pin of its mode was pushed last, or powerd does not take it. -/
def KeepsPin (available : Bool) : Prop :=
  c.gpu.dgpuPinned = some B.awake ∨ available = false ∨ fx.shadow = false ∧ B.pins = false

/-- Whether powerd is still available once an external write of platform_profile is adopted. -/
def reaches (value : Option String) : Bool :=
  c.power.powerdAvailable &&
    ((c.power.selfWrites.isSelfWrite B.now value).1 ||
      decide (c.power.powerApplied = some (profileFromPlatformValue value)) ||
        fx.shadow || B.applies)

/-- Where the dispatch of the event leaves the profile, the breadcrumb and the pin as they were. -/
def Keeps : Event → Prop
  | .monitorsChanged =>
    B.KeepsRev fx c ∧ B.KeepsCrumb fx w ∧ B.KeepsPin fx c c.power.powerdAvailable
  | .acChanged onAc => onAc ≠ c.onAc → B.KeepsPin fx c c.power.powerdAvailable
  | .gpuOverrideChanged _ => B.KeepsPin fx c c.power.powerdAvailable
  | .platformProfileChanged value => B.KeepsPin fx c (B.reaches fx c value)
  | _ => True

end Blackout

/-- The events whose dispatch reads the monitors for the GPU. -/
def readsMonitors : Event → Bool
  | .monitorsChanged | .acChanged _ | .gpuOverrideChanged _ | .platformProfileChanged _ => true
  | _ => false

/-- The profile on record, the breadcrumb and the pin, in the context and at powerd, are the
same. -/
def Kept (c : Context) (w : GpuSide) (c' : Context) (w' : GpuSide) : Prop :=
  c'.activeProfileRev = c.activeProfileRev ∧ w'.crumb = w.crumb ∧
    c'.gpu.dgpuPinned = c.gpu.dgpuPinned ∧ w'.pin = w.pin

/-! ## What leaves the GPU side alone -/

/-- A request that moves the breadcrumb or the pin. -/
def Eff.movesGpuSide (e : Eff) : Prop :=
  e = .gpuBreadcrumbRemove ∨ (∃ pref, e = .gpuBreadcrumbWrite pref) ∨
    ∃ awake, e = .powerdSetDgpuAwake awake

/-- A piece without file writes and calls of powerd moves nothing of the GPU's. -/
theorem not_movesGpuSide_of_only {rs : List Resource} {c : Context} {e : Eff} (h : only rs c e)
    (hfile : Resource.file ∉ rs) (hpowerd : Resource.powerd ∉ rs) : ¬e.movesGpuSide := by
  rintro (rfl | ⟨pref, rfl⟩ | ⟨awake, rfl⟩)
  · exact hfile h
  · exact hfile h
  · exact hpowerd h

/-- What the GPU's side reads of the context. -/
def gpuView (c : Context) : Option MonitorProfile × Option Bool :=
  (c.activeProfileRev, c.gpu.dgpuPinned)

/-- A piece that leaves the profile on record, the breadcrumb and the pin alone. -/
abbrev LeavesGpuSide {α : Type} (x : Daemon α) : Prop := Leaves Eff.movesGpuSide gpuView x

/-- Such a piece leaves the view too, where its frame does. -/
theorem leavesGpuSide_of_only {α : Type} {x : Daemon α} {rs : List Resource}
    {Q : Context → α → Context → Prop} (h : ∀ c, Meets x c (only rs) (Q c))
    (hfile : Resource.file ∉ rs) (hpowerd : Resource.powerd ∉ rs)
    (hQ : ∀ c a c', Q c a c' → gpuView c' = gpuView c) : LeavesGpuSide x :=
  .of_meets h (fun _ _ _ he => not_movesGpuSide_of_only he hfile hpowerd) hQ

section

variable (fx : Effectors)

/-- A power profile is none of the GPU's business. -/
theorem applyPowerProfile_leavesGpuSide (profile : PowerProfile) :
    LeavesGpuSide (fx.applyPowerProfile profile) := by
  have hcall : ¬(Eff.powerdApplyProfile profile).movesGpuSide := by
    rintro (h | ⟨_, h⟩ | ⟨_, h⟩) <;> cases h
  have hnow : ¬Eff.now.movesGpuSide := by
    rintro (h | ⟨_, h⟩ | ⟨_, h⟩) <;> cases h
  rw [Effectors.applyPowerProfile]
  refine .get_bind fun c => .when _ (.bind (.ask hnow) fun now => .modify_bind (fun _ => rfl) ?_)
  refine .bind (.ite (.pure _) (.ask hcall)) fun ok => ?_
  exact .ite (.modify fun _ => rfl) (.modify fun _ => rfl)

/-- Nor is the power policy. -/
theorem powerPolicyCheck_leavesGpuSide : LeavesGpuSide fx.powerPolicyCheck := by
  rw [Effectors.powerPolicyCheck]
  refine .get_bind fun c => .bind (leavesGpuSide_of_only (fun c => powerOverrideStep_spec fx c _)
    (by decide) (by decide) (by rintro _ _ _ ⟨p, rfl⟩; rfl)) fun _ => ?_
  refine .get_bind fun c₁ => .bind (applyPowerProfile_leavesGpuSide fx _) fun _ => ?_
  refine .get_set_bind (fun _ => rfl) fun c₂ => ?_
  cases c₂.power.powerLastBase with
  | none => exact .pure _
  | some prev =>
    exact leavesGpuSide_of_only (fun c => brightnessEdge_spec fx c prev _) (by decide) (by decide)
      (by rintro _ _ _ ⟨b, rfl⟩; rfl)

/-- Nor are the workspaces. -/
theorem rehomeEdpWorkspaces_leavesGpuSide : LeavesGpuSide fx.rehomeEdpWorkspaces := by
  refine .of_meets (fun c => sendCmd_spec fx c _) ?_ (by rintro _ _ _ rfl; rfl)
  rintro _ _ _ ⟨-, rfl, -⟩ (h | ⟨_, h⟩ | ⟨_, h⟩) <;> cases h

/-- Nor is an evaluation. -/
theorem evaluateFsms_leavesGpuSide (kind : EventKind) (hkind : kind ≠ .timerExpired) :
    LeavesGpuSide (fx.evaluateFsms kind) := by
  refine .of_meets (fun c => evaluateFsms_spec fx c kind hkind) ?_
    (by rintro _ _ _ ⟨t, w, rfl⟩; rfl)
  exact fun c c' e he => not_movesGpuSide_of_only (c := c') he.1 (by decide) (by decide)

/-- Drift advice moves its own bookkeeping. -/
theorem checkAndNotifyDrift_leavesGpuSide (trigger : String) (mode : GpuMode)
    (source : GpuModeSource) : LeavesGpuSide (fx.checkAndNotifyDrift trigger mode source) := by
  refine checkAndNotifyDrift_leaves fx ?_ ?_ (fun c _ hpinned => ?_) trigger mode source
  · rintro _ he (rfl | ⟨_, rfl⟩ | ⟨_, rfl⟩) <;> cases he
  · rintro _ _ (h | ⟨_, h⟩ | ⟨_, h⟩) <;> cases h
  · exact congrArg (Prod.mk c.activeProfileRev) hpinned

end

/-! ## The pieces, while the monitors cannot be read -/

section

variable {B : Blackout} (fx : Effectors) (c : Context) (w : GpuSide)

/-- Nobody else acts during the blackout. -/
theorem Blackout.still (w w' : GpuSide) : ¬B.world.drift w w' := id

/-- A request of another kind leaves the breadcrumb and the pin. -/
theorem Blackout.answer_frame {e : Eff} {w w' : GpuSide} {b : stamped Eff.Ans (c, e)}
    (he : ¬e.movesGpuSide) (h : B.world.answer (c, e) w b w') :
    w'.crumb = w.crumb ∧ w'.pin = w.pin := by
  cases e with
  | gpuBreadcrumbRemove => exact absurd (.inl rfl) he
  | gpuBreadcrumbWrite pref => exact absurd (.inr (.inl ⟨pref, rfl⟩)) he
  | powerdSetDgpuAwake awake => exact absurd (.inr (.inr ⟨awake, rfl⟩)) he
  | monitors | loadProfiles | selectProfile _ _ | gpuOverrideWord | platformProfileWord | now
  | repointActive _ | gpuBreadcrumbExists | powerdApplyProfile _ =>
    obtain ⟨-, rfl⟩ := h
    exact ⟨rfl, rfl⟩
  | _ =>
    obtain rfl : w' = w := h
    exact ⟨rfl, rfl⟩

/-- A piece that makes no other request keeps the breadcrumb and the pin. -/
theorem wp_gpuSide {α : Type} {x : Daemon α} {Q : α → Context → Prop}
    (hx : Meets x c (fun _ e => ¬e.movesGpuSide) Q) :
    Wp B.world (fun _ _ _ => True) (fun a c' w' => Q a c' ∧ w'.crumb = w.crumb ∧
      w'.pin = w.pin) x c w := by
  refine (wp_of_meets (J := fun w' => w'.crumb = w.crumb ∧ w'.pin = w.pin) hx ⟨rfl, rfl⟩ ?_ ?_).mono
    (fun _ _ _ _ => trivial) fun _ _ _ => id
  · exact fun w₁ w₂ hdrift => absurd hdrift (Blackout.still w₁ w₂)
  · intro c' e w₁ b w₂ he hanswer hw₁
    obtain ⟨hcrumb, hpin⟩ := Blackout.answer_frame c' he hanswer
    exact ⟨hcrumb.trans hw₁.1, hpin.trans hw₁.2⟩

/-- So does one that touches neither files nor powerd. -/
theorem wp_quiet {α : Type} {x : Daemon α} {rs : List Resource} {Q : α → Context → Prop}
    (hx : Meets x c (only rs) Q) (hfile : Resource.file ∉ rs) (hpowerd : Resource.powerd ∉ rs) :
    Wp B.world (fun _ _ _ => True) (fun a c' w' => Q a c' ∧ w'.crumb = w.crumb ∧
      w'.pin = w.pin) x c w :=
  wp_gpuSide c w (hx.mono (fun _ _ he => not_movesGpuSide_of_only he hfile hpowerd) fun _ _ => id)

/-- The match is that of no monitors. -/
theorem currentMatch_blackout :
    Wp B.world (fun _ _ _ => True) (fun chosen c' w' => c' = c ∧ w' = w ∧ chosen = B.chosen)
      Effectors.currentMatch c w := by
  rw [Effectors.currentMatch, Hyprctl.monitorSignature, bind_assoc]
  refine (wp_still_ask_bind Blackout.still (e := Eff.monitors)).mpr ⟨trivial, ?_⟩
  intro monitors w₁ h₁
  obtain ⟨rfl, rfl⟩ := h₁
  show Wp B.world _ _ (request .loadProfiles >>= fun profiles => (do
      let selected ← request (.selectProfile [] profiles)
      pure (selected.bind fun s => profiles.find? fun p => p.name == s.name))) c w₁
  refine (wp_still_ask_bind Blackout.still (e := Eff.loadProfiles)).mpr ⟨trivial, ?_⟩
  intro profiles w₂ h₂
  obtain ⟨rfl, rfl⟩ := h₂
  refine (wp_still_ask_bind Blackout.still (e := Eff.selectProfile [] B.profiles)).mpr ⟨trivial, ?_⟩
  intro selected w₃ h₃
  obtain ⟨rfl, rfl⟩ := h₃
  exact (wp_still_pure Blackout.still).mpr ⟨rfl, rfl, rfl⟩

/-- An apply records the profile where it is repointed. -/
theorem applyProfile_blackout (profile : MonitorProfile) :
    Wp B.world (fun _ _ _ => True)
      (fun _ c' w' => (c'.gpu = c.gpu ∧ c'.power = c.power ∧ c'.activeProfileRev =
          if fx.shadow = true ∨ B.repoints = true then some profile else c.activeProfileRev) ∧
        w'.crumb = w.crumb ∧ w'.pin = w.pin)
      (fx.applyProfile profile) c w := by
  -- The body goes on record where the link was repointed.
  have hlinked : ∀ repointed : Bool, (repointed = true ↔ fx.shadow = true ∨ B.repoints = true) →
      Wp B.world (fun _ _ _ => True)
        (fun _ c' w' => (c'.gpu = c.gpu ∧ c'.power = c.power ∧ c'.activeProfileRev =
            if fx.shadow = true ∨ B.repoints = true then some profile else c.activeProfileRev) ∧
          w'.crumb = w.crumb ∧ w'.pin = w.pin)
        (when repointed do
          modify fun c => { c with
            currentProfile := some profile.name
            activeProfileRev := some profile
            edpPolicy := profile.edp }
          when (!fx.shadow) do
            fx.sendCmd .applyProfile
            profile.hooks.forM fun hook => fx.sendCmd (.runHook hook)) c w := by
    intro repointed hiff
    rw [wp_when]
    refine ⟨fun h => ?_, fun h => ?_⟩
    · rw [wp_modify_bind, if_pos (hiff.mp h)]
      refine (wp_gpuSide _ w ((profileCmds_spec fx _ profile).mono ?_ fun _ _ => id)).mono
        (fun _ _ _ => id) ?_
      · rintro _ _ (rfl | ⟨hook, rfl⟩) (h | ⟨_, h⟩ | ⟨_, h⟩) <;> cases h
      rintro _ _ w' ⟨rfl, hw'⟩
      exact ⟨⟨rfl, rfl, rfl⟩, hw'⟩
    · rw [if_neg fun hor => absurd ((hiff.mpr hor).symm.trans h) (by simp)]
      exact (wp_still_pure Blackout.still).mpr ⟨⟨rfl, rfl, rfl⟩, rfl, rfl⟩
  rw [Effectors.applyProfile]
  refine (wp_still_ask_bind Blackout.still (e := Eff.activeLinkIs profile.name)).mpr ⟨trivial, ?_⟩
  rintro symlinkOk w₁ h₁
  obtain rfl : w₁ = w := h₁
  rw [wp_get_bind]
  dsimp only
  rw [wp_when]
  refine ⟨fun _ => ?_, fun hskip => ?_⟩
  · rw [wp_bind, wp_ite]
    refine ⟨fun hs => (wp_still_pure Blackout.still).mpr (hlinked true ?_), fun hs => ?_⟩
    · exact ⟨fun _ => .inl hs, fun _ => rfl⟩
    · refine (wp_still_ask Blackout.still (e := Eff.repointActive profile.name)).mpr ⟨trivial, ?_⟩
      intro repointed w₂ h₂
      obtain ⟨rfl, rfl⟩ := h₂
      exact hlinked _ ⟨.inr, fun h => h.resolve_left hs⟩
  · -- The body is on record already.
    have hsame : c.activeProfileRev = some profile := by
      simp only [Bool.not_eq_false', Bool.and_eq_true, decide_eq_true_eq] at hskip
      exact hskip.2
    refine (wp_still_pure Blackout.still).mpr ⟨⟨rfl, rfl, ?_⟩, rfl, rfl⟩
    rw [hsame, ite_self]

/-- The breadcrumb is removed where it exists, or the removal fails. -/
theorem removeBreadcrumb_blackout :
    Wp B.world (fun _ _ _ => True)
      (fun _ c' w' => c' = c ∧ w'.pin = w.pin ∧
        w'.crumb = if B.writable = false then w.crumb else none) (do
      let present ← request .gpuBreadcrumbExists
      when present do
        let _ ← request .gpuBreadcrumbRemove : Daemon Unit) c w := by
  refine (wp_still_ask_bind Blackout.still (e := Eff.gpuBreadcrumbExists)).mpr ⟨trivial, ?_⟩
  intro present w₁ h₁
  obtain ⟨rfl, rfl⟩ := h₁
  rw [wp_when]
  refine ⟨fun _ => ?_, fun habsent => ?_⟩
  · refine (wp_still_ask_bind Blackout.still (e := Eff.gpuBreadcrumbRemove)).mpr ⟨trivial, ?_⟩
    intro ok w₂ h₂
    obtain ⟨rfl, rfl⟩ := h₂
    refine (wp_still_pure Blackout.still).mpr ?_
    cases B.writable with
    | true => exact ⟨rfl, rfl, rfl⟩
    | false => exact ⟨rfl, rfl, rfl⟩
  · have hcrumb : w₁.crumb = none := by simpa using habsent
    refine (wp_still_pure Blackout.still).mpr ⟨rfl, rfl, ?_⟩
    rw [hcrumb, ite_self]

/-- The breadcrumb is written, or the write fails. -/
theorem writeBreadcrumb_blackout (pref : GpuPref) :
    Wp B.world (fun _ _ _ => True)
      (fun _ c' w' => c' = c ∧ w'.pin = w.pin ∧
        w'.crumb = if B.writable = false then B.left else some (pref.asStr ++ "\n")) (do
      let _ ← request (.gpuBreadcrumbWrite pref) : Daemon Unit) c w := by
  refine (wp_still_ask_bind Blackout.still (e := Eff.gpuBreadcrumbWrite pref)).mpr ⟨trivial, ?_⟩
  intro ok w₁ h₁
  obtain ⟨rfl, rfl⟩ := h₁
  refine (wp_still_pure Blackout.still).mpr ?_
  cases B.writable with
  | true => exact ⟨rfl, rfl, rfl⟩
  | false => exact ⟨rfl, rfl, rfl⟩

/-- What a match leaves of the breadcrumb that stands. -/
def Blackout.leaves (B : Blackout) (value : Option GpuPref) (crumb : Option String) :
    Option String :=
  if B.writable = false then (if crumbOf value = none then crumb else B.left) else crumbOf value

/-- `write_gpu_breadcrumb`, whether the disk takes the change or not. -/
theorem writeGpuBreadcrumb_blackout (value : Option GpuPref) :
    Wp B.world (fun _ _ _ => True)
      (fun _ c' w' => c' = c ∧ w'.pin = w.pin ∧
        w'.crumb = if fx.shadow = true then w.crumb else B.leaves value w.crumb)
      (fx.writeGpuBreadcrumb value) c w := by
  rw [Effectors.writeGpuBreadcrumb.eq_def, wp_when]
  refine ⟨fun hlive => ?_, fun hshadow => ?_⟩
  · have hs : fx.shadow ≠ true := by simpa using hlive
    rw [if_neg hs]
    -- one case for each preference: auto removes the file as no match does
    cases value with
    | none => exact removeBreadcrumb_blackout c w
    | some pref =>
      cases pref with
      | auto => exact removeBreadcrumb_blackout c w
      | igpu => exact writeBreadcrumb_blackout c w .igpu
      | dgpu => exact writeBreadcrumb_blackout c w .dgpu
  · refine (wp_still_pure Blackout.still).mpr ⟨rfl, rfl, ?_⟩
    rw [if_pos (by simpa using hshadow)]

/-- The breadcrumb that stands is left exactly under its condition. -/
theorem Blackout.leaves_iff :
    (if fx.shadow = true then w.crumb else B.leaves (B.chosen.map MonitorProfile.gpu) w.crumb) =
      w.crumb ↔ B.KeepsCrumb fx w := by
  unfold Blackout.leaves Blackout.KeepsCrumb
  by_cases hs : fx.shadow = true
  · simp [hs]
  cases hwritable : B.writable with
  | true => simp [hs, eq_comm]
  | false =>
    by_cases hnone : crumbOf (B.chosen.map MonitorProfile.gpu) = none
    · simp [hs, hnone]
    · simp [hs, hnone, eq_comm]

/-- The pin is kept where it is as it should be, or cannot be moved. -/
theorem syncDgpuPin_blackout (awake : Bool) :
    Wp B.world (fun _ _ _ => True)
      (fun _ c' w' => c'.activeProfileRev = c.activeProfileRev ∧ w'.crumb = w.crumb ∧
        (c'.gpu.dgpuPinned = c.gpu.dgpuPinned ∧ w'.pin = w.pin ↔
          c.gpu.dgpuPinned = some awake ∨ c.power.powerdAvailable = false ∨
            fx.shadow = false ∧ B.pins = false))
      (fx.syncDgpuPin awake) c w := by
  rw [Effectors.syncDgpuPin, wp_get_bind, wp_when]
  -- The call is made unless the pin is known or powerd is away.
  refine ⟨fun hcalls => ?_, fun hskip => ?_⟩
  · simp only [Bool.not_eq_true', Bool.or_eq_false_iff, decide_eq_false_iff_not, Bool.not_eq_false']
      at hcalls
    obtain ⟨hother, havailable⟩ := hcalls
    have hnew : ¬some awake = c.gpu.dgpuPinned := fun h => hother h.symm
    rw [wp_bind, wp_ite]
    refine ⟨fun hs => (wp_still_pure Blackout.still).mpr ?_, fun hs => ?_⟩
    · intro w' hdrift
      obtain rfl := (World.drifts_iff_of_still Blackout.still).mp hdrift
      refine ⟨rfl, rfl, fun h => absurd h.1 hnew, ?_⟩
      rintro (h | h | ⟨h, -⟩)
      · exact absurd h hother
      · exact absurd (havailable.symm.trans h) (by simp)
      · exact absurd (hs.symm.trans h) (by simp)
    · refine (wp_still_ask Blackout.still (e := Eff.powerdSetDgpuAwake awake)).mpr ⟨trivial, ?_⟩
      intro ok w₁ h₁
      obtain ⟨rfl, rfl⟩ := h₁
      cases hpins : B.pins with
      | true =>
        intro w' hdrift
        obtain rfl := (World.drifts_iff_of_still Blackout.still).mp hdrift
        refine ⟨rfl, rfl, fun h => absurd h.1 hnew, ?_⟩
        rintro (h | h | ⟨-, h⟩)
        · exact absurd h hother
        · exact absurd (havailable.symm.trans h) (by simp)
        · exact absurd h (by simp)
      | false =>
        intro w' hdrift
        obtain rfl := (World.drifts_iff_of_still Blackout.still).mp hdrift
        exact ⟨rfl, rfl, fun _ => .inr (.inr ⟨by simpa using hs, rfl⟩), fun _ => ⟨rfl, rfl⟩⟩
  · refine (wp_still_pure Blackout.still).mpr ⟨rfl, rfl, fun _ => ?_, fun _ => ⟨rfl, rfl⟩⟩
    simp only [Bool.not_eq_false', Bool.or_eq_true, decide_eq_true_eq, Bool.not_eq_true'] at hskip
    exact hskip.imp_right .inl

/-- The GPU part of the dispatch pins for the mode of no monitors. -/
theorem gpuCheck_blackout (trigger : String) :
    Wp B.world (fun _ _ _ => True)
      (fun _ c' w' => c'.activeProfileRev = c.activeProfileRev ∧ w'.crumb = w.crumb ∧
        (c'.gpu.dgpuPinned = c.gpu.dgpuPinned ∧ w'.pin = w.pin ↔
          B.KeepsPin fx c c.power.powerdAvailable))
      (fx.gpuCheck trigger B.chosen) c w := by
  -- The drift check only reads and tells; the mode it resolves is the state's own.
  have hdrift : Wp B.world (fun _ _ _ => True)
      (fun mode c' w' => mode = B.mode ∧ (gpuView c' = gpuView c ∧ onlyGpu c c') ∧
        w'.crumb = w.crumb ∧ w'.pin = w.pin)
      (fx.gpuDriftCheck trigger ((B.chosen.map MonitorProfile.gpu).getD .auto)) c w := by
    rw [Effectors.gpuDriftCheck, Effectors.resolveSessionGpuMode, bind_assoc]
    refine (wp_still_ask_bind Blackout.still (e := Eff.gpuOverrideWord)).mpr ⟨trivial, ?_⟩
    intro word w₁ h₁
    obtain ⟨rfl, rfl⟩ := h₁
    rw [bind_assoc]
    refine (wp_still_ask_bind Blackout.still (e := Eff.platformProfileWord)).mpr ⟨trivial, ?_⟩
    intro platform w₂ h₂
    obtain ⟨rfl, rfl⟩ := h₂
    rw [wp_pure_bind]
    have hchecked : ∀ mode source, Meets (fx.checkAndNotifyDrift trigger mode source) c
        (fun _ e => ¬e.movesGpuSide) fun _ c' => gpuView c' = gpuView c ∧ onlyGpu c c' :=
      fun mode source => ((checkAndNotifyDrift_leavesGpuSide fx trigger mode source c).and
        (checkAndNotifyDrift_spec fx c trigger mode source)).mono (fun _ _ h => h.1) fun _ _ => id
    refine (wp_gpuSide c w₂ (hchecked _ _)).bind ?_
    intro _ c₁ w₃ h₃
    exact (wp_still_pure Blackout.still).mpr ⟨rfl, h₃⟩
  rw [Effectors.gpuCheck]
  refine hdrift.bind ?_
  rintro _ c₁ w₁ ⟨rfl, ⟨hview, ⟨g, rfl⟩⟩, hcrumb, hpin⟩
  -- What is left is the pin, which follows the mode.
  refine (syncDgpuPin_blackout fx _ w₁ _).mono (fun _ _ _ => id) ?_
  rintro _ c₂ w₂ ⟨hrev, hcrumb', hiff⟩
  have hpinned : g.dgpuPinned = c.gpu.dgpuPinned := congrArg Prod.snd hview
  refine ⟨hrev, hcrumb'.trans hcrumb, ?_⟩
  rw [← hpin, ← hpinned]
  unfold Blackout.KeepsPin Blackout.awake
  rw [← hpinned]
  exact hiff

end

/-! ## The dispatch -/

section

variable {B : Blackout} (fx : Effectors) (c : Context) (w : GpuSide)

/-- What a piece after the pin leaves as it is decides nothing. -/
theorem LeavesGpuSide.wp {α : Type} {x : Daemon α} (hx : LeavesGpuSide x) {c₀ : Context}
    {w₀ : GpuSide} {P : Prop} (h : Kept c₀ w₀ c w ↔ P) :
    Wp B.world (fun _ _ _ => True) (fun _ c' w' => Kept c₀ w₀ c' w' ↔ P) x c w := by
  refine (wp_gpuSide c w (hx c)).mono (fun _ _ _ => id) ?_
  rintro _ c' w' ⟨hview, hcrumb, hpin⟩
  obtain ⟨hrev, hpinned⟩ := Prod.mk.inj hview
  unfold Kept
  rw [hrev, hcrumb, hpinned, hpin]
  exact h

/-- The arm keeps both exactly as the rule says. -/
theorem handleMonitorsChanged_blackout :
    Wp B.world (fun _ _ _ => True)
      (fun _ c' w' => Kept c w c' w' ↔ B.Keeps fx c w .monitorsChanged)
        fx.handleMonitorsChanged c w := by
  -- After the profile: the record is that of the match, or stays where the link cannot be
  -- repointed.
  have hrest : ∀ (c₁ : Context) (w₁ : GpuSide), c₁.gpu = c.gpu → c₁.power = c.power →
      w₁.crumb = w.crumb → w₁.pin = w.pin →
        (c₁.activeProfileRev = c.activeProfileRev ↔ B.KeepsRev fx c) →
      Wp B.world (fun _ _ _ => True)
        (fun _ c' w' => Kept c w c' w' ↔ B.Keeps fx c w .monitorsChanged) (do
          fx.writeGpuBreadcrumb (B.chosen.map MonitorProfile.gpu)
          fx.gpuCheck "monitors changed" B.chosen
          fx.powerPolicyCheck
          let c ← get
          when (!Effectors.edpShouldBeOn c && decide (c.extMonCount > 0)) fx.rehomeEdpWorkspaces)
        c₁ w₁ := by
    intro c₁ w₁ hgpu hpower hcrumb hpin hrev
    refine (writeGpuBreadcrumb_blackout fx c₁ w₁ _).bind ?_
    rintro _ c₁ w₂ ⟨rfl, hpin₂, hcrumb₂⟩
    refine (gpuCheck_blackout fx c₁ w₂ _).bind ?_
    rintro _ c₃ w₃ ⟨hrev₃, hcrumb₃, hiff⟩
    have hcrumbs : w₃.crumb = w.crumb ↔ B.KeepsCrumb fx w := by
      rw [hcrumb₃, hcrumb₂, hcrumb]
      exact Blackout.leaves_iff fx w
    have hpins : c₃.gpu.dgpuPinned = c.gpu.dgpuPinned ∧ w₃.pin = w.pin ↔
        B.KeepsPin fx c c.power.powerdAvailable := by
      unfold Blackout.KeepsPin at hiff ⊢
      rw [hgpu, hpower, hpin₂, hpin] at hiff
      exact hiff
    have hkept : Kept c w c₃ w₃ ↔ B.Keeps fx c w .monitorsChanged := by
      unfold Kept
      rw [hrev₃]
      exact and_congr hrev (and_congr hcrumbs hpins)
    refine ((powerPolicyCheck_leavesGpuSide fx).wp c₃ w₃ hkept).bind ?_
    intro _ c₄ w₄ h₄
    rw [wp_get_bind]
    exact LeavesGpuSide.wp c₄ w₄ (.when _ (rehomeEdpWorkspaces_leavesGpuSide fx)) h₄
  rw [Effectors.handleMonitorsChanged]
  refine (currentMatch_blackout c w).bind ?_
  rintro _ c w ⟨rfl, rfl, rfl⟩
  cases hchosen : B.chosen with
  | none =>
    rw [hchosen] at hrest
    refine hrest _ w rfl rfl rfl rfl ⟨fun h => .inl (h.symm.trans hchosen.symm), fun h => ?_⟩
    exact (h.resolve_right fun hno => hno.1 hchosen).symm ▸ hchosen.symm
  | some p =>
    rw [hchosen] at hrest
    refine (applyProfile_blackout fx c w p).bind ?_
    rintro _ c₁ w₁ ⟨⟨hgpu, hpower, hrev⟩, hcrumb, hpin⟩
    refine hrest c₁ w₁ hgpu hpower hcrumb hpin ?_
    unfold Blackout.KeepsRev
    rw [hrev, hchosen]
    by_cases hlinks : fx.shadow = true ∨ B.repoints = true
    · rw [if_pos hlinks]
      refine ⟨fun h => .inl h.symm, fun h => ?_⟩
      rcases h with h | ⟨-, hs, hr⟩
      · exact h.symm
      · rcases hlinks with h | h
        · exact absurd (h.symm.trans hs) (by simp)
        · exact absurd (h.symm.trans hr) (by simp)
    · rw [if_neg hlinks]
      obtain ⟨hs, hr⟩ := not_or.mp hlinks
      exact ⟨fun _ => .inr ⟨by simp, by simpa using hs, by simpa using hr⟩, fun _ => rfl⟩

/-- Whether powerd is available after the check, where the override was just adopted: the check
calls it for that profile, unless it is applied. -/
theorem powerPolicyCheck_reaches {profile : PowerProfile}
    (hov : c.power.powerOverride = some profile) (hbase : c.power.powerOverrideBase = none) :
    Wp B.world (fun _ _ _ => True)
      (fun _ c' _ => c'.power.powerdAvailable = (c.power.powerdAvailable &&
        (decide (c.power.powerApplied = some profile) || fx.shadow || B.applies)))
      fx.powerPolicyCheck c w := by
  rw [Effectors.powerPolicyCheck, wp_get_bind]
  refine (wp_quiet c w (powerOverrideStep_exact fx c (baseState c)) (by decide) (by decide)).bind ?_
  rintro _ _ w₁ ⟨rfl, -⟩
  rw [PowerContext.overrideStep_fresh hov hbase, wp_get_bind]
  dsimp only
  rw [hov, Option.getD_some]
  -- powerd is not called, is taken as called in shadow mode, or answers.
  refine Wp.bind (wp_applyPowerProfile fx _ (Q := fun c₂ _ => c₂.power.powerdAvailable =
    (c.power.powerdAvailable &&
      (decide (c.power.powerApplied = some profile) || fx.shadow || B.applies))) ?_ ?_ ?_) ?_
  · intro hcalls w' _
    rcases Bool.and_eq_false_iff.mp hcalls with h | h
    · have happlied : c.power.powerApplied = some profile := by simpa using h
      simp [happlied]
    · have haway : c.power.powerdAvailable = false := h
      simp [haway]
  · intro hcalls hs w₂ now w₃ w' _ _ _
    have havailable : c.power.powerdAvailable = true := (Bool.and_eq_true_iff.mp hcalls).2
    simp [PowerContext.answered, PowerContext.registered, havailable, hs]
  · intro hcalls hs w₂ now w₃ w₄ ok w₅ w' _ _ _ hok _
    obtain ⟨hother, havailable⟩ := Bool.and_eq_true_iff.mp hcalls
    have hother' : ¬c.power.powerApplied = some profile := by simpa using hother
    have havailable' : c.power.powerdAvailable = true := havailable
    have hanswer : ok = B.applies := hok.1
    rw [hanswer]
    cases B.applies with
    | true => simp [PowerContext.answered, PowerContext.registered, havailable']
    | false => simp [PowerContext.answered, hother', hs]
  · intro _ c₂ w₂ h₂
    rw [wp_get_bind, wp_set_bind]
    cases c₂.power.powerLastBase with
    | none => exact (wp_still_pure Blackout.still).mpr h₂
    | some prev =>
      refine (wp_quiet _ w₂ (brightnessEdge_spec fx _ prev _) (by decide) (by decide)).mono
        (fun _ _ _ => id) ?_
      rintro _ _ _ ⟨⟨b, rfl⟩, -⟩
      exact h₂

/-- The tail of a power or override event: the match, the pin, and the machine. -/
theorem dispatchTail_blackout (ev : Event) (hev : readsMonitors ev = true)
    (hmonitors : ev ≠ .monitorsChanged) {c₀ : Context} {w₀ : GpuSide}
    (hview : gpuView c = gpuView c₀) (hcrumb : w.crumb = w₀.crumb) (hpin : w.pin = w₀.pin) :
    Wp B.world (fun _ _ _ => True)
      (fun _ c' w' => Kept c₀ w₀ c' w' ↔ B.KeepsPin fx c₀ c.power.powerdAvailable)
      (fx.dispatchTail ev) c w := by
  obtain ⟨hrev, hpinned⟩ := Prod.mk.inj hview
  -- Of the tail's checks these events reach that of the GPU alone.
  have hkind : decide (ev.kind = .resumed) = false ∧
      decide (ev.kind = .acPlugged ∨ ev.kind = .acUnplugged ∨
      ev.kind = .platformProfileChanged ∨ ev.kind = .gpuOverrideChanged) = true ∧
      decide (ev.kind = .batteryLowChanged ∨ ev.kind = .powerOverrideChanged ∨
        ev.kind = .powerAcSettled) = false ∧ ev.kind ≠ .timerExpired := by
    cases ev with
    | acChanged onAc => cases onAc <;> decide
    | gpuOverrideChanged word | platformProfileChanged word => simp [Event.kind]
    | monitorsChanged => exact absurd rfl hmonitors
    | _ => cases hev
  obtain ⟨hresumed, hgpu, hpolicy, htimer⟩ := hkind
  have hpinpart : Wp B.world (fun _ _ _ => True)
      (fun _ c' w' => Kept c₀ w₀ c' w' ↔ B.KeepsPin fx c₀ c.power.powerdAvailable) (do
        let chosen ← Effectors.currentMatch
        fx.gpuCheck ev.label chosen) c w := by
    refine (currentMatch_blackout c w).bind ?_
    rintro _ c w ⟨rfl, rfl, rfl⟩
    refine (gpuCheck_blackout fx c w _).mono (fun _ _ _ => id) ?_
    rintro _ c' w' ⟨hrev', hcrumb', hiff⟩
    unfold Blackout.KeepsPin at hiff ⊢
    unfold Kept
    rw [hrev', hrev, hcrumb', hcrumb, ← hpinned, ← hpin, hiff]
    exact ⟨fun h => h.2.2, fun h => ⟨rfl, rfl, h⟩⟩
  have hchecks : fx.tailChecks ev = (do
      let chosen ← Effectors.currentMatch
      fx.gpuCheck ev.label chosen) := by
    have hunit : ∀ x : Daemon Unit, (x >>= fun _ => pure ()) = x := fun x => bind_pure_unit
    rw [Effectors.tailChecks, hresumed, hgpu, hpolicy]
    exact hunit _
  rw [dispatchTail_eq, hchecks]
  refine hpinpart.bind fun _ c₁ w₁ h₁ => ?_
  exact LeavesGpuSide.wp c₁ w₁ (evaluateFsms_leavesGpuSide fx ev.kind htimer) h₁

/-- While the monitors cannot be read, the dispatch of an event leaves the profile on record, the
breadcrumb and the pin as they were exactly under the condition. -/
theorem dispatch_blackout {ev : Event} (hev : readsMonitors ev = true) (hread : w.read = false) :
    Wp B.world (fun _ _ _ => True) (fun _ c' w' => Kept c w c' w' ↔ B.Keeps fx c w ev)
      (fx.dispatch ev) c w := by
  rw [Effectors.dispatch]
  cases ev with
  | monitorsChanged =>
    rw [Effectors.dispatchUpdate, bind_assoc]
    refine (handleMonitorsChanged_blackout fx c w).bind fun _ c' w' h => ?_
    exact (wp_still_pure Blackout.still).mpr h
  | gpuOverrideChanged word =>
    show Wp B.world _ _ (fx.dispatchTail (.gpuOverrideChanged word)) c w
    exact dispatchTail_blackout fx c w (.gpuOverrideChanged word) rfl (by simp) rfl rfl rfl
  | acChanged onAc =>
    rw [Effectors.dispatchUpdate, wp_bind, wp_get_bind, wp_ite]
    refine ⟨fun hsame => ?_, fun hnew => ?_⟩
    · refine (wp_still_pure Blackout.still).mpr ((wp_still_pure Blackout.still).mpr ?_)
      exact ⟨fun _ h => absurd hsame h, fun _ => ⟨rfl, rfl, rfl, rfl⟩⟩
    · rw [wp_modify_bind]
      refine (wp_quiet _ w (batteryLowRequestCheck_spec fx _) (by decide) (by decide)).bind ?_
      rintro _ _ w₁ ⟨⟨r, rfl, -⟩, hcrumb₁, hpin₁⟩
      refine (wp_quiet _ w₁ (schedulePowerSettle_spec _) (by decide) (by decide)).bind ?_
      rintro _ _ w₂ ⟨⟨t, rfl⟩, hcrumb₂, hpin₂⟩
      refine (wp_quiet _ w₂ (requestReconcile_spec _ _) (by decide) (by decide)).bind ?_
      rintro _ _ w₃ ⟨rfl, hcrumb₃, hpin₃⟩
      refine (wp_still_pure Blackout.still).mpr ?_
      have hcrumb : w₃.crumb = w.crumb := calc
        w₃.crumb = w₂.crumb := hcrumb₃
        _ = w₁.crumb := hcrumb₂
        _ = w.crumb := hcrumb₁
      have hpin : w₃.pin = w.pin := calc
        w₃.pin = w₂.pin := hpin₃
        _ = w₁.pin := hpin₂
        _ = w.pin := hpin₁
      refine (dispatchTail_blackout fx _ w₃ (.acChanged onAc) rfl (by simp) rfl hcrumb hpin).mono
        (fun _ _ _ => id) ?_
      exact fun _ _ _ h => h.trans ⟨fun h _ => h, fun h => h hnew⟩
  | platformProfileChanged value =>
    rw [Effectors.dispatchUpdate, wp_bind]
    refine (wp_still_ask_bind Blackout.still (e := Eff.now)).mpr ⟨trivial, ?_⟩
    intro now w₁ h₁
    obtain ⟨hnow, rfl⟩ := h₁
    obtain rfl : now = B.now := hnow hread
    rw [wp_get_bind]
    dsimp only
    rw [wp_set_bind, wp_bind, wp_when]
    -- The tail finds powerd as the arm left it.
    have htail : ∀ (c₁ : Context) (w₁ : GpuSide), gpuView c₁ = gpuView c → w₁.crumb = w.crumb →
        w₁.pin = w.pin → c₁.power.powerdAvailable = B.reaches fx c value →
        Wp B.world (fun _ _ _ => True)
          (fun falls c₂ w₂ => Wp B.world (fun _ _ _ => True)
            (fun _ c' w' => Kept c w c' w' ↔ B.Keeps fx c w (.platformProfileChanged value))
            (when falls (fx.dispatchTail (.platformProfileChanged value))) c₂ w₂)
              (pure true) c₁ w₁ := by
      intro c₁ w₁ hview hcrumb hpin havailable
      refine (wp_still_pure Blackout.still).mpr ?_
      have hkeeps : B.Keeps fx c w (.platformProfileChanged value) =
          B.KeepsPin fx c c₁.power.powerdAvailable := congrArg (B.KeepsPin fx c) havailable.symm
      rw [hkeeps]
      exact dispatchTail_blackout fx c₁ w₁ (.platformProfileChanged value) rfl
        (by simp) hview hcrumb hpin
    refine ⟨fun hforeign => ?_, fun hown => ?_⟩
    · -- The write is adopted, and the check may call powerd.
      refine (wp_quiet _ _ (adoptPowerOverride_exact fx _ _) (by decide) (by decide)).bind ?_
      rintro _ _ w₂ ⟨rfl, hcrumb₂, hpin₂⟩
      refine ((powerPolicyCheck_reaches fx _ w₂ (by rfl) (by rfl)).and
        (wp_gpuSide _ w₂ (powerPolicyCheck_leavesGpuSide fx _))).mono (fun _ _ _ _ => trivial) ?_
      rintro _ c₃ w₃ ⟨havailable, hview, hcrumb₃, hpin₃⟩
      refine htail c₃ w₃ hview (hcrumb₃.trans hcrumb₂) (hpin₃.trans hpin₂) (havailable.trans ?_)
      have hown : (c.power.selfWrites.isSelfWrite B.now value).1 = false := by simpa using hforeign
      unfold Blackout.reaches
      rw [hown, Bool.false_or]
      rfl
    · have hown' : (c.power.selfWrites.isSelfWrite B.now value).1 = true := by simpa using hown
      refine (wp_still_pure Blackout.still).mpr (htail _ _ rfl rfl rfl ?_)
      unfold Blackout.reaches
      rw [hown', Bool.true_or, Bool.true_or, Bool.true_or, Bool.and_true]
  | _ => cases hev

/-- A dispatch that finds the monitor read failing keeps the profile on record, the breadcrumb and
the pin exactly where the condition holds. -/
theorem dispatch_keeps_iff {ev : Event} {crumb : Option String} {pin : Option Bool} {c' : Context}
    {w' : GpuSide} {tr : List DaemonObs} (hev : readsMonitors ev = true)
    (h : Execs B.world (fx.dispatch ev) c { crumb := crumb, pin := pin } tr () c' w') :
    Kept c { crumb := crumb, pin := pin } c' w' ↔ B.Keeps fx c { crumb := crumb, pin := pin } ev :=
  h.of_wp (dispatch_blackout fx c _ hev rfl)

end

/-! ## A docked laptop -/

/-- The dispatch against what was found. -/
def Blackout.found (B : Blackout) : (r : Context × Eff) → GpuSide → stamped Eff.Ans r × GpuSide
  | (_, .monitors), w => (none, w)
  | (_, .loadProfiles), w => (B.profiles, w)
  | (_, .selectProfile _ _), w => (B.selected, w)
  | (_, .gpuOverrideWord), w => (B.override, w)
  | (_, .platformProfileWord), w => (B.platform, w)
  | (_, .now), w => (B.now, { w with read := true })
  | (_, .repointActive _), w => (B.repoints, w)
  | (_, .gpuBreadcrumbExists), w => (w.crumb.isSome, w)
  | (_, .gpuBreadcrumbRemove), w => (B.writable, if B.writable then { w with crumb := none } else w)
  | (_, .gpuBreadcrumbWrite pref), w =>
    (B.writable, { w with crumb := if B.writable then some (pref.asStr ++ "\n") else B.left })
  | (_, .powerdSetDgpuAwake awake), w =>
    (B.pins, if B.pins then { w with pin := some awake } else w)
  | (_, .powerdApplyProfile _), w => (B.applies, w)
  | (_, e), w => (e.quiet, w)

/-- The answers that a run is built from are answers of the blackout. -/
theorem Blackout.found_answer (B : Blackout) (r : Context × Eff) (w : GpuSide) (_ : True) :
    B.world.answer r w (B.found r w).1 (B.found r w).2 ∧ True := by
  refine ⟨?_, trivial⟩
  obtain ⟨c, e⟩ := r
  cases e <;> first | rfl | exact ⟨rfl, rfl⟩ | exact ⟨fun _ => rfl, rfl⟩

/-- A profile that prefers the discrete card. -/
def dockedProfile : MonitorProfile := { name := "docked", gpu := .dgpu }

/-- The profile of the dock is on record, and the discrete card is pinned for it. -/
def dockedContext : Context :=
  { extMonCount := 1
    currentProfile := some "docked"
    activeProfileRev := some dockedProfile
    gpu := { dgpuPinned := some true } }

/-- The charger is unplugged while the monitors cannot be read. The override file says `dgpu`, so
the pin stays. -/
theorem dispatch_keeps_iff_override : ∃ tr c' w',
    Execs (Blackout.world { profiles := [dockedProfile], override := some "dgpu" })
      ((⟨false, true⟩ : Effectors).dispatch (.acChanged false)) dockedContext
      { crumb := some "dgpu\n", pin := some true } tr () c' w' ∧
    Kept dockedContext { crumb := some "dgpu\n", pin := some true } c' w' := by
  have hexec :=
    execs_exec (Blackout.found_answer { profiles := [dockedProfile], override := some "dgpu" })
    ((⟨false, true⟩ : Effectors).dispatch (.acChanged false)) dockedContext
    (w := { crumb := some "dgpu\n", pin := some true }) trivial
  exact ⟨_, _, _, hexec, (dispatch_keeps_iff ⟨false, true⟩ dockedContext rfl hexec).mpr
    fun _ => .inl (by decide +kernel)⟩

/-- The monitors cannot be read once: the profile, the breadcrumb and the pin of the dock are
gone. -/
theorem not_dispatch_keeps :
    ¬∀ (B : Blackout) (fx : Effectors) (ev : Event) (c : Context) (crumb : Option String)
      (pin : Option Bool) (tr : List DaemonObs) (c' : Context) (w' : GpuSide),
        readsMonitors ev = true →
      Execs B.world (fx.dispatch ev) c { crumb := crumb, pin := pin } tr () c' w' →
      Kept c { crumb := crumb, pin := pin } c' w' := by
  intro h
  have hexec := execs_exec (Blackout.found_answer { profiles := [dockedProfile] })
    ((⟨false, true⟩ : Effectors).dispatch .monitorsChanged) dockedContext
    (w := { crumb := some "dgpu\n", pin := some true }) trivial
  obtain ⟨hrev, -⟩ := h _ _ _ _ _ _ _ _ _ rfl hexec
  exact absurd hrev (by decide +kernel)

end Hyprstate
