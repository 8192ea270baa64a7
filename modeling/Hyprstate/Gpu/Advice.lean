import Hyprstate.Config.Directive
import Hyprstate.Gpu.Undock
import Hyprstate.Gpu.Relog
import Hyprstate.Safety.OwnRequest

/-!
# Drift advice and the login that follows it

The daemon's drift check resolves the GPU mode from the override file, the monitor profile that
matches now, and platform_profile; `gpu select`, at the next login, has the breadcrumb file in place
of the profile. The daemon writes the breadcrumb only when the monitors change, and advises also on
power and override events, where the breadcrumb may be that of an earlier match.

`Heeded` is the condition on the step that sends a notification: a turn that is not of a monitor
change advises only while the match is the one that the breadcrumb was last written for. In every
run whose steps meet it every notification is satisfiable (`advice_satisfiable`).
-/

namespace Hyprstate

open Reactive Process

/-! ## The login -/

/-- `read_first_word` on the text of a file, `none` where it cannot be read. -/
def readFirstWord (text : Option String) : Option String :=
  text.bind fun text =>
    ((text.toList.splitOnP isWhitespace).find? fun word => !word.isEmpty).map String.ofList

/-- The texts of the override file, the breadcrumb and platform_profile. -/
structure ModeFiles where
  override : Option String := none
  crumb : Option String := none
  platform : Option String := none

/-- `resolve_mode_from_files` of `cli/gpu.rs`. -/
def resolveModeFromFiles (files : ModeFiles) : GpuMode × GpuModeSource :=
  resolveGpuMode (readFirstWord files.override) (readFirstWord files.crumb)
    (readFirstWord files.platform)

/-- `gpu select`: the mode, the list, and the reason. `again` is the snapshot of the settle retry,
and `present` says which device nodes exist. -/
def gpuSelect (files : ModeFiles) (snap again : GpuSnapshot) (present : String → Bool) :
    GpuMode × Option (List String) × String :=
  let mode := resolveModeFromFiles files
  let desired := gpuDesired snap mode.1 mode.2
  let settled :=
    if desired.1 = none ∧ desired.2 = "bailed-transient" then
      gpuDesired again mode.1 mode.2
    else desired
  match settled.1 with
  | none => (mode.1, settled)
  | some list => (mode.1, if list.all present then settled else (none, "validation-failed"))

/-- The mode that a word of the override file names. -/
def overrideMode (word : Option String) : Option GpuMode :=
  if word = some "igpu" then some .igpu
  else if word = some "dgpu" then some .dgpu
  else if word = some "off" then some .off
  else none

/-- The mode that an overlay names; others fall through. -/
def overlayMode (word : Option String) : Option GpuMode :=
  if word = some "igpu" then some .igpu
  else if word = some "dgpu" then some .dgpu
  else none

/-- The mode that platform_profile leads to. -/
def platformMode (word : Option String) : GpuMode :=
  if word = some "low-power" ∨ word = some "quiet" then .igpu
  else if word = some "performance" then .dgpu
  else .auto

/-- The precedence. -/
theorem resolveGpuMode_mode (override overlay platform : Option String) :
    (resolveGpuMode override overlay platform).1 =
      (overrideMode override).getD ((overlayMode overlay).getD (platformMode platform)) := by
  unfold resolveGpuMode overrideMode overlayMode platformMode
  by_cases higpu : override = some "igpu"
  · rw [if_pos higpu, if_pos higpu, Option.getD_some]
  rw [if_neg higpu, if_neg higpu]
  by_cases hdgpu : override = some "dgpu"
  · rw [if_pos hdgpu, if_pos hdgpu, Option.getD_some]
  rw [if_neg hdgpu, if_neg hdgpu]
  by_cases hoff : override = some "off"
  · rw [if_pos hoff, if_pos hoff, Option.getD_some]
  rw [if_neg hoff, if_neg hoff, Option.getD_none]
  by_cases hi : overlay = some "igpu"
  · rw [if_pos hi, if_pos hi, Option.getD_some]
  rw [if_neg hi, if_neg hi]
  by_cases hd : overlay = some "dgpu"
  · rw [if_pos hd, if_pos hd, Option.getD_some]
  rw [if_neg hd, if_neg hd, Option.getD_none]
  split
  · rfl
  · split <;> rfl

/-- The source of the mode shows in the reason only. -/
theorem gpuSelected_source (snap : GpuSnapshot) (mode : GpuMode) (source source' : GpuModeSource) :
    (gpuSelected snap mode source).1 = (gpuSelected snap mode source').1 := by
  obtain ⟨reason, hguard⟩ | ⟨integrated, best, rest, -, -, -, -, heq⟩ := gpuSelected_cases snap mode
  · rw [hguard, hguard]
  · have hprimary : (primaryOf mode source integrated best).1 =
        (primaryOf mode source' integrated best).1 := by
      cases mode <;> rfl
    rw [heq, heq]
    unfold ranked
    dsimp only
    rw [hprimary]
    split <;> rfl

/-- The mode of a login is that of the files. -/
theorem gpuSelect_mode (files : ModeFiles) (snap again : GpuSnapshot) (present : String → Bool) :
    (gpuSelect files snap again present).1 = (resolveModeFromFiles files).1 := by
  unfold gpuSelect
  dsimp only
  split <;> rfl

/-- A login that resolves the mode of a list prints the list, where its nodes exist. -/
theorem gpuSelect_of_mode {files : ModeFiles} {snap : GpuSnapshot} {mode : GpuMode}
    {source : GpuModeSource} {desired : List String} {reason : String}
    (hlist : gpuDesired snap mode source = (some desired, reason))
    (hmode : (resolveModeFromFiles files).1 = mode) (again : GpuSnapshot) {present : String → Bool}
    (hpresent : ∀ node ∈ desired, present node = true) :
    (gpuSelect files snap again present).1 = mode ∧
      (gpuSelect files snap again present).2.1 = some desired := by
  subst hmode
  refine ⟨gpuSelect_mode _ _ _ _, ?_⟩
  have hsame : (gpuDesired snap (resolveModeFromFiles files).1 (resolveModeFromFiles files).2).1 =
      some desired := by
    have hlist' := congrArg Prod.fst hlist
    rw [gpuDesired_eq] at hlist' ⊢
    dsimp only at hlist' ⊢
    rw [gpuSelected_source snap _ _ source]
    exact hlist'
  have hall : desired.all present = true := List.all_eq_true.mpr hpresent
  unfold gpuSelect
  dsimp only
  rw [if_neg (by simp [hsame]), hsame]
  dsimp only
  rw [if_pos hall]
  exact hsame

/-! ## The notifications -/

/-- What the drift check last read: the words of the files, the preference of the profile that
matched, and the snapshot. -/
structure Reading where
  override : Option String := none
  pref : GpuPref := .auto
  platform : Option String := none
  snapshot : GpuSnapshot := {}

/-- A drift notification: the context and the files as it was sent, and what was read for it. -/
structure Advice where
  context : Context
  reading : Reading
  files : ModeFiles
  /-- The match that the breadcrumb was last put in place for, where that went through and nobody
  else has changed the file since. -/
  placed : Option GpuPref
  /-- The turn is that of a monitor change. -/
  monitors : Bool

namespace Advice

variable (a : Advice)

/-- The mode that the daemon resolved, and its source. -/
def mode : GpuMode × GpuModeSource :=
  resolveGpuMode a.reading.override a.reading.pref.overlay a.reading.platform

/-- The notification is about a list, and a login on the same snapshot resolves the same mode and
prints that list, where its nodes exist. -/
def Satisfiable : Prop :=
  ∃ desired reason, gpuDesired a.reading.snapshot a.mode.1 a.mode.2 = (some desired, reason) ∧
    a.context.gpu.gpuLastNotified = some (":".intercalate desired) ∧
    ∀ again present, (∀ node ∈ desired, present node = true) →
      (gpuSelect a.files a.reading.snapshot again present).1 = a.mode.1 ∧
        (gpuSelect a.files a.reading.snapshot again present).2.1 = some desired

/-- The override file and platform_profile are still as they were read. -/
def AsRead : Prop :=
  readFirstWord a.files.override = a.reading.override ∧
    readFirstWord a.files.platform = a.reading.platform

/-- The condition on the step: the other files are as they were read; and the override file decides,
or the breadcrumb is the daemon's own, and in a turn that is not of a monitor change the match has
not changed since. -/
def Heeded : Prop :=
  a.AsRead ∧ (overrideMode a.reading.override ≠ none ∨
    ∃ pref, a.placed = some pref ∧ (a.monitors = true ∨ pref = a.reading.pref))

/-- What the daemon sees to: the list is that of its mode, the breadcrumb that it put in place is
that of the match, and the turn of a monitor change puts that of its own match in place. -/
structure Founded : Prop where
  desired : ∃ desired reason, gpuDesired a.reading.snapshot a.mode.1 a.mode.2 =
    (some desired, reason) ∧
    a.context.gpu.gpuLastNotified = some (":".intercalate desired)
  placed : ∀ pref, a.placed = some pref → readFirstWord a.files.crumb = pref.overlay
  monitors : a.monitors = true → ∀ pref, a.placed = some pref → pref = a.reading.pref

end Advice

/-- A notification whose step meets the condition is satisfiable. -/
theorem Advice.Founded.satisfiable {a : Advice} (h : a.Founded) (hheeded : a.Heeded) :
    a.Satisfiable := by
  obtain ⟨desired, reason, hlist, hkey⟩ := h.desired
  obtain ⟨⟨hoverride, hplatform⟩, hheeded⟩ := hheeded
  -- Both sides resolve the mode from the same words but for that of the breadcrumb.
  have hmode : (resolveModeFromFiles a.files).1 = (overrideMode a.reading.override).getD
      ((overlayMode (readFirstWord a.files.crumb)).getD (platformMode a.reading.platform)) := by
    rw [resolveModeFromFiles, resolveGpuMode_mode, hoverride, hplatform]
  have hmine : a.mode.1 = (overrideMode a.reading.override).getD
      ((overlayMode a.reading.pref.overlay).getD (platformMode a.reading.platform)) :=
    resolveGpuMode_mode _ _ _
  have hmodes : (resolveModeFromFiles a.files).1 = a.mode.1 := by
    rw [hmode, hmine]
    rcases hheeded with hnamed | ⟨pref, hplaced, hmatch⟩
    · -- Where the override names a mode the breadcrumb decides nothing.
      obtain ⟨mode, hnamed⟩ := Option.ne_none_iff_exists'.mp hnamed
      rw [hnamed, Option.getD_some, Option.getD_some]
    · have hpref : pref = a.reading.pref :=
        hmatch.elim (fun hmonitors => h.monitors hmonitors pref hplaced) id
      rw [h.placed pref hplaced, hpref]
  exact ⟨desired, reason, hlist, hkey, fun again _ hpresent =>
    gpuSelect_of_mode hlist hmodes again hpresent⟩

/-! ## The files, and what is read of them -/

/-- A drift notification. -/
def Cmd.advises : Cmd → Bool
  | .notify _ _ tag => tag == "hyprstate-gpu"
  | _ => false

/-- The files, what was read of them last, and the notifications. -/
structure Login where
  files : ModeFiles := {}
  reading : Reading := {}
  /-- The match that the breadcrumb was last put in place for; `none` where that failed, or where
  somebody else has changed the file since. A match that wants none finds it in place where there is
  no file. -/
  placed : Option GpuPref := none
  /-- The turn is that of a monitor change. -/
  monitors : Bool := false
  advised : List Advice := []

namespace Login

/-- A failed write leaves anything behind, and a file that cannot be read may exist. -/
def Answer (r : Context × Eff) (w : Login) (b : stamped Eff.Ans r) (w' : Login) : Prop :=
  match r, b with
  | (_, .selectProfile _ profiles), selected =>
    let chosen := selected.bind fun s => profiles.find? fun p => p.name == s.name
    w' = { w with
      reading := { w.reading with pref := (chosen.map MonitorProfile.gpu).getD .auto } }
  | (_, .gpuOverrideWord), word =>
    word = readFirstWord w.files.override ∧
      w' = { w with reading := { w.reading with override := word } }
  | (_, .platformProfileWord), word =>
    word = readFirstWord w.files.platform ∧
      w' = { w with reading := { w.reading with platform := word } }
  | (_, .gpuSnapshot), snap => w' = { w with reading := { w.reading with snapshot := snap } }
  | (_, .gpuBreadcrumbExists), present =>
    (present = false → w.files.crumb = none) ∧
      w' = if present then w else { w with placed := some .auto }
  | (_, .gpuBreadcrumbRemove), ok =>
    w' = if ok then { w with files := { w.files with crumb := none }, placed := some .auto }
      else { w with placed := none }
  | (_, .gpuBreadcrumbWrite pref), ok =>
    ∃ left, w' = if ok then
        { w with files := { w.files with crumb := some (pref.asStr ++ "\n") }, placed := some pref }
      else { w with files := { w.files with crumb := left }, placed := none }
  | (c, .trySend cmd), _ =>
    w' = if cmd.advises then
        { w with advised := w.advised ++ [⟨c, w.reading, w.files, w.placed, w.monitors⟩] }
      else w
  | _, _ => w' = w

/-- Other parties write any of the files at any time. -/
def world : World (Context × Eff) (stamped Eff.Ans) Login where
  drift w w' := ∃ files : ModeFiles, w' = { w with
    files := files, placed := if files.crumb = w.files.crumb then w.placed else none }
  answer := Answer

/-- The condition, on the step that sends a notification. -/
def Heeds : Context × Eff → Login → Prop
  | (c, .trySend cmd), w =>
    cmd.advises = true → (Advice.mk c w.reading w.files w.placed w.monitors).Heeded
  | _, _ => True

end Login

/-! ## What leaves the breadcrumb alone, and gives no advice -/

/-- A request that puts the breadcrumb in place, or advises. -/
def Eff.movesLogin (e : Eff) : Prop :=
  e = .gpuBreadcrumbRemove ∨ (∃ pref, e = .gpuBreadcrumbWrite pref) ∨
    ∃ cmd : Cmd, cmd.advises = true ∧ e = .trySend cmd

/-- A request that writes no file and sends no command moves no login. -/
theorem not_movesLogin {e : Eff} (hfile : e.resource ≠ .file) (hcommand : e.resource ≠ .command) :
    ¬e.movesLogin := by
  rintro (rfl | ⟨pref, rfl⟩ | ⟨cmd, hadvises, rfl⟩)
  · exact hfile rfl
  · exact hfile rfl
  · cases cmd with
    | notify _ _ _ => exact hcommand rfl
    | _ => cases hadvises

/-- The pieces that every turn shares move no login. -/
theorem apart_login : PiecesApart Eff.movesLogin where
  plain _ := not_movesLogin
  routine e he := by
    rintro (rfl | ⟨pref, rfl⟩ | ⟨cmd, hadvises, rfl⟩)
    · cases he
    · cases he
    · cases cmd with
      | notify _ _ tag =>
        have hpower : tag = "hyprstate-power" := eq_of_beq he
        subst hpower
        exact absurd hadvises (by simp [Cmd.advises])
      | _ => cases hadvises

/-- A request that does one or the other, or matches a profile anew. -/
def Eff.movesMatch (e : Eff) : Prop :=
  e.movesLogin ∨ ∃ signature profiles, e = .selectProfile signature profiles

/-- A piece that neither puts the breadcrumb in place nor advises. -/
abbrev LeavesLogin {α : Type} (x : Daemon α) : Prop := Avoids Eff.movesLogin x

section

variable (fx : Effectors)

/-- A command without advice moves none. -/
theorem sendCmd_leavesLogin {cmd : Cmd} (hcmd : cmd.advises = false) :
    LeavesLogin (fx.sendCmd cmd) := by
  refine sendCmd_avoids fx ?_
  rintro (h | ⟨_, h⟩ | ⟨cmd', hadvises, h⟩)
  · cases h
  · cases h
  · cases h
    exact absurd (hadvises.symm.trans hcmd) (by simp)

/-- Nor does a pass of the reconciler. -/
theorem handleReconcileTick_leavesLogin (snap : ReconcileSnapshot) :
    LeavesLogin (fx.handleReconcileTick snap) := by
  have hdrive : ∀ fsm power, LeavesLogin (fx.driveRepairs fsm power) := by
    intro fsm power
    refine .bind (.when _ ?_) fun _ => .when _ ((apart_login.pieces fx).evaluateFsms _)
    refine .modify_bind (fun _ => rfl) (.bind (apart_login.powerPolicyCheck fx) fun _ => ?_)
    exact .bind (apart_login.only (batteryLowRequestCheck_spec fx) (by decide)) fun _ => .pure _
  have hbackstop : LeavesLogin (fx.dpmsBackstop snap) := by
    rw [Effectors.dpmsBackstop]
    refine .get_bind fun c => Avoids.set_bind ?_
    cases snap.dpmsOff with
    | none => exact .pure _
    | some off => exact .when _ (sendCmd_leavesLogin fx rfl)
  have hedp : LeavesLogin (fx.enforceEdp snap) := by
    refine .of_meets (fun c => enforceEdp_spec fx c snap) fun _ _ _ he => ?_
    exact apart_login.of_mem he.1 (by decide)
  rw [Effectors.handleReconcileTick]
  refine .bind (apart_login.only (fun c => repairContext_spec c snap) (by decide)) fun drift => ?_
  refine .bind (hdrive drift.1 drift.2) fun _ => .get_bind fun c => .when _ ?_
  refine .bind (apart_login.only ingestActiveProfile_spec (by decide)) fun _ => ?_
  exact .bind hedp fun _ => hbackstop

/-- Every arm of the dispatch but that of a monitor change. -/
theorem dispatchUpdate_leavesLogin (ev : Event) (hev : ev ≠ .monitorsChanged) :
    LeavesLogin (fx.dispatchUpdate ev) := by
  refine (apart_login.pieces fx).dispatchUpdate ev (fun h => absurd h hev)
    (fun snap _ => handleReconcileTick_leavesLogin fx snap) (fun _ => ?_) fun _ => ?_
  · exact apart_login.only (batteryLowRequestCheck_spec fx) (by decide)
  · exact .when _ (.bind (.ask (not_movesLogin (by simp) (by simp))) fun _ => .pure _)

/-- The daemon advises on nothing before its first event. -/
theorem setup_leavesLogin : LeavesLogin fx.setup := apart_login.setup fx fun _ _ _ => rfl

/-- Nor does the startup. -/
theorem startup_leavesLogin : LeavesLogin fx.startup :=
  (apart_login.pieces fx).startup fun awake =>
    apart_login.only (fun c => syncDgpuPin_spec fx c awake) (by decide)

end

/-! ## One turn -/

namespace Login

variable {w w' : Login} {m : Bool}

/-- The notifications are founded, a breadcrumb that was put in place is that of its match, and the
turn is that of a monitor change or not, as `m` says. -/
structure Sound (m : Bool) (w : Login) : Prop where
  advised : ∀ a ∈ w.advised, a.Founded
  placed : ∀ pref, w.placed = some pref → readFirstWord w.files.crumb = pref.overlay
  turn : w.monitors = m

/-- The breadcrumb, where it is in place, is that of a match with this preference. -/
def Placed (pref : GpuPref) (w : Login) : Prop := ∀ p, w.placed = some p → p = pref

/-- What the other parties write takes the place from the breadcrumb, and moves nothing that was
read. -/
theorem Sound.drifts (h : w.Sound m) (hdrift : world.Drifts w w') :
    w'.Sound m ∧ w'.reading = w.reading ∧ ∀ pref, w.Placed pref → w'.Placed pref := by
  refine hdrift.keeps (J := fun w' => w'.Sound m ∧ w'.reading = w.reading ∧
    ∀ pref, w.Placed pref → w'.Placed pref) ?_ ⟨h, rfl, fun _ => id⟩
  rintro w₁ _ ⟨files, rfl⟩ ⟨h₁, hreading, hplaced⟩
  by_cases hcrumb : files.crumb = w₁.files.crumb
  · refine ⟨⟨h₁.advised, ?_, h₁.turn⟩, hreading, ?_⟩
    · intro pref hpref
      show readFirstWord files.crumb = pref.overlay
      rw [hcrumb]
      exact h₁.placed pref (by rwa [if_pos hcrumb] at hpref)
    · intro pref hw p hp
      exact hplaced pref hw p (by rwa [if_pos hcrumb] at hp)
  · refine ⟨⟨h₁.advised, ?_, h₁.turn⟩, hreading, ?_⟩
    · intro pref hpref
      exact absurd hpref (by simp [hcrumb])
    · intro pref _ p hp
      exact absurd hp (by simp [hcrumb])

/-- A file that is not there is in place for a match that wants none. -/
theorem Sound.exists {present : Bool} (h : w.Sound m)
    (habsent : present = false → w.files.crumb = none)
    (hw' : w' = if present then w else { w with placed := some .auto }) : w'.Sound m := by
  subst hw'
  cases present with
  | true => exact h
  | false =>
    refine ⟨h.advised, fun pref hpref => ?_, h.turn⟩
    obtain rfl := (Option.some.inj hpref).symm
    show readFirstWord w.files.crumb = none
    rw [habsent rfl]
    rfl

/-- A request that neither puts the breadcrumb in place nor advises keeps what holds, and but for a
new match the one on record. -/
theorem Sound.answer (h : w.Sound m) {c : Context} {e : Eff} {b : stamped Eff.Ans (c, e)}
    (he : ¬e.movesLogin) (hanswer : world.answer (c, e) w b w') :
    w'.Sound m ∧ ((∀ signature profiles, e ≠ .selectProfile signature profiles) →
      w'.reading.pref = w.reading.pref) := by
  cases e with
  | gpuBreadcrumbRemove => exact absurd (.inl rfl) he
  | gpuBreadcrumbWrite pref => exact absurd (.inr (.inl ⟨pref, rfl⟩)) he
  | trySend cmd =>
    have hquiet : ¬cmd.advises = true := fun hadvises => he (.inr (.inr ⟨cmd, hadvises, rfl⟩))
    have hsame : w' = if cmd.advises = true then
        { w with advised := w.advised ++ [⟨c, w.reading, w.files, w.placed, w.monitors⟩] }
      else w := hanswer
    rw [if_neg hquiet] at hsame
    subst hsame
    exact ⟨h, fun _ => rfl⟩
  | selectProfile signature profiles =>
    subst hanswer
    exact ⟨⟨h.advised, h.placed, h.turn⟩, fun hother => absurd rfl (hother signature profiles)⟩
  | gpuOverrideWord | platformProfileWord =>
    obtain ⟨-, rfl⟩ := hanswer
    exact ⟨⟨h.advised, h.placed, h.turn⟩, fun _ => rfl⟩
  | gpuSnapshot =>
    subst hanswer
    exact ⟨⟨h.advised, h.placed, h.turn⟩, fun _ => rfl⟩
  | gpuBreadcrumbExists =>
    obtain ⟨habsent, hw'⟩ := hanswer
    exact ⟨h.exists habsent hw', fun _ => by rw [hw']; split <;> rfl⟩
  | _ =>
    obtain rfl : w' = w := hanswer
    exact ⟨h, fun _ => rfl⟩

/-- A piece that leaves the breadcrumb alone and gives no advice. -/
theorem Sound.kept {α : Type} {x : Daemon α} (h : w.Sound m) (hx : LeavesLogin x) (c : Context) :
    Wp world (fun _ _ _ => True) (fun _ _ w' => w'.Sound m) x c w := by
  refine (wp_of_meets (J := Sound m) (hx c) h ?_ ?_).mono (fun _ _ _ _ => trivial)
    fun _ _ _ => And.right
  · exact fun _ _ hdrift h => (h.drifts (.single hdrift)).1
  · exact fun _ _ _ _ _ he hanswer h => (h.answer he hanswer).1

section

variable (fx : Effectors) (c : Context)

/-- The other parties may act at the end. -/
theorem Sound.stays (h : w.Sound m) :
    Wp world (fun _ _ _ => True) (fun _ _ w' => w'.Sound m) (pure () : Daemon Unit) c w :=
  fun _ hdrift => (h.drifts hdrift).1

/-- The match is on record. -/
theorem currentMatch_sound (h : w.Sound m) :
    Wp world (fun _ _ _ => True)
      (fun chosen _ w' =>
        w'.Sound m ∧ w'.reading.pref = (chosen.map MonitorProfile.gpu).getD .auto)
      Effectors.currentMatch c w := by
  rw [Effectors.currentMatch, Hyprctl.monitorSignature, bind_assoc]
  refine (wp_ask_bind (e := Eff.monitors)).mpr fun w₁ hdrift₁ => ⟨trivial, ?_⟩
  rintro monitors w₁ rfl
  have h₁ := (h.drifts hdrift₁).1
  generalize (monitors.getD []).map MonitorSnapshot.description = signature
  show Wp world _ _ (request .loadProfiles >>= fun profiles => (do
      let selected ← request (.selectProfile signature profiles)
      pure (selected.bind fun s => profiles.find? fun p => p.name == s.name))) c w₁
  refine (wp_ask_bind (e := Eff.loadProfiles)).mpr fun w₂ hdrift₂ => ⟨trivial, ?_⟩
  rintro profiles w₂ rfl
  have h₂ := (h₁.drifts hdrift₂).1
  refine (wp_ask_bind (e := Eff.selectProfile signature profiles)).mpr fun w₃ hdrift₃ =>
    ⟨trivial, ?_⟩
  rintro selected _ rfl w₄ hdrift₄
  have h₃ := (h₂.drifts hdrift₃).1
  obtain ⟨h₄, hreading, -⟩ := Sound.drifts (by exact ⟨h₃.advised, h₃.placed, h₃.turn⟩) hdrift₄
  exact ⟨h₄, congrArg Reading.pref hreading⟩

/-- Neither the link nor the hooks of a profile move the match. -/
theorem applyProfile_sound (profile : MonitorProfile) {pref : GpuPref} (h : w.Sound m)
    (hpref : w.reading.pref = pref) :
    Wp world (fun _ _ _ => True) (fun _ _ w' => w'.Sound m ∧ w'.reading.pref = pref)
      (fx.applyProfile profile) c w := by
  have havoids : Avoids Eff.movesMatch (fx.applyProfile profile) := by
    rw [Effectors.applyProfile]
    refine .bind (.ask ?_) fun symlinkOk => .get_bind fun c => .when _ ?_
    · rintro (h | ⟨_, _, h⟩)
      · exact not_movesLogin (by simp) (by simp) h
      · cases h
    refine .bind (.ite (.pure _) (.ask ?_)) fun repointed =>
      .when _ (.modify_bind (fun _ => rfl) ?_)
    · rintro ((h | ⟨_, h⟩ | ⟨_, -, h⟩) | ⟨_, _, h⟩) <;> cases h
    refine Avoids.of_meets (fun c => profileCmds_spec fx c profile) ?_
    rintro _ _ _ (rfl | ⟨hook, rfl⟩) ((h | ⟨_, h⟩ | ⟨cmd, hadvises, h⟩) | ⟨_, _, h⟩) <;> cases h <;>
      cases hadvises
  refine (wp_of_meets (J := fun w' => w'.Sound m ∧ w'.reading.pref = pref) (havoids c) ⟨h, hpref⟩
    ?_ ?_).mono (fun _ _ _ _ => trivial) fun _ _ _ => And.right
  · rintro w₁ w₂ hdrift ⟨h₁, hpref₁⟩
    obtain ⟨h₂, hreading, -⟩ := h₁.drifts (.single hdrift)
    exact ⟨h₂, (congrArg Reading.pref hreading).trans hpref₁⟩
  · rintro c' e w₁ b w₂ he hanswer ⟨h₁, hpref₁⟩
    obtain ⟨h₂, hsame⟩ := h₁.answer (fun hmoves => he (.inl hmoves)) hanswer
    refine ⟨h₂, (hsame fun signature profiles heq => ?_).trans hpref₁⟩
    exact he (.inr ⟨signature, profiles, heq⟩)

/-- With the breadcrumb in place for the match, or out of place, the other parties may act. -/
theorem Sound.staysPlaced {pref : GpuPref} (h : w.Sound m) (hpref : w.reading.pref = pref)
    (hplaced : w.Placed pref) :
    Wp world (fun _ _ _ => True)
      (fun _ _ w' => w'.Sound m ∧ w'.reading.pref = pref ∧ w'.Placed pref)
      (pure () : Daemon Unit) c w := by
  intro w' hdrift
  obtain ⟨h', hreading, hkept⟩ := h.drifts hdrift
  exact ⟨h', (congrArg Reading.pref hreading).trans hpref, hkept pref hplaced⟩

/-- Without a file there is no overlay, as for `auto`. -/
theorem removeBreadcrumb_sound (h : w.Sound m) (hpref : w.reading.pref = .auto) :
    Wp world (fun _ _ _ => True)
      (fun _ _ w' => w'.Sound m ∧ w'.reading.pref = .auto ∧ w'.Placed .auto) (do
      let present ← request .gpuBreadcrumbExists
      when present do
        let _ ← request .gpuBreadcrumbRemove) c w := by
  have hauto : ∀ {w : Login}, w.placed = some .auto → w.Placed .auto := fun hplaced p hp =>
    (Option.some.inj (hplaced.symm.trans hp)).symm
  refine (wp_ask_bind (e := Eff.gpuBreadcrumbExists)).mpr fun w₁ hdrift₁ => ⟨trivial, ?_⟩
  rintro present w₂ ⟨habsent, hw₂⟩
  obtain ⟨h₁, hreading₁, -⟩ := h.drifts hdrift₁
  have hpref₁ : w₁.reading.pref = .auto := (congrArg Reading.pref hreading₁).trans hpref
  have h₂ : w₂.Sound m := h₁.exists habsent hw₂
  subst hw₂
  -- The file was absent already, or its removal went through, or it failed.
  cases present with
  | false => exact h₂.staysPlaced c hpref₁ (hauto rfl)
  | true =>
    refine (wp_ask_bind (e := Eff.gpuBreadcrumbRemove)).mpr fun w₃ hdrift₃ => ⟨trivial, ?_⟩
    intro ok w₄ hanswer
    obtain ⟨h₃, hreading₃, -⟩ := h₁.drifts hdrift₃
    have hpref₃ : w₃.reading.pref = .auto := (congrArg Reading.pref hreading₃).trans hpref₁
    have hleft : w₄ = if ok then
        { w₃ with files := { w₃.files with crumb := none }, placed := some .auto }
      else { w₃ with placed := none } := hanswer
    subst hleft
    cases ok with
    | false =>
      refine Sound.staysPlaced c ⟨h₃.advised, ?_, h₃.turn⟩ hpref₃ ?_
      · exact fun pref hp => by cases hp
      · exact fun p hp => by cases hp
    | true =>
      refine Sound.staysPlaced c ⟨h₃.advised, ?_, h₃.turn⟩ hpref₃ (hauto rfl)
      intro pref hp
      obtain rfl := hauto rfl pref hp
      rfl

/-- The first word of what is written is the overlay. -/
theorem writeBreadcrumb_sound {pref : GpuPref} (hne : pref ≠ .auto) (h : w.Sound m)
    (hpref : w.reading.pref = pref) :
    Wp world (fun _ _ _ => True)
      (fun _ _ w' => w'.Sound m ∧ w'.reading.pref = pref ∧ w'.Placed pref) (do
      let _ ← request (.gpuBreadcrumbWrite pref)) c w := by
  refine (wp_ask_bind (e := Eff.gpuBreadcrumbWrite pref)).mpr fun w₁ hdrift₁ => ⟨trivial, ?_⟩
  rintro ok w₂ ⟨left, hleft⟩
  obtain ⟨h₁, hreading₁, -⟩ := h.drifts hdrift₁
  have hpref₁ := (congrArg Reading.pref hreading₁).trans hpref
  subst hleft
  cases ok with
  | false =>
    refine Sound.staysPlaced c ⟨h₁.advised, ?_, h₁.turn⟩ hpref₁ ?_
    · exact fun p hp => by cases hp
    · exact fun p hp => by cases hp
  | true =>
    have hplaced : ∀ p, some pref = some p → p = pref := fun _ hp => (Option.some.inj hp).symm
    refine Sound.staysPlaced c ⟨h₁.advised, ?_, h₁.turn⟩ hpref₁ hplaced
    intro p hp
    obtain rfl := hplaced p hp
    show readFirstWord (some (p.asStr ++ "\n")) = p.overlay
    cases p with
    | auto => exact absurd rfl hne
    | igpu | dgpu => decide +kernel

/-- The breadcrumb is written for the match, out of shadow mode. -/
theorem writeGpuBreadcrumb_sound (value : Option GpuPref) (h : w.Sound m)
    (hpref : w.reading.pref = value.getD .auto) :
    Wp world (fun _ _ _ => True)
      (fun _ _ w' => w'.Sound m ∧ w'.reading.pref = value.getD .auto ∧
        (fx.shadow = false → w'.Placed (value.getD .auto)))
      (fx.writeGpuBreadcrumb value) c w := by
  have hlive : ∀ {x : Daemon Unit}, Wp world (fun _ _ _ => True)
      (fun _ _ w' => w'.Sound m ∧ w'.reading.pref = value.getD .auto ∧
        w'.Placed (value.getD .auto)) x c w →
      Wp world (fun _ _ _ => True)
        (fun _ _ w' => w'.Sound m ∧ w'.reading.pref = value.getD .auto ∧
          (fx.shadow = false → w'.Placed (value.getD .auto))) x c w := fun hx =>
    hx.mono (fun _ _ _ => id) fun _ _ _ h => ⟨h.1, h.2.1, fun _ => h.2.2⟩
  rw [Effectors.writeGpuBreadcrumb.eq_def, wp_when]
  refine ⟨fun _ => hlive ?_, fun hshadow w' hdrift => ?_⟩
  · cases value with
    | none => exact removeBreadcrumb_sound c h hpref
    | some pref =>
      cases pref with
      | auto => exact removeBreadcrumb_sound c h hpref
      | igpu | dgpu => exact writeBreadcrumb_sound c (by simp) h hpref
  · obtain ⟨h', hreading, -⟩ := h.drifts hdrift
    refine ⟨h', (congrArg Reading.pref hreading).trans hpref, fun hs => ?_⟩
    exact absurd hshadow (by simp [hs])

/-- A notification is about the list of the mode that was resolved. -/
theorem notifyDrift_sound (trigger : String) {mode : GpuMode × GpuModeSource} {snap : GpuSnapshot}
    {desired : List String} {reason : String} (h : w.Sound m)
    (hmode : resolveGpuMode w.reading.override w.reading.pref.overlay w.reading.platform = mode)
    (hsnap : w.reading.snapshot = snap)
    (hlist : gpuDesired snap mode.1 mode.2 = (some desired, reason))
    (hplaced : fx.shadow = false → m = true → w.Placed w.reading.pref) :
    Wp world (fun _ _ _ => True) (fun _ _ w' => w'.Sound m)
      (fx.notifyDrift trigger desired reason) c
      w := by
  rw [Effectors.notifyDrift, wp_get_bind, wp_when]
  refine ⟨fun _ => ?_, fun _ => h.stays c⟩
  refine (wp_ask_bind (e := Eff.now)).mpr fun w₁ hdrift₁ => ⟨trivial, ?_⟩
  rintro now _ rfl
  obtain ⟨h₁, hreading₁, hkept₁⟩ := h.drifts hdrift₁
  rw [wp_when]
  refine ⟨fun _ => ?_, fun _ => h₁.stays c⟩
  rw [wp_set_bind, Effectors.notifyGpuDrift, Effectors.sendCmd, wp_when]
  refine ⟨fun hlive => ?_, fun _ => h₁.stays _⟩
  refine (wp_ask_bind (e := Eff.trySend _)).mpr fun w₂ hdrift₂ => ⟨trivial, ?_⟩
  rintro sent _ rfl
  obtain ⟨h₂, hreading₂, hkept₂⟩ := h₁.drifts hdrift₂
  have hreading : w₂.reading = w.reading := hreading₂.trans hreading₁
  refine Sound.stays _ ⟨fun a ha => ?_, h₂.placed, h₂.turn⟩
  -- The notification of this turn is about the list that was read for it.
  rcases List.mem_append.mp ha with ha | ha
  · exact h₂.advised a ha
  · obtain rfl := List.mem_singleton.mp ha
    refine ⟨⟨desired, reason, ?_, rfl⟩, h₂.placed, fun hmonitors => ?_⟩
    · unfold Advice.mode
      rw [hreading, hmode, hsnap]
      exact hlist
    · have hm : m = true := h₂.turn.symm.trans hmonitors
      show w₂.Placed w₂.reading.pref
      rw [hreading]
      exact hkept₂ _ (hkept₁ _ (hplaced (by simpa using hlive) hm))

/-- The list in use is read from the compositor and the state file. -/
theorem resolveGpuActual_asks :
    Meets Effectors.resolveGpuActual c (fun _ e => e = .hyprlandAqDevices ∨ e = .gpuStateReason)
      fun _ _ => True := by
  rw [Effectors.resolveGpuActual, meets_bind, meets_ask]
  refine ⟨.inl rfl, fun devices => ?_⟩
  rcases devices with _ | _ | ⟨d, ds⟩
  · trivial
  · exact ⟨.inr rfl, fun _ => trivial⟩
  · trivial

/-- The list that is compared is that of the mode, on the snapshot that is taken for it. -/
theorem checkAndNotifyDrift_sound (trigger : String) {mode : GpuMode × GpuModeSource}
    (h : w.Sound m)
    (hmode : resolveGpuMode w.reading.override w.reading.pref.overlay w.reading.platform = mode)
    (hplaced : fx.shadow = false → m = true → w.Placed w.reading.pref) :
    Wp world (fun _ _ _ => True) (fun _ _ w' => w'.Sound m)
      (fx.checkAndNotifyDrift trigger mode.1 mode.2) c w := by
  have hresolve : Wp world (fun _ _ _ => True)
      (fun _ _ w' => w'.Sound m ∧ w'.reading = w.reading ∧ ∀ pref, w.Placed pref → w'.Placed pref)
      (when c.gpu.gpuActualPending Effectors.resolveGpuActual) c w := by
    rw [wp_when]
    refine ⟨fun _ => ?_, fun _ w₁ hdrift₁ => h.drifts hdrift₁⟩
    refine (wp_of_meets (J := fun w' => w'.Sound m ∧ w'.reading = w.reading ∧
        ∀ pref, w.Placed pref → w'.Placed pref)
      (resolveGpuActual_asks c) ⟨h, rfl, fun _ => id⟩ ?_ ?_).mono (fun _ _ _ _ => trivial)
      fun _ _ _ h => h.2
    · rintro w₁ w₂ hdrift ⟨h₁, hreading₁, hkept₁⟩
      obtain ⟨h₂, hreading₂, hkept₂⟩ := h₁.drifts (.single hdrift)
      exact ⟨h₂, hreading₂.trans hreading₁, fun pref hw => hkept₂ pref (hkept₁ pref hw)⟩
    · rintro c' e w₁ b w₂ (rfl | rfl) hanswer hw₁
      · obtain rfl : w₂ = w₁ := hanswer
        exact hw₁
      · obtain rfl : w₂ = w₁ := hanswer
        exact hw₁
  rw [Effectors.checkAndNotifyDrift, wp_get_bind]
  refine hresolve.bind ?_
  rintro _ c₁ w₁ ⟨h₁, hreading₁, hkept₁⟩
  -- The list in use is known: the snapshot is taken and compared.
  rw [wp_get_bind]
  split
  · refine (wp_ask_bind (e := Eff.gpuSnapshot)).mpr fun w₂ hdrift₂ => ⟨trivial, ?_⟩
    rintro snap _ rfl
    obtain ⟨h₂, hreading₂, hkept₂⟩ := h₁.drifts hdrift₂
    have hsound : Sound m { w₂ with reading := { w₂.reading with snapshot := snap } } :=
      ⟨h₂.advised, h₂.placed, h₂.turn⟩
    split
    · exact hsound.stays c₁
    next desired reason hlist =>
      rw [wp_ite]
      refine ⟨fun _ => hsound.stays _, fun _ => ?_⟩
      refine notifyDrift_sound fx c₁ trigger hsound ?_ rfl hlist fun hlive hm => ?_
      · show resolveGpuMode w₂.reading.override w₂.reading.pref.overlay w₂.reading.platform = mode
        rw [hreading₂, hreading₁, hmode]
      · show w₂.Placed w₂.reading.pref
        rw [hreading₂, hreading₁]
        exact hkept₂ _ (hkept₁ _ (hplaced hlive hm))
  · exact h₁.stays c₁

/-- The drift check with the match on record. -/
theorem gpuCheck_sound (trigger : String) (chosen : Option MonitorProfile) (h : w.Sound m)
    (hpref : w.reading.pref = (chosen.map MonitorProfile.gpu).getD .auto)
    (hplaced : fx.shadow = false → m = true → w.Placed w.reading.pref) :
    Wp world (fun _ _ _ => True) (fun _ _ w' => w'.Sound m) (fx.gpuCheck trigger chosen) c w := by
  have hpin : ∀ awake, LeavesLogin (fx.syncDgpuPin awake) := fun awake =>
    apart_login.only (fun c => syncDgpuPin_spec fx c awake) (by decide)
  rw [Effectors.gpuCheck]
  refine Wp.bind (Q := fun _ _ w' => w'.Sound m) ?_ fun mode c' w' h' => h'.kept (hpin _) c'
  -- The words are read one after the other, and files may change in between.
  rw [Effectors.gpuDriftCheck, Effectors.resolveSessionGpuMode, bind_assoc]
  refine (wp_ask_bind (e := Eff.gpuOverrideWord)).mpr fun w₁ hdrift₁ => ⟨trivial, ?_⟩
  rintro word _ ⟨-, rfl⟩
  obtain ⟨h₁, hreading₁, hkept₁⟩ := h.drifts hdrift₁
  rw [bind_assoc]
  refine (wp_ask_bind (e := Eff.platformProfileWord)).mpr fun w₂ hdrift₂ => ⟨trivial, ?_⟩
  rintro platform _ ⟨-, rfl⟩
  obtain ⟨h₂, hreading₂, hkept₂⟩ :=
    Sound.drifts (by exact ⟨h₁.advised, h₁.placed, h₁.turn⟩) hdrift₂
  rw [wp_pure_bind]
  have hpref₂ : w₂.reading.pref = (chosen.map MonitorProfile.gpu).getD .auto := by
    rw [hreading₂, ← hpref, ← hreading₁]
  have hoverride₂ : w₂.reading.override = word := by rw [hreading₂]
  refine Wp.bind (checkAndNotifyDrift_sound fx c trigger
    (by exact ⟨h₂.advised, h₂.placed, h₂.turn⟩) ?_ fun hlive hm => ?_)
    fun _ c' w' h' w'' hdrift => (h'.drifts hdrift).1
  · show resolveGpuMode w₂.reading.override w₂.reading.pref.overlay platform = _
    rw [hoverride₂, hpref₂]
    rfl
  · show w₂.Placed w₂.reading.pref
    rw [hpref₂, ← hpref]
    exact hkept₂ _ (hkept₁ _ (hplaced hlive hm))

/-- The turn of a monitor change puts the breadcrumb of its match in place before it advises. -/
theorem handleMonitorsChanged_sound (h : w.Sound m) :
    Wp world (fun _ _ _ => True) (fun _ _ w' => w'.Sound m) fx.handleMonitorsChanged c w := by
  -- From the breadcrumb on, the match on record is the one that was chosen.
  have hrest : ∀ (chosen : Option MonitorProfile) {w : Login} (c : Context), w.Sound m →
      w.reading.pref = (chosen.map MonitorProfile.gpu).getD .auto →
      Wp world (fun _ _ _ => True) (fun _ _ w' => w'.Sound m) (do
        fx.writeGpuBreadcrumb (chosen.map MonitorProfile.gpu)
        fx.gpuCheck "monitors changed" chosen
        fx.powerPolicyCheck
        let c ← get
        when (!Effectors.edpShouldBeOn c && decide (c.extMonCount > 0)) fx.rehomeEdpWorkspaces)
        c w := by
    intro chosen w c h hpref
    refine (writeGpuBreadcrumb_sound fx c _ h hpref).bind ?_
    rintro _ c₁ w₁ ⟨h₁, hpref₁, hplaced⟩
    have hready : fx.shadow = false → m = true → w₁.Placed w₁.reading.pref := fun hlive _ => by
      rw [hpref₁]
      exact hplaced hlive
    refine (gpuCheck_sound fx c₁ "monitors changed" chosen h₁ hpref₁ hready).bind
      fun _ c₂ w₂ h₂ => ?_
    refine (h₂.kept (apart_login.powerPolicyCheck fx) c₂).bind fun _ c₃ w₃ h₃ => ?_
    rw [wp_get_bind]
    exact h₃.kept (.when _ (sendCmd_leavesLogin fx rfl)) c₃
  rw [Effectors.handleMonitorsChanged]
  refine (currentMatch_sound c h).bind ?_
  rintro chosen c₁ w₁ ⟨h₁, hpref₁⟩
  cases chosen with
  | none =>
    rw [wp_modify_bind]
    exact hrest none _ h₁ hpref₁
  | some p =>
    refine (applyProfile_sound fx c₁ p h₁ hpref₁).bind ?_
    rintro _ c₂ w₂ ⟨h₂, hpref₂⟩
    exact hrest (some p) c₂ h₂ hpref₂

/-- A turn leaves every notification founded. -/
theorem handle_sound (ev : Event) (h : w.Sound (decide (ev = .monitorsChanged))) :
    Wp world (fun _ _ _ => True) (fun _ _ w' => ∃ m, w'.Sound m) (fx.handle ev) c w := by
  -- The rest of a turn reads the profile that matches now, as the advice does.
  have htail : ∀ {w : Login} (c : Context), ev ≠ .monitorsChanged →
      w.Sound (decide (ev = .monitorsChanged)) →
      Wp world (fun _ _ _ => True) (fun _ _ w' => w'.Sound (decide (ev = .monitorsChanged)))
        (fx.dispatchTail ev) c w := by
    intro w c hother h
    have hrearm : LeavesLogin (when (decide (ev.kind = .resumed)) Effectors.brightnessRearm) :=
      .when _ (apart_login.only brightnessRearm_spec (by decide))
    rw [Effectors.dispatchTail]
    refine (h.kept hrearm c).bind fun _ c₁ w₁ h₁ => ?_
    refine Wp.bind (Q := fun _ _ w' => w'.Sound (decide (ev = .monitorsChanged))) ?_
      fun _ c₂ w₂ h₂ => ?_
    · rw [wp_when]
      refine ⟨fun _ => (currentMatch_sound c₁ h₁).bind ?_,
        fun _ w' hdrift => (h₁.drifts hdrift).1⟩
      rintro chosen c' w' ⟨h', hpref⟩
      exact gpuCheck_sound fx c' ev.label chosen h' hpref fun _ hm =>
        absurd (of_decide_eq_true hm) hother
    · refine (h₂.kept (.when _ (apart_login.powerPolicyCheck fx)) c₂).bind fun _ c₃ w₃ h₃ => ?_
      exact h₃.kept ((apart_login.pieces fx).evaluateFsms ev.kind) c₃
  rw [Effectors.handle, Effectors.dispatch, bind_assoc]
  by_cases hmonitors : ev = .monitorsChanged
  · -- the arm of a monitor change does not fall through
    subst hmonitors
    rw [Effectors.dispatchUpdate, bind_assoc]
    refine (handleMonitorsChanged_sound fx c h).bind fun _ c₁ w₁ h₁ => ?_
    rw [wp_pure_bind]
    have hsync := h₁.kept (x := fx.syncWaybar) (apart_login.syncWaybar fx) c₁
    exact hsync.mono (fun _ _ _ => id) fun _ _ _ h => ⟨_, h⟩
  · refine (h.kept (dispatchUpdate_leavesLogin fx ev hmonitors) c).bind fun falls c₁ w₁ h₁ => ?_
    refine Wp.bind (Q := fun _ _ w' => w'.Sound (decide (ev = .monitorsChanged))) ?_
      fun _ c₂ w₂ h₂ => ?_
    · rw [wp_when]
      exact ⟨fun _ => htail c₁ hmonitors h₁, fun _ w' hdrift => (h₁.drifts hdrift).1⟩
    · have hsync := h₂.kept (x := fx.syncWaybar) (apart_login.syncWaybar fx) c₂
      exact hsync.mono (fun _ _ _ => id) fun _ _ _ h => ⟨_, h⟩

/-- What was sent, was sent under the condition. -/
theorem heeded_keeps {D : Login → Login → Prop} {r : Context × Eff} {b : stamped Eff.Ans r}
    (hanswer : (world.under D Heeds).answer r w b w') (h : ∀ a ∈ w.advised, a.Heeded) :
    ∀ a ∈ w'.advised, a.Heeded := by
  obtain ⟨hanswer, hheeds⟩ := hanswer
  obtain ⟨c, e⟩ := r
  cases e with
  -- Only a notice adds a piece of advice, and it is heeded as it is given.
  | trySend cmd =>
    have hsame : w' = if cmd.advises = true then
        { w with advised := w.advised ++ [⟨c, w.reading, w.files, w.placed, w.monitors⟩] }
      else w := hanswer
    subst hsame
    intro a ha
    by_cases hadvises : cmd.advises = true
    · rw [if_pos hadvises] at ha
      rcases List.mem_append.mp ha with ha | ha
      · exact h a ha
      · rw [List.mem_singleton.mp ha]
        exact hheeds hadvises
    · rw [if_neg hadvises] at ha
      exact h a ha
  | selectProfile _ _ | gpuSnapshot =>
    subst hanswer
    exact h
  | gpuOverrideWord | platformProfileWord =>
    obtain ⟨-, rfl⟩ := hanswer
    exact h
  | gpuBreadcrumbExists =>
    obtain ⟨-, rfl⟩ := hanswer
    split <;> exact h
  | gpuBreadcrumbRemove =>
    subst hanswer
    split <;> exact h
  | gpuBreadcrumbWrite pref =>
    obtain ⟨left, rfl⟩ := hanswer
    split <;> exact h
  | _ =>
    obtain rfl : w' = w := hanswer
    exact h

end

end Login

/-- The daemon started and took turns in order, each request meeting `G`; other parties write the
files at any time. -/
inductive LoginRun (fx : Effectors) (G : Context × Eff → Login → Prop) : Context → Login → Prop
  | start {c c' : Context} {w w' : Login} {tr tr' : List DaemonObs} (files : ModeFiles) :
      Execs (Login.world.under (fun _ _ => True) G) fx.setup {} { files := files } tr true c w →
      Execs (Login.world.under (fun _ _ => True) G) fx.startup c w tr' () c' w' →
      LoginRun fx G c' w'
  | turn {c c' : Context} {w w' : Login} {tr : List DaemonObs} (ev : Event) :
      LoginRun fx G c w →
      Execs (Login.world.under (fun _ _ => True) G) (fx.handle ev) c
        { w with monitors := decide (ev = .monitorsChanged) } tr () c' w' →
      LoginRun fx G c' w'

/-- In every run the notifications are founded. -/
theorem LoginRun.sound {fx : Effectors} {G : Context × Eff → Login → Prop} {c : Context} {w : Login}
    (h : LoginRun fx G c w) : ∃ m, w.Sound m := by
  induction h with
  | @start c c' w w' tr tr' files hsetup hstart =>
    have hempty : Login.Sound false { files := files } :=
      ⟨fun _ ha => absurd ha List.not_mem_nil, fun _ hp => absurd hp (by simp), rfl⟩
    have h₁ : w.Sound false := hsetup.of_under.of_wp (hempty.kept (setup_leavesLogin fx) {})
    exact ⟨false, hstart.of_under.of_wp (h₁.kept (startup_leavesLogin fx) c)⟩
  | @turn c c' w w' tr ev _ hturn ih =>
    obtain ⟨m, h₁⟩ := ih
    exact hturn.of_under.of_wp (Login.handle_sound fx c ev ⟨h₁.advised, h₁.placed, rfl⟩)

/-- In a run whose steps meet the condition, each of them was sent under it. -/
theorem LoginRun.heeded {fx : Effectors} {c : Context} {w : Login}
    (h : LoginRun fx Login.Heeds c w) : ∀ a ∈ w.advised, a.Heeded := by
  have hkeeps : ∀ {α : Type} {x : Daemon α} {c c' : Context} {w w' : Login} {tr : List DaemonObs}
      {a : α}, Execs (Login.world.under (fun _ _ => True) Login.Heeds) x c w tr a c' w' →
      (∀ a ∈ w.advised, a.Heeded) → ∀ a ∈ w'.advised, a.Heeded := by
    intro α x c c' w w' tr a hexec hw
    refine hexec.keeps (J := fun w => ∀ a ∈ w.advised, a.Heeded) ?_
      (fun _ _ _ _ => Login.heeded_keeps) hw
    rintro w₁ _ ⟨⟨files, rfl⟩, -⟩ hw₁
    exact hw₁
  induction h with
  | start files hsetup hstart =>
    exact hkeeps hstart (hkeeps hsetup fun _ ha => absurd ha List.not_mem_nil)
  | turn ev _ hturn ih => exact hkeeps hturn ih

/-- In every run whose steps meet the condition, every drift notification is satisfiable by one
login. -/
theorem advice_satisfiable {fx : Effectors} {c : Context} {w : Login}
    (h : LoginRun fx Login.Heeds c w) : ∀ a ∈ w.advised, a.Satisfiable := by
  obtain ⟨m, hsound⟩ := h.sound
  exact fun a ha => (hsound.advised a ha).satisfiable (h.heeded a ha)

/-! ## A laptop that is docked, and undocked -/

/-- What is found with a monitor on the discrete card, whose profile asks for it, or without one;
the list that the session runs on can be read, or not yet. Nobody else writes the files, and every
operation succeeds. -/
def dockFound (docked : Bool) (devices : Option (List String)) :
    (r : Context × Eff) → Login → stamped Eff.Ans r × Login
  | (_, .loadProfiles), w => ([dockedProfile], w)
  | (_, .selectProfile _ profiles), w =>
    let selected := if docked then some dockedProfile else none
    let chosen := selected.bind fun s => profiles.find? fun p => p.name == s.name
    (selected, { w with
      reading := { w.reading with pref := (chosen.map MonitorProfile.gpu).getD .auto } })
  | (_, .gpuOverrideWord), w =>
    let word := readFirstWord w.files.override
    (word, { w with reading := { w.reading with override := word } })
  | (_, .platformProfileWord), w =>
    let word := readFirstWord w.files.platform
    (word, { w with reading := { w.reading with platform := word } })
  | (_, .gpuSnapshot), w =>
    let snap := if docked then laptop else
      { laptop with cards := [laptopIgpu, { laptopDgpu with external := 0 }] }
    (snap, { w with reading := { w.reading with snapshot := snap } })
  | (_, .hyprlandAqDevices), w => (devices, w)
  | (_, .gpuBreadcrumbExists), w =>
    (w.files.crumb.isSome, if w.files.crumb.isSome then w else { w with placed := some .auto })
  | (_, .gpuBreadcrumbRemove), w =>
    (true, { w with files := { w.files with crumb := none }, placed := some .auto })
  | (_, .gpuBreadcrumbWrite pref), w =>
    (true, { w with
      files := { w.files with crumb := some (pref.asStr ++ "\n") }, placed := some pref })
  | (c, .trySend cmd), w =>
    (true, if cmd.advises then
        { w with advised := w.advised ++ [⟨c, w.reading, w.files, w.placed, w.monitors⟩] }
      else w)
  | (_, e), w => (e.quiet, w)

/-- That is one of the worlds of the login. -/
theorem dockFound_answer (docked : Bool) (devices : Option (List String)) (r : Context × Eff)
    (w : Login) (_ : True) :
    Login.world.answer r w (dockFound docked devices r w).1 (dockFound docked devices r w).2 ∧
      True := by
  refine ⟨?_, trivial⟩
  obtain ⟨c, e⟩ := r
  cases e with
  | gpuBreadcrumbExists =>
    refine ⟨fun habsent => ?_, rfl⟩
    have hnone : w.files.crumb.isSome = false := habsent
    simpa using hnone
  | gpuOverrideWord | platformProfileWord => exact ⟨rfl, rfl⟩
  | gpuBreadcrumbWrite pref => exact ⟨none, rfl⟩
  | _ => rfl

namespace Login

/-- The context and the files after a piece of the daemon's code. -/
def after {α : Type} (docked : Bool) (devices : Option (List String)) (x : Daemon α)
    (p : Context × Login) : Context × Login :=
  let r := (x.run p.1).exec (dockFound docked devices) p.2
  (r.1.2, r.2.1)

/-- The setup is done, docked and without a file. -/
def seeded : Context × Login := after true none (Effectors.setup ⟨false, true⟩) ({}, {})

/-- The daemon has started. -/
def begun : Context × Login := after true none (Effectors.startup ⟨false, true⟩) seeded

/-- The turn of an event. -/
def turned (docked : Bool) (devices : Option (List String)) (ev : Event) (p : Context × Login) :
    Context × Login :=
  after docked devices (Effectors.handle ⟨false, true⟩ ev)
    (p.1, { p.2 with monitors := decide (ev = .monitorsChanged) })

/-- A piece that ends with notifications under the condition met it all along. -/
theorem execs_heeded {α : Type} {x : Daemon α} {c c' : Context} {w w' : Login}
    {tr : List DaemonObs} {a : α} (h : Execs world x c w tr a c' w')
    (hw' : ∀ a ∈ w'.advised, a.Heeded) :
    Execs (world.under (fun _ _ => True) Heeds) x c w tr a c' w' := by
  refine h.retained (J := fun w => ∀ a ∈ w.advised, a.Heeded) ?_ ?_ hw'
  · rintro w₁ _ ⟨files, rfl⟩ hw₁
    exact ⟨⟨⟨files, rfl⟩, trivial⟩, hw₁⟩
  · rintro ⟨c₁, e⟩ w₁ b w₂ hanswer hw₂
    -- only a notification adds to the list
    have hplain : (∀ cmd, e = .trySend cmd → cmd.advises = false) → w₂.advised = w₁.advised →
        (world.under (fun _ _ => True) Heeds).answer (c₁, e) w₁ b w₂ ∧
          ∀ a ∈ w₁.advised, a.Heeded := by
      intro hquiet hsame
      refine ⟨⟨hanswer, ?_⟩, hsame ▸ hw₂⟩
      cases e with
      | trySend cmd => exact fun hadvises => absurd (hquiet cmd rfl) (by simp [hadvises])
      | _ => trivial
    cases e with
    | trySend cmd =>
      have hsame : w₂ = if cmd.advises = true then
          { w₁ with advised := w₁.advised ++ [⟨c₁, w₁.reading, w₁.files, w₁.placed, w₁.monitors⟩] }
        else w₁ := hanswer
      by_cases hadvises : cmd.advises = true
      · rw [if_pos hadvises] at hsame
        subst hsame
        exact ⟨⟨hanswer, fun _ => hw₂ _ (List.mem_append_right _ (List.mem_singleton_self _))⟩,
          fun a ha => hw₂ a (List.mem_append_left _ ha)⟩
      · rw [if_neg hadvises] at hsame
        subst hsame
        refine hplain (fun cmd' heq => ?_) rfl
        cases heq
        simpa using hadvises
    | selectProfile _ _ | gpuSnapshot =>
      refine hplain (by simp) ?_
      rw [hanswer]
    | gpuOverrideWord | platformProfileWord => exact hplain (by simp) (by rw [hanswer.2])
    | gpuBreadcrumbExists => exact hplain (by simp) (by rw [hanswer.2]; split <;> rfl)
    | gpuBreadcrumbRemove =>
      refine hplain (by simp) ?_
      rw [hanswer]
      split <;> rfl
    | gpuBreadcrumbWrite pref =>
      obtain ⟨left, heq⟩ := hanswer
      refine hplain (by simp) ?_
      rw [heq]
      split <;> rfl
    | _ => exact hplain (by simp) (by rw [hanswer])

/-- The executions on that machine. -/
theorem execs_after {α : Type} (docked : Bool) (devices : Option (List String)) (x : Daemon α)
    (p : Context × Login) {a : α}
    (ha : ((x.run p.1).exec (dockFound docked devices) p.2).1.1 = a) :
    Execs world x p.1 p.2 ((x.run p.1).exec (dockFound docked devices) p.2).2.2 a
      (after docked devices x p).1 (after docked devices x p).2 := by
  subst ha
  exact execs_exec (dockFound_answer docked devices) x p.1 trivial

/-- So is a turn. -/
theorem execs_turned (docked : Bool) (devices : Option (List String)) (ev : Event)
    (p : Context × Login) :
    ∃ tr, Execs world (Effectors.handle ⟨false, true⟩ ev) p.1
      { p.2 with monitors := decide (ev = .monitorsChanged) } tr () (turned docked devices ev p).1
      (turned docked devices ev p).2 :=
  ⟨_, execs_after docked devices (Effectors.handle ⟨false, true⟩ ev)
    (p.1, { p.2 with monitors := decide (ev = .monitorsChanged) }) (Subsingleton.elim _ _)⟩

/-- The daemon starts on that machine. -/
theorem execs_begun : ∃ tr tr',
    Execs world (Effectors.setup ⟨false, true⟩) {} { files := {} } tr true seeded.1 seeded.2 ∧
      Execs world (Effectors.startup ⟨false, true⟩) seeded.1 seeded.2 tr' () begun.1 begun.2 := by
  have hlid : (((Effectors.setup ⟨false, true⟩).run {}).exec (dockFound true none) {}).1.1 =
      true := by
    decide +kernel
  exact ⟨_, _, execs_after true none (Effectors.setup ⟨false, true⟩) ({}, {}) hlid,
    execs_after true none (Effectors.startup ⟨false, true⟩) seeded (Subsingleton.elim _ _)⟩

/-- The profile of the dock matches, and its breadcrumb is written; the list that the session runs
on cannot be read yet. -/
def docked : Context × Login := turned true none .monitorsChanged begun

/-- The charger goes; the session turns out to render on the integrated card. -/
def unplugged : Context × Login :=
  turned true (some ["/dev/dri/card1", "/dev/dri/card0"]) (.acChanged false) docked

end Login

/-- A power event advises on the dock's own card, and the breadcrumb of the dock is in place. -/
theorem advice_satisfiable_unplugged : ∃ c w a, LoginRun ⟨false, true⟩ Login.Heeds c w ∧
    w.advised = [a] ∧ a.monitors = false ∧ a.Satisfiable := by
  have hone : Login.unplugged.2.advised.length = 1 := by decide +kernel
  have hpower : ∀ a ∈ Login.unplugged.2.advised, a.monitors = false := by decide +kernel
  have hread : ∀ a ∈ Login.unplugged.2.advised,
      readFirstWord a.files.override = a.reading.override ∧
        readFirstWord a.files.platform = a.reading.platform ∧
          a.placed = some a.reading.pref := by
    decide +kernel
  have hheeded : ∀ a ∈ Login.unplugged.2.advised, a.Heeded := fun a ha =>
    ⟨⟨(hread a ha).1, (hread a ha).2.1⟩, .inr ⟨_, (hread a ha).2.2, .inr rfl⟩⟩
  have hnone : ∀ {w : Login}, w.advised = [] → ∀ a ∈ w.advised, a.Heeded := by
    rintro w hempty a ha
    exact absurd (hempty ▸ ha) List.not_mem_nil
  have hseeded : Login.seeded.2.advised = [] := by decide +kernel
  have hbegun : Login.begun.2.advised = [] := by decide +kernel
  have hdocked : Login.docked.2.advised = [] := by decide +kernel
  have hrun : LoginRun ⟨false, true⟩ Login.Heeds Login.unplugged.1 Login.unplugged.2 := by
    obtain ⟨_, _, hsetup, hstart⟩ := Login.execs_begun
    obtain ⟨_, hmonitors⟩ := Login.execs_turned true none .monitorsChanged Login.begun
    obtain ⟨_, hpower⟩ := Login.execs_turned true (some ["/dev/dri/card1", "/dev/dri/card0"])
      (.acChanged false) Login.docked
    have hbooted := LoginRun.start {} (Login.execs_heeded hsetup (hnone hseeded))
      (Login.execs_heeded hstart (hnone hbegun))
    exact (hbooted.turn .monitorsChanged (Login.execs_heeded hmonitors (hnone hdocked))).turn
      (.acChanged false) (Login.execs_heeded hpower hheeded)
  obtain ⟨a, ha⟩ := List.length_eq_one_iff.mp hone
  have hmem : a ∈ Login.unplugged.2.advised := by rw [ha]; exact List.mem_singleton_self a
  exact ⟨_, _, a, hrun, ha, hpower a hmem, advice_satisfiable hrun a hmem⟩

/-- The session renders on the discrete card of the dock, and the charger goes first as it is
undocked. -/
def Login.undocked : Context × Login :=
  Login.turned false (some laptopDevices) (.acChanged false)
    (Login.turned true (some laptopDevices) .monitorsChanged Login.begun)

/-- The notification is for the profile of no monitors, and the breadcrumb is still that of the
dock. -/
theorem not_advice_satisfiable :
    ¬∀ (fx : Effectors) (c : Context) (w : Login), LoginRun fx (fun _ _ => True) c w →
      ∀ a ∈ w.advised, a.Satisfiable := by
  intro h
  have hone : Login.undocked.2.advised.length = 1 := by decide +kernel
  have hmodes : ∀ a ∈ Login.undocked.2.advised, (resolveModeFromFiles a.files).1 ≠ a.mode.1 := by
    decide +kernel
  obtain ⟨a, ha⟩ := List.length_eq_one_iff.mp hone
  have hmem : a ∈ Login.undocked.2.advised := by rw [ha]; exact List.mem_singleton_self a
  have hrun : LoginRun ⟨false, true⟩ (fun _ _ => True) Login.undocked.1 Login.undocked.2 := by
    obtain ⟨_, _, hsetup, hstart⟩ := Login.execs_begun
    obtain ⟨_, hmonitors⟩ :=
      Login.execs_turned true (some laptopDevices) .monitorsChanged Login.begun
    obtain ⟨_, hpower⟩ := Login.execs_turned false (some laptopDevices) (.acChanged false) _
    exact ((LoginRun.start {} hsetup.to_under hstart.to_under).turn .monitorsChanged
      hmonitors.to_under).turn (.acChanged false) hpower.to_under
  obtain ⟨desired, reason, -, -, hlogin⟩ := h _ _ _ hrun a hmem
  obtain ⟨hsame, -⟩ := hlogin {} (fun _ => true) fun _ _ => rfl
  exact hmodes a hmem ((gpuSelect_mode _ _ _ _).symm.trans hsame)

end Hyprstate
