import Hyprstate.Bytes.Utf8
import Hyprstate.Daemon.Footprint
import Hyprstate.Gpu.Enumeration
import Hyprstate.Reactive.Assume

/-!
# A relog onto the selected list

At login the list that `gpu select` prints becomes `AQ_DRM_DEVICES` in the environment of Hyprland,
and `hyprland_aq_devices` of `sysio/hypr_instance.rs` reads it back from `/proc/<pid>/environ`. The
reading returns the list that was exported (`aqDevices_exported`), so the drift check that follows
on the same snapshot says nothing and is armed again (`relog_ends_drift`).
-/

namespace Hyprstate

open Reactive Process Bytes

/-! ## The exported list -/

/-- `b"AQ_DRM_DEVICES="`. -/
def aqKey : List UInt8 := utf8Bytes "AQ_DRM_DEVICES=".toList

/-- `strip_prefix` on bytes. -/
def stripPrefix (key chunk : List UInt8) : Option (List UInt8) :=
  if key.isPrefixOf chunk then some (chunk.drop key.length) else none

/-- The devices that an environment lists; none where the variable is unset. -/
def aqDevices (environ : List UInt8) : List String :=
  match (environ.splitOn 0).findSome? (stripPrefix aqKey) with
  | some val =>
    (((fromUtf8Lossy val).splitOn ':').filter fun p => !p.isEmpty).map String.ofList
  | none => []

/-- `hyprland_aq_devices`; there is no environ without a confirmed instance. -/
def hyprlandAqDevices (environ : Option (List UInt8)) : Option (List String) :=
  environ.map aqDevices

/-- The entry that exports a list, joined as `gpu select` prints it. -/
def aqEntry (devices : List String) : List UInt8 :=
  aqKey ++ utf8Bytes (":".intercalate devices).toList

/-- The entry of the environment is stripped of its key. -/
theorem stripPrefix_aqEntry (devices : List String) :
    stripPrefix aqKey (aqEntry devices) = some (utf8Bytes (":".intercalate devices).toList) := by
  unfold stripPrefix aqEntry
  rw [if_pos (by simp), List.drop_left]

/-- The entry is found among others that do not start with its key. -/
theorem findSome_aqEntry (before after : List (List UInt8)) (devices : List String)
    (hother : ∀ entry ∈ before, aqKey.isPrefixOf entry = false) :
    (before ++ aqEntry devices :: after).findSome? (stripPrefix aqKey) =
      some (utf8Bytes (":".intercalate devices).toList) := by
  induction before with
  | nil => rw [List.nil_append, List.findSome?_cons, stripPrefix_aqEntry]
  | cons entry rest ih =>
    have hentry : stripPrefix aqKey entry = none := by
      unfold stripPrefix
      rw [if_neg (by rw [hother entry List.mem_cons_self]; exact Bool.false_ne_true)]
    rw [List.cons_append, List.findSome?_cons, hentry]
    exact ih fun e he => hother e (List.mem_cons_of_mem _ he)

/-- Splitting undoes the joining of names without the separator, and no name is dropped. -/
theorem split_join (devices : List String) (hne : devices ≠ [])
    (hnames : ∀ d ∈ devices, d ≠ "" ∧ ':' ∉ d.toList) :
    (((":".intercalate devices).toList.splitOn ':').filter fun p => !p.isEmpty).map
      String.ofList = devices := by
  have hsplit : (":".intercalate devices).toList.splitOn ':' = devices.map String.toList := by
    rw [String.toList_intercalate]
    refine List.splitOn_intercalate ':' ?_ (by simpa using hne)
    intro l hl
    obtain ⟨d, hd, rfl⟩ := List.mem_map.mp hl
    exact (hnames d hd).2
  have hkeep : (devices.map String.toList).filter (fun p => !p.isEmpty) =
      devices.map String.toList := by
    rw [List.filter_eq_self]
    intro l hl
    obtain ⟨d, hd, rfl⟩ := List.mem_map.mp hl
    simpa using (hnames d hd).1
  rw [hsplit, hkeep, List.map_map]
  simp [Function.comp_def]

/-- A character of joined names is a colon or of one of the names. -/
theorem mem_join {devices : List String} {c : Char} (h : c ∈ (":".intercalate devices).toList) :
    c = ':' ∨ ∃ d ∈ devices, c ∈ d.toList := by
  induction devices with
  | nil => simp at h
  | cons d rest ih =>
    cases rest with
    | nil => exact .inr ⟨d, by simp, by simpa using h⟩
    | cons d' rest =>
      rw [String.intercalate_cons_cons, String.toList_append, String.toList_append,
        List.append_assoc, List.mem_append, List.mem_append] at h
      rcases h with h | h | h
      · exact .inr ⟨d, by simp, h⟩
      · exact .inl (by simpa using h)
      · rcases ih h with h | ⟨e, he, hc⟩
        · exact .inl h
        · exact .inr ⟨e, List.mem_cons_of_mem _ he, hc⟩

/-- The entry of names without a NUL has no zero byte. -/
theorem zero_not_mem_aqEntry {devices : List String} (h : ∀ d ∈ devices, '\x00' ∉ d.toList) :
    0 ∉ aqEntry devices := by
  unfold aqEntry aqKey
  rw [List.mem_append, not_or]
  refine ⟨zero_not_mem_utf8Bytes (by decide), zero_not_mem_utf8Bytes fun hmem => ?_⟩
  rcases mem_join hmem with hcolon | ⟨d, hd, hzero⟩
  · cases hcolon
  · exact h d hd hzero

/-- A list that was exported is read back from the environment. -/
theorem aqDevices_exported {devices : List String} (hne : devices ≠ [])
    (hnames : ∀ d ∈ devices, d ≠ "" ∧ ':' ∉ d.toList ∧ '\x00' ∉ d.toList)
    {before after : List (List UInt8)} (hentries : ∀ entry ∈ before ++ after, 0 ∉ entry)
    (hother : ∀ entry ∈ before ++ after, aqKey.isPrefixOf entry = false) :
    aqDevices ([0].intercalate (before ++ aqEntry devices :: after)) = devices := by
  have hsplit : ([0].intercalate (before ++ aqEntry devices :: after)).splitOn 0 =
      before ++ aqEntry devices :: after := by
    refine List.splitOn_intercalate 0 ?_ (by simp)
    intro entry hentry
    rcases List.mem_append.mp hentry with h | h
    · exact hentries entry (List.mem_append_left _ h)
    rcases List.mem_cons.mp h with rfl | h
    · exact zero_not_mem_aqEntry fun d hd => (hnames d hd).2.2
    · exact hentries entry (List.mem_append_right _ h)
  have hfound := findSome_aqEntry before after devices fun entry h =>
    hother entry (List.mem_append_left _ h)
  unfold aqDevices
  rw [hsplit, hfound]
  dsimp only
  rw [fromUtf8Lossy_utf8Bytes]
  exact split_join devices hne fun d hd => ⟨(hnames d hd).1, (hnames d hd).2.1⟩

/-! ## The selected list -/

/-- The device nodes of a selection can be joined: none is empty, or holds a colon or a NUL. -/
theorem gpuDesired_names {snap : GpuSnapshot} {mode : GpuMode} {source : GpuModeSource}
    {devices : List String} {reason : String}
    (h : gpuDesired snap mode source = (some devices, reason))
    (hnames : ∀ card ∈ snap.cards, ':' ∉ card.card.toList ∧ '\x00' ∉ card.card.toList) :
    devices ≠ [] ∧ ∀ d ∈ devices, d ≠ "" ∧ ':' ∉ d.toList ∧ '\x00' ∉ d.toList := by
  rw [gpuDesired_eq, Prod.mk.injEq] at h
  obtain ⟨selected, hselected, rfl⟩ := Option.map_eq_some_iff.mp h.1
  obtain ⟨henum, hsafe⟩ := safeList_selected hselected
  constructor
  · obtain ⟨i, hhead, -⟩ := hsafe.primary
    rintro hnil
    rw [List.map_eq_nil_iff.mp hnil] at hhead
    cases hhead
  · intro d hd
    obtain ⟨c, hc, rfl⟩ := List.mem_map.mp hd
    obtain ⟨hcolon, hzero⟩ := hnames c.1 (List.mem_of_getElem? (henum c hc))
    have hchar : ∀ a ∈ (devnode c.1).toList, a ∈ "/dev/dri/".toList ∨ a ∈ c.1.card.toList := by
      intro a ha
      rw [devnode, String.toList_append, List.mem_append] at ha
      exact ha
    refine ⟨?_, fun ha => ?_, fun ha => ?_⟩
    · intro hempty
      have hlength := congrArg String.length hempty
      simp [devnode] at hlength
    · exact (hchar _ ha).elim (by decide) hcolon
    · exact (hchar _ ha).elim (by decide) hzero

/-- The answers that the drift check gets after a login with this environment, on this snapshot. -/
def loggedIn (environ : List UInt8) (snap : GpuSnapshot) : (e : Eff) → e.Ans → Prop
  | .hyprlandAqDevices, devices => devices = hyprlandAqDevices (some environ)
  | .gpuSnapshot, found => found = snap
  | _, _ => True

/-- The drift check of a session that runs with the selected list asks only, and is armed again. -/
theorem checkAndNotifyDrift_settled (fx : Effectors) (trigger : String) {snap : GpuSnapshot}
    {mode : GpuMode} {source : GpuModeSource} {environ : List UInt8} {reason : String}
    (hlist : gpuDesired snap mode source = (some (aqDevices environ), reason))
    (hne : aqDevices environ ≠ []) {c : Context}
    (hactual : c.gpu.gpuActualPending = false → c.gpu.gpuActual = some (aqDevices environ)) :
    MeetsOn (loggedIn environ snap) (fx.checkAndNotifyDrift trigger mode source) c
      (only [.query]) fun _ c' => c'.gpu.gpuLastNotified = none := by
  have hresolve : MeetsOn (loggedIn environ snap) Effectors.resolveGpuActual c (only [.query])
      fun _ c' => c'.gpu.gpuActualPending = false ∧
        c'.gpu.gpuActual = some (aqDevices environ) := by
    unfold Effectors.resolveGpuActual
    refine meetsOn_ask_bind.mpr ⟨by simp [only], fun devices hdevices => ?_⟩
    rw [show devices = some (aqDevices environ) from hdevices]
    cases hread : aqDevices environ with
    | nil => exact absurd hread hne
    | cons d ds => exact ⟨rfl, rfl⟩
  have hknown : MeetsOn (loggedIn environ snap)
      (when c.gpu.gpuActualPending Effectors.resolveGpuActual) c
      (only [.query]) fun _ c' => c'.gpu.gpuActualPending = false ∧
        c'.gpu.gpuActual = some (aqDevices environ) := by
    rw [meetsOn_when]
    exact ⟨fun _ => hresolve, fun hpending => ⟨hpending, hactual hpending⟩⟩
  unfold Effectors.checkAndNotifyDrift
  rw [meetsOn_bind, meetsOn_get, meetsOn_bind]
  refine hknown.imp ?_
  rintro _ c' ⟨hpending, hactual'⟩
  rw [meetsOn_bind, meetsOn_get, hpending, hactual']
  refine meetsOn_ask_bind.mpr ⟨by simp [only], fun found hfound => ?_⟩
  rw [show found = snap from hfound]
  simp [hlist]

/-- A relog onto the selected list ends the drift: the environment in which the list was exported is
read back as that list, and the drift check that is answered by it and by the same snapshot sends
nothing, and is armed for a later drift. -/
theorem relog_ends_drift {snap : GpuSnapshot} {mode : GpuMode} {source : GpuModeSource}
    {devices : List String} {reason : String}
    (hlist : gpuDesired snap mode source = (some devices, reason))
    (hnames : ∀ card ∈ snap.cards, ':' ∉ card.card.toList ∧ '\x00' ∉ card.card.toList)
    {before after : List (List UInt8)} (hentries : ∀ entry ∈ before ++ after, 0 ∉ entry)
    (hother : ∀ entry ∈ before ++ after, aqKey.isPrefixOf entry = false) :
    let environ := [0].intercalate (before ++ aqEntry devices :: after)
    hyprlandAqDevices (some environ) = some devices ∧
      ∀ (fx : Effectors) (trigger : String) (c c' : Context) (tr : List DaemonObs),
        (c.gpu.gpuActualPending = false → c.gpu.gpuActual = some devices) →
        Process.Runs (fx.checkAndNotifyDrift trigger mode source) c tr () c' →
        (∀ o ∈ tr, loggedIn environ snap o.1.2 o.2) →
        (∀ o ∈ tr, ∀ cmd, o.1.2 ≠ .trySend cmd) ∧ c'.gpu.gpuLastNotified = none := by
  intro environ
  obtain ⟨hne, hchars⟩ := gpuDesired_names hlist hnames
  have hread : aqDevices environ = devices := aqDevices_exported hne hchars hentries hother
  refine ⟨by rw [hyprlandAqDevices, Option.map_some, hread], ?_⟩
  intro fx trigger c c' tr hactual hruns hanswers
  rw [← hread] at hlist hne hactual
  obtain ⟨hasked, hrearmed⟩ := hruns.of_meetsOn hanswers
    (checkAndNotifyDrift_settled fx trigger hlist hne hactual)
  refine ⟨?_, hrearmed⟩
  intro o ho cmd hcmd
  have hquery := hasked o ho
  rw [hcmd] at hquery
  cases cmd <;> simp [only] at hquery

/-- The laptop with its lid open. -/
def laptop : GpuSnapshot := { cards := [laptopIgpu, laptopDgpu] }

/-- What `gpu select` exports on it with a monitor on the discrete card. -/
def laptopDevices : List String := ["/dev/dri/card0", "/dev/dri/card1"]

/-- The environment that Hyprland is started in. -/
def laptopEnviron : List UInt8 :=
  [0].intercalate ([utf8Bytes "HOME=/root".toList] ++ aqEntry laptopDevices :: [[]])

/-- A daemon that starts in that session, and finds nothing else. -/
def laptopAnswers : (e : Eff) → e.Ans
  | .hyprlandAqDevices => hyprlandAqDevices (some laptopEnviron)
  | .gpuSnapshot => laptop
  | e => e.quiet

/-- A context that still holds the advice of the session before. -/
def advised : Context := { gpu := { gpuLastNotified := some "/dev/dri/card1" } }

/-- Its drift check. -/
def advisedCheck : (Unit × Context) × Unit × List DaemonObs :=
  ((⟨false, true⟩ : Effectors).checkAndNotifyDrift "resume" .auto .default).answered laptopAnswers
    advised

/-- The rule on a laptop with two cards. -/
theorem relog_ends_drift_laptop :
    hyprlandAqDevices (some laptopEnviron) = some laptopDevices ∧
      (∀ o ∈ advisedCheck.2.2, ∀ cmd, o.1.2 ≠ .trySend cmd) ∧
      advisedCheck.1.2.gpu.gpuLastNotified = none := by
  obtain ⟨hread, hsettled⟩ := @relog_ends_drift laptop .auto .default laptopDevices
    "dgpu-has-display" (by decide +kernel) (by decide) [utf8Bytes "HOME=/root".toList] [[]]
    (by decide) (by decide)
  refine ⟨hread, hsettled ⟨false, true⟩ "resume" advised advisedCheck.1.2 advisedCheck.2.2 ?_ ?_ ?_⟩
  · intro h
    cases h
  · exact Process.runs_answered _ laptopAnswers advised
  · intro o ho
    have hanswer := Process.answer_of_mem_answered ho
    obtain ⟨⟨c, e⟩, b⟩ := o
    simp only at hanswer
    subst hanswer
    cases e <;> trivial

end Hyprstate
