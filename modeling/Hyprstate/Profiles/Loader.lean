import Hyprstate.Fsm.Profiles
import Hyprstate.Profiles.Directory

/-!
# Loading profiles

`load_profiles_merged` of `sysio/profiles.rs`: the user's profiles, and the profiles of the system
that no user profile has the name of. Each is rendered into the user's directory, under its own
name, so that the renders stay apart (`renderAll_own`) and the file that a selected profile is
applied by is its own (`loadProfilesMerged_selected`). The `monitor_profiles` crate is given; what
is only printed is left out.
-/

namespace Hyprstate

/-- What is used of the `monitor_profiles` crate. -/
structure MonitorProfiles where
  loadDir : Directory → List MonitorProfile
  renderLua : MonitorProfile → Text
  select : List String → List MonitorProfile → Option MonitorProfile

/-- The profiles of a directory go by the stems of its TOML files, dot files apart, and each has its
own name. -/
structure MonitorProfiles.Loads (mp : MonitorProfiles) : Prop where
  stem : ∀ dir, ∀ profile ∈ mp.loadDir dir, ∃ file ∈ dir, extension file = some "toml".toList ∧
    fileStem file = profile.name.toList ∧ ".".toList.isPrefixOf file = false
  nodup : ∀ dir, ((mp.loadDir dir).map MonitorProfile.name).Nodup

/-- A selected profile is one of the list. -/
def MonitorProfiles.SelectsElement (mp : MonitorProfiles) : Prop :=
  ∀ signature profiles profile, mp.select signature profiles = some profile → profile ∈ profiles

/-- The file that a profile is rendered into. -/
def renderFile (profile : MonitorProfile) : Text := profile.name.toList ++ ".lua".toList

section

variable (mp : MonitorProfiles) (pid : Nat) (failure : MonitorProfile → Option WriteFailure)

/-- `render_to_dir`. -/
def renderToDir (dir : Directory) (profile : MonitorProfile) :
    Directory × Except WriteFailure Unit :=
  writeIfChangedAtomic pid (failure profile) dir (renderFile profile) (mp.renderLua profile)

/-- The directory after the renders of some profiles; a render that fails is passed over. -/
def renderAll (dir : Directory) (profiles : List MonitorProfile) : Directory :=
  profiles.foldl (fun dir profile => (renderToDir mp pid failure dir profile).1) dir

/-- `load_profiles_from`. -/
def loadProfilesFrom (dir : Directory) : Directory × List MonitorProfile :=
  let tomlProfiles := mp.loadDir dir
  if tomlProfiles.isEmpty then (dir, [])
    else (renderAll mp pid failure dir tomlProfiles, tomlProfiles)

/-- A profile of the list has the name. -/
def shadowed (profiles : List MonitorProfile) (profile : MonitorProfile) : Bool :=
  profiles.any fun p => decide (p.name = profile.name)

/-- What `load_profiles_merged` does with a profile of the system. -/
def mergeSystem (loaded : Directory × List MonitorProfile) (profile : MonitorProfile) :
    Directory × List MonitorProfile :=
  if shadowed loaded.2 profile then loaded
  else ((renderToDir mp pid failure loaded.1 profile).1, loaded.2 ++ [profile])

/-- `load_profiles_merged`. -/
def loadProfilesMerged (user system : Directory) : Directory × List MonitorProfile :=
  (mp.loadDir system).foldl (mergeSystem mp pid failure) (loadProfilesFrom mp pid failure user)

/-- `select_profile`. -/
def selectProfile (signature : List String) (profiles : List MonitorProfile) :
    Option MonitorProfile :=
  do
  let selected ← mp.select signature profiles
  profiles.find? fun p => decide (p.name = selected.name)

/-- The profiles that are loaded. -/
def loadedProfiles (user system : Directory) : List MonitorProfile :=
  mp.loadDir user ++ (mp.loadDir system).filter fun profile => !shadowed (mp.loadDir user) profile

end

/-! ## The files of a render -/

section

variable {mp : MonitorProfiles} {pid : Nat} {failure : MonitorProfile → Option WriteFailure}
  {profile other : MonitorProfile} {user system dir : Directory} {k : Text}

/-- A render's name splits into the profile's and `lua`. -/
theorem rsplitDot_renderFile (h : profile.name.toList ≠ []) :
    rsplitDot (renderFile profile) = (profile.name.toList, some "lua".toList) :=
  rsplitDot_append h (by decide) (by decide)

/-- A render has the extension of a Lua file. -/
theorem extension_renderFile (h : profile.name.toList ≠ []) :
    extension (renderFile profile) = some "lua".toList := by
  rw [extension, rsplitDot_renderFile h]

/-- Its stem is the profile's name. -/
theorem fileStem_renderFile (h : profile.name.toList ≠ []) :
    fileStem (renderFile profile) = profile.name.toList := by
  rw [fileStem, rsplitDot_renderFile h]

/-- No file of a dialect is a temporary one. -/
theorem ne_temporary (pid : Nat) (h : extension k = some "lua".toList) (name : Text) :
    k ≠ temporary pid name := by
  rintro rfl
  rw [extension_temporary] at h
  have hhead : 't' = 'l' := (List.cons.inj (Option.some.inj h)).1
  exact absurd hhead (by decide)

/-- Renders of one name are renders of profiles of one name. -/
theorem renderFile_injective (h : renderFile profile = renderFile other) :
    profile.name = other.name :=
  String.toList_injective (List.append_cancel_right h)

/-- The two files that the render of a profile may touch. -/
def Own (pid : Nat) (profile : MonitorProfile) (k : Text) : Prop :=
  k = renderFile profile ∨ k = temporary pid (renderFile profile)

/-- Profiles of different names touch different files. -/
theorem Own.name_eq (hname : profile.name.toList ≠ []) (hother : other.name.toList ≠ [])
    (h : Own pid profile k) (h' : Own pid other k) : profile.name = other.name := by
  rcases h with rfl | rfl <;> rcases h' with h' | h'
  · exact renderFile_injective h'
  · exact absurd h' (ne_temporary pid (extension_renderFile hname) _)
  · exact absurd h'.symm (ne_temporary pid (extension_renderFile hother) _)
  · rw [temporary, temporary, extension_renderFile hname, extension_renderFile hother,
      fileStem_renderFile hname, fileStem_renderFile hother] at h'
    exact String.toList_injective (List.append_cancel_right h')

/-- A render leaves the other entries. -/
theorem renderToDir_other (h : ¬Own pid profile k) :
    (renderToDir mp pid failure dir profile).1.lookup k = dir.lookup k :=
  writeIfChangedAtomic_other (fun hk => h (.inl hk)) fun hk => h (.inr hk)

/-- The render is in place already. -/
def InPlace (mp : MonitorProfiles) (dir : Directory) (profile : MonitorProfile) : Prop :=
  dir.readToString (renderFile profile) = some (mp.renderLua profile)

/-- Whether a render is in place is decidable. -/
instance : Decidable (InPlace mp dir profile) := inferInstanceAs (Decidable (_ = _))

/-- The file is the render, where it was in place or the write succeeded. -/
theorem renderToDir_renderFile (hname : profile.name.toList ≠ []) :
    (renderToDir mp pid failure dir profile).1.lookup (renderFile profile) =
      if failure profile = none ∨ InPlace mp dir profile then some (.ofText (mp.renderLua profile))
      else dir.lookup (renderFile profile) :=
  writeIfChangedAtomic_name (ne_temporary pid (extension_renderFile hname) _)

/-- A render depends on its own files only. -/
theorem renderToDir_congr {dir' : Directory} (hname : profile.name.toList ≠ [])
    (h : ∀ k, Own pid profile k → dir.lookup k = dir'.lookup k) (hk : Own pid profile k) :
    (renderToDir mp pid failure dir profile).1.lookup k =
      (renderToDir mp pid failure dir' profile).1.lookup k := by
  have hfile := h _ (.inl rfl)
  have hplace : InPlace mp dir profile ↔ InPlace mp dir' profile := by
    rw [InPlace, InPlace, Directory.readToString, Directory.readToString, hfile]
  rcases hk with rfl | rfl
  · simp only [renderToDir_renderFile hname, hplace, hfile]
  · by_cases hin : InPlace mp dir profile
    · rw [renderToDir, renderToDir, writeIfChangedAtomic_inPlace hin,
        writeIfChangedAtomic_inPlace (hplace.mp hin)]
      exact h _ (.inr rfl)
    · have hne := ne_temporary pid (extension_renderFile hname) (renderFile profile)
      rw [renderToDir, renderToDir, writeIfChangedAtomic_temporary hne hin,
        writeIfChangedAtomic_temporary hne (hplace.not.mp hin), h _ (.inr rfl)]

/-! ## All renders -/

variable {profiles : List MonitorProfile}

/-- Profiles that have names, each its own. -/
structure Named (profiles : List MonitorProfile) : Prop where
  nonempty : ∀ profile ∈ profiles, profile.name.toList ≠ []
  nodup : (profiles.map MonitorProfile.name).Nodup

/-- The names of fewer profiles. -/
theorem Named.tail (h : Named (profile :: profiles)) : Named profiles :=
  ⟨fun p hp => h.nonempty p (List.mem_cons_of_mem _ hp), (List.nodup_cons.mp h.nodup).2⟩

/-- The files of a profile are not those of a later one. -/
theorem Named.not_own (h : Named (profile :: profiles)) (hother : other ∈ profiles)
    (hk : Own pid other k) : ¬Own pid profile k := by
  intro hk'
  have hname := hk'.name_eq (h.nonempty profile List.mem_cons_self)
    (h.nonempty other (List.mem_cons_of_mem _ hother)) hk
  exact (List.nodup_cons.mp h.nodup).1 (hname ▸ List.mem_map_of_mem hother)

/-- Renders leave the entries that are none of theirs. -/
theorem renderAll_other (h : ∀ profile ∈ profiles, ¬Own pid profile k) (dir : Directory) :
    (renderAll mp pid failure dir profiles).lookup k = dir.lookup k := by
  induction profiles generalizing dir with
  | nil => rfl
  | cons profile profiles ih =>
    exact (ih (fun p hp => h p (List.mem_cons_of_mem _ hp)) _).trans
      (renderToDir_other (h profile List.mem_cons_self))

/-- A profile's own files are what its render makes of the directory. -/
theorem renderAll_own (h : Named profiles) (hmem : profile ∈ profiles) (hk : Own pid profile k)
    (dir : Directory) :
    (renderAll mp pid failure dir profiles).lookup k =
      (renderToDir mp pid failure dir profile).1.lookup k := by
  induction profiles generalizing dir with
  | nil => cases hmem
  | cons first profiles ih =>
    rcases List.mem_cons.mp hmem with rfl | hmem
    · exact renderAll_other (fun p hp hown => h.not_own hp hown hk) _
    · have hlocal : ∀ k', Own pid profile k' →
          (renderToDir mp pid failure dir first).1.lookup k' = dir.lookup k' := fun k' hk' =>
        renderToDir_other (h.not_own hmem hk')
      calc (renderAll mp pid failure dir (first :: profiles)).lookup k
          = (renderToDir mp pid failure
              (renderToDir mp pid failure dir first).1 profile).1.lookup k :=
            ih h.tail hmem _
        _ = (renderToDir mp pid failure dir profile).1.lookup k :=
            renderToDir_congr (h.nonempty profile (List.mem_cons_of_mem _ hmem)) hlocal hk

/-! ## The two directories -/

/-- A profile is shadowed by one of its name. -/
theorem shadowed_eq_true :
    shadowed profiles profile = true ↔ ∃ p ∈ profiles, p.name = profile.name := by
  simp [shadowed]

/-- What is loaded: the user's, and the system's that are not shadowed. -/
theorem mem_loadedProfiles : profile ∈ loadedProfiles mp user system ↔
    profile ∈ mp.loadDir user ∨
      profile ∈ mp.loadDir system ∧ ∀ p ∈ mp.loadDir user, p.name ≠ profile.name := by
  rw [loadedProfiles, List.mem_append, List.mem_filter, Bool.not_eq_true', ← Bool.not_eq_true,
    shadowed_eq_true]
  simp only [not_exists, not_and, ne_eq]

/-- The profiles loaded have names of their own. -/
theorem MonitorProfiles.Loads.named (h : mp.Loads) (user system : Directory) :
    Named (loadedProfiles mp user system) where
  nonempty profile hmem := by
    have hsource : ∃ dir, profile ∈ mp.loadDir dir :=
      (mem_loadedProfiles.mp hmem).elim (fun h => ⟨_, h⟩) fun h => ⟨_, h.1⟩
    obtain ⟨dir, hdir⟩ := hsource
    obtain ⟨file, -, hext, hstem, -⟩ := h.stem dir profile hdir
    exact hstem ▸ fileStem_ne_nil hext
  nodup := by
    rw [loadedProfiles, List.map_append]
    refine List.Nodup.append (h.nodup user) ?_ ?_
    · exact (h.nodup system).sublist (List.filter_sublist.map _)
    · intro name huser hsystem
      obtain ⟨p, hp, rfl⟩ := List.mem_map.mp huser
      obtain ⟨q, hq, hname⟩ := List.mem_map.mp hsystem
      have hshadowed : shadowed (mp.loadDir user) q = true :=
        shadowed_eq_true.mpr ⟨p, hp, hname.symm⟩
      rw [List.mem_filter, hshadowed] at hq
      exact absurd hq.2 (by decide)

/-- The merge renders the system's profiles that are not shadowed, one after another. -/
theorem foldl_mergeSystem (hnodup : (profiles.map MonitorProfile.name).Nodup) (dir : Directory)
    (loaded : List MonitorProfile) :
    profiles.foldl (mergeSystem mp pid failure) (dir, loaded) =
      (renderAll mp pid failure dir (profiles.filter fun p => !shadowed loaded p),
        loaded ++ profiles.filter fun p => !shadowed loaded p) := by
  induction profiles generalizing dir loaded with
  | nil => rw [List.filter_nil, List.append_nil]; rfl
  | cons profile profiles ih =>
    obtain ⟨hfirst, hrest⟩ := List.nodup_cons.mp hnodup
    rw [List.foldl_cons, mergeSystem]
    by_cases hshadowed : shadowed loaded profile = true
    · rw [if_pos hshadowed, ih hrest, List.filter_cons_of_neg (by simp [hshadowed])]
    · -- No later profile of the system has the name.
      have hsame : profiles.filter (fun p => !shadowed (loaded ++ [profile]) p) =
          profiles.filter fun p => !shadowed loaded p := by
        refine List.filter_congr fun p hp => ?_
        have hne : profile.name ≠ p.name := fun heq => hfirst (heq ▸ List.mem_map_of_mem hp)
        simp [shadowed, hne]
      rw [if_neg hshadowed, ih hrest, hsame, List.filter_cons_of_pos (by simp [hshadowed]),
        List.append_assoc]
      rfl

/-- The user's directory has the renders of the profiles that are loaded. -/
theorem loadProfilesMerged_eq (h : mp.Loads) (user system : Directory) :
    loadProfilesMerged mp pid failure user system =
      (renderAll mp pid failure user (loadedProfiles mp user system),
        loadedProfiles mp user system) := by
  have hfrom : loadProfilesFrom mp pid failure user =
      (renderAll mp pid failure user (mp.loadDir user), mp.loadDir user) := by
    unfold loadProfilesFrom
    cases mp.loadDir user with
    | nil => rfl
    | cons profile profiles => rfl
  rw [loadProfilesMerged, hfrom, foldl_mergeSystem (h.nodup system), loadedProfiles,
    renderAll, renderAll, renderAll, List.foldl_append]

end

/-! ## What is selected -/

/-- The profile of a name is found in a list that has each name once. -/
theorem find_name {profiles : List MonitorProfile}
    (hnodup : (profiles.map MonitorProfile.name).Nodup) {profile : MonitorProfile}
    (hmem : profile ∈ profiles) :
    profiles.find? (fun p => decide (p.name = profile.name)) = some profile := by
  have hfound : (profiles.find? fun p => decide (p.name = profile.name)).isSome :=
    List.find?_isSome.mpr ⟨profile, hmem, decide_eq_true rfl⟩
  obtain ⟨found, heq⟩ := Option.isSome_iff_exists.mp hfound
  have hname : found.name = profile.name := by simpa using List.find?_some heq
  rw [heq, List.inj_on_of_nodup_map hnodup (List.mem_of_find?_eq_some heq) hmem hname]

/-- Each name is loaded once, from the user's directory where it is there and from the system's
else; and the profile that is selected is the one that `select` chose, and its file has its
render. -/
theorem loadProfilesMerged_selected {mp : MonitorProfiles} (hloads : mp.Loads)
    (hselect : mp.SelectsElement) (pid : Nat) (user system : Directory) :
    let loaded := loadProfilesMerged mp pid (fun _ => none) user system
    (loaded.2.map MonitorProfile.name).Nodup ∧
      (∀ profile, profile ∈ loaded.2 ↔ profile ∈ mp.loadDir user ∨
        profile ∈ mp.loadDir system ∧ ∀ p ∈ mp.loadDir user, p.name ≠ profile.name) ∧
      ∀ signature profile, selectProfile mp signature loaded.2 = some profile →
        mp.select signature loaded.2 = some profile ∧
          loaded.1.lookup (renderFile profile) = some (.ofText (mp.renderLua profile)) := by
  intro loaded
  have hnamed := hloads.named user system
  have heq : loaded = _ := loadProfilesMerged_eq hloads user system
  rw [heq]
  refine ⟨hnamed.nodup, fun _ => mem_loadedProfiles, ?_⟩
  intro signature profile hprofile
  obtain ⟨selected, hselected, hfind⟩ := Option.bind_eq_some_iff.mp hprofile
  have hmem := hselect _ _ _ hselected
  obtain rfl : selected = profile :=
    Option.some.inj ((find_name hnamed.nodup hmem).symm.trans hfind)
  refine ⟨hselected, ?_⟩
  rw [renderAll_own hnamed hmem (.inl rfl), renderToDir_renderFile (hnamed.nonempty _ hmem),
    if_pos (.inl rfl)]

/-- A crate for which every TOML file is the profile of one output. -/
def MonitorProfiles.plain : MonitorProfiles where
  loadDir dir :=
    let files := dir.keys.filter fun file =>
      decide (extension file = some "toml".toList) && !".".toList.isPrefixOf file
    files.map fun file => { name := String.ofList (fileStem file), matchRules := ["DP-1"] }
  renderLua profile := "-- Do not edit ".toList ++ profile.name.toList
  select signature profiles :=
    profiles.find? fun profile => profile.matchRules.all fun rule => rule ∈ signature

/-- The plain crate loads as it should. -/
theorem MonitorProfiles.plain_loads : MonitorProfiles.plain.Loads where
  stem dir profile hmem := by
    obtain ⟨file, hfile, rfl⟩ := List.mem_map.mp hmem
    obtain ⟨hkey, hcond⟩ := List.mem_filter.mp hfile
    rw [Bool.and_eq_true, decide_eq_true_eq, Bool.not_eq_true'] at hcond
    exact ⟨file, AList.mem_keys.mpr hkey, hcond.1, String.toList_ofList.symm, hcond.2⟩
  nodup dir := by
    rw [MonitorProfiles.plain, List.map_map]
    refine List.Nodup.map_on ?_ (dir.keys_nodup.filter _)
    intro a ha b hb hname
    have hstem : fileStem a = fileStem b := String.ofList_injective hname
    have ha := (List.mem_filter.mp ha).2
    have hb := (List.mem_filter.mp hb).2
    rw [Bool.and_eq_true, decide_eq_true_eq] at ha hb
    exact eq_of_stem hstem ha.1 hb.1

/-- It selects among the profiles it is given. -/
theorem MonitorProfiles.plain_selectsElement : MonitorProfiles.plain.SelectsElement :=
  fun _ _ _ h => List.mem_of_find?_eq_some h

/-- A directory of one TOML file. -/
def oneToml (stem : String) : Directory :=
  AList.singleton (stem.toList ++ ".toml".toList) (.ofText "match = [\"DP-1\"]".toList)

/-- One profile of the system's directory is selected and its render is in place. -/
theorem loadProfilesMerged_selected_shared : ∃ profile,
    selectProfile .plain ["DP-1"]
      (loadProfilesMerged .plain 1 (fun _ => none) ∅ (oneToml "shared")).2 =
        some profile ∧
      (loadProfilesMerged .plain 1 (fun _ => none) ∅ (oneToml "shared")).1.lookup
        (renderFile profile) = some (.ofText "-- Do not edit shared".toList) := by
  have hselected : selectProfile .plain ["DP-1"]
      (loadProfilesMerged .plain 1 (fun _ => none) ∅ (oneToml "shared")).2 =
        some { name := "shared", matchRules := ["DP-1"] } := by
    decide +kernel
  have hfile := ((loadProfilesMerged_selected MonitorProfiles.plain_loads
    MonitorProfiles.plain_selectsElement 1 ∅ (oneToml "shared")).2.2 _ _ hselected).2
  exact ⟨_, hselected, hfile⟩

end Hyprstate
