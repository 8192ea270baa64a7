import Hyprstate.Profiles.Loader
import Mathlib.Data.List.Infix

/-!
# Renders and hand-written files

The user's directory has the renders of TOML profiles beside the Lua and conf files that were
written by hand. `dir_has_legacy` of `sysio/profiles.rs` tells them apart by the header of a render;
`legacy_files` of `cli/profile.rs`, which migration goes by, does not, and so the two agree only
where no render is there (`agree_iff_apart`). Nor does a load look at the file that it renders into,
or at the temporary file beside it (`handWritten_kept_iff`).
-/

namespace Hyprstate

/-- What a render says of itself. -/
def header : Text := "Do not edit".toList

/-- Renders have the header. -/
def MonitorProfiles.RendersHeader (mp : MonitorProfiles) : Prop :=
  ∀ profile, header <:+: mp.renderLua profile

/-- `is_legacy_render`. -/
def isLegacyRender (name : Text) : Bool :=
  decide (extension name = some "conf".toList) || decide (extension name = some "lua".toList)

/-- `dir_has_legacy`. -/
def dirHasLegacy (dir : Directory) : Bool :=
  dir.keys.any fun name => isLegacyRender name && !".".toList.isPrefixOf name &&
    (dir.readToString name).any fun text => !decide (header <:+: text)

/-- The file has the header. -/
def Generated (dir : Directory) (name : Text) : Prop :=
  ∃ text, dir.readToString name = some text ∧ header <:+: text

/-- The loader and migration agree on what is legacy, and a render is not. -/
structure Agree (dir : Directory) : Prop where
  same : legacyFiles dir.keys none ≠ [] ↔ dirHasLegacy dir = true
  render : ∀ name ∈ legacyFiles dir.keys none, ¬Generated dir name

/-- The render of a profile is in the directory after a load. -/
def Lands (mp : MonitorProfiles) (failure : MonitorProfile → Option WriteFailure) (user : Directory)
    (profile : MonitorProfile) : Prop :=
  failure profile = none ∨ InPlace mp user profile

/-- The files that migration might take. -/
def legacyNames (dir : Directory) : List Text := dir.keys.filter (isLegacy none)

/-- There is no such file, or one that was written by hand; and a generated one is displaced. -/
def Apart (dir : Directory) : Prop :=
  legacyNames dir = [] ∨
    (∃ name ∈ legacyNames dir, ∃ text, dir.readToString name = some text ∧ ¬header <:+: text) ∧
      ∀ name ∈ legacyNames dir, Generated dir name → Displaced (legacyNames dir) name

/-- A file without the header, whose stem has no TOML. -/
structure HandWritten (dir : Directory) (name : Text) (bytes : List UInt8) : Prop where
  file : dir.lookup name = some (.file bytes)
  noHeader : ∀ text, Bytes.fromUtf8 bytes = some text → ¬header <:+: text
  noToml : ∀ toml ∈ dir, extension toml = some "toml".toList → fileStem toml ≠ fileStem name

/-- The render of a profile is written over the file, or the temporary file is, unless a failed
write leaves it as it was. -/
def Replaces (mp : MonitorProfiles) (pid : Nat) (failure : MonitorProfile → Option WriteFailure)
    (user : Directory) (profile : MonitorProfile) (name : Text) (bytes : List UInt8) : Prop :=
  name = renderFile profile ∧ failure profile = none ∨
    name = temporary pid (renderFile profile) ∧ ¬InPlace mp user profile ∧
      ∀ f, failure profile = some f → ∃ entry, f.left (mp.renderLua profile) = some entry ∧
        entry ≠ .file bytes

/-! ## What is legacy -/

section

variable {dir dir' : Directory} {name : Text}

/-- Without a name asked for, every render of the old kind is a legacy file. -/
theorem isLegacy_none (name : Text) :
    isLegacy none name = (isLegacyRender name && !".".toList.isPrefixOf name) := by
  have hactive : ".active.".toList.isPrefixOf name = true → ".".toList.isPrefixOf name = true := by
    rw [List.isPrefixOf_iff_prefix, List.isPrefixOf_iff_prefix]
    exact List.IsPrefix.trans (by decide)
  rw [isLegacy, isLegacyRender, Option.all_none, Bool.and_true]
  cases hdot : ".".toList.isPrefixOf name with
  | true => rw [Bool.not_true, Bool.and_false, Bool.false_and]
  | false =>
    have hnot : ".active.".toList.isPrefixOf name = false := by
      by_contra h
      rw [Bool.not_eq_false] at h
      rw [hactive h] at hdot
      cases hdot
    rw [hnot, Bool.not_false, Bool.and_true]

/-- The legacy names of a directory. -/
theorem mem_legacyNames : name ∈ legacyNames dir ↔ name ∈ dir ∧ isLegacy none name = true := by
  rw [legacyNames, List.mem_filter, AList.mem_keys]

/-- A directory has legacy files where one of them is not a render. -/
theorem dirHasLegacy_iff : dirHasLegacy dir = true ↔
    ∃ name ∈ legacyNames dir, ∃ text, dir.readToString name = some text ∧ ¬header <:+: text := by
  simp only [dirHasLegacy, List.any_eq_true, ← isLegacy_none, Bool.and_eq_true, Option.any_eq_true,
    Bool.not_eq_true', decide_eq_false_iff_not, mem_legacyNames, AList.mem_keys, and_assoc]

/-- The two agree on a directory where their files are apart. -/
theorem agree_iff_apart : Agree dir ↔ Apart dir := by
  have hmem : ∀ {name}, name ∈ legacyFiles dir.keys none ↔
      name ∈ legacyNames dir ∧ ¬Displaced (legacyNames dir) name := mem_legacyFiles
  have hne : legacyFiles dir.keys none ≠ [] ↔ ∃ name, name ∈ legacyNames dir := by
    rw [legacyFiles_ne_nil]
    simp only [mem_legacyNames, AList.mem_keys]
  constructor
  · intro h
    by_cases hnone : legacyNames dir = []
    · exact .inl hnone
    refine .inr ⟨dirHasLegacy_iff.mp (h.same.mp (hne.mpr (List.exists_mem_of_ne_nil _ hnone))), ?_⟩
    intro name hname hgenerated
    by_contra hnot
    exact h.render name (hmem.mpr ⟨hname, hnot⟩) hgenerated
  · rintro (hnone | ⟨hhand, hgenerated⟩)
    · have hempty : ¬∃ name, name ∈ legacyNames dir := by simp [hnone]
      refine ⟨⟨fun h => absurd (hne.mp h) hempty, fun h => ?_⟩, fun name h =>
        absurd ⟨name, (hmem.mp h).1⟩ hempty⟩
      obtain ⟨name, hname, -⟩ := dirHasLegacy_iff.mp h
      exact absurd ⟨name, hname⟩ hempty
    · obtain ⟨name, hname, htext⟩ := hhand
      refine ⟨⟨fun _ => dirHasLegacy_iff.mpr ⟨name, hname, htext⟩, fun _ =>
        hne.mpr ⟨name, hname⟩⟩, ?_⟩
      intro name hname hgen
      exact (hmem.mp hname).2 (hgenerated name (hmem.mp hname).1 hgen)

/-- Only the files that migration might take matter. -/
theorem apart_congr (h : ∀ name, isLegacy none name = true → dir.lookup name = dir'.lookup name)
    (hapart : Apart dir) : Apart dir' := by
  have hnames : ∀ name, name ∈ legacyNames dir ↔ name ∈ legacyNames dir' := by
    intro name
    rw [mem_legacyNames, mem_legacyNames]
    refine and_congr_left fun hlegacy => ?_
    rw [← AList.lookup_isSome, ← AList.lookup_isSome, h name hlegacy]
  have hread : ∀ name ∈ legacyNames dir, dir.readToString name = dir'.readToString name := by
    intro name hname
    rw [Directory.readToString, Directory.readToString, h name (mem_legacyNames.mp hname).2]
  rcases hapart with hnone | ⟨⟨name, hname, text, htext, hhand⟩, hgenerated⟩
  · left
    rw [List.eq_nil_iff_forall_not_mem] at hnone ⊢
    exact fun name hname => hnone name ((hnames name).mpr hname)
  · refine .inr ⟨⟨name, (hnames name).mp hname, text, hread name hname ▸ htext, hhand⟩, ?_⟩
    rintro name hname ⟨text, htext, hheader⟩
    have hname := (hnames name).mpr hname
    have hdisplaced := hgenerated name hname ⟨text, (hread name hname).trans htext, hheader⟩
    simpa only [Displaced, hnames] using hdisplaced

end

/-! ## After a load -/

section

variable {mp : MonitorProfiles} {pid : Nat} {failure : MonitorProfile → Option WriteFailure}
  {profile : MonitorProfile} {user system dir : Directory} {name : Text}

/-- The name of a profile starts with no dot. -/
theorem MonitorProfiles.Loads.not_dot (h : mp.Loads) (hmem : profile ∈ mp.loadDir dir) :
    ".".toList.isPrefixOf (renderFile profile) = false := by
  obtain ⟨file, -, hext, hstem, hdot⟩ := h.stem dir profile hmem
  obtain ⟨c, stem, hcons⟩ := List.exists_cons_of_ne_nil (fileStem_ne_nil hext)
  rw [eq_of_extension hext, hcons] at hdot
  rw [renderFile, ← hstem, hcons]
  exact hdot

/-- A profile that is loaded was loaded from a directory. -/
theorem mem_loadDir_of_loaded (h : profile ∈ loadedProfiles mp user system) :
    ∃ dir, profile ∈ mp.loadDir dir :=
  (mem_loadedProfiles.mp h).elim (fun h => ⟨_, h⟩) fun h => ⟨_, h.1⟩

/-- A render is a file that migration takes. -/
theorem isLegacy_renderFile (hloads : mp.Loads) (h : profile ∈ loadedProfiles mp user system) :
    isLegacy none (renderFile profile) = true := by
  obtain ⟨dir, hdir⟩ := mem_loadDir_of_loaded h
  have hlua := extension_renderFile ((hloads.named user system).nonempty profile h)
  rw [isLegacy_none, isLegacyRender, hlua, hloads.not_dot hdir]
  decide

/-- A render that lands is in the directory, and would be migrated. -/
theorem not_agree_of_lands (hloads : mp.Loads) (hheader : mp.RendersHeader)
    (hmem : profile ∈ loadedProfiles mp user system) (hlands : Lands mp failure user profile) :
    ¬Agree (loadProfilesMerged mp pid failure user system).1 := by
  have hnamed := hloads.named user system
  have hname := hnamed.nonempty profile hmem
  rw [loadProfilesMerged_eq hloads]
  generalize hafter : renderAll mp pid failure user (loadedProfiles mp user system) = after
  have hfile : after.lookup (renderFile profile) = some (.ofText (mp.renderLua profile)) := by
    rw [← hafter, renderAll_own hnamed hmem (.inl rfl), renderToDir_renderFile hname]
    exact if_pos hlands
  have hread : after.readToString (renderFile profile) = some (mp.renderLua profile) := by
    rw [Directory.readToString, hfile, Option.bind_some, text_ofText]
  have hlegacy : renderFile profile ∈ legacyNames after :=
    mem_legacyNames.mpr ⟨AList.lookup_isSome.mp (by rw [hfile]; rfl),
      isLegacy_renderFile hloads hmem⟩
  have hnot : ¬Displaced (legacyNames after) (renderFile profile) := by
    rintro ⟨hconf, -⟩
    rw [extension_renderFile hname] at hconf
    exact absurd (Option.some.inj hconf) (by decide)
  intro h
  exact h.render _ (mem_legacyFiles.mpr ⟨hlegacy, hnot⟩) ⟨_, hread, hheader profile⟩

/-- Where no render lands, a load leaves the files that migration might take. -/
theorem lookup_of_not_lands (hloads : mp.Loads)
    (h : ∀ profile ∈ loadedProfiles mp user system, ¬Lands mp failure user profile)
    (hlegacy : isLegacy none name = true) :
    (loadProfilesMerged mp pid failure user system).1.lookup name = user.lookup name := by
  have hnamed := hloads.named user system
  rw [loadProfilesMerged_eq hloads]
  by_cases hown : ∃ profile ∈ loadedProfiles mp user system, Own pid profile name
  · obtain ⟨profile, hmem, hown⟩ := hown
    rw [renderAll_own hnamed hmem hown]
    rcases hown with rfl | rfl
    · rw [renderToDir_renderFile (hnamed.nonempty profile hmem)]
      exact if_neg (h profile hmem)
    · -- A temporary file is of no dialect.
      have hext := isLegacy_extension hlegacy
      rw [extension_temporary] at hext
      rcases hext with hext | hext
      · have hhead : 't' = 'c' := (List.cons.inj (Option.some.inj hext)).1
        exact absurd hhead (by decide)
      · have hhead : 't' = 'l' := (List.cons.inj (Option.some.inj hext)).1
        exact absurd hhead (by decide)
  · exact renderAll_other (fun profile hmem hk => hown ⟨profile, hmem, hk⟩) user

/-- A file with the text of a render has the header. -/
theorem not_handWritten_render {bytes : List UInt8} (hheader : mp.RendersHeader)
    (h : .file bytes = Entry.ofText (mp.renderLua profile)) :
    ¬∀ text, Bytes.fromUtf8 bytes = some text → ¬header <:+: text := by
  have hread : Bytes.fromUtf8 bytes = some (mp.renderLua profile) :=
    Bytes.fromUtf8_eq_some.mpr (Entry.file.inj h)
  exact fun hnone => hnone _ hread (hheader profile)

/-- A render that replaces a file is the profile's own. -/
theorem Replaces.own {bytes : List UInt8} (h : Replaces mp pid failure user profile name bytes) :
    Own pid profile name :=
  h.imp And.left And.left

/-- One render keeps a hand-written file of its own exactly where it does not replace it. -/
theorem HandWritten.own_iff (hheader : mp.RendersHeader) (hname : profile.name.toList ≠ [])
    {bytes : List UInt8} (h : HandWritten user name bytes) (hown : Own pid profile name) :
    (renderToDir mp pid failure user profile).1.lookup name = some (.file bytes) ↔
      ¬Replaces mp pid failure user profile name bytes := by
  have hne := ne_temporary pid (extension_renderFile hname) (renderFile profile)
  -- The render's two files: its own name, and the temporary one beside it.
  rcases hown with rfl | rfl
  · rw [renderToDir_renderFile hname]
    by_cases hdone : failure profile = none
    · rw [if_pos (.inl hdone)]
      refine ⟨fun heq => ?_, fun hnot => absurd (.inl ⟨rfl, hdone⟩) hnot⟩
      exact absurd h.noHeader (not_handWritten_render hheader (Option.some.inj heq).symm)
    -- A file that stood as rendered would carry the header.
    · have hplace : ¬InPlace mp user profile := by
        intro hplace
        have hfile := h.file.symm.trans (lookup_of_readToString hplace)
        exact not_handWritten_render hheader (Option.some.inj hfile) h.noHeader
      rw [if_neg (not_or.mpr ⟨hdone, hplace⟩)]
      refine ⟨fun _ => ?_, fun _ => h.file⟩
      rintro (⟨-, hnone⟩ | ⟨heq, -⟩)
      · exact hdone hnone
      · exact hne heq
  · by_cases hplace : InPlace mp user profile
    · rw [renderToDir, writeIfChangedAtomic_inPlace hplace]
      refine ⟨fun _ => ?_, fun _ => h.file⟩
      rintro (⟨heq, -⟩ | ⟨-, hnot, -⟩)
      · exact hne heq.symm
      · exact hnot hplace
    -- The temporary file is what a write that broke off left of it.
    · have hreplaces : Replaces mp pid failure user profile
          (temporary pid (renderFile profile)) bytes ↔
          ∀ f, failure profile = some f →
            ∃ entry, f.left (mp.renderLua profile) = some entry ∧ entry ≠ .file bytes := by
        refine ⟨fun hrep => ?_, fun hleft => .inr ⟨rfl, hplace, hleft⟩⟩
        rcases hrep with ⟨heq, -⟩ | ⟨-, -, hleft⟩
        · exact absurd heq.symm hne
        · exact hleft
      rw [renderToDir, writeIfChangedAtomic_temporary hne hplace, hreplaces]
      cases failure profile with
      | none => simp
      | some f => cases hleft : f.left (mp.renderLua profile) <;> simp [hleft, h.file]

/-- A hand-written file is as it was after a load exactly where no loaded profile replaces it. -/
theorem HandWritten.kept_iff (hloads : mp.Loads) (hheader : mp.RendersHeader) {bytes : List UInt8}
    (h : HandWritten user name bytes) :
    (loadProfilesMerged mp pid failure user system).1.lookup name = some (.file bytes) ↔
      ∀ profile ∈ loadedProfiles mp user system, ¬Replaces mp pid failure user profile
        name bytes := by
  have hnamed := hloads.named user system
  rw [loadProfilesMerged_eq hloads]
  constructor
  · intro hkept profile hmem hreplaces
    rw [renderAll_own hnamed hmem hreplaces.own] at hkept
    exact (h.own_iff hheader (hnamed.nonempty profile hmem) hreplaces.own).mp hkept hreplaces
  · intro hnone
    by_cases hown : ∃ profile ∈ loadedProfiles mp user system, Own pid profile name
    · obtain ⟨profile, hmem, hown⟩ := hown
      rw [renderAll_own hnamed hmem hown]
      exact (h.own_iff hheader (hnamed.nonempty profile hmem) hown).mpr (hnone profile hmem)
    · rw [renderAll_other (fun profile hmem hk => hown ⟨profile, hmem, hk⟩) user, h.file]

end

/-- After a load, the loader and migration agree on what is legacy exactly where no render of a
loaded profile is there, and the user's directory had no file for migration at all, or one that was
written by hand and no generated one that is not displaced.
-/
theorem agree_loadProfilesMerged_iff {mp : MonitorProfiles} (hloads : mp.Loads)
    (hheader : mp.RendersHeader) (pid : Nat) (failure : MonitorProfile → Option WriteFailure)
    (user system : Directory) :
    Agree (loadProfilesMerged mp pid failure user system).1 ↔
      (∀ profile, profile ∈ mp.loadDir user ∨
          profile ∈ mp.loadDir system ∧ (∀ p ∈ mp.loadDir user, p.name ≠ profile.name) →
        ¬Lands mp failure user profile) ∧ Apart user := by
  have hmem : ∀ {profile}, profile ∈ mp.loadDir user ∨
      profile ∈ mp.loadDir system ∧ (∀ p ∈ mp.loadDir user, p.name ≠ profile.name) ↔
        profile ∈ loadedProfiles mp user system := mem_loadedProfiles.symm
  simp only [hmem]
  constructor
  · intro h
    have hnone : ∀ profile ∈ loadedProfiles mp user system, ¬Lands mp failure user profile :=
      fun profile hprofile hlands => not_agree_of_lands hloads hheader hprofile hlands h
    exact ⟨hnone,
      apart_congr (fun _ hlegacy => lookup_of_not_lands hloads hnone hlegacy)
        (agree_iff_apart.mp h)⟩
  · rintro ⟨hnone, hapart⟩
    exact agree_iff_apart.mpr
      (apart_congr (fun _ hlegacy => (lookup_of_not_lands hloads hnone hlegacy).symm) hapart)

/-- A file that was written by hand. -/
def handMade (name : String) : Directory :=
  AList.singleton name.toList (.ofText "hl.monitor()".toList)

/-- The plain crate's renders begin with the header. -/
theorem MonitorProfiles.plain_rendersHeader : MonitorProfiles.plain.RendersHeader := by
  intro profile
  exact List.IsInfix.trans (by decide) (List.prefix_append _ _).isInfix

/-- Files that were written by hand, and no TOML. -/
theorem agree_loadProfilesMerged_handMade :
    Agree (loadProfilesMerged .plain 1 (fun _ => none) (handMade "desk.lua") ∅).1 := by
  refine (agree_loadProfilesMerged_iff MonitorProfiles.plain_loads
    MonitorProfiles.plain_rendersHeader 1 _
    (handMade "desk.lua") ∅).mpr ⟨fun profile hmem => ?_, ?_⟩
  · have hnone : MonitorProfiles.plain.loadDir (handMade "desk.lua") = [] := by decide +kernel
    rw [hnone] at hmem
    rcases hmem with hmem | ⟨hmem, -⟩
    · cases hmem
    · cases hmem
  · have hread : (handMade "desk.lua").readToString "desk.lua".toList =
        some "hl.monitor()".toList :=
      text_ofText _
    have hnames : legacyNames (handMade "desk.lua") = ["desk.lua".toList] := by decide +kernel
    have hplain : ¬header <:+: "hl.monitor()".toList := by decide
    rw [Apart, hnames]
    refine .inr ⟨⟨_, List.mem_cons_self, _, hread, hplain⟩, ?_⟩
    rintro name hname ⟨text, htext, hheader⟩
    rw [List.mem_singleton.mp hname, hread] at htext
    exact absurd (Option.some.inj htext ▸ hheader) hplain

/-- The render of a shared profile is a legacy file to migration. -/
theorem not_agree_shared :
    ¬Agree (loadProfilesMerged .plain 1 (fun _ => none) ∅ (oneToml "shared")).1 := by
  have hmem : { name := "shared", matchRules := ["DP-1"] } ∈ loadedProfiles .plain ∅
      (oneToml "shared") := by
    decide +kernel
  exact not_agree_of_lands MonitorProfiles.plain_loads MonitorProfiles.plain_rendersHeader
    hmem (.inl rfl)

/-- A load keeps every hand-written file exactly where none is the file of a render that is written,
or the temporary file of one. -/
theorem handWritten_kept_iff {mp : MonitorProfiles} (hloads : mp.Loads) (hheader : mp.RendersHeader)
    (pid : Nat) (failure : MonitorProfile → Option WriteFailure) (user system : Directory) :
    (∀ name bytes, HandWritten user name bytes →
        (loadProfilesMerged mp pid failure user system).1.lookup name = some (.file bytes)) ↔
      ∀ name bytes, HandWritten user name bytes → ∀ profile,
        profile ∈ mp.loadDir user ∨
            profile ∈ mp.loadDir system ∧ (∀ p ∈ mp.loadDir user, p.name ≠ profile.name) →
          ¬Replaces mp pid failure user profile name bytes := by
  refine forall_congr' fun name => forall_congr' fun bytes => forall_congr' fun h => ?_
  rw [h.kept_iff hloads hheader]
  simp only [mem_loadedProfiles]

/-- A directory of one file that was written by hand. -/
theorem handWritten_handMade (name : String) (hext : extension name.toList ≠ some "toml".toList) :
    HandWritten (handMade name) name.toList (Bytes.utf8Bytes "hl.monitor()".toList) where
  file := AList.lookup_insert (s := ∅)
  noHeader text htext := by
    rw [Bytes.fromUtf8_eq_some.mpr rfl] at htext
    obtain rfl := Option.some.inj htext
    decide
  noToml toml hmem htoml := by
    have hname : toml = name.toList := by simpa [handMade, AList.mem_keys] using hmem
    exact absurd (hname ▸ htoml) hext

/-- No shared profile has the name of the file that was written by hand. -/
theorem handWritten_kept_handMade :
    (loadProfilesMerged .plain 1 (fun _ => none) (handMade "desk.lua") (oneToml "shared")).1.lookup
      "desk.lua".toList = some (.ofText "hl.monitor()".toList) := by
  have huser : MonitorProfiles.plain.loadDir (handMade "desk.lua") = [] := by decide +kernel
  have hsystem : MonitorProfiles.plain.loadDir (oneToml "shared") =
      [{ name := "shared", matchRules := ["DP-1"] }] := by
    decide +kernel
  refine (handWritten_kept_iff MonitorProfiles.plain_loads MonitorProfiles.plain_rendersHeader 1
    (fun _ => none)
    (handMade "desk.lua") (oneToml "shared")).mpr ?_ _ _
      (handWritten_handMade "desk.lua" (by decide))
  intro name bytes h profile hmem
  have hname : name = "desk.lua".toList := by
    have hkey :=
      AList.lookup_isSome.mp (by rw [h.file]; rfl : ((handMade "desk.lua").lookup name).isSome)
    simpa [handMade, AList.mem_keys] using hkey
  rw [huser, hsystem] at hmem
  obtain rfl := List.mem_singleton.mp ((hmem.resolve_left List.not_mem_nil).1)
  subst hname
  rintro (⟨heq, -⟩ | ⟨heq, -⟩)
  · exact absurd heq (by decide)
  · exact absurd heq (by decide +kernel)

/-- A shared profile is rendered over a file that was written by hand. -/
theorem not_kept_shared : ¬∀ name bytes, HandWritten (handMade "shared.lua") name bytes →
    (loadProfilesMerged .plain 1 (fun _ => none) (handMade "shared.lua")
      (oneToml "shared")).1.lookup name =
      some (.file bytes) := by
  intro h
  have hhand := handWritten_handMade "shared.lua" (by decide)
  have hmem : { name := "shared", matchRules := ["DP-1"] } ∈
      loadedProfiles .plain (handMade "shared.lua") (oneToml "shared") := by
    decide +kernel
  exact (hhand.kept_iff MonitorProfiles.plain_loads MonitorProfiles.plain_rendersHeader).mp
    (h _ _ hhand) _ hmem
    (.inl ⟨by decide, rfl⟩)

end Hyprstate
