import Hyprstate.Profiles.Verify

/-!
# Migrating profiles

`profile migrate` of `cli/profile.rs`: each legacy file that has no TOML is converted, and
afterwards the directory is verified. However the reads, the conversions and the writes end, a run
leaves every other file as it was, writes no layout without monitors, and exits with 0 only where
each legacy file has a TOML that agrees with it (`migrate_spec`). The crate is given, and nothing is
assumed of it.
-/

namespace Hyprstate.ProfileCli

/-- The options of a migration. -/
structure SaveOpts where
  force : Bool
  dryRun : Bool

section

variable {Monitor Workspace Mode Scale : Type} [BEq Workspace] [BEq Mode] [BEq Scale]
  (debug : Debug)
  (fmt : Formats Monitor Workspace Mode Scale) (pid : Nat) (failure : Text → Option WriteFailure)
    (opts : SaveOpts)

/-- The legacy files in turn: the directory, and how many were converted, or the exit code. -/
def migrateFiles (dir : Directory) (converted : Nat) : List Text → Directory × Except Nat Nat
  | [] => (dir, .ok converted)
  | legacyPath :: rest =>
    let target := tomlFile legacyPath
    if target ∈ dir ∧ opts.force = false then migrateFiles dir converted rest
    else
      match dir.readToString legacyPath with
      | none => (dir, .error 1)
      | some text =>
        match fmt.toProfile (fileStem legacyPath) text with
        | none => (dir, .error 1)
        | some profile =>
          if profile.monitors.isEmpty then (dir, .error 1)
          else if opts.dryRun then migrateFiles dir (converted + 1) rest
          else
            let written := writeIfChangedAtomic pid (failure legacyPath) dir target
              (fmt.toToml profile)
            match written.2 with
            | .error _ => (written.1, .error 1)
            | .ok _ => migrateFiles written.1 (converted + 1) rest

/-- `profile migrate`: the directory, and the exit code. -/
def migrate (live : Live) (dir : Directory) (only : Option Text) : Directory × Nat :=
  let migrated := migrateFiles fmt pid failure opts dir 0 (legacyFiles dir.keys only)
  match migrated.2 with
  | .error code => (migrated.1, code)
  | .ok _ =>
    if opts.dryRun then (migrated.1, 0)
    else if (verifyDir debug fmt live migrated.1 only).2.isEmpty then (migrated.1, 0)
    else (migrated.1, 1)

end

/-! ## Names -/

/-- A converted file has the extension `toml`. -/
theorem tomlFile_extension {name ext : Text} (h : extension name = some ext) :
    extension (tomlFile name) = some "toml".toList := by
  have hsplit : rsplitDot (fileStem name ++ '.' :: "toml".toList) =
      (fileStem name, some "toml".toList) :=
    rsplitDot_append (fileStem_ne_nil h) (by decide) (by decide)
  rw [extension]
  exact congrArg Prod.snd hsplit

/-- A legacy file has an extension. -/
theorem exists_extension {only : Option Text} {k : Text} (h : isLegacy only k = true) :
    ∃ ext, extension k = some ext := by
  rcases isLegacy_extension h with h | h <;> exact ⟨_, h⟩

/-- A legacy file is no temporary one. -/
theorem ne_temporary_of_isLegacy {only : Option Text} {k : Text} (h : isLegacy only k = true)
    (pid : Nat) (name : Text) : k ≠ temporary pid name := by
  rintro rfl
  have htail := isLegacy_extension h
  rw [extension_temporary] at htail
  rcases htail with htail | htail
  · have hhead : 't' = 'c' := (List.cons.inj (Option.some.inj htail)).1
    exact absurd hhead (by decide)
  · have hhead : 't' = 'l' := (List.cons.inj (Option.some.inj htail)).1
    exact absurd hhead (by decide)

/-- No converted file is a legacy one. -/
theorem ne_tomlFile_of_isLegacy {only : Option Text} {k name ext : Text}
    (h : isLegacy only k = true) (hname : extension name = some ext) : k ≠ tomlFile name := by
  rintro rfl
  have htail := isLegacy_extension h
  rw [tomlFile_extension hname] at htail
  rcases htail with htail | htail <;> exact absurd (Option.some.inj htail) (by decide)

/-- Nor is one a temporary file. -/
theorem tomlFile_ne_temporary {name ext : Text} (hname : extension name = some ext) (pid : Nat)
    (name' : Text) : tomlFile name ≠ temporary pid name' := by
  intro h
  have hext := tomlFile_extension hname
  rw [h, extension_temporary] at hext
  have hsecond : 'm' = 'o' := (List.cons.inj (List.cons.inj (Option.some.inj hext)).2).1
  exact absurd hsecond (by decide)

/-! ## One write -/

section

/-- To erase what a filter drops leaves what it keeps. -/
theorem filter_erase_of_neg {α : Type} [DecidableEq α] {p : α → Bool} {a : α} (ha : p a = false)
    (l : List α) : (l.erase a).filter p = l.filter p := by
  rw [← List.erase_filter, List.erase_of_not_mem]
  intro hmem
  rw [(List.mem_filter.mp hmem).2] at ha
  cases ha

variable {p : Text → Bool} {k : Text}

/-- A file that is no legacy file may come and go. -/
theorem filter_keys_erase (hk : p k = false) (dir : Directory) :
    (dir.erase k).keys.filter p = dir.keys.filter p := by
  rw [AList.keys_erase]
  exact filter_erase_of_neg hk dir.keys

/-- An entry that a filter drops leaves the names it keeps. -/
theorem filter_keys_insert (hk : p k = false) (dir : Directory) (entry : Entry) :
    (dir.insert k entry).keys.filter p = dir.keys.filter p := by
  rw [AList.keys_insert, List.filter_cons_of_neg (by simp [hk]), ← AList.keys_erase,
    filter_keys_erase hk]

/-- So does a write, with its temporary file. -/
theorem filter_keys_write {pid : Nat} {failure : Option WriteFailure} {dir : Directory}
    {content : Text} (hk : p k = false) (htmp : p (temporary pid k) = false) :
    (writeIfChangedAtomic pid failure dir k content).1.keys.filter p = dir.keys.filter p := by
  unfold writeIfChangedAtomic
  split
  · rfl
  dsimp only
  split
  · split
    · exact filter_keys_insert htmp dir _
    · rfl
  · rw [filter_keys_insert hk, filter_keys_erase htmp, filter_keys_insert htmp]

/-- A write that reports no error left the content. -/
theorem lookup_of_written {pid : Nat} {failure : Option WriteFailure} {dir : Directory}
    {content : Text} (htmp : k ≠ temporary pid k)
    (h : (writeIfChangedAtomic pid failure dir k content).2 = .ok ()) :
    (writeIfChangedAtomic pid failure dir k content).1.lookup k = some (.ofText content) := by
  rw [writeIfChangedAtomic_name htmp, if_pos]
  by_cases hplace : dir.readToString k = some content
  · exact .inr hplace
  · refine .inl ?_
    unfold writeIfChangedAtomic at h
    rw [if_neg hplace] at h
    cases failure with
    | none => rfl
    | some failure =>
      dsimp only at h
      split at h <;> cases h

/-- One that reports an error left the file. -/
theorem lookup_of_failed {pid : Nat} {failure : Option WriteFailure} {dir : Directory}
    {content : Text} {e : WriteFailure} (htmp : k ≠ temporary pid k)
    (h : (writeIfChangedAtomic pid failure dir k content).2 = .error e) :
    (writeIfChangedAtomic pid failure dir k content).1.lookup k = dir.lookup k := by
  rw [writeIfChangedAtomic_name htmp, if_neg]
  rintro (rfl | hplace)
  · unfold writeIfChangedAtomic at h
    split at h <;> cases h
  · unfold writeIfChangedAtomic at h
    rw [if_pos hplace] at h
    cases h

end

/-! ## The legacy files in turn -/

section

variable {Monitor Workspace Mode Scale : Type}
  {fmt : Formats Monitor Workspace Mode Scale} {pid : Nat}
  {failure : Text → Option WriteFailure} {opts : SaveOpts} {dir dir₁ dir₂ : Directory} {file : Text}
  {files : List Text}

/-- The TOML is what the legacy file converts to, and it has monitors. -/
def Converted (fmt : Formats Monitor Workspace Mode Scale) (dir : Directory) (legacyPath : Text)
    (entry : Option Entry) : Prop :=
  ∃ text profile, dir.readToString legacyPath = some text ∧
    fmt.toProfile (fileStem legacyPath) text = some profile ∧
    profile.monitors ≠ [] ∧ entry = some (.ofText (fmt.toToml profile))

/-- What the conversion of some legacy files does to the directory, temporary files apart. -/
structure Converts (fmt : Formats Monitor Workspace Mode Scale) (pid : Nat) (opts : SaveOpts)
    (dir : Directory) (files : List Text) (dir' : Directory) : Prop where
  others : ∀ k, (∀ name, k ≠ temporary pid name) → dir'.lookup k = dir.lookup k ∨
    opts.dryRun = false ∧ (opts.force = true ∨ k ∉ dir) ∧
      ∃ legacyPath ∈ files, k = tomlFile legacyPath ∧ Converted fmt dir legacyPath (dir'.lookup k)
  names : ∀ only, dir'.keys.filter (isLegacy only) = dir.keys.filter (isLegacy only)
  dry : opts.dryRun = true → dir' = dir

/-- No files are converted in a directory that stays. -/
theorem Converts.refl (dir : Directory) (files : List Text) : Converts fmt pid opts dir files dir :=
  ⟨fun _ _ => .inl rfl, fun _ => rfl, fun _ => rfl⟩

/-- Of files that are legacy, the conversion of others leaves what is read. -/
theorem Converts.readToString {only : Option Text} (h : Converts fmt pid opts dir files dir₁)
    (hfiles : ∀ f ∈ files, isLegacy only f = true) (hfile : isLegacy only file = true) :
    dir₁.readToString file = dir.readToString file := by
  rcases h.others file (ne_temporary_of_isLegacy hfile pid) with hsame | ⟨-, -, f, hf, rfl, -⟩
  · rw [Directory.readToString, hsame]
    rfl
  · obtain ⟨ext, hext⟩ := exists_extension (hfiles f hf)
    exact absurd rfl (ne_tomlFile_of_isLegacy hfile hext)

/-- A file of the directory stays in it. -/
theorem Converts.mem {k : Text} (h : Converts fmt pid opts dir files dir₁)
    (htmp : ∀ name, k ≠ temporary pid name) (hk : k ∈ dir) : k ∈ dir₁ := by
  rw [← AList.lookup_isSome] at hk ⊢
  rcases h.others k htmp with hsame | ⟨-, -, f, -, -, text, profile, -, -, -, hentry⟩
  · rwa [hsame]
  · rw [hentry]
    rfl

/-- One file more, and then the others. -/
theorem Converts.cons {only : Option Text} (h : Converts fmt pid opts dir [file] dir₁)
    (h' : Converts fmt pid opts dir₁ files dir₂)
    (hfiles : ∀ f ∈ file :: files, isLegacy only f = true) :
    Converts fmt pid opts dir (file :: files) dir₂ := by
  refine ⟨fun k htmp => ?_, fun only => (h'.names only).trans (h.names only), fun hdry => ?_⟩
  · rcases h'.others k htmp with hsame' | ⟨hdry, hforce, f, hf, hk, text, profile, htext,
      hprofile, hentry⟩
    · rcases h.others k htmp with hsame | ⟨hdry, hforce, f, hf, hk, hconv⟩
      · exact .inl (hsame'.trans hsame)
      · obtain rfl := List.mem_singleton.mp hf
        exact .inr ⟨hdry, hforce, f, List.mem_cons_self, hk, hsame'.symm ▸ hconv⟩
    · have hfirst : ∀ f ∈ [file], isLegacy only f = true := fun f hf =>
        hfiles f (List.mem_singleton.mp hf ▸ List.mem_cons_self)
      rw [h.readToString hfirst (hfiles f (List.mem_cons_of_mem _ hf))] at htext
      refine .inr ⟨hdry, hforce.imp_right fun hnew hmem => hnew (h.mem htmp hmem), f,
        List.mem_cons_of_mem _ hf, hk, ?_⟩
      exact ⟨text, profile, htext, hprofile, hentry⟩
  · rw [h'.dry hdry, h.dry hdry]

/-- A write of a conversion. -/
theorem converts_write {only : Option Text} {text : Text}
    {profile : LayoutProfile Monitor Workspace} (fail : Option WriteFailure)
    (hfile : isLegacy only file = true) (hdry : opts.dryRun = false)
    (hforce : opts.force = true ∨ tomlFile file ∉ dir) (htext : dir.readToString file = some text)
    (hprofile : fmt.toProfile (fileStem file) text = some profile)
    (hmonitors : profile.monitors ≠ []) :
    Converts fmt pid opts dir [file]
      (writeIfChangedAtomic pid fail dir (tomlFile file) (fmt.toToml profile)).1 := by
  obtain ⟨ext, hext⟩ := exists_extension hfile
  have htarget := tomlFile_ne_temporary hext pid
  refine ⟨fun k htmp => ?_, fun only => ?_, fun h => ?_⟩
  · by_cases hk : k = tomlFile file
    · subst hk
      cases hres : (writeIfChangedAtomic pid fail dir (tomlFile file) (fmt.toToml profile)).2 with
      | error e => exact .inl (lookup_of_failed (htarget _) hres)
      | ok u =>
        refine .inr ⟨hdry, hforce, file, List.mem_singleton_self _, rfl, text, profile, htext,
          hprofile, hmonitors, ?_⟩
        exact lookup_of_written (htarget _) hres
    · exact .inl (writeIfChangedAtomic_other hk (htmp _))
  · refine filter_keys_write ?_ ?_
    · exact Bool.eq_false_iff.mpr fun h => ne_tomlFile_of_isLegacy h hext rfl
    · exact Bool.eq_false_iff.mpr fun h => ne_temporary_of_isLegacy h pid _ rfl
  · rw [hdry] at h
    cases h

/-- Where the conversion of some legacy files ends: in a failure, or each of them has a TOML. -/
structure Ends (fmt : Formats Monitor Workspace Mode Scale) (pid : Nat) (opts : SaveOpts)
    (dir : Directory) (files : List Text) (r : Directory × Except Nat Nat) : Prop where
  converts : Converts fmt pid opts dir files r.1
  code : ∀ code, r.2 = .error code → code = 1
  there : ∀ n, r.2 = .ok n → opts.dryRun = false → ∀ f ∈ files, tomlFile f ∈ r.1

/-- A conversion that fails ends with what it left. -/
theorem ends_failure (h : Converts fmt pid opts dir files dir₁) :
    Ends fmt pid opts dir files (dir₁, .error 1) := by
  refine ⟨h, ?_, fun n hok => by cases hok⟩
  rintro _ ⟨⟩
  rfl

/-- The first file, and those after it. -/
theorem Ends.cons {only : Option Text} {r : Directory × Except Nat Nat}
    (h : Converts fmt pid opts dir [file] dir₁)
    (hthere : opts.dryRun = false → tomlFile file ∈ dir₁) (h' : Ends fmt pid opts dir₁ files r)
    (hfiles : ∀ f ∈ file :: files, isLegacy only f = true) :
    Ends fmt pid opts dir (file :: files) r := by
  refine ⟨h.cons h'.converts hfiles, h'.code, fun n hok hdry f hf => ?_⟩
  rcases List.mem_cons.mp hf with rfl | hf
  · obtain ⟨ext, hext⟩ := exists_extension (hfiles f List.mem_cons_self)
    exact h'.converts.mem (tomlFile_ne_temporary hext pid) (hthere hdry)
  · exact h'.there n hok hdry f hf

/-- The loop over the files ends as `migrate` says, by induction on the files. -/
theorem migrateFiles_ends {only : Option Text} (hfiles : ∀ f ∈ files, isLegacy only f = true)
    (converted : Nat) :
    Ends fmt pid opts dir files (migrateFiles fmt pid failure opts dir converted files) := by
  induction files generalizing dir converted with
  | nil => exact ⟨Converts.refl dir [], fun _ h => (by cases h), fun _ _ _ f hf =>
    absurd hf List.not_mem_nil⟩
  | cons file rest ih =>
    have hfile := hfiles file List.mem_cons_self
    have hrest : ∀ f ∈ rest, isLegacy only f = true :=
      fun f hf => hfiles f (List.mem_cons_of_mem _ hf)
    have hstop : Ends fmt pid opts dir (file :: rest) (dir, .error 1) :=
      ends_failure (Converts.refl dir _)
    rw [migrateFiles]
    split
    · next hskip => exact Ends.cons (Converts.refl dir _) (fun _ => hskip.1) (ih hrest _) hfiles
    next hnew =>
    split
    · exact hstop
    next text htext =>
    split
    · exact hstop
    next profile hprofile =>
    split
    · exact hstop
    next hmonitors =>
    split
    · next hdry =>
      exact Ends.cons (Converts.refl dir _) (fun h => absurd (hdry.symm.trans h) (by simp))
        (ih hrest _) hfiles
    next hdry =>
    -- What is not skipped may be overwritten, or is not there.
    have hforce : opts.force = true ∨ tomlFile file ∉ dir := by
      by_contra h
      obtain ⟨hforce, hmem⟩ := not_or.mp h
      exact hnew ⟨not_not.mp hmem, Bool.eq_false_iff.mpr hforce⟩
    -- Reading, parsing and writing succeeded, or the run ends here with what it left.
    have hwrite : Converts fmt pid opts dir [file] _ := converts_write (failure file) hfile
      (Bool.eq_false_iff.mpr hdry) hforce htext hprofile fun h => hmonitors (List.isEmpty_iff.mpr h)
    dsimp only
    split
    · next e hres => exact ends_failure (hwrite.cons (Converts.refl _ rest) hfiles)
    · next u hres =>
      refine Ends.cons hwrite (fun _ => ?_) (ih hrest _) hfiles
      obtain ⟨ext, hext⟩ := exists_extension hfile
      rw [← AList.lookup_isSome, lookup_of_written (tomlFile_ne_temporary hext pid _) hres]
      rfl

end

/-! ## A migration -/

/-- What `legacy_files` takes is legacy. -/
theorem isLegacy_of_mem {names : List Text} {only : Option Text} {f : Text}
    (h : f ∈ legacyFiles names only) : isLegacy only f = true := by
  unfold legacyFiles at h
  have hmem : ∀ {n}, n ∈ (names.filter (isLegacy only)).mergeSort (fun a b => decide (a ≤ b)) →
      isLegacy only n = true := fun hn => (List.mem_filter.mp (List.mem_mergeSort.mp hn)).2
  generalize (names.filter (isLegacy only)).mergeSort (fun a b => decide (a ≤ b)) = sorted at h hmem
  cases sorted with
  | nil => exact absurd h List.not_mem_nil
  | cons kept rest => exact hmem (Adjacent.mem_of_mem_dedupFrom displace_mergesBy h)

/-- It takes the same of two directories with the same legacy files. -/
theorem legacyFiles_congr {names names' : List Text} {only : Option Text}
    (h : names.filter (isLegacy only) = names'.filter (isLegacy only)) :
    legacyFiles names only = legacyFiles names' only := by
  rw [legacyFiles, legacyFiles, h]

section

variable {Monitor Workspace Mode Scale : Type} [BEq Workspace] [BEq Mode] [BEq Scale]

/-- What a migration does. -/
structure Migrated (fmt : Formats Monitor Workspace Mode Scale) (pid : Nat) (opts : SaveOpts)
    (live : Live) (only : Option Text) (dir dir' : Directory) (code : Nat) : Prop where
  exits : code = 0 ∨ code = 1
  dry : opts.dryRun = true → dir' = dir
  /-- Only the TOML of a legacy file is written, with what it converts to, and one that was there
  only by force. -/
  others : ∀ k, (∀ name, k ≠ temporary pid name) → dir'.lookup k = dir.lookup k ∨
    opts.dryRun = false ∧ (opts.force = true ∨ k ∉ dir) ∧
      ∃ legacyPath ∈ legacyFiles dir.keys only, k = tomlFile legacyPath ∧
        Converted fmt dir legacyPath (dir'.lookup k)
  /-- After success each legacy file has a TOML that agrees with it. -/
  verified : code = 0 → opts.dryRun = false →
    ∀ legacyPath ∈ legacyFiles dir.keys only, Verified fmt live dir' legacyPath

/-- What `migrate` leaves of a directory and what it answers. -/
theorem migrate_spec (debug : Debug) (fmt : Formats Monitor Workspace Mode Scale) (pid : Nat)
    (failure : Text → Option WriteFailure) (opts : SaveOpts) (live : Live) (dir : Directory)
    (only : Option Text) :
    Migrated fmt pid opts live only dir (migrate debug fmt pid failure opts live dir only).1
      (migrate debug fmt pid failure opts live dir only).2 := by
  have hends : Ends fmt pid opts dir _
      (migrateFiles fmt pid failure opts dir 0 (legacyFiles dir.keys only)) :=
    migrateFiles_ends (fun _ hf => isLegacy_of_mem hf) 0
  unfold migrate
  dsimp only
  generalize migrateFiles fmt pid failure opts dir 0 (legacyFiles dir.keys only) = r at hends ⊢
  obtain ⟨hconverts, hcode, hthere⟩ := hends
  split
  · next code hres =>
    obtain rfl := hcode code hres
    exact ⟨.inr rfl, hconverts.dry, hconverts.others, fun h => absurd h Nat.one_ne_zero⟩
  next n hres =>
  split
  · next hdry => exact ⟨.inl rfl, hconverts.dry, hconverts.others, fun _ h =>
      absurd (hdry.symm.trans h) (by simp)⟩
  split
  · next hdry hnone =>
    refine ⟨.inl rfl, hconverts.dry, hconverts.others, fun _ hwet f hf => ?_⟩
    have hsame := legacyFiles_congr (hconverts.names only)
    exact verifyDir_eq_nil.mp (List.isEmpty_iff.mp hnone) f (hsame ▸ hf) (hthere n hres hwet f hf)
  · exact ⟨.inr rfl, hconverts.dry, hconverts.others, fun h => absurd h Nat.one_ne_zero⟩

end

end Hyprstate.ProfileCli
