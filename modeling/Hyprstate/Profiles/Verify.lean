import Hyprstate.Fsm.Profiles
import Hyprstate.Profiles.Directory

/-!
# Verifying migrated profiles

`verify_profiles` and `verify_dir` of `cli/profile.rs` compare a legacy profile with the TOML of its
stem, field by field and output by output, and list the differences. Nothing is listed exactly where
they agree (`verifyProfiles_eq_nil`), and a directory without differences has every TOML of a legacy
file read, parsed and agreeing (`verifyDir_eq_nil`). The `monitor_profiles` crate is given.
-/

namespace Hyprstate.ProfileCli

/-- What is compared of a profile. -/
structure LayoutProfile (Monitor Workspace : Type) where
  name : String
  matchRules : List String
  edp : EdpPolicy
  gpu : GpuPref
  priority : Int
  hooks : List String
  workspaces : List Workspace
  monitors : List Monitor

/-- An output of a resolved layout. -/
structure ResolvedOutput (Mode Scale : Type) where
  selector : String
  mode : Mode
  position : Int × Int
  scale : Scale
  transform : Nat
  enabled : Bool

/-- A connected output of the live check. -/
structure ConnectedOutput where
  name : String
  description : String

/-- What is used of the `monitor_profiles` crate. -/
structure Formats (Monitor Workspace Mode Scale : Type) where
  /-- `legacy::to_profile`, of a name and a text. -/
  toProfile : Text → Text → Option (LayoutProfile Monitor Workspace)
  fromToml : Text → Text → Option (LayoutProfile Monitor Workspace)
  toToml : LayoutProfile Monitor Workspace → Text
  resolveAll : LayoutProfile Monitor Workspace → List (ResolvedOutput Mode Scale)
  resolve : LayoutProfile Monitor Workspace → List ConnectedOutput →
    List (ResolvedOutput Mode Scale)
  matchInSignature : String → List String → Bool

/-- How the values of a type are printed. -/
abbrev Debug : Type 1 := (T : Type) → T → String

section

variable {Monitor Workspace Mode Scale : Type} [BEq Workspace] [BEq Mode] [BEq Scale]
  (debug : Debug)
  (fmt : Formats Monitor Workspace Mode Scale)

/-- One line where the two profiles differ in a field. -/
def difference {T : Type} [BEq T] (label field : String) (legacy toml : T) : List String :=
  if legacy == toml then []
  else [label ++ ": " ++ field ++ " legacy=" ++ debug T legacy ++ " toml=" ++ debug T toml]

/-- The differences of two outputs that are at the same place. -/
def compareOutputs (profileName : String) (a b : ResolvedOutput Mode Scale) : List String :=
  let label := profileName ++ "." ++ a.selector
  difference debug label "selector" a.selector b.selector ++
    difference debug label "mode" a.mode b.mode ++
    difference debug label "position" a.position b.position ++
    difference debug label "scale" a.scale b.scale ++
    difference debug label "transform" a.transform b.transform ++
    difference debug label "enabled" a.enabled b.enabled

/-- `compare_layouts`: the number of the outputs, and each against its counterpart. -/
def compareLayouts (profileName : String) (legacy toml : List (ResolvedOutput Mode Scale)) :
    List String :=
  difference debug profileName "output-count" legacy.length toml.length ++
    (legacy.zip toml).flatMap fun p => compareOutputs debug profileName p.1 p.2

/-- The layouts on what is connected, where the profile applies to it. -/
def compareLive (legacy toml : LayoutProfile Monitor Workspace) :
    Option (List ConnectedOutput) → List String
  | some connected => compareLayouts debug legacy.name (fmt.resolve legacy connected)
      (fmt.resolve toml connected)
  | none => []

/-- `verify_profiles`: the fields, and the layouts where outputs are connected. -/
def verifyProfiles (legacy toml : LayoutProfile Monitor Workspace)
    (connected : Option (List ConnectedOutput)) : List String :=
  let label := legacy.name
  difference debug label "matches" legacy.matchRules toml.matchRules ++
    difference debug label "edp" legacy.edp toml.edp ++
    difference debug label "gpu" legacy.gpu toml.gpu ++
    difference debug label "priority" legacy.priority toml.priority ++
    difference debug label "hooks" legacy.hooks toml.hooks ++
    difference debug label "workspaces" legacy.workspaces toml.workspaces ++
    compareLayouts debug label (fmt.resolveAll legacy) (fmt.resolveAll toml) ++
    compareLive debug fmt legacy toml connected

/-- `with_extension("toml")`. -/
def tomlFile (name : Text) : Text := fileStem name ++ ".toml".toList

/-- The outputs and the descriptions that the compositor reports. -/
structure Live where
  connected : List ConnectedOutput
  signature : List String

/-- What `verify_dir` does with one legacy file: whether it counts, and the differences. -/
def verifyFile (live : Live) (dir : Directory) (legacyPath : Text) : Bool × List String :=
  let name := String.ofList (fileStem legacyPath)
  let tomlPath := tomlFile legacyPath
  if tomlPath ∉ dir then (false, [])
  else
    match dir.readToString legacyPath, dir.readToString tomlPath with
    | none, _ => (false, [name ++ ": cannot read legacy file"])
    | some _, none => (false, [name ++ ": cannot read TOML file"])
    | some legacyText, some tomlText =>
      match fmt.toProfile (fileStem legacyPath) legacyText,
        fmt.fromToml (fileStem legacyPath) tomlText with
      | none, _ => (false, [name ++ ": cannot parse legacy file"])
      | some _, none => (false, [name ++ ": cannot parse TOML file"])
      | some a, some b =>
        if a.monitors.isEmpty && b.monitors.isEmpty then
          (false,
            [name ++ ": resolves to zero monitors on both sides — the layout was not preserved " ++
            "(an empty-vs-empty comparison is not a match)"])
        else
          let applies := b.matchRules.all fun m => fmt.matchInSignature m live.signature
          (true, verifyProfiles debug fmt a b (if applies then some live.connected else none))

/-- `verify_dir`: how many counted, and the differences. -/
def verifyDir (live : Live) (dir : Directory) (only : Option Text) : Nat × List String :=
  let rows := (legacyFiles dir.keys only).map (verifyFile debug fmt live dir)
  ((rows.filter fun row => row.1).length, rows.flatMap fun row => row.2)

end

/-! ## Agreement -/

section

variable {Monitor Workspace Mode Scale : Type} [BEq Workspace] [BEq Mode] [BEq Scale]

/-- Two outputs that no comparison tells apart. -/
structure SameOutput (a b : ResolvedOutput Mode Scale) : Prop where
  selector : a.selector = b.selector
  mode : (a.mode == b.mode) = true
  position : a.position = b.position
  scale : (a.scale == b.scale) = true
  transform : a.transform = b.transform
  enabled : a.enabled = b.enabled

/-- The same outputs, in the same order. -/
def SameLayout (legacy toml : List (ResolvedOutput Mode Scale)) : Prop :=
  List.Forall₂ SameOutput legacy toml

/-- The profiles agree in all that is compared, and resolve to the same layouts. -/
structure Same (fmt : Formats Monitor Workspace Mode Scale)
    (connected : Option (List ConnectedOutput)) (legacy toml : LayoutProfile Monitor Workspace) :
    Prop where
  matchRules : legacy.matchRules = toml.matchRules
  edp : legacy.edp = toml.edp
  gpu : legacy.gpu = toml.gpu
  priority : legacy.priority = toml.priority
  hooks : legacy.hooks = toml.hooks
  workspaces : (legacy.workspaces == toml.workspaces) = true
  layout : SameLayout (fmt.resolveAll legacy) (fmt.resolveAll toml)
  live : ∀ outputs, connected = some outputs → SameLayout (fmt.resolve legacy outputs)
    (fmt.resolve toml outputs)

/-- Both files of the stem are read and parsed, they agree, and not both are without monitors. -/
def Verified (fmt : Formats Monitor Workspace Mode Scale) (live : Live) (dir : Directory)
    (legacyPath : Text) : Prop :=
  ∃ legacyText tomlText a b, dir.readToString legacyPath = some legacyText ∧
    dir.readToString (tomlFile legacyPath) = some tomlText ∧
    fmt.toProfile (fileStem legacyPath) legacyText = some a ∧
      fmt.fromToml (fileStem legacyPath) tomlText = some b ∧
    ¬(a.monitors = [] ∧ b.monitors = []) ∧
    Same fmt (if (b.matchRules.all fun m => fmt.matchInSignature m live.signature) then some
      live.connected else none)
      a b

variable {debug : Debug} {fmt : Formats Monitor Workspace Mode Scale}

/-- No line where the fields are equal. -/
theorem difference_eq_nil {T : Type} [BEq T] {label field : String} {legacy toml : T} :
    difference debug label field legacy toml = [] ↔ (legacy == toml) = true := by
  unfold difference
  split <;> simp_all

/-- For a lawful equality, where they are the same. -/
theorem difference_eq_nil_of_lawful {T : Type} [BEq T] [LawfulBEq T] {label field : String}
    {legacy toml : T} : difference debug label field legacy toml = [] ↔ legacy = toml :=
  difference_eq_nil.trans beq_iff_eq

/-- No line where the outputs are alike. -/
theorem compareOutputs_eq_nil {profileName : String} {a b : ResolvedOutput Mode Scale} :
    compareOutputs debug profileName a b = [] ↔ SameOutput a b := by
  simp only [compareOutputs, List.append_eq_nil_iff, difference_eq_nil_of_lawful, difference_eq_nil]
  constructor
  · rintro ⟨⟨⟨⟨⟨hselector, hmode⟩, hposition⟩, hscale⟩, htransform⟩, henabled⟩
    exact ⟨hselector, hmode, hposition, hscale, htransform, henabled⟩
  · rintro ⟨hselector, hmode, hposition, hscale, htransform, henabled⟩
    exact ⟨⟨⟨⟨⟨hselector, hmode⟩, hposition⟩, hscale⟩, htransform⟩, henabled⟩

/-- No line where the layouts are. -/
theorem compareLayouts_eq_nil {profileName : String}
    {legacy toml : List (ResolvedOutput Mode Scale)} :
    compareLayouts debug profileName legacy toml = [] ↔ SameLayout legacy toml := by
  simp only [compareLayouts, List.append_eq_nil_iff, difference_eq_nil_of_lawful,
    List.flatMap_eq_nil_iff]
  rw [SameLayout, List.forall₂_iff_zip]
  refine and_congr_right fun _ => ?_
  constructor
  · intro h a b hab
    exact compareOutputs_eq_nil.mp (h (a, b) hab)
  · intro h p hp
    exact compareOutputs_eq_nil.mpr (h hp)

omit [BEq Workspace] in
/-- Nor where they are on the outputs that are connected. -/
theorem compareLive_eq_nil {legacy toml : LayoutProfile Monitor Workspace}
    {connected : Option (List ConnectedOutput)} :
    compareLive debug fmt legacy toml connected = [] ↔
      ∀ outputs, connected = some outputs → SameLayout (fmt.resolve legacy outputs)
        (fmt.resolve toml outputs) := by
  cases connected with
  | none => simp [compareLive]
  | some outputs => simp [compareLive, compareLayouts_eq_nil]

/-- `verify_profiles` finds nothing where the profiles are the same. -/
theorem verifyProfiles_eq_nil {legacy toml : LayoutProfile Monitor Workspace}
    {connected : Option (List ConnectedOutput)} :
    verifyProfiles debug fmt legacy toml connected = [] ↔ Same fmt connected legacy toml := by
  simp only [verifyProfiles, List.append_eq_nil_iff, difference_eq_nil_of_lawful, difference_eq_nil,
    compareLayouts_eq_nil, compareLive_eq_nil]
  constructor
  · rintro ⟨⟨⟨⟨⟨⟨⟨hmatches, hedp⟩, hgpu⟩, hpriority⟩, hhooks⟩, hworkspaces⟩, hlayout⟩, hlive⟩
    exact ⟨hmatches, hedp, hgpu, hpriority, hhooks, hworkspaces, hlayout, hlive⟩
  · rintro ⟨hmatches, hedp, hgpu, hpriority, hhooks, hworkspaces, hlayout, hlive⟩
    exact ⟨⟨⟨⟨⟨⟨⟨hmatches, hedp⟩, hgpu⟩, hpriority⟩, hhooks⟩, hworkspaces⟩, hlayout⟩, hlive⟩

/-- `verifyFile` finds nothing where the converted file, if there is one, stands for the old. -/
theorem verifyFile_eq_nil {live : Live} {dir : Directory} {legacyPath : Text} :
    (verifyFile debug fmt live dir legacyPath).2 = [] ↔
      (tomlFile legacyPath ∈ dir → Verified fmt live dir legacyPath) := by
  -- By the checks in their order; each one that fails leaves its own line.
  unfold verifyFile Verified
  dsimp only
  by_cases htoml : tomlFile legacyPath ∈ dir
  case neg => simp [htoml]
  rw [if_neg (not_not.mpr htoml)]
  cases dir.readToString legacyPath with
  | none => simp [htoml]
  | some legacyText =>
    cases dir.readToString (tomlFile legacyPath) with
    | none => simp [htoml]
    | some tomlText =>
      cases hlegacy : fmt.toProfile (fileStem legacyPath) legacyText with
      | none => simp [htoml, hlegacy]
      | some a =>
        cases hparsed : fmt.fromToml (fileStem legacyPath) tomlText with
        | none => simp [htoml, hlegacy, hparsed]
        | some b =>
          by_cases hempty : a.monitors = [] ∧ b.monitors = []
          · simp [htoml, hlegacy, hparsed, hempty.1, hempty.2]
          · have hcond : ¬(a.monitors.isEmpty && b.monitors.isEmpty) = true := by
              simpa [List.isEmpty_iff] using hempty
            simp only [hlegacy, hparsed, if_neg hcond, verifyProfiles_eq_nil]
            constructor
            · exact fun h _ => ⟨legacyText, tomlText, a, b, rfl, rfl, hlegacy, hparsed, hempty, h⟩
            · intro h
              obtain ⟨_, _, a', b', ⟨⟩, ⟨⟩, ha', hb', -, h⟩ := h htoml
              obtain rfl := Option.some.inj (hlegacy.symm.trans ha')
              obtain rfl := Option.some.inj (hparsed.symm.trans hb')
              exact h

/-- Nothing is listed exactly where each TOML of a legacy file is verified. -/
theorem verifyDir_eq_nil {live : Live} {dir : Directory} {only : Option Text} :
    (verifyDir debug fmt live dir only).2 = [] ↔
      ∀ legacyPath ∈ legacyFiles dir.keys only, tomlFile legacyPath ∈ dir →
      Verified fmt live dir legacyPath := by
  simp only [verifyDir, List.flatMap_eq_nil_iff, List.forall_mem_map, verifyFile_eq_nil]

end

end Hyprstate.ProfileCli
