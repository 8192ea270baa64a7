import Hyprstate.Powerd.Pin

/-!
# What powerd writes

powerd is root, and anyone on the bus may call it. `Hardware.whitelist` is what it may put into
each file of the matrix on a machine. Whatever is called, with whatever names, whenever the
machine resumes or powerd starts, and however each write ends, a file holds what came from
elsewhere last or a value of its whitelist; the ASPM file, which lists its options, holds the
options that came with one of its whitelist in brackets, or with the one in brackets that came so
(`Host.run_confined`).
-/

namespace Hyprstate.Knobs

/-! ## The options of the ASPM file -/

/-- The options of the ASPM file, without the brackets of the current one. -/
def offered (opts : String) : List Text :=
  ((splitWhitespace opts).map trimBrackets).filter fun o => !o.isEmpty

/-- Each option is offered without brackets at its ends. -/
theorem trimBrackets_of_mem_offered {opts : String} {o : Text} (ho : o ∈ offered opts) :
    o ≠ [] ∧ trimBrackets o = o := by
  obtain ⟨ho, hne⟩ := List.mem_filter.mp ho
  obtain ⟨w, -, rfl⟩ := List.mem_map.mp ho
  exact ⟨by simpa using hne, Text.trim_trim w⟩

/-- What is put in brackets is read without them. -/
theorem trimBrackets_put {o : Text} (ho : trimBrackets o = o) :
    trimBrackets ("[".toList ++ o ++ "]".toList) = o := by
  obtain ⟨⟨hstart, hend⟩, -⟩ := Text.trim_eq_iff.mp ho
  exact Text.trim_eq_iff.mpr ⟨⟨hstart, hend⟩, "[".toList, "]".toList, rfl,
    List.all_eq_true.mp (by decide), List.all_eq_true.mp (by decide)⟩

/-- A write to the ASPM file leaves the options that it offers. -/
theorem offered_bracketed (opts value : String) :
    offered (bracketed opts value) = offered opts := by
  have hoptions : optionsOf opts value.toList = (offered opts).map fun o =>
      if o = value.toList then "[".toList ++ o ++ "]".toList else o := rfl
  have htrim : ∀ o ∈ offered opts,
      trimBrackets (if o = value.toList then "[".toList ++ o ++ "]".toList else o) = o := by
    intro o ho
    have htrimmed := (trimBrackets_of_mem_offered ho).2
    split
    · exact trimBrackets_put htrimmed
    · exact htrimmed
  have hmap : (optionsOf opts value.toList).map trimBrackets = offered opts := by
    rw [hoptions, List.map_map]
    exact (List.map_congr_left htrim).trans (List.map_id _)
  rw [offered, splitWhitespace_bracketed, hmap]
  exact List.filter_eq_self.mpr fun o ho => by
    simpa using (trimBrackets_of_mem_offered ho).1

/-- Of two writes to the ASPM file, the second decides. -/
theorem bracketed_bracketed (opts value value' : String) :
    bracketed (bracketed opts value) value' = bracketed opts value' := by
  have hoffered := offered_bracketed opts value
  unfold offered at hoffered
  unfold bracketed at hoffered ⊢
  dsimp only at hoffered ⊢
  rw [hoffered]

/-- Nothing but what was written is current after a write. -/
theorem aspmCurrent_of_bracketed {opts value : String} {cur : Text}
    (hcur : aspmCurrent (bracketed opts value) = some cur) : cur = value.toList := by
  unfold aspmCurrent at hcur
  rw [splitWhitespace_bracketed] at hcur
  obtain ⟨w, hw, rfl⟩ := Option.map_eq_some_iff.mp hcur
  obtain ⟨o, ho, rfl⟩ := List.mem_map.mp (List.mem_of_find?_eq_some hw)
  have hprefix := List.find?_some hw
  have htrimmed := (trimBrackets_of_mem_offered ho).2
  by_cases hwritten : o = value.toList
  · rw [if_pos hwritten, trimBrackets_put htrimmed, hwritten]
  · -- An option that was not written does not start with a bracket.
    rw [if_neg hwritten] at hprefix
    obtain ⟨⟨hstart, -⟩, -⟩ := Text.trim_eq_iff.mp htrimmed
    obtain ⟨rest, hrest⟩ := List.isPrefixOf_iff_prefix.mp hprefix
    have hhead : '[' ∈ o.head? := by rw [← hrest]; rfl
    exact absurd (hstart _ hhead) (by decide)

/-! ## The whitelist -/

/-- What may be put to the level of a card: nothing where it is no card of the snapshot, and
nothing where it is discrete and asleep. -/
def Hardware.levels (hw : Hardware) (s : Sysfs) (card : String) : List String :=
  match hw.integrated, hw.cards.zipIdx.find? fun c => c.1.card == card with
  | some integrated, some c =>
    if c.2 = integrated then ["auto"]
    else if s (.runtimeStatus card) = .text "suspended" then []
    else ["low", "auto"]
  | _, _ => []

/-- What may be put into a file, where the machine offers it. -/
def Hardware.whitelist (hw : Hardware) (s : Sysfs) : KnobFile → List String
  | .platformProfile =>
    ["low-power", "quiet", "balanced", "performance"].filter (choices s).contains
  | .scalingGovernor policy =>
    if hw.cpufreqPolicies.contains policy then
      ["powersave", "performance"].filter (governorAvailable s policy)
    else []
  | .energyPerformancePreference policy =>
    if hw.cpufreqPolicies.contains policy then ["power", "balance_performance"] else []
  | .boost | .noTurbo => ["0", "1"]
  | .dpmLevel card => hw.levels s card
  | .aspmPolicy =>
    ["powersupersave", "default"].filter fun v =>
      (offered (textOrDefault (s .aspmPolicy))).contains v.toList
  | .platformProfileChoices | .scalingDriver _ | .scalingAvailableGovernors _ |
    .runtimeStatus _ => []

variable {hw : Hardware} {profile : PowerProfile} {s s' : Sysfs}

/-- Files that decide alike have the same whitelists, where the ASPM file offers the same. -/
theorem whitelist_congr (h : SameReads s s')
    (haspm : offered (textOrDefault (s' .aspmPolicy)) = offered (textOrDefault (s .aspmPolicy))) :
    hw.whitelist s' = hw.whitelist s := by
  funext f
  cases f with
  | platformProfile =>
    simp only [Hardware.whitelist, choices, h.readOnly .platformProfileChoices rfl]
  | scalingGovernor policy =>
    have havailable : governorAvailable s' policy = governorAvailable s policy :=
      funext (governorAvailable_congr h policy)
    simp only [Hardware.whitelist, havailable]
  | dpmLevel card =>
    simp only [Hardware.whitelist, Hardware.levels, h.readOnly (.runtimeStatus card) rfl]
  | aspmPolicy => simp only [Hardware.whitelist, haspm]
  | _ => rfl

/-- What a profile demands is on the whitelist. -/
theorem mem_whitelist_of_demand {f : KnobFile} {v : String} (h : demand hw profile s f = some v) :
    v ∈ hw.whitelist s f := by
  -- By the file: what the matrix asks of it is one of the values listed for it.
  cases f with
  | platformProfile =>
    have htarget : platformTarget (choices s) profile = some v := by
      rw [demand] at h
      split at h
      · cases h
      · exact h
    refine List.mem_filter.mpr ⟨?_, List.find?_some htarget⟩
    have hchain := List.mem_of_find?_eq_some htarget
    cases profile <;> revert hchain <;> simp [platformProfileChain] <;> rintro (rfl | rfl) <;> simp
  | scalingGovernor policy =>
    rw [demand] at h
    split at h
    case isFalse => cases h
    case isTrue hgoverns =>
      obtain ⟨hgoverns, havailable⟩ := (Bool.and_eq_true _ _).mp hgoverns
      obtain rfl := Option.some.inj h
      have hpolicy := ((Bool.and_eq_true _ _).mp hgoverns).1
      rw [Hardware.whitelist, if_pos hpolicy]
      refine List.mem_filter.mpr ⟨?_, havailable⟩
      cases profile <;> decide
  | energyPerformancePreference policy =>
    rw [demand] at h
    split at h
    case isFalse => cases h
    case isTrue hgoverns =>
      rw [Hardware.whitelist, if_pos ((Bool.and_eq_true _ _).mp hgoverns).1]
      cases profile with
      | powerSaver =>
        obtain rfl := Option.some.inj h
        exact List.mem_cons_self
      | balanced =>
        obtain rfl := Option.some.inj h
        exact List.mem_cons_of_mem _ List.mem_cons_self
      | performance => cases h
  | boost =>
    rw [demand] at h
    split at h
    · cases h
    · obtain rfl := Option.some.inj h
      rw [Hardware.whitelist]
      cases profile <;> decide
  | noTurbo =>
    rw [demand] at h
    split at h
    · obtain rfl := Option.some.inj h
      rw [Hardware.whitelist]
      cases profile <;> decide
    · cases h
  -- The levels are listed by the same look-up of the card that the demand makes.
  | dpmLevel card =>
    rw [demand, Hardware.dpmDemand] at h
    rw [Hardware.whitelist, Hardware.levels]
    cases hint : hw.integrated with
    | none =>
      rw [hint] at h
      cases h
    | some integrated =>
      cases hfind : hw.cards.zipIdx.find? fun c => c.1.card == card with
      | none =>
        rw [hint, hfind] at h
        cases h
      | some c =>
        rw [hint, hfind] at h
        dsimp only at h ⊢
        by_cases hown : c.2 = integrated
        · rw [if_pos hown] at h ⊢
          obtain rfl := Option.some.inj h
          exact List.mem_cons_self
        · rw [if_neg hown] at h ⊢
          split at h
          · next status hstatus =>
            split at h
            · cases h
            · next hawake =>
              obtain rfl := Option.some.inj h
              rw [hstatus, if_neg fun h => hawake (Attr.text.inj h)]
              cases profile <;> decide
          · cases h
  | _ => cases h

/-! ## What one event leaves -/

/-- Against the text that the file held: it holds it still, or a value of its whitelist was put
into it, or, for ASPM, the option that was current. -/
def Moved (hw : Hardware) (s : Sysfs) (f : KnobFile) (attr : Attr) : Prop :=
  attr = s f ∨ ∃ t, s f = .text t ∧ ∃ v, attr = .text (readBack f t v) ∧
    (v ∈ hw.whitelist s f ∨ f = .aspmPolicy ∧ aspmCurrent t = some v.toList)

/-- One write of a value of the whitelist moves its file so, however it ends. -/
theorem moved_knobWrite {f : KnobFile} {v : String} (hv : v ∈ hw.whitelist s f) :
    Moved hw s f (hw.knobWrite f v (s f)).1 := by
  cases hattr : s f with
  | missing => exact .inl hattr.symm
  | unreadable err => exact .inl hattr.symm
  | text t =>
    rw [Hardware.knobWrite]
    split
    · exact .inl hattr.symm
    · cases hw.respond f v with
      | ok => exact .inr ⟨t, hattr, v, rfl, .inl hv⟩
      | unsupported => exact .inl hattr.symm
      | failed err => exact .inl hattr.symm

/-- The ASPM row leaves its file, or writes an option of its own that the file offers. -/
theorem aspmRow_aspmPolicy (hw : Hardware) (profile : PowerProfile) (writable : Bool) (a : Apply) :
    (aspmRow hw profile writable a).sysfs .aspmPolicy = a.sysfs .aspmPolicy ∨
      aspm profile ∈ hw.whitelist a.sysfs .aspmPolicy ∧
        (aspmRow hw profile writable a).sysfs .aspmPolicy =
          (hw.knobWrite .aspmPolicy (aspm profile) (a.sysfs .aspmPolicy)).1 := by
  unfold aspmRow
  split
  · exact .inl rfl
  · exact .inl rfl
  next opts hopts =>
  split
  · exact .inl rfl
  split
  · exact .inl rfl
  next hvalid =>
  split
  · exact .inl rfl
  refine .inr ⟨?_, write_file a _ _ _⟩
  rw [Bool.not_eq_true', Bool.not_eq_false] at hvalid
  obtain ⟨w, hw', htrim⟩ := List.any_eq_true.mp hvalid
  rw [Hardware.whitelist, hopts]
  refine List.mem_filter.mpr ⟨by cases profile <;> decide, List.contains_iff_mem.mpr ?_⟩
  refine List.mem_filter.mpr ⟨List.mem_map.mpr ⟨w, hw', beq_iff_eq.mp htrim⟩, ?_⟩
  cases profile <;> decide

/-- An apply moves each file so. -/
theorem moved_powerdApply (hw : Hardware) (profile : PowerProfile) (writable : Bool) (s : Sysfs)
    (f : KnobFile) : Moved hw s f ((powerdApply hw profile writable s).sysfs f) := by
  by_cases hf : f = .aspmPolicy
  · subst hf
    have hrows : (fourRows hw profile s).sysfs .aspmPolicy = s .aspmPolicy :=
      fourRows_file hw profile s .aspmPolicy
    rcases aspmRow_aspmPolicy hw profile writable (fourRows hw profile s) with h | ⟨hmem, h⟩
    · exact .inl (h.trans hrows)
    · rw [Hardware.whitelist, hrows] at hmem
      rw [hrows] at h
      exact Eq.mpr (congrArg (Moved hw s .aspmPolicy) h) (moved_knobWrite hmem)
  · rw [powerdApply_file hw profile writable s hf]
    cases hdem : demand hw profile s f with
    | none => exact .inl rfl
    | some v => exact moved_knobWrite (mem_whitelist_of_demand hdem)

/-! ## The machine that powerd serves -/

/-- `aspm_writability_probe`: the option in brackets is written again. -/
def aspmWritabilityProbe (hw : Hardware) (s : Sysfs) : Sysfs × Bool :=
  match s .aspmPolicy with
  | .text opts =>
    match aspmCurrent opts with
    | none => (s, false)
    | some cur =>
      match hw.respond .aspmPolicy (String.ofList cur) with
      | .ok =>
        (Function.update s .aspmPolicy (.text (bracketed opts (String.ofList cur))), true)
      | _ => (s, false)
  | _ => (s, false)

/-- The files of the matrix, those of the cards' runtime power management, the profile that powerd
applied last, and whether it found the ASPM file writable. -/
structure Host where
  sysfs : Sysfs
  control : String → Attr
  active : PowerProfile
  aspmWritable : Bool

/-- What powerd does, and what happens to the machine meanwhile. The profile and the pin are what
is persisted then. A call may be served between the probe of a start and its apply. -/
inductive HostEvent
  | applyProfile (name : String)
  | setDgpuAwake (awake : Bool)
  | probed (profile : PowerProfile)
  | started (profile : PowerProfile) (pin : Bool)
  | resumed (pin : Bool)
  /-- The kernel, the firmware or a user leaves other values. -/
  | outside (sysfs : Sysfs) (control : String → Attr)

/-- How the machine answers the writes of one event. -/
structure Answers where
  knobs : KnobFile → String → WriteResult
  runtimePm : Responds

/-- The machine as it answers at an event. -/
def Hardware.answering (hw : Hardware) (answers : Answers) : Hardware :=
  { hw with respond := answers.knobs }

/-- What one event leaves, on a machine that answers it as `hw` and `respond` say. -/
def Host.step (hw : Hardware) (respond : Responds) (h : Host) : HostEvent → Host
  | .applyProfile name =>
    match PowerProfile.parse name with
    | none => h
    | some profile =>
      { h with
        sysfs := (powerdApply hw profile h.aspmWritable h.sysfs).sysfs
        active := profile }
  | .setDgpuAwake awake =>
    { h with control := (applyDgpuRuntimePm hw respond awake h.control).control }
  | .probed profile =>
    let probe := aspmWritabilityProbe hw h.sysfs
    { h with
      sysfs := probe.1
      active := profile
      aspmWritable := probe.2 }
  | .started profile pin =>
    { h with
      sysfs := (powerdApply hw profile h.aspmWritable h.sysfs).sysfs
      control := (applyDgpuRuntimePm hw respond pin h.control).control }
  | .resumed pin =>
    { h with
      sysfs := (powerdApply hw h.active h.aspmWritable h.sysfs).sysfs
      control := (applyDgpuRuntimePm hw respond pin h.control).control }
  | .outside sysfs control => { h with sysfs, control }

/-- The events one after another, each with the answers that its writes get. -/
def Host.run (hw : Hardware) (h : Host) (events : List (HostEvent × Answers)) : Host :=
  events.foldl (fun h e => h.step (hw.answering e.2) e.2.runtimePm e.1) h

/-- What came from elsewhere last, from what was there first. -/
def HostEvent.basis : Sysfs × (String → Attr) → HostEvent × Answers → Sysfs × (String → Attr)
  | _, (.outside sysfs control, _) => (sysfs, control)
  | basis, _ => basis

/-- Each file is as it came from elsewhere, or it came with text and had a value of its whitelist
put into it; the ASPM file lists the options that it came with, and in brackets is one of its
whitelist or the one that came so. No file that is only read was changed, and none was made. Of
the cards, the discrete ones may hold a pin. -/
structure Confined (hw : Hardware) (basis : Sysfs × (String → Attr)) (h : Host) : Prop where
  reads : SameReads basis.1 h.sysfs
  files : ∀ f, Moved hw basis.1 f (h.sysfs f)
  cards : ∀ card, h.control card = basis.2 card ∨
    hw.IsDiscrete card ∧ (∃ t, basis.2 card = .text t) ∧
      ∃ awake, h.control card = .text (pinWord awake)

variable {respond : Responds} {basis : Sysfs × (String → Attr)} {h : Host}

/-- What is read is the same, where each file was moved so and those that are read were not. -/
theorem SameReads.of_moved (hother : ∀ f, f.readOnly = true → s' f = s f)
    (hmoved : ∀ f, Moved hw s f (s' f)) : SameReads s s' := by
  refine ⟨hother, fun f => ?_⟩
  rcases hmoved f with h | ⟨t, ht, v, h, -⟩
  · rw [h]
  · rw [h, ht]
    simp

/-- The probe moves no file but that of ASPM, and that one to the option that is current. -/
theorem moved_probe (hw : Hardware) (s : Sysfs) :
    SameReads s (aspmWritabilityProbe hw s).1 ∧
      ∀ f, Moved hw s f ((aspmWritabilityProbe hw s).1 f) := by
  have hkeep : SameReads s s ∧ ∀ f, Moved hw s f (s f) := ⟨SameReads.refl s, fun f => .inl rfl⟩
  unfold aspmWritabilityProbe
  split
  case h_2 => exact hkeep
  next opts hopts =>
  split
  · exact hkeep
  next cur hcur =>
  split
  case h_2 => exact hkeep
  have hother : ∀ f, f ≠ KnobFile.aspmPolicy →
      Function.update s .aspmPolicy (.text (bracketed opts (String.ofList cur))) f = s f :=
    fun f hf => Function.update_of_ne hf _ _
  have hmoved : ∀ f, Moved hw s f
      (Function.update s .aspmPolicy (.text (bracketed opts (String.ofList cur))) f) := by
    intro f
    by_cases hf : f = .aspmPolicy
    · subst hf
      refine .inr ⟨opts, hopts, String.ofList cur, Function.update_self _ _ _, .inr ⟨rfl, ?_⟩⟩
      rw [hcur, String.toList_ofList]
    · exact .inl (hother f hf)
  refine ⟨SameReads.of_moved (fun f hf => hother f ?_) hmoved, hmoved⟩
  rintro rfl
  cases hf

/-! ## One step -/

/-- A file that was put to is put to again: the second value decides what it is read back as. -/
theorem readBack_readBack (f : KnobFile) (t v v' : String) :
    readBack f (readBack f t v) v' = readBack f t v' := by
  unfold readBack
  split
  · exact bracketed_bracketed t v v'
  · rfl

/-- The ASPM file offers what it came with. -/
theorem Confined.offered (hconf : Confined hw basis h) :
    offered (textOrDefault (h.sysfs .aspmPolicy)) =
      offered (textOrDefault (basis.1 .aspmPolicy)) := by
  rcases hconf.files .aspmPolicy with hkept | ⟨t, ht, v, hput, -⟩
  · rw [hkept]
  · rw [hput, ht]
    exact offered_bracketed t v

/-- What is moved once more was moved from what came from elsewhere. -/
theorem Confined.files_of_moved (hconf : Confined hw basis h)
    (hmoved : ∀ f, Moved hw h.sysfs f (s' f)) (f : KnobFile) : Moved hw basis.1 f (s' f) := by
  rcases hmoved f with hkept | ⟨cur, hcur, v, hput, hv⟩
  · rw [hkept]
    exact hconf.files f
  rw [whitelist_congr hconf.reads hconf.offered] at hv
  rcases hconf.files f with hbasis | ⟨t, ht, v₀, hput₀, hv₀⟩
  · exact .inr ⟨cur, hbasis.symm.trans hcur, v, hput, hv⟩
  · obtain rfl := Attr.text.inj (hcur.symm.trans hput₀)
    rw [readBack_readBack] at hput
    rcases hv with hv | ⟨rfl, hv⟩
    · exact .inr ⟨t, ht, v, hput, .inl hv⟩
    · -- The option that is current is the one that was written before.
      obtain rfl : v = v₀ := String.toList_inj.mp (aspmCurrent_of_bracketed hv)
      exact .inr ⟨t, ht, v, hput, hv₀⟩

/-- A push of the pin leaves the cards as they may be. -/
theorem Confined.cards_of_push (hconf : Confined hw basis h) (awake : Bool) (card : String) :
    (applyDgpuRuntimePm hw respond awake h.control).control card = basis.2 card ∨
      hw.IsDiscrete card ∧ (∃ t, basis.2 card = .text t) ∧ ∃ awake',
        (applyDgpuRuntimePm hw respond awake h.control).control card = .text (pinWord awake') := by
  rcases moved_applyDgpuRuntimePm awake h.control card with hkept | ⟨hdiscrete, ⟨t, ht⟩, hput⟩
  · rw [hkept]
    exact hconf.cards card
  · refine .inr ⟨hdiscrete, ?_, awake, hput⟩
    rcases hconf.cards card with hbasis | ⟨-, hbasis, -⟩
    · exact ⟨t, hbasis.symm.trans ht⟩
    · exact hbasis

/-- One event keeps the machine confined, whatever its writes are answered. -/
theorem Confined.step (hconf : Confined hw basis h) (e : HostEvent) (answers : Answers) :
    Confined hw (HostEvent.basis basis (e, answers))
      (h.step (hw.answering answers) answers.runtimePm e) := by
  -- How a write ends is no part of what may be written.
  have hanswering : ∀ {b h}, Confined (hw.answering answers) b h ↔ Confined hw b h := fun {b h} =>
    ⟨fun hc => ⟨hc.reads, hc.files, hc.cards⟩, fun hc => ⟨hc.reads, hc.files, hc.cards⟩⟩
  rw [← hanswering] at hconf ⊢
  generalize hw.answering answers = hw at hconf ⊢
  have happlied : ∀ profile writable,
      SameReads basis.1 (powerdApply hw profile writable h.sysfs).sysfs := fun profile writable =>
    hconf.reads.trans (sameReads_powerdApply hw profile writable h.sysfs)
  cases e with
  | applyProfile name =>
    rw [Host.step]
    cases PowerProfile.parse name with
    | none => exact hconf
    | some profile =>
      exact ⟨happlied profile _, hconf.files_of_moved (moved_powerdApply hw profile _ h.sysfs),
        hconf.cards⟩
  | setDgpuAwake awake => exact ⟨hconf.reads, hconf.files, hconf.cards_of_push awake⟩
  | probed profile =>
    obtain ⟨hreads, hmoved⟩ := moved_probe hw h.sysfs
    exact ⟨hconf.reads.trans hreads, hconf.files_of_moved hmoved, hconf.cards⟩
  | started profile pin =>
    exact ⟨happlied profile _, hconf.files_of_moved (moved_powerdApply hw profile _ h.sysfs),
      hconf.cards_of_push pin⟩
  | resumed pin =>
    exact ⟨happlied h.active _, hconf.files_of_moved (moved_powerdApply hw h.active _ h.sysfs),
      hconf.cards_of_push pin⟩
  | outside sysfs control =>
    exact ⟨SameReads.refl sysfs, fun f => .inl rfl, fun card => .inl rfl⟩

/-- Whatever is called with whatever names, whenever powerd starts and the machine resumes, and
however every write ends, each file is as it came from elsewhere last, or came with text and had a
value of its whitelist put into it; of the ASPM file the options stay, and the one in brackets is
of its whitelist or came so. -/
theorem Host.run_confined (h : Host) (events : List (HostEvent × Answers)) :
    Confined hw (events.foldl HostEvent.basis (h.sysfs, h.control)) (h.run hw events) := by
  have hstart : Confined hw (h.sysfs, h.control) h :=
    ⟨SameReads.refl h.sysfs, fun f => .inl rfl, fun card => .inl rfl⟩
  rw [Host.run]
  generalize (h.sysfs, h.control) = basis at hstart ⊢
  induction events generalizing h basis with
  | nil => exact hstart
  | cons e events ih => exact ih _ _ (hstart.step e.1 e.2)

end Hyprstate.Knobs
