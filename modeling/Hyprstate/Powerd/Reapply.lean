import Hyprstate.Powerd.Matrix

/-!
# Applying a profile twice

The rows of `powerd_apply` put into the files what `demand` says, each file one value, and nothing
else (`Follows`). What is demanded does not change by it, and a file that was put to once is not
written again.
-/

namespace Hyprstate.Knobs

open Store

variable {hw : Hardware} {profile : PowerProfile} {s s' : Sysfs}

/-! ## What a profile demands -/

/-- The policy has its governor and its preference written. -/
def Hardware.governs (hw : Hardware) (s : Sysfs) (policy : String) : Bool :=
  hw.cpufreqPolicies.contains policy && hw.cpufreqPolicies.head?.any (eppCapable s)

/-- The level that a card is put to, where it is awake or integrated. -/
def Hardware.dpmDemand (hw : Hardware) (profile : PowerProfile) (s : Sysfs) (card : String) :
    Option String :=
  match hw.integrated, hw.cards.zipIdx.find? fun c => c.1.card == card with
  | some integrated, some c =>
    if c.2 = integrated then some "auto"
    else
      match s (.runtimeStatus card) with
      | .text status => if status = "suspended" then none else some (dgpuDpm profile)
      | _ => none
  | _, _ => none

/-- The value that an apply puts into a file, where it puts one. -/
def demand (hw : Hardware) (profile : PowerProfile) (s : Sysfs) : KnobFile → Option String
  | .platformProfile =>
    if s .platformProfile = .missing then none else platformTarget (choices s) profile
  | .scalingGovernor policy =>
    if hw.governs s policy && governorAvailable s policy (governor profile) then
      some (governor profile)
    else none
  | .energyPerformancePreference policy => if hw.governs s policy then epp profile else none
  | .boost => if s .boost = .missing then none else some (boost profile)
  | .noTurbo =>
    if s .boost = .missing ∧ s .noTurbo ≠ .missing then some (noTurbo profile) else none
  | .dpmLevel card => hw.dpmDemand profile s card
  | _ => none

/-- No apply writes the file. -/
def KnobFile.readOnly : KnobFile → Bool
  | .platformProfileChoices | .scalingDriver _ | .scalingAvailableGovernors _
  | .runtimeStatus _ => true
  | _ => false

/-- What is read to decide what to write is the same. -/
structure SameReads (s s' : Sysfs) : Prop where
  readOnly : ∀ f, f.readOnly = true → s' f = s f
  missing : ∀ f, s' f = .missing ↔ s f = .missing

/-- A tree reads like itself. -/
theorem SameReads.refl (s : Sysfs) : SameReads s s := ⟨fun _ _ => rfl, fun _ => Iff.rfl⟩

/-- To read alike is carried from tree to tree. -/
theorem SameReads.trans {s₁ s₂ s₃ : Sysfs} (h : SameReads s₁ s₂) (h' : SameReads s₂ s₃) :
    SameReads s₁ s₃ :=
  ⟨fun f hf => (h'.readOnly f hf).trans (h.readOnly f hf), fun f =>
    (h'.missing f).trans (h.missing f)⟩

/-- Whether the preference is there is a read. -/
theorem eppCapable_congr (h : SameReads s s') (p0 : String) :
    eppCapable s' p0 = eppCapable s p0 := by
  unfold eppCapable
  simp only [h.readOnly (.scalingDriver p0) rfl, ne_eq, h.missing]

/-- So is which policies are governed. -/
theorem governs_congr (h : SameReads s s') (policy : String) :
    hw.governs s' policy = hw.governs s policy := by
  unfold Hardware.governs
  cases hw.cpufreqPolicies.head? with
  | none => rfl
  | some p0 => simp only [Option.any_some, eppCapable_congr h]

/-- So is which governors there are. -/
theorem governorAvailable_congr (h : SameReads s s') (policy gov : String) :
    governorAvailable s' policy gov = governorAvailable s policy gov := by
  unfold governorAvailable
  rw [h.readOnly (.scalingAvailableGovernors policy) rfl]

/-- The same is demanded. -/
theorem demand_congr (h : SameReads s s') : demand hw profile s' = demand hw profile s := by
  funext f
  cases f with
  | platformProfile =>
    simp only [demand, choices, h.readOnly .platformProfileChoices rfl, h.missing]
  | scalingGovernor policy => simp only [demand, governs_congr h, governorAvailable_congr h]
  | energyPerformancePreference policy => simp only [demand, governs_congr h]
  | boost => simp only [demand, h.missing]
  | noTurbo => simp only [demand, ne_eq, h.missing]
  | dpmLevel card => simp only [demand, Hardware.dpmDemand, h.readOnly (.runtimeStatus card) rfl]
  | _ => rfl

/-- A file that the matrix demands something of is one to write. -/
theorem not_readOnly_of_demand {f : KnobFile} {v : String} (h : demand hw profile s f = some v) :
    f.readOnly = false ∧ f ≠ .aspmPolicy := by
  cases f with
  | platformProfileChoices => cases h
  | scalingDriver policy => cases h
  | scalingAvailableGovernors policy => cases h
  | runtimeStatus card => cases h
  | aspmPolicy => cases h
  | _ => exact ⟨rfl, by simp⟩

/-! ## One write -/

/-- A write neither makes a file nor removes one. -/
theorem knobWrite_missing (hw : Hardware) (f : KnobFile) (v : String) (attr : Attr) :
    (hw.knobWrite f v attr).1 = .missing ↔ attr = .missing := by
  unfold Hardware.knobWrite
  cases attr with
  | missing => simp
  | unreadable err => simp
  | text cur =>
    dsimp only
    split
    · simp
    · cases hw.respond f v <;> simp

/-- An error's text is not `written`. -/
theorem error_ne_written (err : String) : "error:" ++ err ≠ "written" := by
  intro h
  have hhead := congrArg (fun s : String => s.toList.head?) h
  simp at hhead

/-- A file but ASPM's is not written again with the same value. -/
theorem knobWrite_knobWrite {f : KnobFile} (hf : f ≠ .aspmPolicy) (v : String) (attr : Attr) :
    (hw.knobWrite f v (hw.knobWrite f v attr).1).1 = (hw.knobWrite f v attr).1 ∧
      (hw.knobWrite f v (hw.knobWrite f v attr).1).2 ≠ "written" := by
  cases attr with
  | missing => exact ⟨rfl, by simp [Hardware.knobWrite]⟩
  | unreadable err => exact ⟨rfl, error_ne_written err⟩
  | text cur =>
    by_cases hcur : cur = v
    · subst hcur
      simp [Hardware.knobWrite]
    · cases hres : hw.respond f v with
      | ok => simp [Hardware.knobWrite, hcur, hres, readBack, hf]
      | unsupported => simp [Hardware.knobWrite, hcur, hres]
      | failed err => simp [Hardware.knobWrite, hcur, hres, error_ne_written]

/-- What a plan of demanded values leaves decides the same. -/
theorem sameReads_attempt {plan : List (KnobFile × String)}
    (hplan : ∀ p ∈ plan, p.1.readOnly = false) (s : Sysfs) :
    SameReads s (attempt hw.knobWrite plan s).1 := by
  induction plan generalizing s with
  | nil => exact SameReads.refl s
  | cons p plan ih =>
    refine SameReads.trans ?_ (ih (fun p hp => hplan p (List.mem_cons_of_mem _ hp)) _)
    constructor
    · intro f hf
      rw [Function.update_of_ne]
      rintro rfl
      rw [hplan p List.mem_cons_self] at hf
      cases hf
    · intro f
      by_cases hf : f = p.1
      · subst hf
        rw [Function.update_self, knobWrite_missing]
      · rw [Function.update_of_ne hf]

/-! ## What a row does -/

/-- No row reports a write. -/
def NoneWritten (res : String → Option String) : Prop := ∀ label, res label ≠ some "written"

/-- The rows from one state of the apply to another put to their files what is demanded of these,
and report no write where none of the puts was one. -/
def Follows (hw : Hardware) (dem : KnobFile → Option String) (mine : KnobFile → Bool)
    (a a' : Apply) : Prop :=
  ∃ plan, a'.sysfs = (attempt hw.knobWrite plan a.sysfs).1 ∧
    (∀ f v, (f, v) ∈ plan ↔ mine f = true ∧ dem f = some v) ∧
    ((∀ status ∈ (attempt hw.knobWrite plan a.sysfs).2, status ≠ "written") → NoneWritten a.res →
      NoneWritten a'.res)

/-- A row more that is not `written`. -/
theorem NoneWritten.update {res : String → Option String} (h : NoneWritten res) (label : String)
    {status : String} (hstatus : status ≠ "written") :
    NoneWritten (Function.update res label (some status)) := by
  intro l
  by_cases hl : l = label
  · subst hl
    rw [Function.update_self]
    exact fun hsome => hstatus (Option.some.inj hsome)
  · rw [Function.update_of_ne hl]
    exact h l

/-- Two parts of the apply follow the matrix together. -/
theorem Follows.trans {dem : KnobFile → Option String} {mine mine' : KnobFile → Bool}
    {a₁ a₂ a₃ : Apply} (h : Follows hw dem mine a₁ a₂) (h' : Follows hw dem mine' a₂ a₃) :
    Follows hw dem (fun f => mine f || mine' f) a₁ a₃ := by
  obtain ⟨plan, hsysfs, hmem, hres⟩ := h
  obtain ⟨plan', hsysfs', hmem', hres'⟩ := h'
  refine ⟨plan ++ plan', ?_, fun f v => ?_, fun hstatus hnone => ?_⟩
  · rw [attempt_append, hsysfs', hsysfs]
  · rw [List.mem_append, hmem, hmem', ← or_and_right, Bool.or_eq_true]
  · rw [attempt_append] at hstatus
    refine hres' (fun status h => ?_) (hres (fun status h => ?_) hnone)
    · rw [hsysfs] at h
      exact hstatus status (List.mem_append_right _ h)
    · exact hstatus status (List.mem_append_left _ h)

/-- The files of a row may be named with others of which nothing is demanded. -/
theorem Follows.widen {dem : KnobFile → Option String} {mine mine' : KnobFile → Bool}
    {a a' : Apply} (h : Follows hw dem mine a a')
    (hmine : ∀ f v, dem f = some v → (mine f = true ↔ mine' f = true)) :
    Follows hw dem mine' a a' := by
  obtain ⟨plan, hsysfs, hmem, hres⟩ := h
  refine ⟨plan, hsysfs, fun f v => (hmem f v).trans ?_, hres⟩
  exact and_congr_left fun hdem => hmine f v hdem

/-- What decides the rows stays. -/
theorem Follows.sameReads {mine : KnobFile → Bool} {a a' : Apply}
    (h : Follows hw (demand hw profile s) mine a a') : SameReads a.sysfs a'.sysfs := by
  obtain ⟨plan, hsysfs, hmem, -⟩ := h
  rw [hsysfs]
  exact sameReads_attempt (fun p hp => (not_readOnly_of_demand ((hmem p.1 p.2).mp hp).2).1) a.sysfs

/-- `write` does to its file what the knob does with a value. -/
theorem write_file (a : Apply) (label : String) (file : KnobFile) (value : String) :
    (a.write hw label file value).sysfs file = (hw.knobWrite file value (a.sysfs file)).1 :=
  Function.update_self file _ a.sysfs

/-- A row of one write. -/
theorem follows_write {dem : KnobFile → Option String} (a : Apply) (label : String)
    {file : KnobFile} {value : String} (hdem : dem file = some value) :
    Follows hw dem (fun f => f == file) a (a.write hw label file value) := by
  refine ⟨[(file, value)], rfl, fun f v => ?_, fun hstatus hnone => ?_⟩
  · rw [List.mem_singleton, Prod.mk.injEq, beq_iff_eq]
    constructor
    · rintro ⟨rfl, rfl⟩
      exact ⟨rfl, hdem⟩
    · rintro ⟨rfl, h⟩
      exact ⟨rfl, Option.some.inj (h.symm.trans hdem)⟩
  · exact hnone.update label (hstatus _ (List.mem_singleton.mpr rfl))

/-- A row of no write, where nothing is demanded. -/
theorem follows_insert {dem : KnobFile → Option String} {mine : KnobFile → Bool} (a : Apply)
    (label : String) {status : String} (hstatus : status ≠ "written")
    (hmine : ∀ f, mine f = true → dem f = none) :
    Follows hw dem mine a (a.insert label status) := by
  refine ⟨[], rfl, fun f v => ?_, fun _ hnone => hnone.update label hstatus⟩
  simp only [List.not_mem_nil, false_iff, not_and]
  intro hf h
  rw [hmine f hf] at h
  cases h

/-! ## The rows -/

/-- The platform's row follows the matrix. -/
theorem platformRow_follows (a : Apply) :
    Follows hw (demand hw profile a.sysfs) (fun f => f == .platformProfile) a
      (platformRow hw profile a) := by
  have hmine : demand hw profile a.sysfs .platformProfile = none → ∀ f : KnobFile,
      (f == .platformProfile) = true → demand hw profile a.sysfs f = none := by
    intro h f hf
    rwa [beq_iff_eq.mp hf]
  unfold platformRow
  split
  · next hmissing => exact follows_insert a _ (by decide) (hmine (if_pos hmissing))
  · next hthere =>
    split
    · next v htarget => exact follows_write a _ ((if_neg hthere).trans htarget)
    · next htarget => exact follows_insert a _ (by decide) (hmine ((if_neg hthere).trans htarget))

/-- So does the boost's. -/
theorem boostRow_follows (a : Apply) :
    Follows hw (demand hw profile a.sysfs) (fun f => f == .boost || f == .noTurbo) a
      (boostRow hw profile a) := by
  unfold boostRow
  split
  · next hboost =>
    have hturbo : demand hw profile a.sysfs .noTurbo = none := if_neg fun h => hboost h.1
    refine (follows_write a _ (if_neg hboost)).widen fun f v hdem => ?_
    rw [Bool.or_eq_true, beq_iff_eq, beq_iff_eq]
    refine ⟨.inl, fun h => h.resolve_right ?_⟩
    rintro rfl
    rw [hturbo] at hdem
    cases hdem
  · next hboost =>
    rw [not_not] at hboost
    have hnone : demand hw profile a.sysfs .boost = none := if_pos hboost
    split
    · next hturbo =>
      refine (follows_write a _ (if_pos ⟨hboost, hturbo⟩)).widen fun f v hdem => ?_
      rw [Bool.or_eq_true, beq_iff_eq, beq_iff_eq]
      refine ⟨.inr, fun h => h.resolve_left ?_⟩
      rintro rfl
      rw [hnone] at hdem
      cases hdem
    · next hturbo =>
      refine follows_insert a _ (by decide) fun f hf => ?_
      rw [Bool.or_eq_true, beq_iff_eq, beq_iff_eq] at hf
      rcases hf with rfl | rfl
      · exact hnone
      · exact if_neg fun h => hturbo h.2

/-! ### CPU -/

/-- Rows of which none is `written` merge to one that is not. -/
theorem mergeRow_ne_written {statuses : List String} (h : ∀ status ∈ statuses, status ≠ "written") :
    mergeRow statuses ≠ "written" := by
  unfold mergeRow
  split
  · decide
  · split
    · next err herr => exact h err (List.mem_of_find?_eq_some herr)
    · split
      · next hwritten => exact absurd rfl (h _ (List.contains_iff_mem.mp hwritten))
      split
      · decide
      · exact h _ List.mem_cons_self

/-- A row over several policies. -/
theorem follows_merged {dem : KnobFile → Option String} {mine : KnobFile → Bool} (a : Apply)
    (label : String) {plan : List (KnobFile × String)}
    (hmem : ∀ f v, (f, v) ∈ plan ↔ mine f = true ∧ dem f = some v) {sysfs : Sysfs}
    (hsysfs : sysfs = (attempt hw.knobWrite plan a.sysfs).1) {statuses : List String}
    (hstatuses : ∀ status ∈ statuses, status = "skipped-unsupported" ∨
      status ∈ (attempt hw.knobWrite plan a.sysfs).2) :
    Follows hw dem mine a
      { sysfs := sysfs
        res := Function.update a.res label (some (mergeRow statuses)) } := by
  refine ⟨plan, hsysfs, hmem, fun hstatus hnone =>
    hnone.update label (mergeRow_ne_written fun status h => ?_)⟩
  rcases hstatuses status h with rfl | h
  · decide
  · exact hstatus status h

/-- The preferences are a series of attempts. -/
theorem eppStatuses_eq (value : String) (policies : List String) (s : Sysfs) :
    mapStatuses (eppStatus hw value) policies s =
      attempt hw.knobWrite
        (policies.map fun policy => (.energyPerformancePreference policy, value)) s := by
  induction policies generalizing s with
  | nil => rfl
  | cons policy rest ih =>
    rw [mapStatuses, ih]
    rfl

/-- The governors that are put: those of the policies that offer it. -/
def governorPlan (s : Sysfs) (gov : String) (policies : List String) : List (KnobFile × String) :=
  (policies.filter fun policy => governorAvailable s policy gov).map fun policy =>
    (.scalingGovernor policy, gov)

/-- So are the governors, the unsupported ones apart. -/
theorem governorStatuses_eq (gov : String) (policies : List String) (s : Sysfs) :
    (mapStatuses (governorStatus hw gov) policies s).1 =
        (attempt hw.knobWrite (governorPlan s gov policies) s).1 ∧
      ∀ status ∈ (mapStatuses (governorStatus hw gov) policies s).2,
        status = "skipped-unsupported" ∨
          status ∈ (attempt hw.knobWrite (governorPlan s gov policies) s).2 := by
  induction policies generalizing s with
  | nil => exact ⟨rfl, fun status h => absurd h List.not_mem_nil⟩
  | cons policy rest ih =>
    rw [mapStatuses, governorStatus]
    by_cases havailable : governorAvailable s policy gov = true
    · have hplan : governorPlan s gov (policy :: rest) =
          (.scalingGovernor policy, gov) :: governorPlan s gov rest := by
        simp [governorPlan, havailable]
      obtain ⟨hsysfs, hstatuses⟩ := ih (Function.update s (.scalingGovernor policy)
        (hw.knobWrite (.scalingGovernor policy) gov (s (.scalingGovernor policy))).1)
      rw [if_pos havailable, hplan]
      -- A governor that is written leaves what is offered.
      refine ⟨hsysfs, fun status h => ?_⟩
      rcases List.mem_cons.mp h with rfl | h
      · exact .inr List.mem_cons_self
      · exact (hstatuses status h).imp_right fun h => List.mem_cons_of_mem _ h
    · have hplan : governorPlan s gov (policy :: rest) = governorPlan s gov rest := by
        simp [governorPlan, havailable]
      obtain ⟨hsysfs, hstatuses⟩ := ih s
      rw [if_neg havailable, hplan]
      refine ⟨hsysfs, fun status h => ?_⟩
      rcases List.mem_cons.mp h with rfl | h
      · exact .inl rfl
      · exact hstatuses status h

/-- The files of the governors. -/
def KnobFile.isGovernor : KnobFile → Bool
  | .scalingGovernor _ => true
  | _ => false

/-- The files of the preferences. -/
def KnobFile.isPreference : KnobFile → Bool
  | .energyPerformancePreference _ => true
  | _ => false

/-- The governors follow the matrix. -/
theorem governors_follow {policies : List String} {a : Apply}
    (hgoverns : ∀ policy, hw.governs a.sysfs policy = policies.contains policy) :
    Follows hw (demand hw profile a.sysfs) KnobFile.isGovernor a
      { sysfs := (mapStatuses (governorStatus hw (governor profile)) policies a.sysfs).1
        res := Function.update a.res "scaling_governor"
          (some (mergeRow
            (mapStatuses (governorStatus hw (governor profile)) policies a.sysfs).2)) } := by
  obtain ⟨hsysfs, hstatuses⟩ := governorStatuses_eq (governor profile) policies a.sysfs
  refine follows_merged a _ (fun f v => ?_) hsysfs hstatuses
  cases f with
  | scalingGovernor policy =>
    simp [governorPlan, demand, KnobFile.isGovernor, hgoverns]
  | _ => simp [governorPlan, KnobFile.isGovernor]

/-- So do the preferences. -/
theorem preferences_follow {policies : List String}
    (hgoverns : ∀ policy, hw.governs s policy = policies.contains policy) {value : String}
    (hvalue : epp profile = some value) (a : Apply) :
    Follows hw (demand hw profile s) KnobFile.isPreference a
      { sysfs := (mapStatuses (eppStatus hw value) policies a.sysfs).1
        res := Function.update a.res "energy_performance_preference"
          (some (mergeRow (mapStatuses (eppStatus hw value) policies a.sysfs).2)) } := by
  rw [eppStatuses_eq]
  refine follows_merged a _ (fun f v => ?_) rfl fun status h => .inr h
  cases f with
  | energyPerformancePreference policy =>
    simp [demand, KnobFile.isPreference, hgoverns, hvalue]
  | _ => simp [KnobFile.isPreference]

/-- So do the processor's rows. -/
theorem cpuRows_follows (a : Apply) :
    Follows hw (demand hw profile a.sysfs) (fun f => f.isGovernor || f.isPreference) a
      (cpuRows hw profile a) := by
  have hnone : (∀ policy, hw.governs a.sysfs policy = false) →
      ∀ f : KnobFile, (f.isGovernor || f.isPreference) = true →
        demand hw profile a.sysfs f = none := by
    intro h f hf
    cases f with
    | scalingGovernor policy => simp [demand, h]
    | energyPerformancePreference policy => simp [demand, h]
    | _ => cases hf
  unfold cpuRows
  split
  · next hpolicies =>
    refine follows_insert a _ (by decide) (hnone fun policy => ?_)
    rw [Hardware.governs, hpolicies]
    rfl
  · next p0 rest hpolicies =>
    have hgoverns : ∀ policy, hw.governs a.sysfs policy =
        ((p0 :: rest).contains policy && eppCapable a.sysfs p0) := by
      intro policy
      rw [Hardware.governs, hpolicies]
      rfl
    split
    · next hcapable =>
      have hnone := hnone fun policy => by
        rw [hgoverns, (Bool.not_eq_true' _).mp hcapable, Bool.and_false]
      have hfirst : Follows hw _ _ a (a.insert "scaling_governor" "skipped-unsupported") :=
        follows_insert a _ (by decide) hnone
      refine (hfirst.trans (follows_insert _ _ (by decide) hnone)).widen fun f v _ => ?_
      rw [Bool.or_self]
    · next hcapable =>
      rw [Bool.not_eq_true', Bool.not_eq_false] at hcapable
      generalize p0 :: rest = policies at hgoverns ⊢
      have hgoverns : ∀ policy, hw.governs a.sysfs policy =
          policies.contains policy := fun policy => by
        rw [hgoverns, hcapable, Bool.and_true]
      split
      · next hepp =>
        -- The performance governor implies the preference, and none is demanded.
        refine (governors_follow hgoverns).widen fun f v hdem => ?_
        cases f with
        | energyPerformancePreference policy =>
          rw [demand, hepp, ite_self] at hdem
          cases hdem
        | _ => simp [KnobFile.isPreference]
      · next value hepp =>
          exact (governors_follow hgoverns).trans (preferences_follow hgoverns hepp _)

/-! ### GPUs -/

/-- No card is listed twice. -/
theorem snapshotFrom_nodup (seen : List String) (links : List DriLink) :
    ((snapshotFrom seen links).map GpuCard.card).Nodup ∧
    ∀ c ∈ snapshotFrom seen links, c.card ∉ seen := by
  induction links generalizing seen with
  | nil => exact ⟨List.nodup_nil, fun c hc => absurd hc List.not_mem_nil⟩
  | cons link rest ih =>
    unfold snapshotFrom
    split
    · exact ih seen
    · next hnew =>
      obtain ⟨hnodup, hseen⟩ := ih (seen ++ [link.card])
      have hlater : ∀ c ∈ snapshotFrom (seen ++ [link.card]) rest, c.card ∉ seen ∧
          c.card ≠ link.card := by
        intro c hc
        simpa using hseen c hc
      split
      · exact ⟨hnodup, fun c hc => (hlater c hc).1⟩
      · refine ⟨?_, fun c hc => ?_⟩
        · rw [List.map_cons, List.nodup_cons]
          refine ⟨fun h => ?_, hnodup⟩
          obtain ⟨c, hc, hcard⟩ := List.mem_map.mp h
          exact (hlater c hc).2 hcard
        · rcases List.mem_cons.mp hc with rfl | hc
          · intro hmem
            refine hnew ?_
            simp [hmem]
          · exact (hlater c hc).1

/-- A card stands once in the snapshot. -/
theorem nodup_cards (hw : Hardware) : (hw.cards.map GpuCard.card).Nodup :=
  (snapshotFrom_nodup [] hw.links).1

/-- With keys of their own, an element is found by its key. -/
theorem find?_of_nodup {α β : Type} [DecidableEq β] {key : α → β} {l : List α}
    (hnodup : (l.map key).Nodup) {c : α} (hc : c ∈ l) :
    l.find? (fun d => key d == key c) = some c := by
  induction l with
  | nil => cases hc
  | cons d rest ih =>
    obtain ⟨hnew, hrest⟩ := List.nodup_cons.mp hnodup
    rcases List.mem_cons.mp hc with rfl | hc
    · simp
    · have hne : key d ≠ key c := fun h => hnew (List.mem_map.mpr ⟨c, hc, h.symm⟩)
      rw [List.find?_cons_of_neg (by simpa using hne), ih hrest hc]

/-- What is demanded of a card of the snapshot. -/
theorem dpmDemand_card {integrated : Nat} (hintegrated : hw.integrated = some integrated)
    {c : GpuCard × Nat} (hc : c ∈ hw.cards.zipIdx) :
    hw.dpmDemand profile s c.1.card =
      if c.2 = integrated then some "auto"
      else
        match s (.runtimeStatus c.1.card) with
        | .text status => if status = "suspended" then none else some (dgpuDpm profile)
        | _ => none := by
  have hnodup : (hw.cards.zipIdx.map fun d => d.1.card).Nodup := by
    have h := nodup_cards hw
    rwa [← List.zipIdx_map_fst 0 hw.cards, List.map_map] at h
  rw [Hardware.dpmDemand, hintegrated, find?_of_nodup hnodup hc]

/-- One card's row follows the matrix. -/
theorem gpuRow_follows {integrated : Nat} (hintegrated : hw.integrated = some integrated)
    {c : GpuCard × Nat} (hc : c ∈ hw.cards.zipIdx) {a : Apply} (hreads : SameReads s a.sysfs) :
    Follows hw (demand hw profile s) (fun f => f == .dpmLevel c.1.card) a
      (gpuRow hw profile integrated a c) := by
  have hdem : demand hw profile s (.dpmLevel c.1.card) = _ := dpmDemand_card hintegrated hc
  have hnone : demand hw profile s (.dpmLevel c.1.card) = none →
      ∀ f : KnobFile, (f == .dpmLevel c.1.card) = true → demand hw profile s f = none := by
    intro h f hf
    rwa [beq_iff_eq.mp hf]
  unfold gpuRow
  dsimp only
  split
  · next hi => exact follows_write a _ (hdem.trans (if_pos hi))
  · next hi =>
    rw [if_neg hi, ← hreads.readOnly (.runtimeStatus c.1.card) rfl] at hdem
    split
    · next status hstatus =>
      rw [hstatus] at hdem
      split
      · next hsuspended =>
          exact follows_insert a _ (by decide) (hnone (hdem.trans (if_pos hsuspended)))
      · next hawake => exact follows_write a _ (hdem.trans (if_neg hawake))
    · next hstatus =>
      refine follows_insert a _ (by decide) (hnone ?_)
      rw [hdem]
      split
      · next status htext => exact absurd htext (hstatus status)
      · rfl

/-- The rows of some of the cards. -/
theorem foldl_gpuRow_follows {integrated : Nat} (hintegrated : hw.integrated = some integrated)
    {cards : List (GpuCard × Nat)} (hcards : ∀ c ∈ cards, c ∈ hw.cards.zipIdx) {a : Apply}
    (hreads : SameReads s a.sysfs) :
    Follows hw (demand hw profile s) (fun f => cards.any fun c => f == .dpmLevel c.1.card) a
      (cards.foldl (gpuRow hw profile integrated) a) := by
  induction cards generalizing a with
  | nil => exact ⟨[], rfl, fun f v => by simp, fun _ hnone => hnone⟩
  | cons c rest ih =>
    have hrow : Follows hw (demand hw profile s) (fun f => f == .dpmLevel c.1.card) a
        (gpuRow hw profile integrated a c) :=
          gpuRow_follows hintegrated (hcards c List.mem_cons_self) hreads
    exact hrow.trans
      (ih (fun d hd => hcards d (List.mem_cons_of_mem _ hd)) (hreads.trans hrow.sameReads))

/-- The files of the performance levels. -/
def KnobFile.isDpm : KnobFile → Bool
  | .dpmLevel _ => true
  | _ => false

/-- So do the rows of all the cards. -/
theorem gpuRows_follows (a : Apply) :
    Follows hw (demand hw profile a.sysfs) KnobFile.isDpm a (gpuRows hw profile a) := by
  have hnone : (∀ card, hw.dpmDemand profile a.sysfs card = none) →
      ∀ f : KnobFile, f.isDpm = true → demand hw profile a.sysfs f = none := by
    intro h f hf
    cases f with
    | dpmLevel card => exact h card
    | _ => cases hf
  unfold gpuRows
  split
  · next hempty =>
    refine follows_insert a _ (by decide) (hnone fun card => ?_)
    have hcards : hw.cards = [] := List.isEmpty_iff.mp hempty
    rw [Hardware.dpmDemand, Hardware.integrated, hcards]
    rfl
  split
  · next hintegrated =>
    refine follows_insert a _ (by decide) (hnone fun card => ?_)
    rw [Hardware.dpmDemand, hintegrated]
  · next integrated hintegrated =>
    refine (foldl_gpuRow_follows hintegrated (fun c hc => hc) (SameReads.refl a.sysfs)).widen
      fun f v hdem => ?_
    cases f with
    | dpmLevel card =>
      -- Something is demanded of the cards of the snapshot only.
      rw [demand, Hardware.dpmDemand, hintegrated] at hdem
      cases hfind : hw.cards.zipIdx.find? fun c => c.1.card == card with
      | none => rw [hfind] at hdem; cases hdem
      | some c =>
        have hcard : c.1.card = card := by simpa using List.find?_some hfind
        refine iff_of_true (List.any_eq_true.mpr ⟨c, List.mem_of_find?_eq_some hfind, ?_⟩) rfl
        rw [hcard, beq_self_eq_true]
    | _ => simp [KnobFile.isDpm]

/-! ### ASPM -/

/-- The brackets of the selected option are trimmed. -/
theorem trimBrackets_brackets {t : Text} (ht : ∀ c ∈ t, (c == '[' || c == ']') = false) :
    trimBrackets ("[".toList ++ t ++ "]".toList) = t := by
  refine Text.trim_eq_iff.mpr
    ⟨⟨fun c hc => ht c (List.mem_of_head? hc), fun c hc => ht c (List.mem_of_getLast? hc)⟩,
    "[".toList, "]".toList, rfl, List.all_eq_true.mp (by decide), List.all_eq_true.mp (by decide)⟩

/-- The options that an accepted write leaves. -/
def optionsOf (opts : String) (t : Text) : List Text :=
  (((splitWhitespace opts).map trimBrackets).filter fun o => !o.isEmpty).map fun o =>
    if o = t then "[".toList ++ o ++ "]".toList else o

/-- The options with one selected are the same options. -/
theorem splitWhitespace_bracketed (opts value : String) :
    splitWhitespace (bracketed opts value) = optionsOf opts value.toList := by
  have hopts : ∀ w ∈ optionsOf opts value.toList, w ≠ [] ∧ ∀ c ∈ w, isWhitespace c = false := by
    intro w hw
    obtain ⟨o, ho, rfl⟩ := List.mem_map.mp hw
    obtain ⟨ho, hne⟩ := List.mem_filter.mp ho
    obtain ⟨v, hv, rfl⟩ := List.mem_map.mp ho
    have hblank : ∀ c ∈ trimBrackets v, isWhitespace c = false := fun c hc =>
      (Text.of_mem_words hv).2 c (Text.mem_of_mem_trim hc)
    split
    · refine ⟨by simp, fun c hc => ?_⟩
      rcases List.mem_append.mp hc with hc | hc
      · rcases List.mem_append.mp hc with hc | hc
        · obtain rfl := List.mem_singleton.mp hc
          decide
        · exact hblank c hc
      · obtain rfl := List.mem_singleton.mp hc
        decide
    · exact ⟨by simpa using hne, hblank⟩
  unfold splitWhitespace bracketed
  rw [String.toList_ofList]
  exact Text.words_unwords (by decide) hopts

/-- An option that was written is read back as the current one. -/
theorem aspmCurrent_bracketed {opts value : String} (hne : value.toList ≠ [])
    (hvalue : ∀ c ∈ value.toList, (c == '[' || c == ']') = false)
    (hvalid : (splitWhitespace opts).any (fun o => trimBrackets o == value.toList) = true) :
    (splitWhitespace (bracketed opts value)).any (fun o => trimBrackets o == value.toList) = true ∧
      aspmCurrent (bracketed opts value) = some value.toList := by
  have hbrackets := trimBrackets_brackets hvalue
  unfold aspmCurrent
  rw [splitWhitespace_bracketed]
  generalize value.toList = t at hne hvalid hbrackets
  have hmem : "[".toList ++ t ++ "]".toList ∈ optionsOf opts t := by
    obtain ⟨w, hw, htrim⟩ := List.any_eq_true.mp hvalid
    have htrim := beq_iff_eq.mp htrim
    refine List.mem_map.mpr
      ⟨t, List.mem_filter.mpr ⟨List.mem_map.mpr ⟨w, hw, htrim⟩, ?_⟩, if_pos rfl⟩
    simpa using hne
  -- The options that start with a bracket are the one that was written.
  have hbracket : ∀ w ∈ optionsOf opts t, "[".toList.isPrefixOf w = true →
      w = "[".toList ++ t ++ "]".toList := by
    intro w hw hprefix
    obtain ⟨o, ho, rfl⟩ := List.mem_map.mp hw
    by_cases hot : o = t
    · rw [if_pos hot, hot]
    · rw [if_neg hot] at hprefix
      obtain ⟨v, -, rfl⟩ := List.mem_map.mp (List.mem_filter.mp ho).1
      obtain ⟨⟨hstart, -⟩, -⟩ := Text.trim_eq_iff.mp (rfl : trimBrackets v = trimBrackets v)
      obtain ⟨rest, hrest⟩ := List.isPrefixOf_iff_prefix.mp hprefix
      have hhead : '[' ∈ (trimBrackets v).head? := by rw [← hrest]; rfl
      exact absurd (hstart _ hhead) (by decide)
  refine ⟨List.any_eq_true.mpr ⟨_, hmem, beq_iff_eq.mpr hbrackets⟩, ?_⟩
  cases hfind : (optionsOf opts t).find? fun o => "[".toList.isPrefixOf o with
  | none => exact absurd rfl (List.find?_eq_none.mp hfind _ hmem)
  | some w =>
    have hw := hbracket w (List.mem_of_find?_eq_some hfind) (List.find?_some hfind)
    rw [Option.map_some, hw, hbrackets]

/-- No policy of the matrix has a bracket in it. -/
theorem aspm_chars (profile : PowerProfile) :
    (aspm profile).toList ≠ [] ∧ ∀ c ∈ (aspm profile).toList, (c == '[' || c == ']') = false := by
  have hall : (aspm profile).toList.all (fun c => !(c == '[' || c == ']')) = true := by
    cases profile <;> decide
  refine ⟨by cases profile <;> decide, fun c hc => ?_⟩
  simpa using List.all_eq_true.mp hall c hc

/-- A row that changes nothing. -/
def Quiet (a a' : Apply) : Prop := a'.sysfs = a.sysfs ∧ (NoneWritten a.res → NoneWritten a'.res)

/-- A row that is not `written` is a quiet one. -/
theorem quiet_insert (a : Apply) (label : String) {status : String} (hstatus : status ≠ "written") :
    Quiet a (a.insert label status) := ⟨rfl, fun hnone => hnone.update label hstatus⟩

/-- A write that leaves the file as it is. -/
theorem quiet_write {a : Apply} {label : String} {file : KnobFile} {value : String}
    (hkeep : (hw.knobWrite file value (a.sysfs file)).1 = a.sysfs file)
    (hstatus : (hw.knobWrite file value (a.sysfs file)).2 ≠ "written") :
    Quiet a (a.write hw label file value) := by
  refine ⟨?_, fun hnone => hnone.update label hstatus⟩
  show Function.update a.sysfs file (hw.knobWrite file value (a.sysfs file)).1 = a.sysfs
  rw [hkeep, Function.update_eq_self]

/-- The ASPM row leaves its file settled: run again, it changes nothing. -/
theorem aspmRow_again (hw : Hardware) (profile : PowerProfile) (writable : Bool) (a : Apply)
    {a' : Apply}
    (hfile : a'.sysfs .aspmPolicy = (aspmRow hw profile writable a).sysfs .aspmPolicy) :
    Quiet a' (aspmRow hw profile writable a') := by
  unfold aspmRow at hfile
  split at hfile
  · next hmissing =>
    have hattr : a'.sysfs .aspmPolicy = .missing := hfile.trans hmissing
    simp only [aspmRow, hattr]
    exact quiet_insert a' _ (by decide)
  · next err herr =>
    have hattr : a'.sysfs .aspmPolicy = .unreadable err := hfile.trans herr
    simp only [aspmRow, hattr]
    refine quiet_insert a' _ ?_
    split
    · decide
    · exact error_ne_written err
  · next opts htext =>
    split at hfile
    · next hwritable =>
      have hattr : a'.sysfs .aspmPolicy = .text opts := hfile.trans htext
      simp only [aspmRow, hattr, if_pos hwritable]
      exact quiet_insert a' _ (by decide)
    next hwritable =>
    split at hfile
    · next hinvalid =>
      have hattr : a'.sysfs .aspmPolicy = .text opts := hfile.trans htext
      simp only [aspmRow, hattr, if_neg hwritable, if_pos hinvalid]
      exact quiet_insert a' _ (by decide)
    next hvalid =>
    split at hfile
    · next hcurrent =>
      have hattr : a'.sysfs .aspmPolicy = .text opts := hfile.trans htext
      simp only [aspmRow, hattr, if_neg hwritable, if_neg hvalid, if_pos hcurrent]
      exact quiet_insert a' _ (by decide)
    next hcurrent =>
    have hfile : a'.sysfs .aspmPolicy =
        (hw.knobWrite .aspmPolicy (aspm profile) (.text opts)).1 := by
      rw [hfile, write_file, htext]
    have hkept : ∀ status, hw.knobWrite .aspmPolicy (aspm profile) (.text opts) =
        (.text opts, status) →
        status ≠ "written" → Quiet a' (aspmRow hw profile writable a') := by
      intro status hwrite hstatus
      rw [hwrite] at hfile
      simp only [aspmRow, hfile, if_neg hwritable, if_neg hvalid, if_neg hcurrent]
      refine quiet_write ?_ ?_
      · rw [hfile, hwrite]
      · rw [hfile, hwrite]
        exact hstatus
    -- The text is the option alone, or the write ends in one of three ways.
    by_cases hcur : opts = aspm profile
    · exact hkept "unchanged" (if_pos hcur) (by decide)
    · cases hres : hw.respond .aspmPolicy (aspm profile) with
      | ok =>
        have hattr : a'.sysfs .aspmPolicy = .text (bracketed opts (aspm profile)) := by
          rw [hfile]
          simp [Hardware.knobWrite, hcur, hres, readBack]
        rw [Bool.not_eq_true', Bool.not_eq_false] at hvalid
        obtain ⟨hne, hchars⟩ := aspm_chars profile
        obtain ⟨hvalid', hcurrent'⟩ := aspmCurrent_bracketed hne hchars hvalid
        simp only [aspmRow, hattr, if_neg hwritable, hvalid', hcurrent', Bool.not_true,
          Bool.false_eq_true, if_false, if_true]
        exact quiet_insert a' _ (by decide)
      | unsupported =>
        refine hkept "skipped-unsupported" ?_ (by decide)
        simp [Hardware.knobWrite, hcur, hres]
      | failed err =>
        refine hkept ("error:" ++ err) ?_ (error_ne_written err)
        simp [Hardware.knobWrite, hcur, hres]

/-! ## An apply -/

/-- The files of the first four rows. -/
def ofRows (f : KnobFile) : Bool :=
  f == .platformProfile || (f.isGovernor || f.isPreference) ||
    (f == .boost || f == .noTurbo) || f.isDpm

/-- What is demanded is of a row. -/
theorem ofRows_of_demand {f : KnobFile} {v : String} (h : demand hw profile s f = some v) :
    ofRows f = true := by
  cases f with
  | platformProfileChoices => cases h
  | scalingDriver policy => cases h
  | scalingAvailableGovernors policy => cases h
  | runtimeStatus card => cases h
  | aspmPolicy => cases h
  | _ => simp [ofRows, KnobFile.isGovernor, KnobFile.isPreference, KnobFile.isDpm]

/-- The four rows before that of ASPM. -/
def fourRows (hw : Hardware) (profile : PowerProfile) (s : Sysfs) : Apply :=
  gpuRows hw profile (boostRow hw profile (cpuRows hw profile
    (platformRow hw profile { sysfs := s, res := fun _ => none })))

/-- The four rows follow the matrix together. -/
theorem fourRows_follows (hw : Hardware) (profile : PowerProfile) (s : Sysfs) :
    Follows hw (demand hw profile s) ofRows { sysfs := s, res := fun _ => none }
      (fourRows hw profile s) := by
  have hplatform : Follows hw (demand hw profile s) _ _
      (platformRow hw profile { sysfs := s, res := fun _ => none }) :=
    platformRow_follows _
  unfold fourRows
  generalize platformRow hw profile { sysfs := s, res := fun _ => none } = a₁ at hplatform ⊢
  have hcpu : Follows hw (demand hw profile a₁.sysfs) _ a₁ (cpuRows hw profile a₁) :=
    cpuRows_follows a₁
  rw [demand_congr hplatform.sameReads] at hcpu
  have h₂ := hplatform.trans hcpu
  generalize cpuRows hw profile a₁ = a₂ at h₂ ⊢
  have hboost : Follows hw (demand hw profile a₂.sysfs) _ a₂ (boostRow hw profile a₂) :=
    boostRow_follows a₂
  rw [demand_congr h₂.sameReads] at hboost
  have h₃ := h₂.trans hboost
  generalize boostRow hw profile a₂ = a₃ at h₃ ⊢
  have hgpu : Follows hw (demand hw profile a₃.sysfs) _ a₃ (gpuRows hw profile a₃) :=
    gpuRows_follows a₃
  rw [demand_congr h₃.sameReads] at hgpu
  exact h₃.trans hgpu

/-- What a file holds after the four rows: the put of what is demanded of it, and nothing new where
nothing is. -/
theorem fourRows_file (hw : Hardware) (profile : PowerProfile) (s : Sysfs) (f : KnobFile) :
    (fourRows hw profile s).sysfs f =
      match demand hw profile s f with
      | some v => (hw.knobWrite f v (s f)).1
      | none => s f := by
  obtain ⟨plan, hsysfs, hmem, -⟩ := fourRows_follows hw profile s
  rw [hsysfs]
  cases hdem : demand hw profile s f with
  | none =>
    refine attempt_of_not_mem (fun v hv => ?_) s
    rw [((hmem f v).mp hv).2] at hdem
    cases hdem
  | some v =>
    have hplan : Functional plan := by
      rintro ⟨f₁, v₁⟩ h₁ ⟨f₂, v₂⟩ h₂ rfl
      exact Option.some.inj (((hmem f₁ v₁).mp h₁).2.symm.trans ((hmem f₁ v₂).mp h₂).2)
    have hf := (not_readOnly_of_demand hdem).2
    exact attempt_of_mem hplan ((hmem f v).mpr ⟨ofRows_of_demand hdem, hdem⟩)
      (fun attr => (knobWrite_knobWrite hf v attr).1) s

/-- The ASPM row touches the file of the policy alone. -/
theorem aspmRow_file (hw : Hardware) (profile : PowerProfile) (writable : Bool) (a : Apply) :
    SameReads a.sysfs (aspmRow hw profile writable a).sysfs ∧
      ∀ f, f ≠ .aspmPolicy → (aspmRow hw profile writable a).sysfs f = a.sysfs f := by
  have hkeep : ∀ label status, SameReads a.sysfs (a.insert label status).sysfs ∧
      ∀ f : KnobFile, f ≠ .aspmPolicy → (a.insert label status).sysfs f = a.sysfs f :=
    fun label status => ⟨SameReads.refl _, fun _ _ => rfl⟩
  unfold aspmRow
  split
  · exact hkeep _ _
  · exact hkeep _ _
  split
  · exact hkeep _ _
  split
  · exact hkeep _ _
  split
  · exact hkeep _ _
  · have hother : ∀ f, f ≠ .aspmPolicy →
        (a.write hw "pcie_aspm" .aspmPolicy (aspm profile)).sysfs f = a.sysfs f := fun f hf =>
      Function.update_of_ne hf _ _
    refine ⟨⟨fun f hf => hother f ?_, fun f => ?_⟩, hother⟩
    · rintro rfl
      cases hf
    · by_cases hf : f = .aspmPolicy
      · subst hf
        rw [write_file, knobWrite_missing]
      · rw [hother f hf]

/-- What decides the rows is the same after an apply. -/
theorem sameReads_powerdApply (hw : Hardware) (profile : PowerProfile) (writable : Bool)
    (s : Sysfs) : SameReads s (powerdApply hw profile writable s).sysfs :=
  (fourRows_follows hw profile s).sameReads.trans
    (aspmRow_file hw profile writable (fourRows hw profile s)).1

/-- What a file but ASPM's holds after an apply. -/
theorem powerdApply_file (hw : Hardware) (profile : PowerProfile) (writable : Bool) (s : Sysfs)
    {f : KnobFile} (hf : f ≠ .aspmPolicy) :
    (powerdApply hw profile writable s).sysfs f =
      match demand hw profile s f with
      | some v => (hw.knobWrite f v (s f)).1
      | none => s f :=
  ((aspmRow_file hw profile writable (fourRows hw profile s)).2 f hf).trans
    (fourRows_file hw profile s f)

/-- Applying a profile twice changes nothing the second time: on any hardware, whatever files are
there, whatever they hold and whichever writes are rejected, a second apply of the same profile
leaves sysfs as the first one left it, and no row reports a write.
-/
theorem powerdApply_twice (hw : Hardware) (profile : PowerProfile) (writable : Bool) (s : Sysfs) :
    (powerdApply hw profile writable (powerdApply hw profile writable s).sysfs).sysfs =
        (powerdApply hw profile writable s).sysfs ∧
      ∀ label, (powerdApply hw profile writable (powerdApply hw profile writable s).sysfs).res
        label ≠
        some "written" := by
  have hdemand : demand hw profile _ = demand hw profile s :=
    demand_congr (sameReads_powerdApply hw profile writable s)
  have hfile := fun f (hf : f ≠ KnobFile.aspmPolicy) => powerdApply_file hw profile writable s hf
  generalize hs₁ : (powerdApply hw profile writable s).sysfs = s₁ at hdemand hfile ⊢
  -- The four rows find their files settled.
  have hrows : Quiet { sysfs := s₁, res := fun _ => none } (fourRows hw profile s₁) := by
    obtain ⟨plan, hsysfs, hmem, hres⟩ := fourRows_follows hw profile s₁
    have hsettled : ∀ p ∈ plan, (hw.knobWrite p.1 p.2 (s₁ p.1)).1 = s₁ p.1 ∧
        (hw.knobWrite p.1 p.2 (s₁ p.1)).2 ≠ "written" := by
      rintro ⟨f, v⟩ hp
      have hdem := ((hmem f v).mp hp).2
      rw [hdemand] at hdem
      have hf := (not_readOnly_of_demand hdem).2
      have hvalue : s₁ f = (hw.knobWrite f v (s f)).1 := by rw [hfile f hf, hdem]
      rw [hvalue]
      exact knobWrite_knobWrite hf v (s f)
    have hattempt : attempt hw.knobWrite plan s₁ = _ := attempt_of_settled fun p hp =>
      (hsettled p hp).1
    refine ⟨by rw [hsysfs, hattempt], hres fun status h => ?_⟩
    rw [hattempt] at h
    obtain ⟨p, hp, rfl⟩ := List.mem_map.mp h
    exact (hsettled p hp).2
  have haspm : Quiet (fourRows hw profile s₁) (powerdApply hw profile writable s₁) := by
    refine aspmRow_again hw profile writable (fourRows hw profile s) ?_
    rw [hrows.1, ← hs₁]
    rfl
  refine ⟨haspm.1.trans hrows.1, haspm.2 (hrows.2 fun label h => ?_)⟩
  cases h

end Hyprstate.Knobs
