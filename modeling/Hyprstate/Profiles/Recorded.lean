import Hyprstate.Daemon.Invariant

/-!
# The profile on record

The context names the applied profile, keeps its body, and takes the panel's policy from it. A
monitor change records the profile that matches, an external repoint of the link the one that it
names, and the start the one that the link named before. Whichever did it, the record is of one
profile that was loaded (`Recorded`), and the hooks of a profile run only once the link points at it
and it is on record (`Vetted`).
-/

namespace Hyprstate

open Reactive Process

/-- The body on record is that of the named profile, and the panel's policy is its own. -/
def Context.Recorded (c : Context) : Prop :=
  ∀ p, c.activeProfileRev = some p → c.currentProfile = some p.name ∧ c.edpPolicy = p.edp

/-- The profiles that a request was answered. -/
def loadedBy : DaemonObs → List MonitorProfile
  | ⟨(_, .loadProfiles), profiles⟩ => profiles
  | _ => []

/-- Where a request has put the link. -/
def repointedBy : DaemonObs → Option String
  | ⟨(_, .repointActive name), ok⟩ => if ok then some name else none
  | _ => none

/-- Where the daemon has put the link last. -/
def lastRepoint (seen : List DaemonObs) : Option String := (seen.filterMap repointedBy).getLast?

/-- The profile was loaded. -/
def Loaded (seen : List DaemonObs) (p : MonitorProfile) : Prop := ∃ o ∈ seen, p ∈ loadedBy o

/-- A hook is one of the profile on record, which was loaded and has the link. -/
def Vetted (c : Context) (e : Eff) (seen : List DaemonObs) : Prop :=
  ∀ hook, e = .trySend (.runHook hook) →
    ∃ p, c.activeProfileRev = some p ∧ hook ∈ p.hooks ∧ Loaded seen p ∧
      lastRepoint seen = some p.name

/-- What the context keeps of the profile. -/
abbrev profileView (c : Context) : Option String × Option MonitorProfile × EdpPolicy :=
  (c.currentProfile, c.activeProfileRev, c.edpPolicy)

/-- The view is of one profile, which was loaded. -/
def RecordedIn (v : Option String × Option MonitorProfile × EdpPolicy) (seen : List DaemonObs) :
    Prop :=
  ∀ p, v.2.1 = some p → (v.1 = some p.name ∧ v.2.2 = p.edp) ∧ Loaded seen p

/-- The pieces that record what was loaded and run hooks that are vetted. -/
abbrev KeepsRecord {α : Type} (x : Daemon α) : Prop :=
  Stays (fun _ => True) World.record Vetted (fun c seen => RecordedIn (profileView c) seen) x

/-- A profile that was loaded stays loaded. -/
theorem Loaded.record {seen : List DaemonObs} {p : MonitorProfile} (h : Loaded seen p)
    (o : DaemonObs) : Loaded (World.record seen o) p := by
  obtain ⟨o', ho', hp⟩ := h
  exact ⟨o', List.mem_append_left _ ho', hp⟩

/-- A record of a loaded profile stays one. -/
theorem RecordedIn.record {v : Option String × Option MonitorProfile × EdpPolicy}
    {seen : List DaemonObs} (h : RecordedIn v seen) (o : DaemonObs) :
    RecordedIn v (World.record seen o) :=
  fun p hp =>
  ⟨(h p hp).1, (h p hp).2.record o⟩

/-- The requests for a hook. -/
abbrev Eff.isHook (e : Eff) : Prop := ∃ hook, e = .trySend (.runHook hook)

/-- A hook is a command. -/
theorem resource_of_hook {e : Eff} (he : e.isHook) : e.resource = .command := by
  obtain ⟨hook, rfl⟩ := he
  rfl

/-- A request that is no hook is vetted. -/
theorem vetted_of_not_hook {c : Context} {e : Eff} {seen : List DaemonObs} (he : ¬e.isHook) :
    Vetted c e seen := fun hook heq => absurd ⟨hook, heq⟩ he

/-- So is one of another resource. -/
theorem vetted_of_quiet {c : Context} {e : Eff} {seen : List DaemonObs}
    (he : e.resource ≠ .command) : Vetted c e seen :=
  vetted_of_not_hook (mt resource_of_hook he)

/-- No piece of a turn but the profile's apply runs a hook. -/
theorem apart_hook : PiecesApart Eff.isHook where
  plain e _ hcommand := by
    rintro ⟨hook, rfl⟩
    exact hcommand rfl
  routine e he := by
    rintro ⟨hook, rfl⟩
    cases he

/-- What leaves the profile keeps its record. -/
theorem keepsRecord_of_leaves {α : Type} {x : Daemon α} (hx : Leaves Eff.isHook profileView x) :
    KeepsRecord x := by
  refine Stays.of_leaves (J := RecordedIn) hx (fun _ _ _ he => vetted_of_not_hook he) ?_
  exact fun v c e seen b _ _ hv => hv.record _

section

variable (fx : Effectors)

/-- What was found by its name is of that name. -/
theorem name_of_find {name : String} {profiles : List MonitorProfile} {p : MonitorProfile}
    (h : profiles.find? (fun p => p.name == name) = some p) : p ∈ profiles ∧ p.name = name :=
  ⟨List.mem_of_find?_eq_some h, by simpa using List.find?_some h⟩

/-- What a load answers is loaded. -/
theorem loaded_record (c : Context) (seen : List DaemonObs) {profiles : List MonitorProfile}
    {p : MonitorProfile} (hp : p ∈ profiles) :
    Loaded (World.record seen ⟨(c, .loadProfiles), profiles⟩) p :=
  ⟨_, List.mem_append_right _ (List.mem_singleton_self _), hp⟩

/-- The match is one of the profiles that were loaded for it. -/
theorem currentMatch_loads (c : Context) (seen : List DaemonObs)
    (hI : RecordedIn (profileView c) seen) :
    Wp (World.observer (fun _ => True) World.record) Vetted (fun chosen c' seen' =>
      RecordedIn (profileView c') seen' ∧ ∀ p, chosen = some p → Loaded seen' p)
        Effectors.currentMatch c seen := by
  rw [Effectors.currentMatch, Hyprctl.monitorSignature, bind_assoc, wp_observer_ask_bind]
  refine ⟨vetted_of_quiet (by simp), fun monitors _ => ?_⟩
  rw [pure_bind, wp_observer_ask_bind]
  refine ⟨vetted_of_quiet (by simp), fun profiles _ => ?_⟩
  rw [wp_observer_ask_bind]
  refine ⟨vetted_of_quiet (by simp), fun selected _ => ?_⟩
  rw [wp_observer_pure]
  refine ⟨((hI.record _).record _).record _, fun p hp => ?_⟩
  obtain ⟨s, -, hfind⟩ := Option.bind_eq_some_iff.mp hp
  exact (loaded_record c _ (name_of_find hfind).1).record _

/-- The hooks of a profile that is on record and has the link. -/
theorem hooks_vetted {p : MonitorProfile} {c : Context} (hrev : c.activeProfileRev = some p)
    (hrec : profileView c = (some p.name, some p, p.edp)) (hooks : List String)
    (hsub : hooks ⊆ p.hooks) (seen : List DaemonObs) (hload : Loaded seen p)
    (hlink : lastRepoint seen = some p.name) :
    Wp (World.observer (fun _ => True) World.record) Vetted
      (fun _ c' seen' => RecordedIn (profileView c') seen')
      (hooks.forM fun hook => (⟨false, fx.session⟩ : Effectors).sendCmd
        (.runHook hook)) c seen := by
  induction hooks generalizing seen with
  | nil =>
    refine wp_observer_pure.mpr fun p' hp' => ?_
    rw [hrec] at hp' ⊢
    obtain rfl := Option.some.inj hp'
    exact ⟨⟨rfl, rfl⟩, hload⟩
  | cons hook hooks ih =>
    obtain ⟨hhook, hrest⟩ := List.cons_subset.mp hsub
    show Wp _ _ _ ((request (.trySend (.runHook hook)) >>= fun _ => pure ()) >>= fun _ => _) c seen
    rw [bind_assoc, wp_observer_ask_bind]
    refine ⟨?_, fun ok _ => ih hrest _ (hload.record _) ?_⟩
    · rintro _ heq
      obtain rfl := Cmd.runHook.inj (Eff.trySend.inj heq)
      exact ⟨p, hrev, hhook, hload, hlink⟩
    · simpa [lastRepoint, World.record, repointedBy] using hlink

/-- A loaded profile is recorded as a whole, and its hooks run with the link on it. -/
theorem applyProfile_keepsRecord (p : MonitorProfile) (c : Context) (seen : List DaemonObs)
    (hI : RecordedIn (profileView c) seen) (hload : Loaded seen p) :
    Wp (World.observer (fun _ => True) World.record) Vetted
      (fun _ c' seen' => RecordedIn (profileView c') seen')
      (fx.applyProfile p) c seen := by
  rw [Effectors.applyProfile, wp_observer_ask_bind]
  refine ⟨vetted_of_quiet (by simp), fun symlinkOk _ => ?_⟩
  rw [wp_get_bind, wp_when]
  refine ⟨fun _ => ?_, fun _ => wp_observer_pure.mpr (hI.record _)⟩
  -- In live mode the link is on the profile when the hooks go out.
  have hrest : ∀ (repointed : Bool) (seen : List DaemonObs), RecordedIn (profileView c) seen →
      Loaded seen p →
      (fx.shadow = false → repointed = true → lastRepoint seen = some p.name) →
      Wp (World.observer (fun _ => True) World.record) Vetted
        (fun _ c' seen' => RecordedIn (profileView c') seen')
        (when repointed (do
          modify fun c => { c with
            currentProfile := some p.name
            activeProfileRev := some p
            edpPolicy := p.edp }
          when (!fx.shadow) do
            fx.sendCmd .applyProfile
            p.hooks.forM fun hook => fx.sendCmd (.runHook hook))) c seen := by
    intro repointed seen hI hload hlink
    rw [wp_when]
    refine ⟨fun hrep => ?_, fun _ => wp_observer_pure.mpr hI⟩
    have hwhole : ∀ seen : List DaemonObs, Loaded seen p →
        RecordedIn (some p.name, some p, p.edp) seen := by
      rintro seen hload p' hp'
      obtain rfl := Option.some.inj hp'
      exact ⟨⟨rfl, rfl⟩, hload⟩
    rw [wp_modify_bind, wp_when]
    refine ⟨fun hlive => ?_, fun _ => wp_observer_pure.mpr (hwhole seen hload)⟩
    obtain ⟨shadow, session⟩ := fx
    obtain rfl : shadow = false := by simpa using hlive
    show Wp _ _ _ ((request (.trySend .applyProfile) >>= fun _ => pure ()) >>= fun _ => _) _ seen
    rw [bind_assoc, wp_observer_ask_bind]
    refine ⟨vetted_of_not_hook (by rintro ⟨_, h⟩; cases h), fun ok _ => ?_⟩
    refine hooks_vetted ⟨false, session⟩ (by rfl) rfl p.hooks (List.Subset.refl _) _
      (hload.record _) ?_
    have hput := hlink rfl hrep
    simpa [lastRepoint, World.record, repointedBy] using hput
  by_cases hs : fx.shadow = true
  · rw [if_pos hs, pure_bind]
    exact hrest true _ (hI.record _) (hload.record _) fun h => absurd (hs.symm.trans h) (by decide)
  · rw [if_neg hs, wp_observer_ask_bind]
    refine ⟨vetted_of_quiet (by simp), fun ok _ => ?_⟩
    refine hrest ok _ ((hI.record _).record _) ((hload.record _).record _) fun _ hok => ?_
    simp [lastRepoint, World.record, repointedBy, show ok = true from hok]

/-- What an external repoint is taken for is the profile that the link names, as it was loaded. -/
theorem ingest_keepsRecord : KeepsRecord Effectors.ingestActiveProfile := by
  intro c seen hI
  rw [Effectors.ingestActiveProfile, wp_observer_ask_bind]
  refine ⟨vetted_of_quiet (by simp), fun active _ => ?_⟩
  cases active with
  | none => exact wp_observer_pure.mpr (hI.record _)
  | some name =>
    rw [wp_get_bind, wp_ite]
    refine ⟨fun _ => wp_observer_pure.mpr (hI.record _), fun _ => ?_⟩
    rw [wp_observer_ask_bind]
    refine ⟨vetted_of_quiet (by simp), fun profiles _ => ?_⟩
    rw [wp_modify_bind, wp_observer_pure]
    intro p hp
    have hfind : profiles.find? (fun p => p.name == name) = some p := hp
    obtain ⟨hmem, hname⟩ := name_of_find hfind
    exact ⟨⟨by simp [hname], by simp [hfind]⟩, loaded_record c _ hmem⟩

/-- The start records the profile that the link names, where it was loaded. -/
theorem seedProfile_records (c : Context) (seen : List DaemonObs)
    (hrev : c.activeProfileRev = none) (hI : RecordedIn (profileView c) seen) :
    Wp (World.observer (fun _ => True) World.record) Vetted
      (fun _ c' seen' => RecordedIn (profileView c') seen')
      Effectors.seedProfile c seen := by
  rw [Effectors.seedProfile, wp_observer_ask_bind]
  refine ⟨vetted_of_quiet (by simp), fun active _ => ?_⟩
  cases active with
  | none => exact wp_observer_pure.mpr (hI.record _)
  | some name =>
    rw [wp_observer_ask_bind]
    refine ⟨vetted_of_quiet (by simp), fun profiles _ => ?_⟩
    cases hfind : profiles.find? (fun p => p.name == name) with
    | none =>
      exact wp_observer_modify.mpr fun p hp => absurd (hrev.symm.trans hp) (by simp)
    | some p =>
      obtain ⟨hmem, hname⟩ := name_of_find hfind
      rw [wp_modify_bind, wp_observer_modify]
      intro p' hp'
      obtain rfl := Option.some.inj hp'
      exact ⟨⟨by simp [hname], rfl⟩, loaded_record c _ hmem⟩

/-- Only what applies, forgets or reads a profile moves the record. -/
theorem recordInvariant : GroupInvariant fx (fun _ => True) World.record Vetted
    (fun c seen => RecordedIn (profileView c) seen) := by
  -- Every piece but the match and the link's read runs no hook and leaves the profile.
  have hframed : ∀ rs, Resource.command ∉ rs → Frames (fun _ => True) World.record Vetted
      (fun c seen => RecordedIn (profileView c) seen) rs profileView := fun rs hrs =>
    framed_of_view (R := Eff.isHook) (fun e he => resource_of_hook he ▸ hrs)
      (fun _ _ _ => vetted_of_not_hook)
      fun _ _ _ _ _ _ _ hv => hv.record _
  have hgroups : ∀ c c' : Context, c'.groups = c.groups →
      profileView c' = profileView c := fun c c' hc =>
    congrArg (fun g : Groups => (g.currentProfile, g.activeProfileRev, g.edpPolicy)) hc
  exact {
    matched := fun f hf c seen hI => by
      refine (currentMatch_loads c seen hI).bind fun chosen c seen hI => ?_
      cases chosen with
      | none => exact hf none _ seen (by rintro p hp; cases hp)
      | some p =>
        exact (applyProfile_keepsRecord fx p c seen hI.1 (hI.2 p rfl)).bind fun _ => hf (some p)
    ingest := ingest_keepsRecord
    toPowerPieces := .of_apart (J := RecordedIn) apart_hook keepsRecord_of_leaves
      fun _ _ _ _ _ => rfl
    toBrightnessPieces := .of_view (J := RecordedIn) (hframed [.query, .light] (by decide))
      (fun _ => id) fun _ _ => rfl
    toKbdPieces := .of_view (J := RecordedIn)
      (hframed [.query, .light, .file, .kbdOverride] (by decide)) (fun _ => id)
      fun _ _ => rfl
    toCallPieces := .of_view (J := RecordedIn) (hframed [.query, .powerd] (by decide)) (fun _ => id)
      fun _ _ _ => rfl
    toTaskPieces :=
      .of_view (J := RecordedIn) (hframed [.query, .abort, .timer, .graceTimer] (by decide))
      (fun _ => id) fun _ _ _ _ _ => rfl
    toCommandPieces := .of_apart (J := RecordedIn) apart_hook keepsRecord_of_leaves
      (by rintro ⟨_, h⟩; cases h)
      (by rintro ⟨_, h⟩; cases h) fun _ _ _ _ => rfl
    core := fun c c' seen hc hI => hgroups c c' hc ▸ hI
    frame := fun hx hrs hQ => hframed framedResources (by decide) hx hrs fun c a c' hc =>
      hgroups c c' (hQ c a c' hc)
    drift := fun trigger mode source => keepsRecord_of_leaves (checkAndNotifyDrift_leaves _
      (fun e he hhook => absurd (he.symm.trans (resource_of_hook hhook)) (by decide))
        (fun _ _ => by rintro ⟨_, h⟩; cases h)
      (fun _ _ _ => rfl) trigger mode source) }

/-- The setup records a profile that it loaded. -/
theorem setup_records : Wp (World.observer (fun _ => True) World.record) Vetted
    (fun _ c' seen' => RecordedIn (profileView c') seen') fx.setup {} [] := by
  refine (recordInvariant fx).setup (fun _ _ _ hI => hI) (fun conf => keepsRecord_of_leaves ?_)
    seedProfile_records (by rintro p hp; cases hp) rfl
  refine .of_meets (fun c => seedKbd_spec c conf) (fun _ _ e he hhook => ?_)
    (by rintro _ _ _ ⟨k, rfl⟩; rfl)
  have hmem : e.resource ∈ [Resource.query, .kbdOverride] := he
  exact absurd (resource_of_hook hhook ▸ hmem) (by decide)

/-- So does a handler. -/
theorem handle_records (ev : Event) : KeepsRecord (fx.handle ev) := fun c seen hI => by
  refine (recordInvariant fx).handle ?_
  by_cases hev : ev = .powerdAppeared
  · subst hev
    rw [Effectors.dispatchUpdate, wp_modify_bind, wp_modify_bind, wp_observer_pure]
    split <;> exact hI
  · exact (recordInvariant fx).dispatchUpdate ev hev c seen hI

end

/-- In every run the context's record is of one profile, which was loaded in the run, and every hook
that was run is a hook of the profile on record, which was loaded and had the link when the hook was
asked for. -/
theorem Run.profileRecorded {fx : Effectors} {tr₀ : List DaemonObs} {ts : List Turn} {c : Context}
    (h : Run fx tr₀ ts c) :
    c.Recorded ∧ (∀ p, c.activeProfileRev = some p → Loaded (requested tr₀ ts) p) ∧
      ∀ pre o post, requested tr₀ ts = pre ++ o :: post → Vetted o.1.1 o.1.2 pre := by
  obtain ⟨halong, hrec⟩ := h.recorded (setup_records fx) (recordInvariant fx).startup
    (handle_records fx)
    fun _ _ => trivial
  rw [along_iff_split] at halong
  rw [World.foldl_record, List.nil_append] at hrec
  refine ⟨fun p hp => (hrec p hp).1, fun p hp => (hrec p hp).2, fun pre o post heq => ?_⟩
  have hvetted := halong pre o post heq
  rwa [World.foldl_record, List.nil_append] at hvetted

/-- The profile of a desk, with a hook. -/
def deskProfile : MonitorProfile where
  name := "desk"
  matchRules := ["DP-1"]
  edp := .disable
  hooks := ["wallpaper"]

/-- A machine at the desk, whose link names no profile yet. -/
def atDesk : (e : Eff) → e.Ans
  | .monitors => some [{ name := "DP-1" }]
  | .loadProfiles => [deskProfile]
  | .selectProfile _ profiles => profiles.head?
  | .repointActive _ | .trySend _ => true
  | e => e.quiet

/-- A run that applies the profile of the desk, with its hook. -/
theorem Run.profileRecorded_desk : ∃ tr₀ ts c, Run ⟨false, true⟩ tr₀ ts c ∧
    (c.currentProfile = some "desk" ∧ c.edpPolicy = .disable ∧
      (requested tr₀ ts).any (fun o => decide (o.1.2 = .trySend (.runHook "wallpaper"))) = true) ∧
    c.Recorded ∧ (∀ p, c.activeProfileRev = some p → Loaded (requested tr₀ ts) p) ∧
      ∀ pre o post, requested tr₀ ts = pre ++ o :: post → Vetted o.1.1 o.1.2 pre := by
  have hstart := Run.start (runs_answered (Effectors.setup ⟨false, true⟩) atDesk {})
    (runs_answered (Effectors.startup ⟨false, true⟩) atDesk _)
  have hrun :=
    hstart.turn .monitorsChanged (runs_answered (Effectors.handle ⟨false, true⟩ _) atDesk _)
  exact ⟨_, _, _, hrun, by decide +kernel, hrun.profileRecorded⟩

end Hyprstate
