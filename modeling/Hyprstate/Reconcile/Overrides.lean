import Hyprstate.Daemon.PowerRecord
import Hyprstate.Reactive.Server
import Hyprstate.Reactive.Watched

/-!
# The mirrors of the override files

The daemon mirrors two files of the user's: the power override and the keyboard override's marker.
The CLI writes and removes both. The daemon clears, adopts and releases them, its context first. A
task of its own (`file_state_task` of `sources/files.rs`) re-reads them on an inotify event and on
the safety tick, compares what it reads with what it read last (`Last`), and sends the dispatcher an
event on a change.

The power override is written by `fs::write`, which empties the file before it writes the text. The
task may read it in between, and a write that fails may leave anything.

The setup reads the files before the task is spawned, and the task's first read is its own. A file
that is written in between is not noticed again. Neither is one that the user puts back to what the
task read last after the daemon's own write.
-/

namespace Hyprstate

open Reactive Process

/-- What an event tells of the power override; a word that is no profile is ignored. -/
def powerHeard : Event → Option (Option PowerProfile)
  | .powerOverrideChanged none => some none
  | .powerOverrideChanged (some word) => (PowerProfile.parse word).map some
  | _ => none

/-- What an event tells of the keyboard override. -/
def kbdHeard : Event → Option Bool
  | .kbdOverrideChanged armed => some armed
  | _ => none

/-- The override files with the task that watches them, and the dispatcher's queue. -/
structure Overrides where
  /-- The first word of the power-override file, and the profile it names. -/
  power : Watched (Option String) (Option PowerProfile)
  /-- Whether the keyboard override's marker exists. -/
  kbd : Watched Bool Bool
  /-- The task waits for room in the queue. -/
  sending : Option Event := none
  queue : List Event := []
  /-- Whether the daemon's own writes and removals succeed. -/
  writable : Bool := true
  /-- The word that its next write of the power override leaves if it fails. -/
  left : Option String := none
  /-- Whether the setup sent what it read of the power override; it spawns the task after that. -/
  seeded : Bool := false
  /-- Whether the task read the files for the first time. -/
  began : Bool := false

namespace Overrides

/-- The events under way. -/
def messages (w : Overrides) : List Event := w.queue ++ w.sending.toList

/-- The profile that a word of the power-override file names. -/
def profileIn (word : Option String) : Option PowerProfile := word.bind PowerProfile.parse

/-- The power-override file holds a profile's word, or none. -/
def Valid (word : Option String) : Prop := ∀ s, word = some s → (PowerProfile.parse s).isSome = true

/-- What the daemon's own write of a profile leaves in the power-override file. -/
def written (w : Overrides) (profile : PowerProfile) : Option String :=
  if w.writable then some profile.asStr else w.left

/-- What its own removal of that file leaves. -/
def cleared (w : Overrides) : Option String := if w.writable then none else w.power.value

/-- What its own removal of the marker leaves. -/
def released (w : Overrides) : Bool := if w.writable then false else w.kbd.value

/-- One step of the other parties. -/
inductive Drift : Overrides → Overrides → Prop
  | writePower {w : Overrides} (profile : Option PowerProfile) :
      Drift w { w with power := w.power.write (profile.map PowerProfile.asStr) }
  | writeKbd {w : Overrides} (armed : Bool) : Drift w { w with kbd := w.kbd.write armed }
  /-- The files become writable, or not. -/
  | disk {w : Overrides} (writable : Bool) (left : Option String) :
      Drift w { w with writable := writable, left := left }
  /-- Another source sends an event. -/
  | post {w : Overrides} {ev : Event} : powerHeard ev = none → kbdHeard ev = none →
      Drift w { w with queue := w.queue ++ [ev] }
  /-- `Last::read_now`. -/
  | begin {w : Overrides} : w.seeded = true → w.began = false →
      Drift w { w with power := w.power.check, kbd := w.kbd.check, began := true }
  | checkPower {w : Overrides} : w.began = true → w.sending = none →
      Drift w { w with
        power := w.power.check
        sending := if w.power.value = w.power.last then none
          else some (.powerOverrideChanged w.power.value) }
  | checkKbd {w : Overrides} : w.began = true → w.sending = none →
      Drift w { w with
        kbd := w.kbd.check
        sending := if w.kbd.value = w.kbd.last then none
          else some (.kbdOverrideChanged w.kbd.value) }
  | send {w : Overrides} {ev : Event} : w.sending = some ev →
      Drift w { w with queue := w.queue ++ [ev], sending := none }

/-- What `fs::write` does before it writes the text of the power override: it empties the file,
which the task may see. -/
inductive Emptied : Overrides → Overrides → Prop
  | unseen {w : Overrides} : Emptied w w
  | seen {w : Overrides} : w.began = true → w.sending = none → w.power.last ≠ none →
      Emptied w { w with
        power := (w.power.write none).check
        sending := some (.powerOverrideChanged none) }

/-- The world of the dispatcher: of all it asks for, only what concerns the override files and the
queue matters here. -/
def world : World (Context × Eff) (stamped Eff.Ans) Overrides where
  drift := Drift
  answer
    | (_, .kbdOverrideExists), w, b, w' => b = w.kbd.value ∧ w' = { w with kbd := w.kbd.seed id }
    | (_, .powerOverrideWord), w, b, w' => b = w.power.value ∧ w' = w
    | (_, .powerOverrideWrite profile), w, _, w' =>
      ∃ w₁, Emptied w w₁ ∧ w' = { w₁ with power := w₁.power.own (w.written profile) (some profile) }
    | (_, .powerOverrideRemove), w, _, w' => w' = { w with power := w.power.own w.cleared none }
    | (_, .kbdOverrideRemove), w, _, w' => w' = { w with kbd := w.kbd.own w.released false }
    | (_, .sendEvent ev), w, _, w' =>
      w' = { w with queue := w.queue ++ [ev], seeded := w.seeded || (powerHeard ev).isSome }
    | _, w, _, w' => w' = w

/-- The dispatcher takes the first event of the queue. -/
def deliver (w : Overrides) (ev : Event) (w' : Overrides) : Prop :=
  ∃ rest, w.queue = ev :: rest ∧
    w' =
      { w with queue := rest, power := w.power.take powerHeard ev, kbd := w.kbd.take kbdHeard ev }

/-! ## The condition -/

/-- At the task's first read both files are as the daemon knows them, or will by the events under
way. From then on nobody puts a file back to what the task read last while the daemon's mirror is
due elsewhere. -/
structure Timely (w w' : Overrides) : Prop where
  begun : w.began = false → w'.began = true →
    profileIn w.power.value = w.power.due powerHeard w.messages ∧
      w.kbd.value = w.kbd.due kbdHeard w.messages
  power : w.began = true → w.power.Timely profileIn powerHeard w.messages w'.power
  kbd : w.began = true → w.kbd.Timely id kbdHeard w.messages w'.kbd

/-- The daemon's own writes and removals leave what the task read last only where that is what was
meant or an event is under way, and a write that fails leaves a profile's word or none. -/
def Lands : Context × Eff → Overrides → Prop
  | (_, .powerOverrideWrite profile), w => (w.writable = false → Valid w.left) ∧
    (w.began = true → w.power.Lands profileIn powerHeard w.messages (w.written profile)
      (some profile))
  | (_, .powerOverrideRemove), w =>
    w.began = true → w.power.Lands profileIn powerHeard w.messages w.cleared none
  | (_, .kbdOverrideRemove), w =>
    w.began = true → w.kbd.Lands id kbdHeard w.messages w.released false
  | _, _ => True

/-- What the dispatcher's context and the world keep of each other between the pieces of its
code. -/
structure Mirrored (v : PowerView) (w : Overrides) : Prop where
  power : v.override = w.power.held
  kbd : v.kbdOverride = w.kbd.held
  valid : Valid w.power.value
  seeded : w.began = true → w.seeded = true
  powerSound : w.began = true → w.power.Sound profileIn powerHeard w.messages
  kbdSound : w.began = true → w.kbd.Sound id kbdHeard w.messages

/-- The world where every step meets the condition. -/
abbrev timelyWorld : World (Context × Eff) (stamped Eff.Ans) Overrides := world.under Timely Lands

variable {v : PowerView} {w w' : Overrides} {ev : Event}

/-- An event posted goes behind those queued. -/
theorem messages_post (w : Overrides) (ev : Event) :
    messages { w with queue := w.queue ++ [ev] } = w.queue ++ ev :: w.sending.toList := by
  rw [messages, List.append_assoc, List.singleton_append]

/-- A profile's word is one. -/
theorem Valid.of_profile (profile : Option PowerProfile) :
    Valid (profile.map PowerProfile.asStr) := by
  rintro s hs
  obtain ⟨p, -, rfl⟩ := Option.map_eq_some_iff.mp hs
  simp

/-- The daemon's own write leaves a profile's word if it succeeds. -/
theorem Valid.written (h : w.writable = false → Valid w.left) (profile : PowerProfile) :
    Valid (w.written profile) := by
  unfold Overrides.written
  split
  · exact .of_profile (some profile)
  · next hfails => exact h (Bool.not_eq_true _ ▸ hfails)

/-- A removal leaves no word, or the one that was there. -/
theorem Valid.cleared (h : Valid w.power.value) : Valid w.cleared := by
  unfold Overrides.cleared
  split
  · exact .of_profile none
  · exact h

/-- An event of the power override says nothing of the marker. -/
theorem kbdHeard_powerOverrideChanged (word : Option String) :
    kbdHeard (.powerOverrideChanged word) = none := rfl

/-- A profile's word is heard as the profile it names. -/
theorem powerHeard_of_valid {word : Option String} (h : Valid word) :
    powerHeard (.powerOverrideChanged word) = some (profileIn word) := by
  cases word with
  | none => rfl
  | some s =>
    obtain ⟨p, hp⟩ := Option.isSome_iff_exists.mp (h s rfl)
    simp [powerHeard, profileIn, hp]

/-- The task's read of a file, for the mirror of that file. -/
theorem checked_sound {α β : Type} {mean : α → β} {hear : Event → Option β} [DecidableEq α]
    {x : Watched α β} {ev : Event} (hsending : w.sending = none)
    (hev : hear ev = some (mean x.value)) (h : x.Sound mean hear w.messages) :
    x.check.Sound mean hear
      (w.queue ++ (if x.value = x.last then none else some ev : Option Event).toList) := by
  have hmessages : w.messages = w.queue := by
    rw [messages, hsending, Option.toList_none, List.append_nil]
  rw [hmessages] at h
  by_cases hv : x.value = x.last
  · rw [if_pos hv, Option.toList_none, List.append_nil]
    exact h.unchanged hv
  · rw [if_neg hv]
    exact .changed hev

/-- The task's read of one file, for the mirror of the other. -/
theorem other_sound {α β : Type} {mean : α → β} {hear : Event → Option β} {x : Watched α β}
    {ev : Event} {p : Prop} [Decidable p] (hsending : w.sending = none) (hev : hear ev = none)
    (h : x.Sound mean hear w.messages) :
    x.Sound mean hear (w.queue ++ (if p then none else some ev : Option Event).toList) := by
  rw [messages, hsending] at h
  by_cases hp : p
  · rw [if_pos hp]
    exact h
  · rw [if_neg hp]
    exact h.insert hev

/-- The condition is on the steps of the others; with it each of them keeps the mirrors. -/
theorem Mirrored.drift (h : Mirrored v w) (hstep : timelyWorld.drift w w') : Mirrored v w' := by
  obtain ⟨hstep, ht⟩ := hstep
  -- By what may happen between two answers: a writer, the disk, a report, the task.
  cases hstep with
  | writePower profile =>
    exact ⟨h.power, h.kbd, .of_profile profile, h.seeded,
      fun hb => (h.powerSound hb).write (ht.power hb), h.kbdSound⟩
  | writeKbd armed =>
    exact ⟨h.power, h.kbd, h.valid, h.seeded, h.powerSound,
      fun hb => (h.kbdSound hb).write (ht.kbd hb)⟩
  | disk writable left =>
    exact ⟨h.power, h.kbd, h.valid, h.seeded, h.powerSound, h.kbdSound⟩
  | post hp hk =>
    refine ⟨h.power, h.kbd, h.valid, h.seeded, fun hb => ?_, fun hb => ?_⟩
    · rw [messages_post]
      exact (h.powerSound hb).insert hp
    · rw [messages_post]
      exact (h.kbdSound hb).insert hk
  | begin hseeded hbegan =>
    obtain ⟨hp, hk⟩ := ht.begun hbegan rfl
    exact ⟨h.power, h.kbd, h.valid, fun _ => hseeded, fun _ => .begun hp, fun _ => .begun hk⟩
  | checkPower hbegan hsending =>
    exact ⟨h.power, h.kbd, h.valid, h.seeded,
      fun hb => checked_sound (w := w) hsending (powerHeard_of_valid h.valid) (h.powerSound hb),
      fun hb => other_sound (w := w) hsending (kbdHeard_powerOverrideChanged _) (h.kbdSound hb)⟩
  | checkKbd hbegan hsending =>
    exact ⟨h.power, h.kbd, h.valid, h.seeded,
      fun hb => other_sound (w := w) hsending rfl (h.powerSound hb),
      fun hb => checked_sound (w := w) hsending rfl (h.kbdSound hb)⟩
  -- A message on its way only moves to the queue.
  | @send ev hsending =>
    have hmessages : messages { w with queue := w.queue ++ [ev], sending := none } =
        w.messages := by
      simp only [messages, hsending, Option.toList_none, Option.toList_some, List.append_nil]
    refine ⟨h.power, h.kbd, h.valid, h.seeded, fun hb => ?_, fun hb => ?_⟩
    · rw [hmessages]
      exact h.powerSound hb
    · rw [hmessages]
      exact h.kbdSound hb

/-- What touches the override files, or the queue. -/
def overrideResources : List Resource := [.powerOverride, .kbdOverride, .queue]

/-- The override's requests are among the view's. -/
theorem overrideResources_subset : overrideResources ⊆ viewResources := by
  simp [overrideResources, viewResources]

/-- Every other request leaves the files and the events under way alone. -/
theorem world_frame {c : Context} {e : Eff} {b : e.Ans} (he : e.resource ∉ overrideResources)
    (ha : world.answer (c, e) w b w') : w' = w := by
  cases e with
  | powerOverrideWord | powerOverrideWrite _ | powerOverrideRemove | kbdOverrideExists
  | kbdOverrideRemove | sendEvent _ => exact absurd he (by simp [overrideResources])
  | _ => exact ha

/-- A request of another resource keeps the mirror. -/
theorem Mirrored.answer {c : Context} {e : Eff} {b : e.Ans} (he : e.resource ∉ overrideResources)
    (ha : timelyWorld.answer (c, e) w b w') (h : Mirrored v w) : Mirrored v w' := by
  rw [world_frame he ha.1]
  exact h

/-- The view once an event was taken. -/
def taken (ev : Event) (v : PowerView) : PowerView :=
  { v with override := Watched.heard powerHeard v.override ev
           kbdOverride := Watched.heard kbdHeard v.kbdOverride ev }

/-- So does an event that is taken off the queue. -/
theorem Mirrored.taken (h : Mirrored v w) (hd : deliver w ev w') : Mirrored (taken ev v) w' := by
  obtain ⟨rest, hqueue, rfl⟩ := hd
  have hmessages : w.messages = ev :: (rest ++ w.sending.toList) := by
    rw [messages, hqueue, List.cons_append]
  refine ⟨congrArg (Watched.heard powerHeard · ev) h.power,
    congrArg (Watched.heard kbdHeard · ev) h.kbd, h.valid, h.seeded, fun hb => ?_, fun hb => ?_⟩
  · have hsound := h.powerSound hb
    rw [hmessages] at hsound
    exact hsound.take
  · have hsound := h.kbdSound hb
    rw [hmessages] at hsound
    exact hsound.take

/-- The mirrors are two fields of the view. -/
theorem Mirrored.of_view {v' : PowerView} (h : Mirrored v w) (ho : v'.override = v.override)
    (hk : v'.kbdOverride = v.kbdOverride) : Mirrored v' w :=
  ⟨ho.trans h.power, hk.trans h.kbd, h.valid, h.seeded, h.powerSound, h.kbdSound⟩

/-! ## The daemon's own writes -/

/-- Code that touches neither file nor the queue keeps the mirrors. -/
theorem Mirrored.frame {α : Type} {x : Daemon α} {c : Context} {rs : List Resource}
    {Q : α → Context → Prop} (hx : Meets x c (only rs) Q) (hrs : ∀ r ∈ rs, r ∉ overrideResources)
    (hw : Mirrored v w) :
    Wp timelyWorld (fun _ _ _ => True) (fun a c' w' => Q a c' ∧ Mirrored v w') x c w := by
  refine (wp_of_meets (J := Mirrored v) hx hw (fun _ _ hstep h => h.drift hstep) ?_).mono
    (fun _ _ _ _ => trivial) fun _ _ _ => id
  exact fun c' e w₁ b w₂ he ha h => h.answer (hrs _ he) ha

/-- The context's copy was moved already when the power-override file is written or removed. -/
theorem Mirrored.ownPower {left : Option String} {profile : Option PowerProfile}
    {base : Option BaseState} (h : Mirrored v w) (hleft : Valid left)
    (hl : w.began = true → w.power.Lands profileIn powerHeard w.messages left profile) :
    Mirrored { v with override := profile, base := base }
      { w with power := w.power.own left profile } :=
  ⟨rfl, h.kbd, hleft, h.seeded, fun hb => (h.powerSound hb).own (hl hb), h.kbdSound⟩

/-- The task that finds the file emptied sends what it read, and the write overrules it. -/
theorem Mirrored.emptied (h : Mirrored v w) {left : Option String} {profile : Option PowerProfile}
    (hl : w.began = true → w.power.Lands profileIn powerHeard w.messages left profile)
    (he : Emptied w w') : Mirrored v w' ∧
      (w'.began = true → w'.power.Lands profileIn powerHeard w'.messages left profile) := by
  cases he with
  | unseen => exact ⟨h, hl⟩
  | seen hbegan hsending hlast =>
    have hmessages : w.messages = w.queue := by
      rw [messages, hsending, Option.toList_none, List.append_nil]
    have hkbd := h.kbdSound hbegan
    rw [hmessages, ← List.append_nil w.queue] at hkbd
    refine ⟨⟨h.power, h.kbd, .of_profile none, h.seeded, fun _ => ?_, fun _ => ?_⟩,
      fun _ _ => .inr ?_⟩
    · exact Watched.Sound.changed (w := w.power.write none) (powerHeard_of_valid (.of_profile none))
    · exact hkbd.insert (kbdHeard_powerOverrideChanged none)
    · exact ⟨.powerOverrideChanged none, by simp [messages], rfl⟩

/-- The same for the marker, which is only ever removed. -/
theorem Mirrored.ownKbd {left : Bool} (h : Mirrored v w)
    (hl : w.began = true → w.kbd.Lands id kbdHeard w.messages left false) :
    Mirrored { v with kbdOverride := false } { w with kbd := w.kbd.own left false } :=
  ⟨h.power, rfl, h.valid, h.seeded, h.powerSound, fun hb => (h.kbdSound hb).own (hl hb)⟩

section

variable {fx : Effectors} (hlive : fx.shadow = false)
include hlive

/-- `clear_power_override` keeps the mirrors. -/
theorem clearPowerOverride_keeps : KeepsView timelyWorld Mirrored fx.clearPowerOverride := by
  intro c w hw
  rw [Effectors.clearPowerOverride, wp_modify_bind, hlive]
  refine (wp_ask_bind (e := Eff.powerOverrideRemove)).mpr fun w₁ hdrift => ⟨trivial, ?_⟩
  rintro b w₂ ⟨rfl, hlands⟩ w₃ hdrift'
  have h₁ : Mirrored c.powerView w₁ := hdrift.keeps (fun _ _ hstep h => h.drift hstep) hw
  exact hdrift'.keeps (fun _ _ hstep h => h.drift hstep) (h₁.ownPower h₁.valid.cleared hlands)

/-- `adopt_power_override` keeps the mirrors. -/
theorem adoptPowerOverride_keeps (profile : PowerProfile) :
    KeepsView timelyWorld Mirrored (fx.adoptPowerOverride profile) := by
  intro c w hw
  rw [Effectors.adoptPowerOverride, wp_modify_bind, hlive, wp_bind]
  refine (wp_ask_bind (e := Eff.powerOverrideWrite profile)).mpr fun w₁ hdrift => ⟨trivial, ?_⟩
  rintro b w₂ ⟨⟨w₁', hemptied, rfl⟩, hleft, hlands⟩ w₃ hdrift'
  have h₁ : Mirrored c.powerView w₁ := hdrift.keeps (fun _ _ hstep h => h.drift hstep) hw
  obtain ⟨h₁', hlands'⟩ := h₁.emptied hlands hemptied
  have h₃ : Mirrored { c.powerView with override := some profile, base := none } w₃ :=
    hdrift'.keeps (fun _ _ hstep h => h.drift hstep) (h₁'.ownPower (.written hleft profile) hlands')
  refine (h₃.frame (notifyPower_spec fx _ _) (by decide)).mono (fun _ _ _ => id) ?_
  rintro _ _ w₄ ⟨rfl, h₄⟩
  exact h₄

/-- The override step of `power_policy_check` keeps the mirrors. -/
theorem powerOverrideStep_keeps (base : BaseState) :
    KeepsView timelyWorld Mirrored (fx.powerOverrideStep base) := by
  intro c w hw
  rw [Effectors.powerOverrideStep, wp_get_bind]
  have hstay : ∀ c' : Context, c'.powerView.override = c.powerView.override →
      c'.powerView.kbdOverride = c.powerView.kbdOverride → ∀ w', timelyWorld.Drifts w w' →
      Mirrored c'.powerView w' := fun c' ho hk w' hdrift =>
    (hdrift.keeps (fun _ _ hstep h => h.drift hstep) hw).of_view ho hk
  split
  · exact hstay c rfl rfl
  · exact hstay _ rfl rfl
  · rw [wp_when]
    refine ⟨fun _ => ?_, fun _ => hstay c rfl rfl⟩
    refine (clearPowerOverride_keeps hlive c w hw).bind ?_
    rintro _ c₁ w₁ h₁
    refine (h₁.frame (notifyPower_spec fx _ _) (by decide)).mono (fun _ _ _ => id) ?_
    rintro _ _ w₂ ⟨rfl, h₂⟩
    exact h₂

/-- `kbd_release_override` keeps the mirrors. -/
theorem kbdReleaseOverride_keeps : KeepsView timelyWorld Mirrored fx.kbdReleaseOverride := by
  intro c w hw
  rw [Effectors.kbdReleaseOverride, wp_get_bind, wp_when]
  refine ⟨fun _ => ?_, fun _ w' hdrift => hdrift.keeps (fun _ _ hstep h => h.drift hstep) hw⟩
  rw [wp_set_bind, hlive]
  refine (wp_ask_bind (e := Eff.kbdOverrideRemove)).mpr fun w₁ hdrift => ⟨trivial, ?_⟩
  rintro b w₂ ⟨rfl, hlands⟩ w₃ hdrift'
  have h₁ : Mirrored c.powerView w₁ := hdrift.keeps (fun _ _ hstep h => h.drift hstep) hw
  exact hdrift'.keeps (fun _ _ hstep h => h.drift hstep) (h₁.ownKbd hlands)

/-- The mirrors are an invariant of the pieces of the power policy. -/
theorem mirrored_invariant : PowerInvariant fx timelyWorld Mirrored where
  drift _ _ _ hstep h := h.drift hstep
  answer _ _ _ _ _ _ he ha h := h.answer (fun hr => he (overrideResources_subset hr)) ha
  apply profile c w hw := by
    have hsame : Meets (fx.applyPowerProfile profile) c (only [.query, .powerd]) fun _ c' =>
        c'.powerView.override = c.powerView.override ∧
          c'.powerView.kbdOverride = c.powerView.kbdOverride := by
      simp [Effectors.applyPowerProfile, Effectors.powerdUnavailable, only, Context.powerView]
    refine (hw.frame hsame (by decide)).mono (fun _ _ _ => id) ?_
    rintro _ c' w' ⟨⟨ho, hk⟩, h⟩
    exact h.of_view ho hk
  pin awake c w hw := by
    have hpin : Meets (fx.syncDgpuPin awake) c (only [.powerd]) fun _ c' =>
        ∃ a, c'.powerView = { c.powerView with available := a } := by
      refine (syncDgpuPin_view fx c awake).mono ?_ fun _ _ => id
      rintro _ _ rfl
      simp [only]
    refine (hw.frame hpin (by decide)).mono (fun _ _ _ => id) ?_
    rintro _ c' w' ⟨⟨a, hview⟩, h⟩
    exact h.of_view (by rw [hview]) (by rw [hview])
  step := powerOverrideStep_keeps hlive
  release := kbdReleaseOverride_keeps hlive

end

/-! ## Turns -/

section

variable {fx : Effectors} (hlive : fx.shadow = false)
include hlive

/-- The arms that move the mirrors find the event's word in the view already. -/
theorem dispatchUpdate_mirrored (ev : Event) {c : Context}
    (hw : Mirrored (taken ev c.powerView) w) :
    Wp timelyWorld (fun _ _ _ => True) (fun _ c' w' => Mirrored c'.powerView w')
      (fx.dispatchUpdate ev)
      c w := by
  -- Every arm but these four is one of the invariant's parts.
  have hI : PowerInvariant fx timelyWorld Mirrored := mirrored_invariant hlive
  cases ev with
  | powerOverrideChanged word =>
    refine (hw.frame (powerOverrideChanged_view fx c word) (by decide)).mono (fun _ _ _ => id) ?_
    rintro _ c' w' ⟨hview, h⟩
    -- A word that parses is heard; another leaves what was there.
    have hword : (c.powerView.heard word).override =
        Watched.heard powerHeard c.powerView.override (.powerOverrideChanged word) := by
      unfold PowerView.heard
      cases word with
      | none => rfl
      | some s =>
        simp only [Watched.heard, powerHeard]
        cases PowerProfile.parse s with
        | none => rfl
        | some p =>
          by_cases hp : c.powerView.override = some p
          · simp [hp]
          · simp [hp]
    obtain ⟨o, b, heq⟩ := PowerView.heard_eq word c.powerView
    refine h.of_view (by rw [hview]; exact hword) ?_
    rw [hview, heq]
    rfl
  | kbdOverrideChanged armed =>
    refine (hw.frame (kbdOverrideChanged_view fx c armed) (by decide)).mono (fun _ _ _ => id) ?_
    rintro _ c' w' ⟨hview, h⟩
    exact h.of_view (by rw [hview]; rfl) (by rw [hview]; rfl)
  | powerdAppeared =>
    refine (hw.frame (powerdAppeared_view fx c) (by decide)).mono (fun _ _ _ => id) ?_
    rintro _ c' w' ⟨hview, h⟩
    rcases hview with hview | hview
    · exact h.of_view (by rw [hview]; rfl) (by rw [hview]; rfl)
    · exact h.of_view (by rw [hview]; rfl) (by rw [hview]; rfl)
  | platformProfileChanged value =>
    have hnow : Meets (request .now : Daemon Nat) c (only [.query]) fun _ c' => c' = c :=
      ⟨by simp [only], fun _ => rfl⟩
    rw [Effectors.dispatchUpdate]
    refine (hw.frame hnow (by decide)).bind ?_
    rintro now _ w₁ ⟨rfl, h₁⟩
    rw [wp_get_bind, wp_set_bind]
    -- An external profile is adopted, which writes the file.
    have hadopt : KeepsView timelyWorld Mirrored (do
        fx.adoptPowerOverride (profileFromPlatformValue value)
        fx.powerPolicyCheck) := by
      intro c w hw
      exact (adoptPowerOverride_keeps hlive _ c w hw).bind fun _ c' w' => hI.powerPolicyCheck c' w'
    refine (hI.when _ hadopt _ w₁ (by exact h₁.of_view rfl rfl)).bind ?_
    exact fun _ c' w' hw' w'' hdrift => hdrift.keeps (fun _ _ hstep h => h.drift hstep) hw'
  | _ => exact hI.dispatchUpdate _ rfl c w hw

/-- A turn keeps the mirrors. -/
theorem handle_mirrored {ev : Event} {c : Context} (hw : Mirrored (taken ev c.powerView) w) :
    Wp timelyWorld (fun _ _ _ => True) (fun _ c' w' => Mirrored c'.powerView w')
      (fx.handle ev) c w :=
  (mirrored_invariant hlive).handle (dispatchUpdate_mirrored hlive ev hw)

end

/-! ## The setup -/

/-- The mirrors before the setup has sent what it read: the task cannot have begun. -/
structure Seeding (v : PowerView) (w : Overrides) : Prop where
  power : v.override = w.power.held
  kbd : v.kbdOverride = w.kbd.held
  valid : Valid w.power.value
  unseeded : w.seeded = false
  unbegun : w.began = false

/-- The other parties keep them so. -/
theorem Seeding.drift (h : Seeding v w) (hstep : timelyWorld.drift w w') : Seeding v w' := by
  have hunseeded := h.unseeded
  have hunbegun := h.unbegun
  cases hstep.1 with
  | begin hseeded _ => exact absurd hseeded (by simp [hunseeded])
  | writePower profile => exact ⟨h.power, h.kbd, .of_profile profile, hunseeded, hunbegun⟩
  | _ => exact ⟨h.power, h.kbd, h.valid, hunseeded, hunbegun⟩

/-- So do any number of their steps. -/
theorem Seeding.drifts (h : Seeding v w) (hdrift : timelyWorld.Drifts w w') : Seeding v w' :=
  hdrift.keeps (fun _ _ hstep h => h.drift hstep) h

/-- So does code that touches neither file nor the queue. -/
theorem Seeding.frame {α : Type} {x : Daemon α} {c : Context} {rs : List Resource}
    {Q : α → Context → Prop} (hx : Meets x c (only rs) Q) (hrs : ∀ r ∈ rs, r ∉ overrideResources)
    (hw : Seeding v w) :
    Wp timelyWorld (fun _ _ _ => True) (fun a c' w' => Q a c' ∧ Seeding v w') x c w := by
  refine (wp_of_meets (J := Seeding v) hx hw (fun _ _ hstep h => h.drift hstep) ?_).mono
    (fun _ _ _ _ => trivial) fun _ _ _ => id
  intro c' e w₁ b w₂ he ha h
  rw [world_frame (hrs _ he) ha.1]
  exact h

/-- As long as the task has not begun, the mirrors are all there is to keep. -/
theorem Seeding.mirrored (h : Seeding v w) (queue : List Event) (seeded : Bool) :
    Mirrored v { w with queue := queue, seeded := seeded } :=
  have hunbegun : w.began ≠ true := by simp [h.unbegun]
  ⟨h.power, h.kbd, h.valid, fun hb => absurd hb hunbegun, fun hb => absurd hb hunbegun,
    fun hb => absurd hb hunbegun⟩

section

variable (fx : Effectors)

/-- The setup reads the marker into the context. -/
theorem seedKbd_seeding (conf : PowerConf) (c : Context) (hw : Seeding c.powerView w) :
    Wp timelyWorld (fun _ _ _ => True) (fun _ c' w' => Seeding c'.powerView w')
      (Effectors.seedKbd conf)
      c w := by
  have hlevel : Meets (request .kbdLevelWord : Daemon (Option Int)) c (only [.query])
      fun _ c' => c' = c := ⟨by simp [only], fun _ => rfl⟩
  rw [Effectors.seedKbd]
  refine (hw.frame hlevel (by decide)).bind ?_
  rintro level _ w₁ ⟨rfl, h₁⟩
  refine (wp_ask_bind (e := Eff.kbdOverrideExists)).mpr fun w₂ hdrift => ⟨trivial, ?_⟩
  rintro armed w₃ ⟨⟨rfl, rfl⟩, -⟩
  have h₂ : Seeding _ w₂ := h₁.drifts hdrift
  rw [wp_modify_bind]
  -- the marker was read into the context
  have h₃ : Seeding { Context.powerView _ with kbdOverride := w₂.kbd.value }
      { w₂ with kbd := w₂.kbd.seed id } := ⟨h₂.power, rfl, h₂.valid, h₂.unseeded, h₂.unbegun⟩
  refine (Seeding.frame (discoverKbd_view _) (by decide) (by exact h₃)).mono (fun _ _ _ => id) ?_
  rintro _ c' w' ⟨⟨-, hview⟩, h'⟩
  rw [hview]
  exact h'

/-- With the seed event sent the task may begin, and the mirrors are kept from there on. -/
theorem seedContext_mirrored (conf : PowerConf) (c : Context) (hw : Seeding c.powerView w) :
    Wp timelyWorld (fun _ _ _ => True) (fun _ c' w' => Mirrored c'.powerView w')
      (fx.seedContext conf)
      c w := by
  rw [Effectors.seedContext]
  refine (hw.frame (seedPower_spec c) (by decide)).bind ?_
  rintro _ _ w₁ ⟨⟨ac, acs, pct, low, rfl⟩, h₁⟩
  refine (h₁.frame (discoverBacklight_spec _) (by decide)).bind ?_
  rintro _ _ w₂ ⟨⟨b, rfl⟩, h₂⟩
  refine (seedKbd_seeding conf _ (by exact h₂)).bind ?_
  rintro _ c₃ w₃ h₃
  refine (h₃.frame (batteryLowRequestCheck_spec fx _) (by decide)).bind ?_
  rintro _ _ w₄ ⟨⟨r, rfl, -⟩, h₄⟩
  refine (h₄.frame (seedWorld_view _) (by decide)).bind ?_
  rintro _ c₅ w₅ ⟨hview, hw₅⟩
  have h₅ : Seeding c₅.powerView w₅ := by
    rw [hview]
    exact hw₅
  refine (h₅.frame (seedProfile_spec _) (by decide)).bind ?_
  rintro _ _ w₆ ⟨⟨n, rev, e, rfl⟩, h₆⟩
  refine (wp_ask_bind (e := Eff.sendEvent .monitorsChanged)).mpr fun w₇ hdrift => ⟨trivial, ?_⟩
  rintro _ _ ⟨rfl, -⟩
  have h₇ : Seeding c₅.powerView w₇ := h₆.drifts hdrift
  have h₈ : Seeding c₅.powerView { w₇ with
      queue := w₇.queue ++ [.monitorsChanged]
      seeded := w₇.seeded || (powerHeard .monitorsChanged).isSome } :=
    ⟨h₇.power, h₇.kbd, h₇.valid, by rw [h₇.unseeded]; rfl, h₇.unbegun⟩
  refine (wp_ask_bind (e := Eff.powerOverrideWord)).mpr fun _ hdrift => ⟨trivial, ?_⟩
  rintro word w₉ ⟨⟨-, rfl⟩, -⟩
  have h₉ : Seeding c₅.powerView w₉ := h₈.drifts hdrift
  refine (wp_ask_bind (e := Eff.sendEvent (.powerOverrideChanged word))).mpr fun w₁₀ hdrift =>
    ⟨trivial, ?_⟩
  rintro _ _ ⟨rfl, -⟩
  -- from here on the task may begin
  have h₁₁ := (h₉.drifts hdrift).mirrored (w₁₀.queue ++ [.powerOverrideChanged word])
    (w₁₀.seeded || (powerHeard (.powerOverrideChanged word)).isSome)
  have hrest : ∀ c : Context, Meets (do
      let hint ← (if fx.session then request .lockedHint else pure none : Daemon (Option Bool))
      modify fun c => { c with locked := hint.getD false }
      request (.lockedSend (hint.getD false))) c (only [.query])
      fun _ c' => c'.powerView = c.powerView := by
    intro c
    simp only [meets_bind, meets_ask, meets_ite, meets_pure, meets_modify]
    exact ⟨fun _ => ⟨by simp [only], fun _ => ⟨by simp [only], fun _ => rfl⟩⟩,
      fun _ => ⟨by simp [only], fun _ => rfl⟩⟩
  refine (Mirrored.frame (hrest _) (by decide) (by exact h₁₁)).mono (fun _ _ _ => id) ?_
  rintro _ c' w' ⟨hview', h'⟩
  rw [hview']
  exact h'

/-- `setup` leaves both mirrors right. -/
theorem setup_mirrored (c : Context) (hw : Seeding c.powerView w) :
    Wp timelyWorld (fun _ _ _ => True) (fun _ c' w' => Mirrored c'.powerView w') fx.setup c w := by
  have hbefore : ∀ c : Context, Meets (do
      let conf ← Effectors.loadConf
      let _ ← request .suspendRequestRemove
      let c ← get
      let held ← (if fx.shadow || !c.lidPresent then pure true else request .inhibitLidSwitch :
        Daemon Bool)
      pure (conf, held)) c (only [.query, .requestFile]) fun _ c' =>
        c'.powerView = c.powerView := by
    intro c
    simp only [Effectors.loadConf, meets_bind, meets_ask, meets_ite, meets_pure,
      meets_modify, meets_get]
    exact ⟨by simp [only], fun _ => ⟨by simp [only], fun _ => ⟨fun _ => rfl, fun _ =>
      ⟨by simp [only], fun _ => rfl⟩⟩⟩⟩
  -- The setup is a part that reads and the seeds, which run where the inhibitor is held.
  have hsplit : fx.setup = (do
      let conf ← Effectors.loadConf
      let _ ← request .suspendRequestRemove
      let c ← get
      let held ← (if fx.shadow || !c.lidPresent then pure true else request .inhibitLidSwitch :
        Daemon Bool)
      pure (conf, held)) >>= (fun p => do
        when p.2 (fx.seedContext p.1)
        pure p.2) := by
    simp only [Effectors.setup, bind_assoc, pure_bind]
  rw [hsplit]
  refine (hw.frame (hbefore c) (by decide)).bind ?_
  rintro p c₁ w₁ ⟨hview, h₁⟩
  rw [← hview] at h₁
  have hstay : ∀ (held : Bool) (c' : Context) (w' : Overrides), Mirrored c'.powerView w' →
      Wp timelyWorld (fun _ _ _ => True) (fun _ c'' w'' => Mirrored c''.powerView w'')
        (pure held : Daemon Bool) c' w' :=
    fun _ _ _ h _ hdrift => hdrift.keeps (fun _ _ hstep h => h.drift hstep) h
  rw [wp_bind, wp_when]
  constructor
  · intro _
    exact (seedContext_mirrored fx p.1 c₁ h₁).mono (fun _ _ _ => id) fun _ c' w' h =>
      hstay p.2 c' w' h
  · intro _ w' hdrift
    exact hstay p.2 c₁ w' ((h₁.drifts hdrift).mirrored w'.queue w'.seeded)

end

/-! ## Runs -/

section

variable (fx : Effectors)

/-- The daemon starts on files that hold anything. -/
def start (profile : Option PowerProfile) (armed : Bool) : Config Context Eff Eff.Ans Overrides :=
  ⟨fx.boot.run {}, {
    power := ⟨profile.map PowerProfile.asStr, profile.map PowerProfile.asStr, none, false⟩
    kbd := ⟨armed, armed, false, false⟩ }⟩

/-- All writers are quiet, the task has read both files since, and every event was taken. -/
structure Quiet (w : Overrides) : Prop where
  began : w.began = true
  power : w.power.written = false
  kbd : w.kbd.written = false
  drained : w.messages = []

/-- In every run whose steps meet the condition, a quiet daemon mirrors both files. -/
theorem mirrored_kept (hlive : fx.shadow = false) {profile : Option PowerProfile} {armed : Bool}
    {c : Context} {w : Overrides}
    (h : Config.Reaches (world.under Timely Lands) deliver fx.handle (start fx profile armed)
      (Config.idle c w))
    (hquiet : w.Quiet) :
    c.power.powerOverride = profileIn w.power.value ∧ c.kbd.kbdOverride = w.kbd.value := by
  have htake : ∀ (c : Context) (w : Overrides) (ev : Event) (w' : Overrides),
      Mirrored c.powerView w →
      deliver w ev w' → Wp timelyWorld (fun _ _ _ => True) (fun _ c' w' => Mirrored c'.powerView w')
        (fx.handle ev) c w' :=
    fun c w ev w' h hd => handle_mirrored hlive (h.taken hd)
  have hinit : (start fx profile armed).task.Wp timelyWorld (fun _ _ => True)
      (fun r w => Mirrored r.2.powerView w) (start fx profile armed).world := by
    have hseeding : Seeding ({} : Context).powerView (start fx profile armed).world :=
      ⟨rfl, rfl, .of_profile profile, rfl, rfl⟩
    have hboot : Wp timelyWorld (fun _ _ _ => True)
        (fun _ c' w' => Mirrored c'.powerView w') fx.boot
        {} (start fx profile armed).world :=
      (setup_mirrored fx {} hseeding).bind fun ok c' w' =>
        (mirrored_invariant hlive).when ok (mirrored_invariant hlive).startup c' w'
    exact hboot
  have hkept : Mirrored c.powerView w :=
    Config.inv_of_reaches_idle (s := c) (w := w) (G := fun _ _ _ => True) htake hinit h
  have hpower := hkept.powerSound hquiet.began
  have hkbd := hkept.kbdSound hquiet.began
  rw [hquiet.drained] at hpower hkbd
  constructor
  · calc c.power.powerOverride = w.power.held := hkept.power
      _ = profileIn w.power.value := hpower.converged hquiet.power
  · calc c.kbd.kbdOverride = w.kbd.held := hkept.kbd
      _ = w.kbd.value := hkbd.converged hquiet.kbd

end

/-! ## A marker that is armed as the daemon starts -/

/-- The world of a quiet machine. The user arms the keyboard override at the end of the setup, or
not. -/
def quietly (arms : Bool) : (r : Context × Eff) → Overrides → stamped Eff.Ans r × Overrides
  | (_, .kbdOverrideExists), w => (w.kbd.value, { w with kbd := w.kbd.seed id })
  | (_, .powerOverrideWord), w => (w.power.value, w)
  | (_, .powerOverrideWrite profile), w =>
    (true, { w with power := w.power.own (w.written profile) (some profile) })
  | (_, .powerOverrideRemove), w => (true, { w with power := w.power.own w.cleared none })
  | (_, .kbdOverrideRemove), w => (true, { w with kbd := w.kbd.own w.released false })
  | (_, .sendEvent ev), w =>
    ((), { w with queue := w.queue ++ [ev], seeded := w.seeded || (powerHeard ev).isSome })
  | (_, .lockedSend _), w => ((), if arms then { w with kbd := w.kbd.write true } else w)
  | (_, e), w => (e.quiet, w)

/-- The daemon's own writes succeed, and the user arms the marker before the task begins. -/
def Calm (arms : Bool) (w : Overrides) : Prop := w.writable = true ∧ (arms = true → w.began = false)

/-- The quiet machine is one that meets the condition. -/
theorem quietly_answer (arms : Bool) (r : Context × Eff) (w : Overrides) (hw : Calm arms w) :
    (∃ w₁, timelyWorld.Drifts w w₁ ∧ timelyWorld.answer r w₁ (quietly arms r w).1
      (quietly arms r w).2) ∧
      Calm arms (quietly arms r w).2 := by
  obtain ⟨hwritable, hbegan⟩ := hw
  have hwritten : ∀ profile, profileIn (w.written profile) = some profile := fun profile => by
    simp [written, hwritable, profileIn]
  have hcleared : profileIn w.cleared = none := by simp [cleared, hwritable, profileIn]
  have hreleased : id w.released = false := by simp [released, hwritable]
  obtain ⟨c, e⟩ := r
  cases e with
  | kbdOverrideExists => exact ⟨⟨w, .refl, ⟨rfl, rfl⟩, trivial⟩, hwritable, hbegan⟩
  | powerOverrideWord => exact ⟨⟨w, .refl, ⟨rfl, rfl⟩, trivial⟩, hwritable, hbegan⟩
  | powerOverrideWrite profile =>
    have hleft : w.writable = false → Valid w.left := fun hfails =>
      absurd (hwritable.symm.trans hfails) (by simp)
    exact ⟨⟨w, .refl, ⟨w, .unseen, rfl⟩, hleft, fun _ => .of_mean (hwritten profile)⟩,
      hwritable, hbegan⟩
  | powerOverrideRemove => exact ⟨⟨w, .refl, rfl, fun _ => .of_mean hcleared⟩, hwritable, hbegan⟩
  | kbdOverrideRemove => exact ⟨⟨w, .refl, rfl, fun _ => .of_mean hreleased⟩, hwritable, hbegan⟩
  | sendEvent _ => exact ⟨⟨w, .refl, rfl, trivial⟩, hwritable, hbegan⟩
  -- The user arms the keyboard override here, before the task begins.
  | lockedSend _ =>
    cases arms with
    | false => exact ⟨⟨w, .refl, rfl, trivial⟩, hwritable, hbegan⟩
    | true =>
      have hunbegun : w.began = false := hbegan rfl
      have hdrift : timelyWorld.drift w { w with kbd := w.kbd.write true } := by
        refine ⟨.writeKbd true, fun _ hb => ?_, fun hb => ?_, fun hb => ?_⟩
        · exact absurd (hunbegun.symm.trans hb) (by simp)
        · exact absurd (hunbegun.symm.trans hb) (by simp)
        · exact absurd (hunbegun.symm.trans hb) (by simp)
      exact ⟨⟨_, .single hdrift, rfl, trivial⟩, hwritable, hbegan⟩
  | _ => exact ⟨⟨w, .refl, rfl, trivial⟩, hwritable, hbegan⟩

/-- The context after a piece of the dispatcher's code in that world, and the world. -/
def after (arms : Bool) (x : Daemon Unit) (p : Context × Overrides) : Context × Overrides :=
  (((x.run p.1).exec (quietly arms) p.2).1.2, ((x.run p.1).exec (quietly arms) p.2).2.1)

/-- A program that runs to its end under these answers. -/
theorem reaches_after (arms : Bool) (x : Daemon Unit) {p : Context × Overrides}
    (hp : Calm arms p.2) :
    Config.Reaches timelyWorld deliver (Effectors.handle ⟨false, false⟩) ⟨x.run p.1, p.2⟩
      (Config.idle (after arms x p).1 (after arms x p).2) :=
  Config.reaches_exec_drifts (quietly_answer arms) (x.run p.1) p.2 hp

/-- The daemon has started. -/
def booted (arms : Bool) : Context × Overrides :=
  after arms (Effectors.boot ⟨false, false⟩) ({}, (start ⟨false, false⟩ none false).world)

/-- The next event is taken and dispatched. -/
def turn (p : Context × Overrides) : Context × Overrides :=
  match p.2.queue with
  | [] => p
  | ev :: rest => after false ((⟨false, false⟩ : Effectors).handle ev) (p.1, { p.2 with
      queue := rest, power := p.2.power.take powerHeard ev, kbd := p.2.kbd.take kbdHeard ev })

/-- One turn of the loop. -/
theorem reaches_turn {p : Context × Overrides} (hp : p.2.writable = true) :
    Config.Reaches timelyWorld deliver (Effectors.handle ⟨false, false⟩) (Config.idle p.1 p.2)
      (Config.idle (turn p).1 (turn p).2) := by
  unfold turn
  split
  · exact .refl
  · next ev rest hqueue =>
    have hcalm : Calm false { p.2 with
        queue := rest, power := p.2.power.take powerHeard ev, kbd := p.2.kbd.take kbdHeard ev } :=
      ⟨hp, by simp⟩
    exact .head (.take ⟨rest, hqueue, rfl⟩)
      (reaches_after (p := (p.1, _)) false (Effectors.handle ⟨false, false⟩ ev) hcalm)

/-- The task reads both files for the first time. -/
def watching (arms : Bool) : Context × Overrides :=
  ((booted arms).1, { (booted arms).2 with
    power := (booted arms).2.power.check, kbd := (booted arms).2.kbd.check, began := true })

/-- The dispatcher takes what the setup sent. -/
def drained (arms : Bool) : Context × Overrides := turn (turn (watching arms))

/-- The start. -/
theorem reaches_booted (arms : Bool) : Config.Reaches timelyWorld deliver
    (Effectors.handle ⟨false, false⟩) (start ⟨false, false⟩ none false)
    (Config.idle (booted arms).1 (booted arms).2) :=
  reaches_after (p := ({}, (start ⟨false, false⟩ none false).world)) arms
    (Effectors.boot ⟨false, false⟩) ⟨rfl, fun _ => rfl⟩

/-- The task arms its watch after the start. -/
theorem drift_watching (arms : Bool) : Drift (booted arms).2 (watching arms).2 := by
  have hseeded : (booted arms).2.seeded = true := by revert arms; decide +kernel
  have hbegan : (booted arms).2.began = false := by revert arms; decide +kernel
  exact .begin hseeded hbegan

/-- The turns until the queue is empty. -/
theorem reaches_drained (arms : Bool) : Config.Reaches timelyWorld deliver
    (Effectors.handle ⟨false, false⟩) (Config.idle (watching arms).1 (watching arms).2)
    (Config.idle (drained arms).1 (drained arms).2) := by
  have hfirst : (watching arms).2.writable = true := by revert arms; decide +kernel
  have hsecond : (turn (watching arms)).2.writable = true := by revert arms; decide +kernel
  exact (reaches_turn (p := watching arms) hfirst).trans
    (reaches_turn (p := turn (watching arms)) hsecond)

/-- A step that writes neither file and does not begin the task is timely. -/
theorem Timely.still (hp : w'.power.value = w.power.value) (hk : w'.kbd.value = w.kbd.value)
    (hb : w'.began = w.began) : Timely w w' :=
  ⟨fun h h' => absurd (h'.symm.trans (hb.trans h)) (by simp), fun _ hne => absurd hp hne,
    fun _ hne => absurd hk hne⟩

/-- The user arms the marker with the daemon running. -/
def armed : Overrides := { (drained false).2 with kbd := (drained false).2.kbd.write true }

/-- The task reads it. -/
def noticed : Overrides :=
  { armed with
    kbd := armed.kbd.check
    sending := if armed.kbd.value = armed.kbd.last then none
      else some (.kbdOverrideChanged armed.kbd.value) }

/-- It sends the event. -/
def sent : Overrides :=
  { noticed with queue := noticed.queue ++ [.kbdOverrideChanged true], sending := none }

/-- The dispatcher takes it. -/
def told : Context × Overrides := turn ((drained false).1, sent)

/-- The start, the watch and a word that is told. -/
theorem reaches_told : Config.Reaches timelyWorld deliver (Effectors.handle ⟨false, false⟩)
    (start ⟨false, false⟩ none false) (Config.idle told.1 told.2) := by
  have hbegin : timelyWorld.drift (booted false).2 (watching false).2 := by
    have hunbegun : (booted false).2.began ≠ true := by decide +kernel
    refine ⟨drift_watching false, fun _ _ => ⟨?_, ?_⟩, fun hb => absurd hb hunbegun,
      fun hb => absurd hb hunbegun⟩
    · decide +kernel
    · decide +kernel
  have hwrite : timelyWorld.drift (drained false).2 armed := by
    have hnew : true ≠ (drained false).2.kbd.last := by decide +kernel
    exact ⟨.writeKbd true, fun h h' => absurd (h'.symm.trans h) (by simp),
      fun _ hne => absurd rfl hne, fun _ _ hlast => absurd hlast hnew⟩
  have hnotice : timelyWorld.drift armed noticed := by
    have hbegan : armed.began = true := by decide +kernel
    have hidle : armed.sending = none := by decide +kernel
    exact ⟨.checkKbd hbegan hidle, .still rfl rfl rfl⟩
  have hsend : timelyWorld.drift noticed sent := by
    have hsending : noticed.sending = some (.kbdOverrideChanged true) := by decide +kernel
    exact ⟨.send hsending, .still rfl rfl rfl⟩
  have hwritable : sent.writable = true := by decide +kernel
  have hdrained := ((reaches_booted false).tail (.drift hbegin)).trans (reaches_drained false)
  have hsent := ((hdrained.tail (.drift hwrite)).tail (.drift hnotice)).tail (.drift hsend)
  exact hsent.trans (reaches_turn (p := ((drained false).1, sent)) hwritable)

/-- The task tells the dispatcher of the marker. -/
theorem mirrored_kept_armed : ∃ c w, Config.Reaches (world.under Timely Lands) deliver
    (Effectors.handle ⟨false, false⟩) (start ⟨false, false⟩ none false)
      (Config.idle c w) ∧ w.Quiet ∧
    c.power.powerOverride = profileIn w.power.value ∧ c.kbd.kbdOverride = w.kbd.value :=
  have hquiet : told.2.Quiet :=
    ⟨by decide +kernel, by decide +kernel, by decide +kernel, by decide +kernel⟩
  ⟨_, _, reaches_told, hquiet, mirrored_kept ⟨false, false⟩ rfl reaches_told hquiet⟩

/-- The user arms the marker after the setup has looked for it, and before the task's first read. -/
theorem not_mirrored :
    ¬∀ (fx : Effectors) (profile : Option PowerProfile) (armed : Bool) (c : Context)
    (w : Overrides), fx.shadow = false →
    Config.Reaches world deliver fx.handle (start fx profile armed) (Config.idle c w) → w.Quiet →
    c.power.powerOverride = profileIn w.power.value ∧ c.kbd.kbdOverride = w.kbd.value := by
  intro h
  have hbegun := (Config.reaches_of_under (reaches_booted true)).tail (.drift (drift_watching true))
  have hreach := hbegun.trans (Config.reaches_of_under (reaches_drained true))
  have hquiet : (drained true).2.Quiet :=
    ⟨by decide +kernel, by decide +kernel, by decide +kernel, by decide +kernel⟩
  have hmirror : (drained true).1.kbd.kbdOverride = false := by decide +kernel
  have hmarker : (drained true).2.kbd.value = true := by decide +kernel
  obtain ⟨-, hkbd⟩ := h _ _ _ _ _ rfl hreach hquiet
  exact absurd (hmirror.symm.trans (hkbd.trans hmarker)) (by simp)

end Overrides

end Hyprstate
