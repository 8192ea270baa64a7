import Hyprstate.Config.Legacy
import Hyprstate.Powerd.Clamp
import Hyprstate.Store.Replace

/-!
# The pin of the discrete cards, and what powerd keeps on disk

`SetDgpuAwake` of `powerd/mod.rs` writes `power/control` of every discrete card and persists the
pin, and a start and a resume push what is persisted. `ApplyProfile` persists its profile in a file
of its own. Each is persisted by replacing its file, so that a powerd which is killed at any point
finds the last value that it persisted as a whole, and a discrete card holds what was pushed last
(`Box.run_pinned`).
-/

namespace Hyprstate.Knobs

/-- What is written for the pin. -/
def pinWord (awake : Bool) : String := if awake then "on" else "auto"

/-- The `power/control` files of the cards, and the row results. -/
structure RuntimePm where
  control : String → Attr
  res : String → Option String

/-- How a write of the value to a card's `power/control` ends. -/
abbrev Responds : Type := String → String → WriteResult

/-- One card's `power/control`, where it is not the integrated one. -/
def RuntimePm.write (respond : Responds) (value : String) (integrated : Nat) (a : RuntimePm)
    (c : GpuCard × Nat) : RuntimePm :=
  if c.2 = integrated then a
  else
    let r := knobWrite (a.control c.1.card) value (respond c.1.card value)
    { control := Function.update a.control c.1.card r.1
      res := Function.update a.res ("runtime_pm:" ++ pciKey c.1.path) (some r.2) }

/-- `apply_dgpu_runtime_pm`. -/
def applyDgpuRuntimePm (hw : Hardware) (respond : Responds) (awake : Bool)
    (control : String → Attr) : RuntimePm :=
  match hw.integrated with
  | none =>
    { control, res := Function.update (fun _ => none) "runtime_pm" (some "skipped-ambiguous") }
  | some integrated =>
    hw.cards.zipIdx.foldl (RuntimePm.write respond (pinWord awake) integrated)
      { control, res := fun _ => none }

/-! ## The state directory -/

/-- The files of `/var/lib/hyprstate`. -/
abbrev Files : Type := Text → Option Text

/-- The file of the persisted profile. -/
def profileFile : Text := "profile".toList

/-- The file of the pin. -/
def dgpuPinFile : Text := "dgpu-pin".toList

/-- `with_extension("tmp")`. -/
def besideFile (name : Text) : Text := fileStem name ++ ".tmp".toList

/-- The text that the pin is persisted as. -/
def dgpuPinText (awake : Bool) : Text := (pinWord awake).toList ++ "\n".toList

/-- The text that a profile is persisted as. -/
def profileText (profile : PowerProfile) : Text := profile.asStr.toList ++ "\n".toList

/-- `persist_dgpu_pin`, as far as it comes. -/
def persistDgpuPin (awake : Bool) (files : Files) (ending : Store.Ending Text) : Files :=
  Store.replace (besideFile dgpuPinFile) dgpuPinFile (dgpuPinText awake) files ending

/-- `persist_profile`, as far as it comes. -/
def persistProfile (profile : PowerProfile) (files : Files) (ending : Store.Ending Text) : Files :=
  Store.replace (besideFile profileFile) profileFile (profileText profile) files ending

/-- `persisted_dgpu_pin`, of the text: `on`, and anything else is none. -/
def readDgpuPin (text : Option Text) : Bool :=
  (text.map fun text => decide (Text.trim isWhitespace text = "on".toList)).getD false

/-- `persisted_profile`, of the text: its first word, or balanced. -/
def readProfile (text : Option Text) : PowerProfile :=
  (text.bind fun text => (Text.words isWhitespace text).head?.bind fun word =>
    PowerProfile.parse (String.ofList word)).getD .balanced

/-- `persisted_dgpu_pin`. -/
def persistedDgpuPin (files : Files) : Bool := readDgpuPin (files dgpuPinFile)

/-- `persisted_profile`. -/
def persistedProfile (files : Files) : PowerProfile := readProfile (files profileFile)

/-- A persisted pin is read back. -/
theorem readDgpuPin_dgpuPinText (awake : Bool) :
    readDgpuPin (some (dgpuPinText awake)) = awake := by
  cases awake <;> decide +kernel

/-- A persisted profile is read back. -/
theorem readProfile_profileText (profile : PowerProfile) :
    readProfile (some (profileText profile)) = profile := by
  cases profile <;> decide +kernel

/-- A write of the pin that came to its end decides the pin. -/
theorem persistedDgpuPin_persist (awake : Bool) (files : Files) (ending : Store.Ending Text) :
    persistedDgpuPin (persistDgpuPin awake files ending) =
      if ending.done then awake else persistedDgpuPin files :=
  Store.read_replace readDgpuPin_dgpuPinText (by decide +kernel) awake ending

/-- A write of the profile that came to its end decides the profile. -/
theorem persistedProfile_persist (profile : PowerProfile) (files : Files)
    (ending : Store.Ending Text) :
    persistedProfile (persistProfile profile files ending) =
      if ending.done then profile else persistedProfile files :=
  Store.read_replace readProfile_profileText (by decide +kernel) profile ending

/-- Neither file is the other, nor beside it. -/
theorem persistedProfile_persistDgpuPin (awake : Bool) (files : Files)
    (ending : Store.Ending Text) :
    persistedProfile (persistDgpuPin awake files ending) = persistedProfile files :=
  congrArg readProfile (Store.replace_frame (by decide +kernel) (by decide +kernel) _ ending)

/-- A write of the profile leaves the pin. -/
theorem persistedDgpuPin_persistProfile (profile : PowerProfile) (files : Files)
    (ending : Store.Ending Text) :
    persistedDgpuPin (persistProfile profile files ending) = persistedDgpuPin files :=
  congrArg readDgpuPin (Store.replace_frame (by decide +kernel) (by decide +kernel) _ ending)

/-! ## The lives of powerd -/

/-- The machine that powerd runs on, and is started on again. -/
structure Box where
  files : Files
  control : String → Attr

/-- What happens to it. A call that is killed while it persists is one whose replacement is not
done. -/
inductive BoxEvent
  | setDgpuAwake (awake : Bool) (ending : Store.Ending Text)
  | applyProfile (profile : PowerProfile) (ending : Store.Ending Text)
  /-- powerd starts, and pushes what is persisted. -/
  | startup
  /-- The machine resumes, and powerd pushes what is persisted. -/
  | resume
  /-- The firmware, a reboot or a user leaves other values. -/
  | disturbed (control : String → Attr)

namespace BoxEvent

/-- What an event pushes to the cards, where the pin is persisted. -/
def pushes (pin : Bool) : BoxEvent → Option Bool
  | setDgpuAwake awake _ => some awake
  | startup | resume => some pin
  | applyProfile _ _ | disturbed _ => none

/-- The pin that an event persisted. -/
def savedPin : BoxEvent → Option Bool
  | setDgpuAwake awake ending => if ending.done then some awake else none
  | _ => none

/-- The profile that an event persisted. -/
def savedProfile : BoxEvent → Option PowerProfile
  | applyProfile profile ending => if ending.done then some profile else none
  | _ => none

/-- The event leaves the cards alone. -/
def idle : BoxEvent → Bool
  | applyProfile _ _ => true
  | setDgpuAwake _ _ | startup | resume | disturbed _ => false

/-- The event leaves the card with a `power/control`, if it had one. -/
def Keeps (card : String) (e : BoxEvent) : Prop :=
  ∀ control, e = disturbed control → ∃ t, control card = .text t

end BoxEvent

/-- The pin that was persisted last. -/
def lastPin (initial : Bool) (events : List BoxEvent) : Bool :=
  (events.filterMap BoxEvent.savedPin).getLast?.getD initial

/-- The profile that was persisted last. -/
def lastProfile (initial : PowerProfile) (events : List BoxEvent) : PowerProfile :=
  (events.filterMap BoxEvent.savedProfile).getLast?.getD initial

section

variable (hw : Hardware) (respond : Responds)

/-- One event of powerd: a pin, an apply, a startup or a resume. -/
def Box.step (box : Box) : BoxEvent → Box
  | .setDgpuAwake awake ending =>
    { files := persistDgpuPin awake box.files ending
      control := (applyDgpuRuntimePm hw respond awake box.control).control }
  | .applyProfile profile ending => { box with files := persistProfile profile box.files ending }
  | .startup | .resume =>
    { box with control := (applyDgpuRuntimePm hw respond (persistedDgpuPin box.files)
      box.control).control }
  | .disturbed control => { box with control := control }

/-- A run of events. -/
def Box.run (box : Box) (events : List BoxEvent) : Box := events.foldl (Box.step hw respond) box

/-- A discrete card, beside an integrated one. -/
def Hardware.IsDiscrete (card : String) : Prop :=
  ∃ integrated, hw.integrated = some integrated ∧
    ∃ c ∈ hw.cards.zipIdx, c.2 ≠ integrated ∧ c.1.card = card

variable {hw respond}

/-! ### What is persisted -/

/-- One event moves the persisted pin only where it saves one. -/
theorem persistedDgpuPin_step (box : Box) (e : BoxEvent) :
    persistedDgpuPin (box.step hw respond e).files = e.savedPin.getD
      (persistedDgpuPin box.files) := by
  cases e with
  | setDgpuAwake awake ending =>
    refine (persistedDgpuPin_persist awake box.files ending).trans ?_
    rw [BoxEvent.savedPin]
    cases ending.done <;> rfl
  | applyProfile profile ending => exact persistedDgpuPin_persistProfile profile box.files ending
  | startup | resume | disturbed _ => rfl

/-- The same of the profile. -/
theorem persistedProfile_step (box : Box) (e : BoxEvent) :
    persistedProfile (box.step hw respond e).files = e.savedProfile.getD
      (persistedProfile box.files) := by
  cases e with
  | applyProfile profile ending =>
    refine (persistedProfile_persist profile box.files ending).trans ?_
    rw [BoxEvent.savedProfile]
    cases ending.done <;> rfl
  | setDgpuAwake awake ending => exact persistedProfile_persistDgpuPin awake box.files ending
  | startup | resume | disturbed _ => rfl

/-- The persisted pin is the last one saved. -/
theorem persistedDgpuPin_run (box : Box) (events : List BoxEvent) :
    persistedDgpuPin (box.run hw respond events).files = lastPin
      (persistedDgpuPin box.files) events :=
  Store.read_foldl (Box.step hw respond) (fun box => persistedDgpuPin box.files) BoxEvent.savedPin
    persistedDgpuPin_step events box

/-- The persisted profile is the last one saved. -/
theorem persistedProfile_run (box : Box) (events : List BoxEvent) :
    persistedProfile (box.run hw respond events).files = lastProfile
      (persistedProfile box.files) events :=
  Store.read_foldl (Box.step hw respond) (fun box => persistedProfile box.files)
    BoxEvent.savedProfile
    persistedProfile_step events box

/-! ### What a card holds -/

/-- A write leaves the attribute or puts its value. -/
theorem knobWrite_cases (attr : Attr) (value : String) (res : WriteResult) :
    (knobWrite attr value res).1 = attr ∨
      (∃ t, attr = .text t) ∧ (knobWrite attr value res).1 = .text value := by
  cases attr with
  | missing => exact .inl rfl
  | unreadable err => exact .inl rfl
  | text cur =>
    simp only [knobWrite]
    split
    · exact .inl rfl
    · cases res with
      | ok => exact .inr ⟨⟨cur, rfl⟩, rfl⟩
      | unsupported => exact .inl rfl
      | failed err => exact .inl rfl

/-- An accepted write leaves the value. -/
theorem written {attr : Attr} {value : String} (hattr : ∃ t, attr = .text t) :
    (knobWrite attr value .ok).1 = .text value := by
  obtain ⟨t, rfl⟩ := hattr
  simp only [knobWrite]
  split
  case isTrue heq => rw [heq]
  case isFalse => rfl

variable {card : String}

/-- A row writes its own card, if that is not the integrated one. -/
theorem RuntimePm.write_control (respond : Responds) (value : String) (integrated : Nat)
    (a : RuntimePm) (c : GpuCard × Nat) (card : String) :
    (a.write respond value integrated c).control card =
      if c.2 ≠ integrated ∧ c.1.card = card then
        (knobWrite (a.control card) value (respond card value)).1
      else a.control card := by
  rw [RuntimePm.write]
  by_cases hint : c.2 = integrated
  · rw [if_pos hint, if_neg fun h => h.1 hint]
  · rw [if_neg hint]
    by_cases hcard : c.1.card = card
    · subst hcard
      rw [if_pos ⟨hint, rfl⟩]
      exact Function.update_self _ _ _
    · rw [if_neg fun h => hcard h.2]
      exact Function.update_of_ne (Ne.symm hcard) _ _

/-- A push leaves a card alone, or puts the pin of a discrete one. -/
theorem moved_applyDgpuRuntimePm (awake : Bool) (control : String → Attr) (card : String) :
    (applyDgpuRuntimePm hw respond awake control).control card = control card ∨
      hw.IsDiscrete card ∧ (∃ t, control card = .text t) ∧
        (applyDgpuRuntimePm hw respond awake control).control card = .text (pinWord awake) := by
  unfold applyDgpuRuntimePm
  cases hint : hw.integrated with
  | none => exact .inl rfl
  | some integrated =>
    refine List.foldlRecOn (motive := fun a : RuntimePm => a.control card = control card ∨
      hw.IsDiscrete card ∧ (∃ t, control card = .text t) ∧ a.control card = .text (pinWord awake))
      hw.cards.zipIdx _ (.inl rfl) ?_
    intro a ha c hc
    rw [RuntimePm.write_control]
    split
    case isFalse => exact ha
    next hrow =>
    rcases knobWrite_cases (a.control card) (pinWord awake) (respond card (pinWord awake)) with
      hkept | ⟨⟨t, ht⟩, hput⟩
    · rw [hkept]
      exact ha
    · refine .inr ⟨⟨integrated, hint, c, hc, hrow⟩, ?_, hput⟩
      rcases ha with ha | ⟨-, htext, -⟩
      · exact ⟨t, ha.symm.trans ht⟩
      · exact htext

/-- The rows leave the value on every discrete card that they come to. -/
theorem control_foldl (haccept : ∀ value, respond card value = .ok) {value : String}
    {integrated : Nat} {cards : List (GpuCard × Nat)} {a : RuntimePm}
    (htext : ∃ t, a.control card = .text t) :
    (cards.foldl (RuntimePm.write respond value integrated) a).control card =
      if ∃ c ∈ cards, c.2 ≠ integrated ∧ c.1.card = card then .text value else a.control card := by
  induction cards generalizing a with
  | nil => simp
  | cons c cards ih =>
    have hrow : (a.write respond value integrated c).control card =
        if c.2 ≠ integrated ∧ c.1.card = card then .text value else a.control card := by
      rw [RuntimePm.write_control, haccept, written htext]
    have hkept : ∃ t, (a.write respond value integrated c).control card = .text t := by
      rw [hrow]
      split
      · exact ⟨value, rfl⟩
      · exact htext
    rw [List.foldl_cons, ih hkept, hrow]
    simp only [List.mem_cons, exists_eq_or_imp]
    by_cases hc : c.2 ≠ integrated ∧ c.1.card = card
    · rw [if_pos hc, ite_self, if_pos (.inl hc)]
    · rw [if_neg hc]
      simp only [hc, false_or]

/-- A push leaves the pin on a discrete card. -/
theorem control_applyDgpuRuntimePm (hdiscrete : hw.IsDiscrete card)
    (haccept : ∀ value, respond card value = .ok) {control : String → Attr}
    (htext : ∃ t, control card = .text t) (awake : Bool) :
    (applyDgpuRuntimePm hw respond awake control).control card = .text (pinWord awake) := by
  obtain ⟨integrated, hint, hcard⟩ := hdiscrete
  unfold applyDgpuRuntimePm
  rw [hint]
  exact (control_foldl haccept htext).trans (if_pos hcard)

/-- A card's control that is a text stays one. -/
theorem text_applyDgpuRuntimePm {control : String → Attr} (htext : ∃ t, control card = .text t)
    (awake : Bool) : ∃ t, (applyDgpuRuntimePm hw respond awake control).control card = .text t := by
  rcases moved_applyDgpuRuntimePm awake control card with hkept | ⟨-, -, hput⟩
  · rw [hkept]
    exact htext
  · exact ⟨_, hput⟩

/-- So it does from event to event. -/
theorem text_step {box : Box} {e : BoxEvent} (htext : ∃ t, box.control card = .text t)
    (hkeeps : e.Keeps card) : ∃ t, (box.step hw respond e).control card = .text t := by
  cases e with
  | setDgpuAwake awake ending => exact text_applyDgpuRuntimePm htext awake
  | applyProfile profile ending => exact htext
  | startup | resume => exact text_applyDgpuRuntimePm htext _
  | disturbed control => exact hkeeps control rfl

/-- A discrete card holds the pin that an event pushes, and keeps what it holds of one that leaves
it alone. -/
theorem control_step (hdiscrete : hw.IsDiscrete card)
    (haccept : ∀ value, respond card value = .ok) {box : Box} {e : BoxEvent}
    (htext : ∃ t, box.control card = .text t) :
    (∀ awake, e.pushes (persistedDgpuPin box.files) = some awake →
        (box.step hw respond e).control card = .text (pinWord awake)) ∧
      (e.idle = true → (box.step hw respond e).control card = box.control card) := by
  cases e with
  | setDgpuAwake awake ending =>
    refine ⟨?_, fun h => by cases h⟩
    rintro _ ⟨⟩
    exact control_applyDgpuRuntimePm hdiscrete haccept htext awake
  | applyProfile profile ending => exact ⟨fun _ h => (by cases h), fun _ => rfl⟩
  | startup | resume =>
    refine ⟨?_, fun h => by cases h⟩
    rintro _ ⟨⟩
    exact control_applyDgpuRuntimePm hdiscrete haccept htext _
  | disturbed control => exact ⟨fun _ h => (by cases h), fun h => by cases h⟩

/-- Whatever becomes of each call, powerd finds the pin and the profile that were last persisted as
a whole. And where every event leaves a discrete card its `power/control` and no event that pushes
has followed, the card holds what was pushed last: the pin of the call, or after a start or a resume
the pin that was last persisted. -/
theorem Box.run_pinned (box : Box) (events : List BoxEvent) :
    persistedDgpuPin (box.run hw respond events).files = lastPin
      (persistedDgpuPin box.files) events ∧
      persistedProfile (box.run hw respond events).files = lastProfile
        (persistedProfile box.files) events ∧
      ∀ card, hw.IsDiscrete card → (∀ value, respond card value = .ok) →
      (∃ t, box.control card = .text t) →
        (∀ e ∈ events, e.Keeps card) →
        ∀ before e after awake, events = before ++ e :: after →
          e.pushes (lastPin (persistedDgpuPin box.files) before) = some awake →
          (∀ e' ∈ after, e'.idle = true) →
          (box.run hw respond events).control card = .text (pinWord awake) := by
  refine ⟨persistedDgpuPin_run box events, persistedProfile_run box events, ?_⟩
  rintro card hdiscrete haccept htext hkeeps before e after awake rfl hpush hidle
  have hbefore : ∃ t, (box.run hw respond before).control card = .text t := by
    refine List.foldlRecOn (motive := fun box : Box => ∃ t, box.control card = .text t)
      before _ htext ?_
    exact fun b hb e he => text_step hb (hkeeps e (List.mem_append_left _ he))
  rw [← @persistedDgpuPin_run hw respond] at hpush
  have hpushed := (control_step hdiscrete haccept hbefore).1 awake hpush
  rw [Box.run, List.foldl_append, List.foldl_cons]
  refine List.foldlRecOn (motive := fun b : Box => b.control card = .text (pinWord awake))
    after _ hpushed ?_
  intro b hb e' he'
  rw [(control_step hdiscrete haccept ⟨_, hb⟩).2 (hidle e' he'), hb]

/-- A fresh machine. -/
def fresh : Box where
  files _ := none
  control _ := .text "auto"

/-- A pin that was persisted is restored after a resume that lost it, although a release was killed
before. -/
theorem Box.run_pinned_resumed :
    let events : List BoxEvent := [.setDgpuAwake true .replaced,
      .setDgpuAwake false (.torn "au".toList), .disturbed fun _ => .text "auto", .resume,
      .applyProfile .performance .replaced]
    (fresh.run twoCards (fun _ _ => .ok) events).control "card0" = .text "on" := by
  obtain ⟨integrated, c, hint, hc, hdisc, hcard⟩ := twoCards_discrete.discrete
  refine (fresh.run_pinned _).2.2 "card0" ⟨integrated, hint, c, hc, hdisc, hcard⟩ (fun _ => rfl)
    ⟨"auto", rfl⟩ ?_
    [.setDgpuAwake true .replaced, .setDgpuAwake false (.torn "au".toList), .disturbed fun _ =>
      .text "auto"] .resume
    [.applyProfile .performance .replaced] true rfl ?_ ?_
  · intro e he control heq
    subst heq
    have hcontrol : control = fun _ => .text "auto" := by simpa using he
    exact ⟨"auto", by rw [hcontrol]⟩
  · decide +kernel
  · simp [BoxEvent.idle]

end

end Hyprstate.Knobs
