import Mathlib.Data.List.Induction
import Hyprstate.Powerd.Client
import Hyprstate.Reactive.Server

/-!
# Recognising powerd's own writes

powerd and others write platform_profile, the state-file task reads it and reports a change, and the
dispatcher takes the change for its own side's write or for a manual override. It tells them apart
by the time of its last registered apply, and by nothing else: a registered value counts no longer
than the window does (`isSelfWrite_iff`). So whoever wrote the change, it is adopted exactly when no
apply was registered in the window before the dispatch reads the clock.
-/

namespace Hyprstate

open Reactive Process

/-! ## The tracker -/

/-- Every expected value was registered no later than the last apply, which is past. -/
def SelfWriteTracker.Tracked (t : SelfWriteTracker) (now : Nat) : Prop :=
  (∀ last, t.lastApply = some last → last ≤ now) ∧
    ∀ e ∈ t.entries, ∃ last, t.lastApply = some last ∧ e.1 ≤ last + adoptSuppress

namespace SelfWriteTracker

variable {t : SelfWriteTracker} {now : Nat}

/-- What is tracked stays so as the clock goes on. -/
theorem Tracked.later {now' : Nat} (h : t.Tracked now) (hle : now ≤ now') : t.Tracked now' :=
  ⟨fun last hlast => (h.1 last hlast).trans hle, h.2⟩

/-- A write that is registered is tracked. -/
theorem Tracked.register (h : t.Tracked now) (profile : PowerProfile) :
    (t.register now profile).Tracked now := by
  constructor
  · intro last hlast
    exact (Option.some.inj hlast).ge
  · intro e he
    refine ⟨now, rfl, ?_⟩
    rcases List.mem_append.mp he with hold | hnew
    · obtain ⟨last, hlast, hexpiry⟩ := h.2 e hold
      have hle : last ≤ now := h.1 last hlast
      omega
    · obtain rfl := List.mem_singleton.mp hnew
      exact le_rfl

/-- Judging a value drops entries, and leaves the last apply. -/
theorem isSelfWrite_snd (t : SelfWriteTracker) (now : Nat) (value : Option String) :
    (t.isSelfWrite now value).2.lastApply = t.lastApply ∧
      ∀ e ∈ (t.isSelfWrite now value).2.entries, e ∈ t.entries := by
  have hfilter : ∀ e ∈ t.entries.filter fun e => decide (e.1 > now), e ∈ t.entries :=
    fun e he => (List.mem_filter.mp he).1
  unfold isSelfWrite
  dsimp only
  split
  · exact ⟨rfl, fun e he => hfilter e (List.mem_of_mem_eraseIdx he)⟩
  · exact ⟨rfl, hfilter⟩

/-- To judge a value keeps the tracker. -/
theorem Tracked.judge (h : t.Tracked now) (clock : Nat) (value : Option String) :
    (t.isSelfWrite clock value).2.Tracked now := by
  obtain ⟨hlast, hentries⟩ := t.isSelfWrite_snd clock value
  constructor
  · rw [hlast]
    exact h.1
  · intro e he
    rw [hlast]
    exact h.2 e (hentries e he)

/-- A value is taken for an own write exactly in the window after the last apply. -/
theorem isSelfWrite_iff (h : t.Tracked now) (value : Option String) :
    (t.isSelfWrite now value).1 = true ↔
      ∃ last, t.lastApply = some last ∧ now - last < adoptSuppress := by
  unfold isSelfWrite
  dsimp only
  split
  · next i hi =>
    -- A value that is still expected was registered inside the window.
    refine ⟨fun _ => ?_, fun _ => rfl⟩
    cases value with
    | none => exact absurd hi (by simp)
    | some v =>
      obtain ⟨hlt, -⟩ := List.findIdx?_eq_some_iff_findIdx_eq.mp hi
      obtain ⟨hmem, hexpiry⟩ := List.mem_filter.mp (List.getElem_mem hlt)
      obtain ⟨last, hlast, hle⟩ := h.2 _ hmem
      have hunexpired := of_decide_eq_true hexpiry
      exact ⟨last, hlast, by unfold adoptSuppress at *; omega⟩
  · cases t.lastApply with
    | none => simp
    | some last => simp

end SelfWriteTracker

/-- One call on the tracker. -/
inductive TrackerCall
  | register (profile : PowerProfile)
  | isSelfWrite (value : Option String)

/-- The tracker after a call, at its time. -/
def TrackerCall.make (t : SelfWriteTracker) : Nat × TrackerCall → SelfWriteTracker
  | (now, .register profile) => t.register now profile
  | (now, .isSelfWrite value) => (t.isSelfWrite now value).2

/-- The default tracker after some calls. -/
def tracked (calls : List (Nat × TrackerCall)) : SelfWriteTracker := calls.foldl TrackerCall.make {}

/-- Calls whose times do not decrease keep the entries inside the window of the last apply, which is
the last registered one. -/
theorem tracked_spec {calls : List (Nat × TrackerCall)} {now : Nat}
    (hsorted : (calls.map Prod.fst ++ [now]).Pairwise (· ≤ ·)) :
    (tracked calls).Tracked now ∧
      (∀ last, (tracked calls).lastApply = some last →
        ∃ p, (last, TrackerCall.register p) ∈ calls) ∧
      ∀ t p, (t, TrackerCall.register p) ∈ calls → ∃ last, (tracked calls).lastApply = some last ∧
      t ≤ last := by
  induction calls using List.reverseRecOn generalizing now with
  | nil => exact ⟨⟨by simp [tracked], by simp [tracked]⟩, by simp [tracked], by simp⟩
  | append_singleton calls call ih =>
    obtain ⟨t, call⟩ := call
    rw [List.map_append, List.map_singleton, List.append_assoc, List.pairwise_append] at hsorted
    obtain ⟨hcalls, hlast, hle⟩ := hsorted
    have htnow : t ≤ now := by simpa using hlast
    have hbefore : ∀ t' ∈ calls.map Prod.fst, t' ≤ t := fun t' ht' => hle t' ht' t (by simp)
    have hsorted' : (calls.map Prod.fst ++ [t]).Pairwise (· ≤ ·) := by
      rw [List.pairwise_append]
      exact ⟨hcalls, List.pairwise_singleton _ _, by simpa using hbefore⟩
    obtain ⟨htracked, hreg, hmax⟩ := ih hsorted'
    have hstep : tracked (calls ++ [(t, call)]) = TrackerCall.make (tracked calls) (t, call) := by
      simp [tracked]
    rw [hstep]
    cases call with
    | register profile =>
      refine ⟨(htracked.register profile).later htnow, fun last hlast => ?_, fun t' p hmem => ?_⟩
      · obtain rfl : t = last := Option.some.inj hlast
        exact ⟨profile, by simp⟩
      · refine ⟨t, rfl, ?_⟩
        rcases List.mem_append.mp hmem with hmem | hmem
        · exact hbefore t' (List.mem_map_of_mem hmem)
        · simp only [List.mem_singleton, Prod.mk.injEq] at hmem
          exact hmem.1.le
    | isSelfWrite value =>
      -- The judgement leaves the last apply, and registers none.
      have hsame := ((tracked calls).isSelfWrite_snd t value).1
      refine ⟨(htracked.judge t value).later htnow, fun last hlast => ?_, fun t' p hmem => ?_⟩
      · obtain ⟨p, hp⟩ := hreg last (hsame.symm.trans hlast)
        exact ⟨p, List.mem_append_left _ hp⟩
      · have hmem' : (t', TrackerCall.register p) ∈ calls := by simpa using hmem
        obtain ⟨last, hlast, hle⟩ := hmax t' p hmem'
        exact ⟨last, hsame.trans hlast, hle⟩

/-- A value is an own write exactly in the window after some registered apply, whatever the value is
and whatever was judged before. -/
theorem isSelfWrite_iff_registered {calls : List (Nat × TrackerCall)} {now : Nat}
    (hsorted : (calls.map Prod.fst ++ [now]).Pairwise (· ≤ ·)) (value : Option String) :
    ((tracked calls).isSelfWrite now value).1 = true ↔
      ∃ t p, (t, TrackerCall.register p) ∈ calls ∧ now - t < adoptSuppress := by
  obtain ⟨htracked, hreg, hmax⟩ := tracked_spec hsorted
  rw [SelfWriteTracker.isSelfWrite_iff htracked]
  constructor
  · rintro ⟨last, hlast, hwindow⟩
    obtain ⟨p, hp⟩ := hreg last hlast
    exact ⟨last, p, hp, hwindow⟩
  · rintro ⟨t, p, hp, hwindow⟩
    obtain ⟨last, hlast, hle⟩ := hmax t p hp
    exact ⟨last, hlast, by omega⟩

/-- An apply, its own value twice, of which the first consumes the entry, and the end of the
window. -/
theorem isSelfWrite_iff_registered_quiet :
    ((tracked [(0, .register .powerSaver), (1000, .isSelfWrite (some "quiet"))]).isSelfWrite 4999
        (some "quiet")).1 = true ∧
      ((tracked [(0, .register .powerSaver), (1000, .isSelfWrite (some "quiet"))]).isSelfWrite 5000
        (some "quiet")).1 = false := by
  constructor
  · exact (isSelfWrite_iff_registered (by decide) _).mpr ⟨0, .powerSaver, by simp, by decide⟩
  · refine Bool.eq_false_iff.mpr fun h => ?_
    obtain ⟨t, p, hmem, hwindow⟩ := (isSelfWrite_iff_registered (by decide) _).mp h
    obtain ⟨rfl, -⟩ : t = 0 ∧ p = .powerSaver := by simpa using hmem
    exact absurd hwindow (by decide)

/-! ## The attribute and its readers -/

/-- Who wrote platform_profile. -/
inductive Writer
  /-- powerd, for a call of this daemon. -/
  | apply
  /-- powerd, which applies its profile again when it starts. -/
  | startup
  /-- powerd, which applies its profile again on resume. -/
  | resume
  /-- The firmware, or another program. -/
  | other
  deriving DecidableEq

/-- The writer is powerd, at either of its places. -/
def Writer.isPowerd : Writer → Bool
  | .other => false
  | _ => true

/-- The attribute with its last writer, and what the daemon's tasks know of it. -/
structure Firmware where
  now : Nat := 0
  value : Option String := none
  writer : Writer := .other
  /-- The task's last read. -/
  last : Option String := none
  /-- The profiles that this daemon asked powerd for. -/
  calls : List PowerProfile := []
  /-- The dispatcher's queue, with the writer of each reported change. -/
  queue : List (Event × Writer) := []
  /-- What the dispatcher took last. -/
  taken : Option (Event × Writer) := none
  /-- The power record and the clock, where the turn read the clock first. -/
  judged : Option (PowerContext × Nat) := none
  /-- What the turn wrote to the override file. -/
  adopted : Option PowerProfile := none

namespace Firmware

/-- The values that each writer may write. -/
inductive Writes (w : Firmware) : Writer → String → Prop
  | apply {p : PowerProfile} {v : String} : p ∈ w.calls → v ∈ platformProfileChain p →
      Writes w .apply v
  | startup {p : PowerProfile} {v : String} : v ∈ platformProfileChain p → Writes w .startup v
  | resume {p : PowerProfile} {v : String} : v ∈ platformProfileChain p → Writes w .resume v
  | other {v : String} : Writes w .other v

/-- One step of the clock, of a writer, or of a task. -/
inductive Moves : Firmware → Firmware → Prop
  | tick {w : Firmware} (n : Nat) : Moves w { w with now := w.now + n }
  | write {w : Firmware} {writer : Writer} {v : String} :
      Writes w writer v → Moves w { w with value := some v, writer := writer }
  /-- The state-file task finds a change. -/
  | read {w : Firmware} : w.value ≠ w.last → Moves w { w with
      last := w.value
      queue := w.queue ++ [(.platformProfileChanged w.value, w.writer)] }
  /-- Another task sends an event. -/
  | send {w : Firmware} {ev : Event} : (∀ v, ev ≠ .platformProfileChanged v) →
      Moves w { w with queue := w.queue ++ [(ev, .other)] }

/-- The platform's profile, who wrote it, and the clock. -/
def world : World (Context × Eff) (stamped Eff.Ans) Firmware where
  drift := Moves
  answer
    | (c, .now), w, now, w' =>
      now = w.now ∧ w' = { w with judged := w.judged.orElse fun _ => some (c.power, w.now) }
    | (_, .powerdApplyProfile profile), w, _, w' => w' = { w with calls := profile :: w.calls }
    | (_, .powerOverrideWrite profile), w, _, w' => w' = { w with adopted := some profile }
    | (_, .sendEvent ev), w, _, w' => w' = { w with queue := w.queue ++ [(ev, .other)] }
    | _, w, _, w' => w' = w

/-- The events are taken in the order of the queue. -/
def deliver (w : Firmware) (ev : Event) (w' : Firmware) : Prop :=
  ∃ writer rest, w.queue = (ev, writer) :: rest ∧
    w' = { w with queue := rest, taken := some (ev, writer), judged := none, adopted := none }

/-- The last apply was registered in the window before the clock. -/
def RegisteredLately (p : PowerContext) (now : Nat) : Prop :=
  ∃ last, p.selfWrites.lastApply = some last ∧ now - last < adoptSuppress

/-- The turn left the override as it found it. -/
def Kept (p : PowerContext) (c : Context) (w : Firmware) : Prop :=
  c.power.powerOverride = p.powerOverride ∧ c.power.powerOverrideBase = p.powerOverrideBase ∧
    w.adopted = none

/-- The turn made the profile the override, in the context and, but for shadow mode, in the file. -/
def Adopted (fx : Effectors) (profile : PowerProfile) (c : Context) (w : Firmware) : Prop :=
  c.power.powerOverride = some profile ∧ w.adopted = if fx.shadow then none else some profile

/-- The turn judged the value by the time of the last apply. -/
def Judged (fx : Effectors) (value : Option String) (c : Context) (w : Firmware) : Prop :=
  ∃ p now, w.judged = some (p, now) ∧ (RegisteredLately p now → Kept p c w) ∧
    (¬RegisteredLately p now → Adopted fx (profileFromPlatformValue value) c w)

/-! ## What the rest of the turn leaves alone -/

section

variable (fx : Effectors) (c : Context)

/-- `apply_power_profile` leaves the override. -/
theorem applyPowerProfile_override (profile : PowerProfile) :
    Meets (fx.applyPowerProfile profile) c (only [.query, .powerd])
      fun _ c' => c'.power.powerOverride = c.power.powerOverride := by
  simp [Effectors.applyPowerProfile, Effectors.powerdUnavailable, only]

/-- After an adoption the policy check stamps the override, and asks for it. -/
theorem powerPolicyCheck_fresh {profile : PowerProfile} (ho : c.power.powerOverride = some profile)
    (hb : c.power.powerOverrideBase = none) :
    Meets fx.powerPolicyCheck c (only [.query, .light, .powerd])
      fun _ c' => c'.power.powerOverride = some profile := by
  have hstep : ∀ base, Meets (fx.powerOverrideStep base) c (only [.query, .light, .powerd])
      fun _ c' => c'.power.powerOverride = some profile := by
    intro base
    rw [Effectors.powerOverrideStep, meets_bind, meets_get, ho, hb]
    exact ho
  rw [Effectors.powerPolicyCheck, meets_bind, meets_get]
  refine (hstep _).bind ?_
  rintro _ c₁ h₁
  rw [meets_bind, meets_get]
  refine (weaken (applyPowerProfile_override fx c₁ _) (by simp)).bind ?_
  rintro _ c₂ h₂
  rw [meets_bind, meets_get, meets_bind, meets_set]
  have ho₂ : c₂.power.powerOverride = some profile := h₂.trans h₁
  dsimp only
  cases c₂.power.powerLastBase with
  | none => exact ho₂
  | some prev =>
    refine (weaken (brightnessEdge_spec fx _ prev _) (by simp)).imp ?_
    rintro _ _ ⟨b, rfl⟩
    exact ho₂

/-- The tail of the turn keeps the override and its stamp. -/
theorem tail_override (value : Option String) :
    Meets (do fx.dispatchTail (.platformProfileChanged value); fx.syncWaybar) c
      (only [.query, .command, .powerd, .abort, .timer, .graceTimer, .panel])
      fun _ c' => c'.power.powerOverride = c.power.powerOverride ∧
        c'.power.powerOverrideBase = c.power.powerOverrideBase := by
  -- The pin is synced, which may find powerd gone but moves no override.
  have hgpu : Meets (do
      let chosen ← Effectors.currentMatch
      fx.gpuCheck "PlatformProfileChanged" chosen) c
      (only [.query, .command, .powerd, .abort, .timer, .graceTimer, .panel])
      fun _ c' => ∃ a, c'.powerView = { c.powerView with available := a } := by
    refine (weaken (currentMatch_spec c) (by simp)).bind ?_
    rintro chosen _ rfl
    refine (weaken (gpuDriftCheck_spec fx _ _ _) (by simp)).bind ?_
    rintro mode _ ⟨g, rfl⟩
    refine ((syncDgpuPin_view fx _ _).mono ?_ fun _ _ => id)
    rintro _ _ rfl
    simp [only]
  rw [Effectors.dispatchTail, bind_assoc, meets_bind, meets_when]
  refine ⟨fun h => absurd h (by simp [Event.kind]), fun _ => ?_⟩
  rw [bind_assoc]
  refine Meets.bind (Q := fun _ c' => ∃ a, c'.powerView = { c.powerView with available := a }) ?_ ?_
  · exact meets_when.mpr ⟨fun _ => hgpu, fun _ => ⟨c.power.powerdAvailable, rfl⟩⟩
  rintro _ c₁ ⟨a, h₁⟩
  rw [bind_assoc, meets_bind, meets_when]
  refine ⟨fun h => absurd h (by simp [Event.kind]), fun _ => ?_⟩
  have ho : c₁.power.powerOverride = c.power.powerOverride := congrArg PowerView.override h₁
  have hb : c₁.power.powerOverrideBase = c.power.powerOverrideBase := congrArg PowerView.base h₁
  refine (weaken ((evaluateFsms_spec fx c₁ _ (by simp [Event.kind])).mono (fun _ _ h => h.1)
    fun _ _ => id) (by simp [entryResources])).bind ?_
  rintro _ _ ⟨t, cw, rfl⟩
  refine (weaken (syncWaybar_spec fx _) (by simp)).imp ?_
  rintro _ _ ⟨v, rfl⟩
  exact ⟨ho, hb⟩

end

/-! ## One turn -/

/-- The others move the clock on and take nothing. -/
theorem moves_kept {w w' : Firmware} (h : Moves w w') :
    w.now ≤ w'.now ∧ w'.taken = w.taken ∧ w'.judged = w.judged ∧ w'.adopted = w.adopted := by
  cases h with
  | tick n => exact ⟨Nat.le_add_right _ n, rfl, rfl, rfl⟩
  | _ => exact ⟨le_rfl, rfl, rfl, rfl⟩

/-- So they do any number of times. -/
theorem drifts_kept {w w' : Firmware} (h : world.Drifts w w') :
    w.now ≤ w'.now ∧ w'.taken = w.taken ∧ w'.judged = w.judged ∧ w'.adopted = w.adopted := by
  induction h with
  | refl => exact ⟨le_rfl, rfl, rfl, rfl⟩
  | tail _ hstep ih =>
    obtain ⟨hnow, htaken, hj, ha⟩ := moves_kept hstep
    exact ⟨ih.1.trans hnow, htaken.trans ih.2.1, hj.trans ih.2.2.1, ha.trans ih.2.2.2⟩

/-- No answer moves the clock, or what was taken. -/
theorem answer_now {r : Context × Eff} {w w' : Firmware} {b : stamped Eff.Ans r}
    (h : world.answer r w b w') : w'.now = w.now ∧ w'.taken = w.taken := by
  obtain ⟨c, e⟩ := r
  cases e with
  | now =>
    obtain ⟨-, rfl⟩ : _ ∧ w' = _ := h
    exact ⟨rfl, rfl⟩
  | _ =>
    obtain rfl : w' = _ := h
    exact ⟨rfl, rfl⟩

/-- Once the turn has read the clock, only a write of the override file moves what is known of
it. -/
theorem answer_judged {c : Context} {e : Eff} {w w' : Firmware} {b : stamped Eff.Ans (c, e)}
    (he : e.resource ≠ .powerOverride) (h : world.answer (c, e) w b w') (hj : w.judged.isSome) :
    w'.judged = w.judged ∧ w'.adopted = w.adopted := by
  cases e with
  | now =>
    obtain ⟨-, rfl⟩ : _ ∧ w' = _ := h
    obtain ⟨j, hj⟩ := Option.isSome_iff_exists.mp hj
    exact ⟨by simp [hj], rfl⟩
  | powerOverrideWrite _ => exact absurd rfl he
  | _ =>
    obtain rfl : w' = _ := h
    exact ⟨rfl, rfl⟩

variable (fx : Effectors)

/-- The writes that the daemon registered stay tracked. -/
theorem clientInvariant (taken : Option (Event × Writer)) :
    ClientInvariant fx world fun v w => v.selfWrites.Tracked w.now ∧ w.taken = taken where
  drift v w w' hstep hw := by
    obtain ⟨hnow, htaken, -, -⟩ := moves_kept hstep
    exact ⟨hw.1.later hnow, htaken.trans hw.2⟩
  answer v c e w b w' _ hanswer hw := by
    obtain ⟨hnow, htaken⟩ := answer_now hanswer
    exact ⟨by rw [hnow]; exact hw.1, htaken.trans hw.2⟩
  others v w _ _ _ _ hw := hw
  appeared v w hw := hw
  judged v w now value hw := ⟨hw.1.judge now value, hw.2⟩
  apply profile c w hw := by
    have hdrifts : ∀ {t : SelfWriteTracker} {w w' : Firmware}, world.Drifts w w' →
        t.Tracked w.now ∧ w.taken = taken → t.Tracked w'.now ∧ w'.taken = taken := by
      intro t w w' h hw
      obtain ⟨hnow, htaken, -, -⟩ := drifts_kept h
      exact ⟨hw.1.later hnow, htaken.trans hw.2⟩
    -- The clock is read, and the profile registered at what it says.
    have hregister : ∀ {w₁ : Firmware} {now : Nat} {w₂ : Firmware}, world.Drifts w w₁ →
        world.answer (c, .now) w₁ now w₂ →
        (c.power.selfWrites.register now profile).Tracked w₂.now ∧ w₂.taken = taken := by
      intro w₁ now w₂ h₁ hnow
      obtain ⟨htracked, htaken⟩ := hdrifts h₁ hw
      obtain ⟨hsame, htaken₂⟩ := answer_now hnow
      obtain ⟨rfl, -⟩ : now = w₁.now ∧ _ := hnow
      exact ⟨by rw [hsame]; exact htracked.register profile, htaken₂.trans htaken⟩
    refine wp_applyPowerProfile fx c (fun _ w' h => hdrifts h hw) ?_ ?_
    · intro _ _ w₁ now w₂ w' h₁ hnow h₂
      exact hdrifts h₂ (hregister h₁ hnow)
    · intro _ _ w₁ now w₂ w₃ ok w₄ w' h₁ hnow h₂ hok h₃
      have hw₃ := hdrifts h₂ (hregister h₁ hnow)
      obtain ⟨hsame, htaken⟩ := answer_now hok
      have hw₄ : (c.power.selfWrites.register now profile).Tracked w₄.now ∧ w₄.taken = taken :=
        ⟨by rw [hsame]; exact hw₃.1, htaken.trans hw₃.2⟩
      cases ok with
      | false => exact hdrifts h₃ hw₄
      | true => exact hdrifts h₃ hw₄

/-- A piece that leaves the override file alone, once the clock was read. -/
theorem frame {α : Type} {x : Daemon α} {c : Context} {w : Firmware} {rs : List Resource}
    {Q : α → Context → Prop} (hx : Meets x c (only rs) Q) (hrs : Resource.powerOverride ∉ rs)
    (hj : w.judged.isSome) :
    Wp world (fun _ _ _ => True)
      (fun a c' w' => Q a c' ∧ w'.judged = w.judged ∧ w'.adopted = w.adopted) x c w := by
  refine (wp_of_meets (J := fun w' => w'.judged = w.judged ∧ w'.adopted = w.adopted) hx ⟨rfl, rfl⟩
    ?_ ?_).mono (fun _ _ _ _ => trivial) fun _ _ _ => id
  · rintro w₁ w₂ hstep ⟨hj₁, ha₁⟩
    obtain ⟨-, -, hj₂, ha₂⟩ := moves_kept hstep
    exact ⟨hj₂.trans hj₁, ha₂.trans ha₁⟩
  · rintro c' e w₁ b w₂ he hanswer ⟨hj₁, ha₁⟩
    have hne : e.resource ≠ .powerOverride := fun h => hrs (h ▸ he)
    obtain ⟨hj₂, ha₂⟩ := answer_judged hne hanswer (by rw [hj₁]; exact hj)
    exact ⟨hj₂.trans hj₁, ha₂.trans ha₁⟩

/-- The adoption writes the override file, but for shadow mode. -/
theorem adopt_writes (profile : PowerProfile) (c : Context) {w : Firmware} (hj : w.judged.isSome)
    (ha : w.adopted = none) :
    Wp world (fun _ _ _ => True)
      (fun _ c' w' => c'.power.powerOverride = some profile ∧ c'.power.powerOverrideBase = none ∧
        w'.judged = w.judged ∧ w'.adopted = if fx.shadow then none else some profile)
      (fx.adoptPowerOverride profile) c w := by
  -- The notice that ends the adoption changes neither record nor file.
  have hnotify : ∀ w' : Firmware, w'.judged = w.judged →
      w'.adopted = (if fx.shadow then none else some profile) →
      Wp world (fun _ _ _ => True)
        (fun _ c' w' => c'.power.powerOverride = some profile ∧ c'.power.powerOverrideBase = none ∧
          w'.judged = w.judged ∧ w'.adopted = if fx.shadow then none else some profile)
        (fx.notifyPower ("Adopted external power change as override: " ++ profile.asStr))
        { c with power := c.power.adopted profile } w' := by
    intro w' hj' ha'
    refine (frame (notifyPower_spec fx _ _) (by simp) (by rw [hj']; exact hj)).mono
      (fun _ _ _ => id) ?_
    rintro _ _ w'' ⟨rfl, hj'', ha''⟩
    exact ⟨rfl, rfl, hj''.trans hj', ha''.trans ha'⟩
  rw [Effectors.adoptPowerOverride, wp_modify_bind, wp_bind, wp_when]
  constructor
  · intro hs
    have hshadow : fx.shadow = false := by simpa using hs
    refine (wp_ask_bind (e := Eff.powerOverrideWrite profile)).mpr fun w₁ h₁ =>
      ⟨trivial, fun ok w₂ hok w₃ h₃ => ?_⟩
    obtain rfl : w₂ = { w₁ with adopted := some profile } := hok
    obtain ⟨-, -, hj₁, -⟩ := drifts_kept h₁
    obtain ⟨-, -, hj₃, ha₃⟩ := drifts_kept h₃
    refine hnotify w₃ (hj₃.trans hj₁) ?_
    rw [ha₃, hshadow]
    rfl
  · intro hs w₁ h₁
    have hshadow : fx.shadow = true := by simpa using hs
    obtain ⟨-, -, hj₁, ha₁⟩ := drifts_kept h₁
    refine hnotify w₁ hj₁ ?_
    rw [ha₁, ha, hshadow]
    rfl

/-- The turn of a change judges it by the time of the last apply. -/
theorem handle_judges (value : Option String) {c : Context} {w : Firmware} (hj : w.judged = none)
    (ha : w.adopted = none) (htracked : c.power.selfWrites.Tracked w.now) :
    Wp world (fun _ _ _ => True) (fun _ => Judged fx value)
      (fx.handle (.platformProfileChanged value))
      c w := by
  simp only [Effectors.handle, Effectors.dispatch, Effectors.dispatchUpdate, bind_assoc]
  refine (wp_ask_bind (e := Eff.now)).mpr fun w₁ hdrift => ⟨trivial, ?_⟩
  rintro now w₂ hnow
  obtain ⟨hle, -, hj₁, ha₁⟩ := drifts_kept hdrift
  rw [hj] at hj₁
  rw [ha] at ha₁
  obtain ⟨rfl, rfl⟩ : now = w₁.now ∧
      w₂ = { w₁ with judged := w₁.judged.orElse fun _ => some (c.power, w₁.now) } := hnow
  have hjudged : (w₁.judged.orElse fun _ => some (c.power, w₁.now)) = some (c.power, w₁.now) := by
    rw [hj₁]
    rfl
  rw [hjudged, wp_get_bind, wp_set_bind]
  -- The tracker's verdict is whether the value was registered lately.
  have hown := SelfWriteTracker.isSelfWrite_iff (htracked.later hle) value
  cases h : (c.power.selfWrites.isSelfWrite w₁.now value).1 with
  | true =>
    -- An own write: nothing is adopted, and the tail leaves the override.
    have hlately : RegisteredLately c.power w₁.now := hown.mp h
    refine (frame (tail_override fx { c with power := { c.power with
      selfWrites := (c.power.selfWrites.isSelfWrite w₁.now value).2 } } value) (by simp) rfl).mono
      (fun _ _ _ => id) ?_
    rintro _ c' w' ⟨⟨ho, hb⟩, hj', ha'⟩
    exact ⟨c.power, w₁.now, hj', fun _ => ⟨ho, hb, ha'.trans ha₁⟩, fun hnot => absurd hlately hnot⟩
  | false =>
    -- An external one: it is adopted first, and what follows keeps it.
    have hnot : ¬RegisteredLately c.power w₁.now := fun hl => by
      rw [hown.mpr hl] at h
      exact absurd h (by simp)
    show Wp _ _ _ ((fx.adoptPowerOverride _ >>= fun _ => fx.powerPolicyCheck) >>= fun _ => do
      fx.dispatchTail (.platformProfileChanged value)
      fx.syncWaybar) _ _
    rw [bind_assoc]
    refine (adopt_writes fx _ _ (w := { w₁ with judged := some (c.power, w₁.now) }) rfl ha₁).bind ?_
    rintro _ c₃ w₃ ⟨ho₃, hb₃, hj₃, ha₃⟩
    refine (frame (powerPolicyCheck_fresh fx c₃ ho₃ hb₃) (by simp) (by rw [hj₃]; rfl)).bind ?_
    rintro _ c₄ w₄ ⟨ho₄, hj₄, ha₄⟩
    refine (frame (tail_override fx c₄ value) (by simp) (by rw [hj₄, hj₃]; rfl)).mono
      (fun _ _ _ => id) ?_
    rintro _ c₅ w₅ ⟨⟨ho₅, -⟩, hj₅, ha₅⟩
    exact ⟨c.power, w₁.now, hj₅.trans (hj₄.trans hj₃), fun hl => absurd hl hnot,
      fun _ => ⟨ho₅.trans ho₄, ha₅.trans (ha₄.trans ha₃)⟩⟩

/-! ## Runs -/

/-- The daemon starts, and the task has read the attribute. -/
def start (value : Option String) : Config Context Eff Eff.Ans Firmware :=
  ⟨fx.boot.run {}, { value := value, last := value }⟩

/-- In every run, a change of platform_profile leaves the override alone where an apply was
registered in the window before the dispatch read the clock, and is adopted elsewhere, whoever wrote
it. -/
theorem kept_iff_registered {value reported : Option String} {writer : Writer} {c : Context}
    {w : Firmware} (h : Config.Reaches world deliver fx.handle (start fx value) (Config.idle c w))
    (htaken : w.taken = some (.platformProfileChanged reported, writer)) :
    Judged fx reported c w := by
  -- The invariant of the loop: the tracker's times are past, and an adopted event was judged by it.
  have htake : ∀ (c : Context) (w : Firmware) (ev : Event) (w' : Firmware),
      (c.power.selfWrites.Tracked w.now ∧ ∀ reported writer,
        w.taken = some (.platformProfileChanged reported, writer) → Judged fx reported c w) →
      deliver w ev w' →
      Wp world (fun _ _ _ => True) (fun _ c' w' => c'.power.selfWrites.Tracked w'.now ∧
        ∀ reported writer, w'.taken = some (.platformProfileChanged reported, writer) →
          Judged fx reported c' w') (fx.handle ev) c w' := by
    rintro c w ev w' ⟨htracked, -⟩ ⟨writer, rest, -, rfl⟩
    have hkeep := (clientInvariant fx (some (ev, writer))).handle ev c
      { w with queue := rest, taken := some (ev, writer), judged := none, adopted := none }
      ⟨htracked, rfl⟩
    by_cases hev : ∃ reported, ev = .platformProfileChanged reported
    · obtain ⟨reported, rfl⟩ := hev
      have hjudge := handle_judges fx reported (c := c) (w :=
        { w with
          queue := rest
          taken := some (.platformProfileChanged reported, writer)
          judged := none
          adopted := none }) rfl rfl htracked
      refine (hkeep.and hjudge).mono (fun _ _ _ _ => trivial) ?_
      rintro _ c' w' ⟨⟨htracked', htaken'⟩, hjudged⟩
      refine ⟨htracked', fun reported' writer' ht => ?_⟩
      obtain ⟨rfl, -⟩ : reported = reported' ∧ writer = writer' := by
        simpa using htaken'.symm.trans ht
      exact hjudged
    · refine hkeep.mono (fun _ _ _ => id) ?_
      rintro _ c' w' ⟨htracked', htaken'⟩
      refine ⟨htracked', fun reported writer' ht => ?_⟩
      obtain ⟨rfl, -⟩ : ev = .platformProfileChanged reported ∧ writer = writer' := by
        simpa using htaken'.symm.trans ht
      exact absurd ⟨reported, rfl⟩ hev
  -- The start has no self-write registered and has taken nothing.
  have hinit : (start fx value).task.Wp world (fun _ _ => True)
      (fun r w => r.2.power.selfWrites.Tracked w.now ∧ ∀ reported writer,
        w.taken = some (.platformProfileChanged reported, writer) → Judged fx reported r.2 w)
      (start fx value).world := by
    have hboot := (clientInvariant fx none).boot {} { value := value, last := value }
      ⟨⟨fun _ h => absurd h (by simp [Context.powerView]), fun _ h => absurd h List.not_mem_nil⟩,
        rfl⟩
    refine Program.Wp.mono hboot (fun _ _ => id) ?_
    rintro r w ⟨htracked, hnone⟩
    exact ⟨htracked, fun _ _ ht => absurd (hnone.symm.trans ht) (by simp)⟩
  exact (Config.inv_of_reaches_idle (s := c) (w := w) htake hinit h).2 _ _ htaken

/-! ## A slow dispatch -/

/-- The world where the machine is quiet, powerd answers, and the clock stands. -/
def quiet : (r : Context × Eff) → Firmware → stamped Eff.Ans r × Firmware
  | (c, .now), w => (w.now, { w with judged := w.judged.orElse fun _ => some (c.power, w.now) })
  | (_, .powerdApplyProfile profile), w => (true, { w with calls := profile :: w.calls })
  | (_, .powerOverrideWrite profile), w => (true, { w with adopted := some profile })
  | (_, .sendEvent ev), w => ((), { w with queue := w.queue ++ [(ev, .other)] })
  | (_, e), w => (e.quiet, w)

/-- The quiet machine's answers are the firmware's. -/
theorem quiet_answer (r : Context × Eff) (w : Firmware) (_ : True) :
    world.answer r w (quiet r w).1 (quiet r w).2 ∧ True := by
  refine ⟨?_, trivial⟩
  obtain ⟨c, e⟩ := r
  cases e <;> first | rfl | exact ⟨rfl, rfl⟩

/-- The context after a piece of the dispatcher's code in that world, and the world. -/
def after (x : Daemon Unit) (p : Context × Firmware) : Context × Firmware :=
  (((x.run p.1).exec quiet p.2).1.2, ((x.run p.1).exec quiet p.2).2.1)

/-- The next event is taken and dispatched. -/
def turn (p : Context × Firmware) : Context × Firmware :=
  match p.2.queue with
  | [] => p
  | (ev, writer) :: rest => after ((⟨false, true⟩ : Effectors).handle ev)
      (p.1, { p.2 with queue := rest, taken := some (ev, writer), judged := none, adopted := none })

/-- A program that runs to its end under them. -/
theorem reaches_after (x : Daemon Unit) (p : Context × Firmware) :
    Config.Reaches world deliver (Effectors.handle ⟨false, true⟩) ⟨x.run p.1, p.2⟩
      (Config.idle (after x p).1 (after x p).2) :=
  Config.reaches_exec quiet_answer (x.run p.1) p.2 trivial

/-- One turn of the loop. -/
theorem reaches_turn (p : Context × Firmware) :
    Config.Reaches world deliver (Effectors.handle ⟨false, true⟩) (Config.idle p.1 p.2)
      (Config.idle (turn p).1 (turn p).2) := by
  unfold turn
  split
  · exact .refl
  · next ev writer rest hqueue =>
    exact .head (.take ⟨writer, rest, hqueue, rfl⟩)
      (reaches_after (Effectors.handle ⟨false, true⟩ ev) (p.1,
        { p.2 with queue := rest, taken := some (ev, writer), judged := none, adopted := none }))

/-- The daemon has started. -/
def booted : Context × Firmware :=
  after (Effectors.boot ⟨false, true⟩)
    ({}, { value := some "performance", last := some "performance" })

/-- It has asked powerd for the balanced profile. -/
def asked : Context × Firmware := turn (turn booted)

/-- powerd writes it and the task reports the change, and then some time passes. -/
def reported (delay : Nat) : Context × Firmware :=
  (asked.1, { asked.2 with
    now := asked.2.now + delay
    value := some "balanced"
    writer := .apply
    last := some "balanced"
    queue := asked.2.queue ++ [(.platformProfileChanged (some "balanced"), .apply)] })

/-- The dispatcher comes to it. -/
def dispatched (delay : Nat) : Context × Firmware := turn (reported delay)

/-- The start, the apply and the word of the platform after this delay. -/
theorem reaches_dispatched (delay : Nat) :
    Config.Reaches world deliver (Effectors.handle ⟨false, true⟩)
      (start ⟨false, true⟩ (some "performance"))
      (Config.idle (dispatched delay).1 (dispatched delay).2) := by
  have hbooted : Config.Reaches world deliver (Effectors.handle ⟨false, true⟩)
      (start ⟨false, true⟩ (some "performance")) (Config.idle booted.1 booted.2) :=
    reaches_after (Effectors.boot ⟨false, true⟩)
      ({}, { value := some "performance", last := some "performance" })
  have hasked := (hbooted.trans (reaches_turn booted)).trans (reaches_turn (turn booted))
  have hwrites : Writes asked.2 .apply "balanced" :=
    .apply (p := .balanced) (by decide +kernel) (by decide)
  have hwrite : Moves asked.2 { asked.2 with value := some "balanced", writer := .apply } :=
    .write hwrites
  have hchanged : ({ asked.2 with value := some "balanced", writer := .apply } : Firmware).value ≠
      asked.2.last := by decide +kernel
  have hread : Moves { asked.2 with value := some "balanced", writer := .apply } (reported 0).2 :=
    .read hchanged
  have htick : Moves (reported 0).2 (reported delay).2 := .tick delay
  have hdrift : world.Drifts asked.2 (reported delay).2 :=
    ((Relation.ReflTransGen.single hwrite).tail hread).tail htick
  exact (hasked.trans (Config.reaches_of_drifts hdrift)).trans (reaches_turn (reported delay))

/-- The dispatcher comes to the change in time. -/
theorem kept_iff_registered_prompt : ∃ c w, Config.Reaches world deliver
    (Effectors.handle ⟨false, true⟩) (start ⟨false, true⟩ (some "performance")) (Config.idle c w) ∧
    w.taken = some (.platformProfileChanged (some "balanced"), .apply) ∧
    Judged ⟨false, true⟩ (some "balanced") c w :=
  have htaken : (dispatched 4999).2.taken =
      some (.platformProfileChanged (some "balanced"), .apply) := by decide +kernel
  ⟨_, _, reaches_dispatched 4999, htaken,
    kept_iff_registered ⟨false, true⟩ (reaches_dispatched 4999) htaken⟩

/-- Five seconds after the call, powerd's write for it is adopted as a manual override. -/
theorem not_kept_late : ¬∀ (fx : Effectors) (value reported : Option String) (writer : Writer)
    (c : Context) (w : Firmware),
    Config.Reaches world deliver fx.handle (start fx value) (Config.idle c w) →
    w.taken = some (.platformProfileChanged reported, writer) → writer.isPowerd = true →
    ∀ p now, w.judged = some (p, now) → Kept p c w := by
  intro h
  have htaken : (dispatched 5000).2.taken =
      some (.platformProfileChanged (some "balanced"), .apply) := by decide +kernel
  have hadopted : (dispatched 5000).2.adopted = some .balanced := by decide +kernel
  obtain ⟨p, now, hj, -⟩ := kept_iff_registered ⟨false, true⟩ (reaches_dispatched 5000) htaken
  obtain ⟨-, -, hnone⟩ := h _ _ _ _ _ _ (reaches_dispatched 5000) htaken rfl p now hj
  exact absurd (hadopted.symm.trans hnone) (by simp)

end Firmware

end Hyprstate
