import Hyprstate.Daemon.Footprint
import Hyprstate.Reactive.World

/-!
# Profiles that are handed to the worker

`apply_profile` of `daemon/effectors.rs` records a profile as applied and then sends the worker the
command to apply it. A queue that is full drops the command, while the record stays, and the next
call finds nothing to do: a recorded profile was handed to the worker in every case but this one
(`applyProfile_handedOver_iff`).
-/

namespace Hyprstate

open Reactive Process

/-- What `apply_profile` finds outside of the context: which profile's render the active link leads
to, whether the link can be repointed, and the worker's queue. -/
structure WorkerQueue where
  linkIs : String → Bool
  writable : Bool
  /-- The worker has ended. -/
  closed : Bool
  /-- The commands that wait in the queue. -/
  pending : List Cmd
  /-- The commands that the worker has received. -/
  received : List Cmd

namespace WorkerQueue

variable (capacity : Nat)

/-- Every command that was handed over, in order. -/
def handed (w : WorkerQueue) : List Cmd := w.received ++ w.pending

/-- Whether the queue takes one more command. -/
def hasRoom (w : WorkerQueue) : Bool := !w.closed && decide (w.pending.length < capacity)

/-- At any time the worker may receive the next command. -/
def Receive (w w' : WorkerQueue) : Prop :=
  ∃ cmd rest, w.pending = cmd :: rest ∧
    w' = { w with pending := rest, received := w.received ++ [cmd] }

/-- `try_send` refuses a command where the queue is full or closed. -/
def Answer (r : Context × Eff) (w : WorkerQueue) (b : stamped Eff.Ans r) (w' : WorkerQueue) :
    Prop :=
  match r, b with
  | (_, .activeLinkIs name), same => same = w.linkIs name ∧ w' = w
  | (_, .repointActive name), repointed => repointed = w.writable ∧
      if repointed then ∃ linkIs, linkIs name = true ∧ w' = { w with linkIs } else w' = w
  | (_, .trySend cmd), taken => taken = w.hasRoom capacity ∧
      w' = if taken then { w with pending := w.pending ++ [cmd] } else w
  | _, _ => w' = w

/-- The worker's queue, and what the worker takes meanwhile. -/
def world : World (Context × Eff) (stamped Eff.Ans) WorkerQueue := ⟨Receive, Answer capacity⟩

/-- The commands handed over in between. -/
def Handed (w w' : WorkerQueue) (cmd : Cmd) : Prop :=
  ∃ more, w'.handed = w.handed ++ more ∧ cmd ∈ more

end WorkerQueue

open WorkerQueue

/-- What `apply_profile` records of a profile. -/
def Context.profileFields (c : Context) : Option String × Option MonitorProfile × EdpPolicy :=
  (c.currentProfile, c.activeProfileRev, c.edpPolicy)

/-- What the context records of a profile. -/
def MonitorProfile.fields (profile : MonitorProfile) :
    Option String × Option MonitorProfile × EdpPolicy :=
  (some profile.name, some profile, profile.edp)

/-- The idempotence check: there is nothing to do for the profile. -/
def AlreadyApplied (profile : MonitorProfile) (c : Context) (w : WorkerQueue) : Prop :=
  w.linkIs profile.name = true ∧ c.currentProfile = some profile.name ∧
    c.activeProfileRev = some profile

/-- A profile that was recorded was handed to the worker. Where none was handed over the record is
as it was, and the next call does what this one did not. -/
structure HandedOver (profile : MonitorProfile) (c c' : Context) (w w' : WorkerQueue) : Prop where
  recorded : c'.profileFields ≠ c.profileFields →
    c'.profileFields = profile.fields ∧ Handed w w' .applyProfile
  retried : ¬Handed w w' .applyProfile → c'.profileFields = c.profileFields ∧
    (AlreadyApplied profile c w ∨ ¬AlreadyApplied profile c' w')

/-! ## What the worker's queue keeps -/

section

variable {capacity : Nat} {w w' : WorkerQueue}

/-- While the worker receives, the link is as it was, the order of the commands is kept, and room
stays. -/
structure WorkerDrifts (w w' : WorkerQueue) : Prop where
  linkIs : w'.linkIs = w.linkIs
  writable : w'.writable = w.writable
  handed : w'.handed = w.handed
  room : ∀ capacity, w.hasRoom capacity = true → w'.hasRoom capacity = true

/-- A worker that does nothing. -/
theorem WorkerDrifts.refl (w : WorkerQueue) : WorkerDrifts w w := ⟨rfl, rfl, rfl, fun _ => id⟩

/-- What the worker does in any number of steps. -/
theorem workerDrifts_of_drifts (h : (world capacity).Drifts w w') : WorkerDrifts w w' := by
  refine World.Drifts.keeps (J := WorkerDrifts w) ?_ h (WorkerDrifts.refl w)
  rintro w₁ w₂ ⟨cmd, rest, hpending, rfl⟩ hkept
  refine ⟨hkept.linkIs, hkept.writable, ?_, fun n hroom => ?_⟩
  · rw [← hkept.handed]
    simp [WorkerQueue.handed, hpending]
  · have hlong := hkept.room n hroom
    simp only [hasRoom, hpending, List.length_cons, Bool.and_eq_true, decide_eq_true_eq] at hlong ⊢
    exact ⟨hlong.1, by omega⟩

/-- What was handed over stays so. -/
theorem handed_keeps {w₀ : WorkerQueue} {cmd : Cmd} :
    (∀ w w', (world capacity).drift w w' → Handed w₀ w cmd → Handed w₀ w' cmd) ∧
      ∀ c e w b w', (world capacity).answer (c, e) w b w' → Handed w₀ w cmd → Handed w₀ w' cmd := by
  constructor
  · rintro w w' hdrift ⟨more, hmore, hmem⟩
    exact ⟨more, (workerDrifts_of_drifts (.single hdrift)).handed.trans hmore, hmem⟩
  · rintro c e w b w' hanswer ⟨more, hmore, hmem⟩
    cases e with
    | activeLinkIs name => exact hanswer.2 ▸ ⟨more, hmore, hmem⟩
    | repointActive name =>
      obtain ⟨-, hlink⟩ := hanswer
      split at hlink
      · obtain ⟨linkIs, -, rfl⟩ := hlink
        exact ⟨more, hmore, hmem⟩
      · exact hlink ▸ ⟨more, hmore, hmem⟩
    | trySend sent =>
      obtain ⟨-, rfl⟩ := hanswer
      split
      · refine ⟨more ++ [sent], ?_, List.mem_append_left _ hmem⟩
        rw [← List.append_assoc, ← hmore]
        simp [WorkerQueue.handed]
      · exact ⟨more, hmore, hmem⟩
    | _ =>
      have hsame : w' = w := hanswer
      exact hsame ▸ ⟨more, hmore, hmem⟩

end

/-! ## A call -/

section

variable (fx : Effectors) (capacity : Nat) (profile : MonitorProfile) (c : Context)
  {w : WorkerQueue}

/-- What is recorded, without the commands. -/
def Context.record (c : Context) (profile : MonitorProfile) : Context :=
  { c with
    currentProfile := some profile.name
    activeProfileRev := some profile
    edpPolicy := profile.edp }

/-- The hooks keep what was handed over. -/
theorem hooks_handed {w₀ : WorkerQueue} {cmd : Cmd} (hw : Handed w₀ w cmd) :
    Wp (world capacity) (fun _ _ _ => True) (fun _ c' w' => c' = c ∧ Handed w₀ w' cmd)
      (profile.hooks.forM fun hook => fx.sendCmd (.runHook hook) : Daemon PUnit) c w := by
  have hhooks : Meets (profile.hooks.forM fun hook => fx.sendCmd (.runHook hook) : Daemon PUnit) c
      (fun _ _ => True) fun _ c' => c' = c := by
    refine meets_forM (I := fun c' => c' = c) ?_ _ _ rfl
    rintro hook c rfl
    exact (sendCmd_spec fx c _).mono (fun _ _ _ => trivial) fun _ _ => id
  refine (wp_of_meets (J := fun w' => Handed w₀ w' cmd) hhooks hw handed_keeps.1 ?_).mono
    (fun _ _ _ _ => trivial) fun _ _ _ => id
  exact fun c e w b w' _ => handed_keeps.2 c e w b w'

/-- A queue with room takes the command. -/
theorem sendCmd_handed (hlive : fx.shadow = false) (cmd : Cmd) (hroom : w.hasRoom capacity = true) :
    Wp (world capacity) (fun _ _ _ => True) (fun _ c' w' => c' = c ∧ Handed w w' cmd)
      (fx.sendCmd cmd) c w := by
  simp only [Effectors.sendCmd, hlive, when, Bool.not_false, if_true]
  refine (wp_ask_bind (e := Eff.trySend _)).mpr fun w₁ hdrift₁ => ⟨trivial, ?_⟩
  rintro taken _ ⟨rfl, rfl⟩ w₂ hdrift₂
  have hkept₁ := workerDrifts_of_drifts hdrift₁
  have hkept₂ := workerDrifts_of_drifts hdrift₂
  refine ⟨rfl, [cmd], ?_, List.mem_cons_self⟩
  rw [if_pos (hkept₁.room _ hroom)] at hkept₂
  rw [hkept₂.handed, ← hkept₁.handed]
  simp [WorkerQueue.handed]

/-- Where there is nothing to do, where the link cannot be repointed, and where the queue has
room. -/
theorem applyProfile_handedOver (hlive : fx.shadow = false)
    (h : AlreadyApplied profile c w ∨ w.writable = false ∨ w.hasRoom capacity = true) :
    Wp (world capacity) (fun _ _ _ => True) (fun _ c' w' => HandedOver profile c c' w w')
      (fx.applyProfile profile) c w := by
  simp only [Effectors.applyProfile, hlive, Bool.false_eq_true, if_false]
  refine (wp_ask_bind (e := Eff.activeLinkIs _)).mpr fun w₁ hdrift₁ => ⟨trivial, ?_⟩
  rintro linked _ ⟨rfl, rfl⟩
  have hkept₁ := workerDrifts_of_drifts hdrift₁
  rw [wp_get_bind, wp_when]
  constructor
  swap
  -- The idempotence check passes.
  · intro hskip w' hdrift
    have hkept := workerDrifts_of_drifts hdrift
    have happlied : AlreadyApplied profile c w := by
      simp only [Bool.not_eq_false', Bool.and_eq_true, decide_eq_true_eq] at hskip
      exact ⟨hkept₁.linkIs ▸ hskip.1.1, hskip.1.2, hskip.2⟩
    exact ⟨fun hne => absurd rfl hne, fun _ => ⟨rfl, .inl happlied⟩⟩
  intro hdue
  have hnot : ¬AlreadyApplied profile c w := by
    rintro ⟨hlink, hname, hbody⟩
    simp [hkept₁.linkIs, hlink, hname, hbody] at hdue
  refine (wp_ask_bind (e := Eff.repointActive _)).mpr fun w₂ hdrift₂ => ⟨trivial, ?_⟩
  rintro repointed w₃ ⟨rfl, hlink⟩
  have hkept₂ := workerDrifts_of_drifts hdrift₂
  rw [wp_when]
  constructor
  swap
  -- The link was not repointed.
  · intro hfailed w' hdrift
    rw [if_neg (by simp [hfailed])] at hlink
    subst hlink
    have hkept := workerDrifts_of_drifts hdrift
    refine ⟨fun hne => absurd rfl hne, fun _ => ⟨rfl, .inr ?_⟩⟩
    rintro ⟨hlink, hrest⟩
    rw [hkept.linkIs, hkept₂.linkIs, hkept₁.linkIs] at hlink
    exact hnot ⟨hlink, hrest⟩
  intro hrepointed
  rw [if_pos hrepointed] at hlink
  obtain ⟨linkIs, -, rfl⟩ := hlink
  have hroom : w₂.hasRoom capacity = true := by
    rcases h with h | h | h
    · exact absurd h hnot
    · rw [hkept₂.writable, hkept₁.writable, h] at hrepointed
      cases hrepointed
    · exact hkept₂.room _ (hkept₁.room _ h)
  have hbefore : w₂.handed = w.handed := hkept₂.handed.trans hkept₁.handed
  rw [wp_modify_bind, wp_when]
  refine ⟨fun _ => ?_, fun hshadow => by cases hshadow⟩
  have hroom' : ({ w₂ with linkIs } : WorkerQueue).hasRoom capacity = true := hroom
  refine (sendCmd_handed fx capacity (c.record profile) hlive .applyProfile hroom').bind ?_
  rintro _ c₁ w₃ ⟨rfl, more, hmore, hmem⟩
  have hsent : Handed w w₃ .applyProfile := ⟨more, hbefore ▸ hmore, hmem⟩
  refine (hooks_handed fx capacity profile (c.record profile) hsent).mono
    (fun _ _ _ _ => trivial) ?_
  rintro _ c' w' ⟨rfl, hhanded⟩
  exact ⟨fun _ => ⟨rfl, hhanded⟩, fun hlost => absurd hhanded hlost⟩

/-- A refused command changes nothing. -/
theorem exists_execs_refused (hlive : fx.shadow = false) (hfull : w.hasRoom capacity = false)
    (cmd : Cmd) {f : Unit → Daemon PUnit}
    (h : ∃ tr, Execs (world capacity) (f ()) c w tr ⟨⟩ c w) :
    ∃ tr, Execs (world capacity) (fx.sendCmd cmd >>= f) c w tr ⟨⟩ c w := by
  simp only [Effectors.sendCmd, hlive, when, Bool.not_false, if_true]
  have hanswer : (world capacity).answer (c, .trySend cmd) w false w := ⟨hfull.symm, rfl⟩
  exact Program.exists_execs_call false hanswer h

/-- With the queue full, every hook is dropped. -/
theorem exists_execs_hooks (hlive : fx.shadow = false) (hfull : w.hasRoom capacity = false)
    (hooks : List String) :
    ∃ tr, Execs (world capacity) (hooks.forM fun hook => fx.sendCmd (.runHook hook) :
      Daemon PUnit) c w tr
      ⟨⟩ c w := by
  induction hooks with
  | nil => exact ⟨[], .ret _ .refl⟩
  | cons hook hooks ih => exact exists_execs_refused fx capacity c hlive hfull _ ih

/-- With a queue that takes nothing the profile is recorded all the same. -/
theorem exists_execs_dropped (hlive : fx.shadow = false) (hdue : ¬AlreadyApplied profile c w)
    (hwritable : w.writable = true) (hfull : w.hasRoom capacity = false) :
    ∃ tr, Execs (world capacity) (fx.applyProfile profile) c w tr ⟨⟩ (c.record profile)
      { w with linkIs := fun _ => true } := by
  have hskip : (!(w.linkIs profile.name && decide (c.currentProfile = some profile.name) &&
      decide (c.activeProfileRev = some profile))) = true := by
    simp only [Bool.not_eq_true', ← Bool.not_eq_true, Bool.and_eq_true, decide_eq_true_eq]
    exact fun h => hdue ⟨h.1.1, h.1.2, h.2⟩
  simp only [Effectors.applyProfile, hlive, Bool.false_eq_true, if_false]
  have hlinked : (world capacity).answer (c, .activeLinkIs profile.name) w
      (w.linkIs profile.name) w :=
    ⟨rfl, rfl⟩
  refine Program.exists_execs_call (w.linkIs profile.name) hlinked ?_
  show ∃ tr, Execs (world capacity) (when (!(w.linkIs profile.name &&
    decide (c.currentProfile = some profile.name) && decide (c.activeProfileRev = some profile))) _)
      c w tr _ _ _
  rw [hskip]
  have hrepointed : (world capacity).answer (c, .repointActive profile.name) w true
      { w with linkIs := fun _ => true } := ⟨hwritable.symm, fun _ => true, rfl, rfl⟩
  have hfull' : ({ w with linkIs := fun _ => true } : WorkerQueue).hasRoom capacity = false := hfull
  refine Program.exists_execs_call true hrepointed ?_
  exact exists_execs_refused
    (f := fun _ => profile.hooks.forM fun hook => fx.sendCmd (.runHook hook))
    fx capacity (c.record profile) hlive hfull' .applyProfile
    (exists_execs_hooks fx capacity (c.record profile) hlive hfull' profile.hooks)

/-- And the next call has nothing to do. -/
theorem exists_not_handedOver (hlive : fx.shadow = false) (hdue : ¬AlreadyApplied profile c w)
    (hwritable : w.writable = true) (hfull : w.hasRoom capacity = false) :
    ∃ tr c' w', Execs (world capacity) (fx.applyProfile profile) c w tr ⟨⟩ c' w' ∧
      ¬HandedOver profile c c' w w' := by
  obtain ⟨tr, hexec⟩ := exists_execs_dropped fx capacity profile c hlive hdue hwritable hfull
  refine ⟨tr, _, _, hexec, fun hhanded => ?_⟩
  have hlost : ¬Handed w { w with linkIs := fun _ => true } .applyProfile := by
    rintro ⟨more, hmore, hmem⟩
    have hsame : w.handed = w.handed ++ more := hmore
    rw [List.self_eq_append_right.mp hsame] at hmem
    cases hmem
  rcases (hhanded.retried hlost).2 with happlied | hnot
  · exact hdue happlied
  · exact hnot ⟨rfl, rfl, rfl⟩

/-- A profile that is recorded as applied was handed to the worker, whatever the worker receives in
the meantime, exactly where there was nothing to do, the link could not be repointed, or the queue
had room. -/
theorem applyProfile_handedOver_iff (hlive : fx.shadow = false) :
    (∀ tr c' w', Execs (world capacity) (fx.applyProfile profile) c w tr ⟨⟩ c' w' →
        HandedOver profile c c' w w') ↔
      AlreadyApplied profile c w ∨ w.writable = false ∨ w.hasRoom capacity = true := by
  constructor
  · intro h
    by_contra hdropped
    simp only [not_or, Bool.not_eq_false, Bool.not_eq_true] at hdropped
    obtain ⟨hdue, hwritable, hfull⟩ := hdropped
    obtain ⟨tr, c', w', hexec, hnot⟩ :=
      exists_not_handedOver fx capacity profile c hlive hdue hwritable hfull
    exact hnot (h tr c' w' hexec)
  · exact fun h tr c' w' hexec =>
      hexec.of_wp (applyProfile_handedOver fx capacity profile c hlive h)

end

/-- The queue of the daemon with a worker that has stalled. -/
def stalled : WorkerQueue :=
  { linkIs := fun _ => false, writable := true, closed := false,
    pending := List.replicate 64 .dpmsOn, received := [] }

/-- A profile for the dock that turns the panel off and has a hook. -/
def dockProfile : MonitorProfile :=
  { name := "dock", edp := .disable, hooks := ["notify-send docked"] }

/-- The same queue with nothing in it. -/
def emptied : WorkerQueue := { stalled with pending := [] }

/-- Behind an empty queue a profile that is due is handed over. -/
theorem applyProfile_handedOver_idle :
    ¬AlreadyApplied dockProfile {} emptied ∧
      ∀ tr c' w', Execs (world 64) (Effectors.applyProfile ⟨false, true⟩ dockProfile)
        {} emptied tr ⟨⟩ c' w' →
        HandedOver dockProfile {} c' emptied w' :=
  ⟨fun happlied => Bool.noConfusion happlied.1,
    (applyProfile_handedOver_iff ⟨false, true⟩ 64 dockProfile {} rfl).mpr (.inr (.inr rfl))⟩

/-- A queue that is full drops the command, and the profile is recorded. -/
theorem not_handedOver_stalled :
    ¬∀ (fx : Effectors) (capacity : Nat) (profile : MonitorProfile) (c : Context) (w : WorkerQueue),
      fx.shadow = false →
        ∀ tr c' w', Execs (world capacity) (fx.applyProfile profile) c w tr ⟨⟩ c' w' →
          HandedOver profile c c' w w' := by
  intro h
  have hdue : ¬AlreadyApplied dockProfile {} stalled := fun happlied => Bool.noConfusion happlied.1
  obtain ⟨tr, c', w', hexec, hnot⟩ :=
    exists_not_handedOver (w := stalled) ⟨false, true⟩ 64 dockProfile {} rfl hdue rfl rfl
  exact hnot (h _ _ _ _ _ rfl tr c' w' hexec)

end Hyprstate
