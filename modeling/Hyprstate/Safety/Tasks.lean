import Hyprstate.Daemon.Run
import Hyprstate.Daemon.Transition
import Hyprstate.Reactive.World

/-!
# The dispatcher's own tasks

The dispatcher spawns four kinds of task and keeps the handle of each: the grace timer, the two
debounces and the watch over a Wayland claim. Each ends by sending one event. What the machine waits
for is `Pending` as long as the task that is to send it runs, or the event is queued.

A turn may cancel a task, arm it again, or leave it alone. `Turned` says once what a turn leaves
pending, whatever fires in between.
-/

namespace Hyprstate

open Reactive Process

/-- The fields of the context that hold a task. -/
inductive Slot
  | grace
  | settle
  | profile
  | watch
  deriving DecidableEq

namespace Slot

/-- The last event of the slot's task. -/
def sends : Slot → Event
  | grace => .timerExpired
  | settle => .powerAcSettled
  | profile => .monitorsChanged
  | watch => .inhibitor true false

/-- The handle that a slot of the context holds. -/
def held : Slot → Context → Option Handle
  | grace => Context.graceTimer
  | settle => Context.powerDebounce
  | profile => Context.profileDebounce
  | watch => Context.claimWatch

/-- The context with another handle in the slot. -/
def fill (h : Option Handle) (c : Context) : Slot → Context
  | grace => { c with graceTimer := h }
  | settle => { c with powerDebounce := h }
  | profile => { c with profileDebounce := h }
  | watch => { c with claimWatch := h }

/-- The tasks send events of their own. -/
theorem sends_injective : Function.Injective sends := by
  intro s s' h
  cases s <;> cases s' <;> first | rfl | exact absurd h (by simp [sends])

/-- A slot that is filled holds the handle. -/
@[simp] theorem held_fill (s : Slot) (h : Option Handle) (c : Context) :
    s.held (s.fill h c) = h := by
  cases s <;> rfl

/-- The others hold what they did. -/
theorem held_fill_of_ne {s s' : Slot} (hne : s' ≠ s) (h : Option Handle) (c : Context) :
    s'.held (s.fill h c) = s'.held c := by
  cases s <;> cases s' <;> first | rfl | exact absurd rfl hne

end Slot

/-- The tasks that run, each with the event that it will send, and the dispatcher's queue. -/
structure Tasks where
  queue : List Event := []
  running : List (Handle × Event) := []
  /-- Handles are numbered as the tasks are spawned. -/
  next : Handle := 0
  /-- The event in dispatch has sampled a Wayland claim that is held. -/
  sampled : Bool := false

namespace Tasks

/-- A task sends its event, and is over. -/
def fire (w : Tasks) (p : Handle × Event) : Tasks :=
  { w with running := w.running.filter fun q => decide (q ≠ p), queue := w.queue ++ [p.2] }

/-- Another source, or the dispatcher itself, sends an event. -/
def send (w : Tasks) (ev : Event) : Tasks := { w with queue := w.queue ++ [ev] }

/-- A task more runs. -/
def spawn (w : Tasks) (ev : Event) : Tasks :=
  { w with running := w.running ++ [(w.next, ev)], next := w.next + 1 }

/-- A task runs no more. -/
def abort (w : Tasks) (h : Handle) : Tasks :=
  { w with running := w.running.filter fun p => decide (p.1 ≠ h) }

/-- The compositor listed its clients. -/
def sample (w : Tasks) (clients : Option (List Client)) : Tasks :=
  { w with sampled := w.sampled || (clients.map anyClientInhibitingIdleIn).getD false }

/-- The first event of the queue is taken. -/
def taken (w : Tasks) : Tasks := { w with queue := w.queue.tail, sampled := false }

/-- A task fires, or another source sends an event. -/
inductive Drift : Tasks → Tasks → Prop
  | fire {w : Tasks} {p : Handle × Event} : p ∈ w.running → Drift w (w.fire p)
  | send {w : Tasks} (ev : Event) : Drift w (w.send ev)

/-- A task is spawned under the next number, an abort stops one that has not fired, and a task that
has not is not finished: one that has may not be finished either. Any other request is answered by
anything. -/
def Answer (r : Context × Eff) (w : Tasks) (b : stamped Eff.Ans r) (w' : Tasks) : Prop :=
  match r, b with
  | (_, .spawnTimer _ ev), h => h = w.next ∧ w' = w.spawn ev
  | (_, .spawnClaimWatch), h => h = w.next ∧ w' = w.spawn Slot.watch.sends
  | (_, .abort h), _ => w' = w.abort h
  | (_, .isFinished h), finished => ((∃ ev, (h, ev) ∈ w.running) → finished = false) ∧ w' = w
  | (_, .sendEvent ev), _ => w' = w.send ev
  | (_, .clients), clients => w' = w.sample clients
  | _, _ => w' = w

/-- The dispatcher's world. -/
def world : World (Context × Eff) (stamped Eff.Ans) Tasks := ⟨Drift, Answer⟩

/-- The event of the slot's task is on its way: the task runs, or the event is queued. -/
def Pending (s : Slot) (c : Context) (w : Tasks) : Prop :=
  (∃ h, s.held c = some h ∧ (h, s.sends) ∈ w.running) ∨ s.sends ∈ w.queue

/-- The handle in a slot is of a task of that kind. -/
structure Owned (c : Context) (w : Tasks) : Prop where
  running : ∀ p ∈ w.running, p.1 < w.next
  held : ∀ (s : Slot) h, s.held c = some h → h < w.next ∧ ∀ ev, (h, ev) ∈ w.running → ev = s.sends

/-! ## What a step leaves -/

/-- A step keeps the handles with their tasks, and what these slots wait for pending. -/
structure Keeps (slots : List Slot) (c : Context) (w : Tasks) (c' : Context) (w' : Tasks) :
    Prop where
  owned : Owned c' w'
  pending : ∀ s ∈ slots, Pending s c w → Pending s c' w'
  sampled : w.sampled = true → w'.sampled = true

/-- What two parts keep is kept. -/
theorem Keeps.trans {slots : List Slot} {c c₁ c' : Context} {w w₁ w' : Tasks}
    (h : Keeps slots c w c₁ w₁) (h' : Keeps slots c₁ w₁ c' w') : Keeps slots c w c' w' :=
  ⟨h'.owned, fun s hs hp => h'.pending s hs (h.pending s hs hp), fun hw =>
    h'.sampled (h.sampled hw)⟩

/-- So is it with fewer slots. -/
theorem Keeps.weaken {slots slots' : List Slot} {c c' : Context} {w w' : Tasks}
    (h : Keeps slots c w c' w') (hs : slots' ⊆ slots) : Keeps slots' c w c' w' :=
  ⟨h.owned, fun s hs' => h.pending s (hs hs'), h.sampled⟩

/-- Every slot. -/
abbrev slots : List Slot := [.grace, .settle, .profile, .watch]

/-- The list has every slot. -/
theorem mem_slots (s : Slot) : s ∈ slots := by cases s <;> simp

variable {c c' : Context} {w w' : Tasks}

/-- What owns its tasks keeps every slot. -/
theorem Owned.keeps (h : Owned c w) (slots : List Slot) : Keeps slots c w c w :=
  ⟨h, fun _ _ => id, id⟩

/-- The context counts for its handles. -/
theorem Pending.same {s : Slot} (h : Pending s c w) (hheld : s.held c' = s.held c) :
    Pending s c' w := by
  rwa [Pending, hheld]

/-- The tasks are owned by a context with the same handles. -/
theorem Owned.same (h : Owned c w) (hheld : ∀ s : Slot, s.held c' = s.held c) : Owned c' w :=
  ⟨h.running, fun s t hs => h.held s t (hheld s ▸ hs)⟩

/-- The slots are kept for a context with the same handles. -/
theorem Keeps.same {slots : List Slot} {c₁ c₂ : Context} (h : Keeps slots c w c₁ w')
    (hheld : ∀ s : Slot, s.held c₂ = s.held c₁) : Keeps slots c w c₂ w' :=
  ⟨h.owned.same hheld, fun s hs hp => (h.pending s hs hp).same (hheld s), h.sampled⟩

/-- And from one. -/
theorem Keeps.before {slots : List Slot} {c₁ : Context} (h : Keeps slots c₁ w c' w')
    (hheld : ∀ s : Slot, s.held c₁ = s.held c) : Keeps slots c w c' w' :=
  ⟨h.owned, fun s hs hp => h.pending s hs (hp.same (hheld s)), h.sampled⟩

/-- Where the tasks that run ran before, and nothing pending is lost, every slot is kept. -/
theorem Owned.shrink (h : Owned c w) (hrun : ∀ p ∈ w'.running, p ∈ w.running)
    (hnext : w.next ≤ w'.next) (hpend : ∀ s, Pending s c w → Pending s c w')
    (hs : w.sampled = true → w'.sampled = true) : Keeps slots c w c w' := by
  refine ⟨⟨fun p hp => ?_, fun s t hheld => ?_⟩, fun s _ => hpend s, hs⟩
  · exact Nat.lt_of_lt_of_le (h.running p (hrun p hp)) hnext
  · obtain ⟨hlt, hev⟩ := h.held s t hheld
    exact ⟨Nat.lt_of_lt_of_le hlt hnext, fun ev hrunning => hev ev (hrun _ hrunning)⟩

/-- One step of the tasks keeps the slots. -/
theorem Owned.drift (h : Owned c w) (hdrift : Drift w w') : Keeps slots c w c w' := by
  cases hdrift with
  | @fire p hp =>
    refine h.shrink (fun q hq => (List.mem_filter.mp hq).1) (Nat.le_refl _) (fun s hpend => ?_) id
    rcases hpend with ⟨t, hheld, hrun⟩ | hqueue
    · by_cases heq : (t, s.sends) = p
      · exact .inr (List.mem_append_right _ (by simp [← heq]))
      · exact .inl ⟨t, hheld, List.mem_filter.mpr ⟨hrun, by simpa using heq⟩⟩
    · exact .inr (List.mem_append_left _ hqueue)
  | send ev =>
    refine h.shrink (fun _ => id) (Nat.le_refl _) (fun s hpend => ?_) id
    exact hpend.imp_right (List.mem_append_left _)

/-- So do any number. -/
theorem Owned.drifts (h : Owned c w) (hdrift : world.Drifts w w') : Keeps slots c w c w' := by
  induction hdrift with
  | refl => exact h.keeps _
  | tail _ hstep ih => exact ih.trans (ih.owned.drift hstep)

/-- And after what a program did. -/
theorem Keeps.drifts {ss : List Slot} {w₁ : Tasks} (h : Keeps ss c w c' w₁)
    (hdrift : world.Drifts w₁ w') : Keeps ss c w c' w' :=
  h.trans ((h.owned.drifts hdrift).weaken fun s _ => mem_slots s)

/-- What touches no task. -/
def taskResources : List Resource := [.graceTimer, .timer, .abort]

/-- A request that is about no task keeps every slot. -/
theorem Owned.answer (h : Owned c w) {c₁ : Context} {e : Eff} {b : stamped Eff.Ans (c₁, e)}
    (he : e.resource ∉ taskResources) (hans : world.answer (c₁, e) w b w') :
    Keeps slots c w c w' := by
  cases e with
  | spawnTimer delay ev =>
    by_cases hev : ev = .timerExpired <;> exact absurd he (by simp [taskResources, hev])
  | spawnClaimWatch | abort _ => exact absurd he (by simp [taskResources])
  | isFinished t =>
    obtain ⟨-, hsame⟩ := hans
    rw [hsame]
    exact h.keeps _
  | sendEvent ev =>
    obtain rfl : w' = w.send ev := hans
    exact h.drift (.send ev)
  | clients =>
    obtain rfl : w' = w.sample b := hans
    refine h.shrink (fun _ => id) (Nat.le_refl _) (fun _ => id) fun hs => ?_
    simp [sample, hs]
  | _ =>
    have hsame : w' = w := hans
    rw [hsame]
    exact h.keeps _

/-- A cancelled task is of its own slot: the others stay. -/
theorem Owned.abort {s : Slot} {h : Handle} (hw : Owned c w) (hheld : s.held c = some h) :
    Keeps (slots.filter fun s' => decide (s' ≠ s)) c w (s.fill none c) (w.abort h) := by
  refine ⟨⟨fun p hp => hw.running p (List.mem_filter.mp hp).1, fun s' t ht => ?_⟩,
    fun s' hs' hp => ?_, id⟩
  · by_cases hne : s' = s
    · subst hne
      exact absurd ht (by simp)
    · rw [Slot.held_fill_of_ne hne] at ht
      obtain ⟨hlt, hev⟩ := hw.held s' t ht
      exact ⟨hlt, fun ev hrun => hev ev (List.mem_filter.mp hrun).1⟩
  · have hne : s' ≠ s := by simpa using (List.mem_filter.mp hs').2
    rcases hp with ⟨t, ht, hrun⟩ | hqueue
    · refine .inl ⟨t, by rwa [Slot.held_fill_of_ne hne], List.mem_filter.mpr ⟨hrun, ?_⟩⟩
      have : t ≠ h := by
        rintro rfl
        exact hne (Slot.sends_injective ((hw.held s t hheld).2 _ hrun))
      simpa using this
    · exact .inr hqueue

/-- A task that was just spawned is pending in its slot, and the others stay. -/
theorem Owned.spawn (hw : Owned c w) (s : Slot) :
    Keeps (slots.filter fun s' => decide (s' ≠ s)) c w (s.fill (some w.next) c) (w.spawn s.sends) ∧
      Pending s (s.fill (some w.next) c) (w.spawn s.sends) := by
  refine ⟨⟨⟨fun p hp => ?_, fun s' t ht => ?_⟩, fun s' hs' hp => ?_, id⟩,
    .inl ⟨w.next, by simp, by simp [Tasks.spawn]⟩⟩
  · rcases List.mem_append.mp hp with hp | hp
    · exact Nat.lt_succ_of_lt (hw.running p hp)
    · obtain rfl := List.mem_singleton.mp hp
      exact Nat.lt_succ_self _
  · by_cases hne : s' = s
    · subst hne
      obtain rfl : w.next = t := by simpa using ht
      refine ⟨Nat.lt_succ_self _, fun ev hrun => ?_⟩
      rcases List.mem_append.mp hrun with hrun | hrun
      · exact absurd (hw.running _ hrun) (Nat.lt_irrefl _)
      · exact (Prod.mk.inj (List.mem_singleton.mp hrun)).2
    · rw [Slot.held_fill_of_ne hne] at ht
      obtain ⟨hlt, hev⟩ := hw.held s' t ht
      refine ⟨Nat.lt_succ_of_lt hlt, fun ev hrun => ?_⟩
      rcases List.mem_append.mp hrun with hrun | hrun
      · exact hev ev hrun
      · exact absurd (Prod.mk.inj (List.mem_singleton.mp hrun)).1 (Nat.ne_of_lt hlt)
  · have hne : s' ≠ s := by simpa using (List.mem_filter.mp hs').2
    rcases hp with ⟨t, ht, hrun⟩ | hqueue
    · exact .inl ⟨t, by rwa [Slot.held_fill_of_ne hne], List.mem_append_left _ hrun⟩
    · exact .inr hqueue

/-! ## Pieces -/

/-- The part of the context that the tasks are about. -/
structure View where
  graceTimer : Option Handle
  powerDebounce : Option Handle
  profileDebounce : Option Handle
  claimWatch : Option Handle
  state : State
  onAc : Bool
  onAcSettled : Bool
  waylandInhibitor : Bool

/-- The handles and the inputs that the tasks hang on. -/
def view (c : Context) : View where
  graceTimer := c.graceTimer
  powerDebounce := c.powerDebounce
  profileDebounce := c.profileDebounce
  claimWatch := c.claimWatch
  state := c.state
  onAc := c.onAc
  onAcSettled := c.onAcSettled
  waylandInhibitor := c.waylandInhibitor

/-- The view has the handles. -/
theorem held_of_view (h : view c' = view c) (s : Slot) : s.held c' = s.held c := by
  cases s
  · exact congrArg View.graceTimer h
  · exact congrArg View.powerDebounce h
  · exact congrArg View.profileDebounce h
  · exact congrArg View.claimWatch h

/-- The piece spawns, cancels and moves nothing of the view. -/
abbrev Untasked {α : Type} (x : Daemon α) : Prop :=
  Leaves (fun e => e.resource ∈ taskResources) view x

/-- A piece whose contract has few resources, and a postcondition off the view. -/
theorem untasked_of_only {α : Type} {x : Daemon α} {rs : List Resource}
    {Q : Context → α → Context → Prop} (h : ∀ c, Meets x c (only rs) (Q c))
    (hrs : ∀ r ∈ rs, r ∉ taskResources) (hQ : ∀ c a c', Q c a c' → view c' = view c) : Untasked x :=
  .of_meets h (fun _ _ e he => hrs e.resource he) hQ

/-- What a weakest precondition says of a piece in this world; there are no guards. -/
abbrev Does {α : Type} (x : Daemon α) (c : Context) (w : Tasks) (Q : α → Context → Tasks → Prop) :
    Prop :=
  Wp world (fun _ _ _ => True) Q x c w

/-- A piece that spawns and cancels nothing, and keeps a view with the handles in it. -/
theorem Owned.leaves {α V : Type} {v : Context → V} {x : Daemon α} (hw : Owned c w)
    (hx : Leaves (fun e => e.resource ∈ taskResources) v x)
    (hv : ∀ c', v c' = v c → ∀ s : Slot, s.held c' = s.held c) :
    Does x c w fun _ c' w' => v c' = v c ∧ Keeps slots c w c' w' := by
  refine (wp_of_meets (J := Keeps slots c w c) (hx c) (hw.keeps _) (fun _ _ hstep h => ?_) ?_).mono
    (fun _ _ _ _ => trivial) fun _ c' w' h => ⟨h.1, h.2.same (hv c' h.1)⟩
  · exact h.trans (h.owned.drift hstep)
  · intro c₁ e w₁ b w₂ he hans h
    exact h.trans (h.owned.answer he hans)

/-- A program that makes no request of the tasks keeps the slots. -/
theorem Owned.untasked {α : Type} {x : Daemon α} (hw : Owned c w) (hx : Untasked x) :
    Does x c w fun _ c' w' => view c' = view c ∧ Keeps slots c w c' w' :=
  hw.leaves hx fun _ => held_of_view

/-- A program that ends here. -/
theorem does_pure {α : Type} {a : α} {Q : α → Context → Tasks → Prop}
    (h : ∀ w', world.Drifts w w' → Q a c w') : Does (pure a) c w Q := h

variable (fx : Effectors)

/-- The bar's update makes none. -/
theorem untasked_syncWaybar : Untasked fx.syncWaybar :=
  untasked_of_only (syncWaybar_spec fx) (by decide) (by rintro c _ _ ⟨v, rfl⟩; rfl)

/-- Nor does the power policy. -/
theorem untasked_powerPolicyCheck : Untasked fx.powerPolicyCheck :=
  untasked_of_only (powerPolicyCheck_spec fx) (by decide) (by rintro c _ _ ⟨p, b, rfl⟩; rfl)

/-- Nor the check of the keys. -/
theorem untasked_kbdPolicyCheck (sample : Bool) : Untasked (fx.kbdPolicyCheck sample) :=
  untasked_of_only (fun c => kbdPolicyCheck_spec fx c sample) (by decide)
    (by rintro c _ _ ⟨k, rfl⟩; rfl)

/-- Nor that of the GPU. -/
theorem untasked_gpuCheck (trigger : String) (chosen : Option MonitorProfile) :
    Untasked (fx.gpuCheck trigger chosen) :=
  untasked_of_only (fun c => gpuCheck_spec fx c trigger chosen) (by decide)
    (by rintro c _ _ ⟨g, p, rfl⟩; rfl)

/-- Nor the match of the profiles. -/
theorem untasked_currentMatch : Untasked Effectors.currentMatch :=
  untasked_of_only currentMatch_spec (by decide) (by rintro c _ _ rfl; rfl)

/-- Nor a request of a pass. -/
theorem untasked_requestReconcile (trigger : ReconcileTrigger) :
    Untasked (Effectors.requestReconcile trigger) :=
  untasked_of_only (fun c => requestReconcile_spec c trigger) (by decide) (by rintro c _ _ rfl; rfl)

/-- Nor the check of the battery. -/
theorem untasked_batteryLowRequestCheck : Untasked fx.batteryLowRequestCheck :=
  untasked_of_only (batteryLowRequestCheck_spec fx) (by decide) (by rintro c _ _ ⟨r, rfl, -⟩; rfl)

/-- Nor the read of the active profile. -/
theorem untasked_ingestActiveProfile : Untasked Effectors.ingestActiveProfile :=
  untasked_of_only ingestActiveProfile_spec (by decide) (by rintro c _ _ ⟨n, r, e, rfl⟩; rfl)

/-- Nor the panel's command. -/
theorem untasked_setEdp (on : Bool) : Untasked (fx.setEdp on) := by
  refine .of_meets (fun c => setEdp_within fx c on) (fun _ _ e he => ?_) (by rintro c _ _ rfl; rfl)
  rw [List.mem_singleton.mp he.1]
  decide

/-- Nor any command. -/
theorem untasked_sendCmd (cmd : Cmd) : Untasked (fx.sendCmd cmd) := by
  refine .of_meets (fun c => sendCmd_spec fx c cmd) ?_ (by rintro c _ _ rfl; rfl)
  rintro _ _ _ ⟨-, rfl, -⟩
  cases cmd <;> simp [taskResources]

/-- Nor the tail of a suspend. -/
theorem untasked_suspendingTail : Untasked fx.suspendingTail :=
  untasked_of_only (suspendingTail_spec fx) (by decide) (by rintro c _ _ rfl; rfl)

/-- Nor the checks of the tail. -/
theorem untasked_tailChecks (ev : Event) : Untasked (fx.tailChecks ev) := by
  rw [Effectors.tailChecks]
  refine .bind (.when _ (untasked_of_only brightnessRearm_spec (by decide) ?_)) fun _ => ?_
  · rintro c _ _ ⟨b, rfl⟩
    rfl
  refine .bind (.when _ (.bind untasked_currentMatch fun chosen => untasked_gpuCheck fx _ chosen))
    fun _ => ?_
  exact .when _ (untasked_powerPolicyCheck fx)

/-! ## Arming and cancelling -/

/-- The other slots. -/
abbrev others (s : Slot) : List Slot := slots.filter fun s' => decide (s' ≠ s)

/-- To empty an empty slot changes nothing. -/
theorem fill_none (s : Slot) (h : s.held c = none) : s.fill none c = c := by
  cases s <;> cases c <;> cases h <;> rfl

/-- The slot is emptied, and the others stay. -/
theorem Owned.cancel (hw : Owned c w) (s : Slot) :
    Does (cancelTask s.held fun c => s.fill none c) c w fun _ c' w' =>
      c' = s.fill none c ∧ Keeps (others s) c w c' w' := by
  rw [Does, cancelTask, wp_get_bind]
  generalize hheld : s.held c = held
  cases held with
  | none =>
    refine does_pure fun w' hdrift => ⟨(fill_none s hheld).symm, ?_⟩
    exact (hw.drifts hdrift).weaken fun _ hs => (List.mem_filter.mp hs).1
  | some t =>
    dsimp only
    rw [wp_set_bind]
    intro w₁ hdrift
    have hw₁ := hw.drifts hdrift
    refine ⟨trivial, fun _ w₂ hans w₃ hdrift' => ⟨rfl, ?_⟩⟩
    obtain rfl : w₂ = w₁.abort t := hans
    exact ((hw₁.weaken fun _ hs => (List.mem_filter.mp hs).1).trans (hw₁.owned.abort hheld)).drifts
      hdrift'

/-- A task is spawned and its handle put in the slot. -/
theorem Owned.arm (hw : Owned c w) (s : Slot) {e : Eff} {f : e.Ans → Daemon Unit}
    (hspawn : ∀ w₁ b w₂, world.answer (c, e) w₁ b w₂ →
      w₂ = w₁.spawn s.sends ∧ ∀ w', Does (f b) c w' fun _ c' w'' =>
        c' = s.fill (some w₁.next) c ∧ world.Drifts w' w'') :
    Does (request e >>= f) c w fun _ c' w' =>
      (∃ t, c' = s.fill (some t) c) ∧ Keeps (others s) c w c' w' ∧ Pending s c' w' := by
  refine wp_ask_bind.mpr fun w₁ hdrift => ⟨trivial, fun b w₂ hans => ?_⟩
  have hw₁ := (hw.drifts hdrift).weaken fun s' (hs : s' ∈ others s) => (List.mem_filter.mp hs).1
  obtain ⟨rfl, hf⟩ := hspawn w₁ b w₂ hans
  obtain ⟨hkeeps, hpend⟩ := hw₁.owned.spawn s
  refine (hf _).mono (fun _ _ _ => id) ?_
  rintro _ _ w₃ ⟨rfl, hdrift'⟩
  have hlast := hkeeps.owned.drifts hdrift'
  exact ⟨⟨_, rfl⟩, (hw₁.trans hkeeps).drifts hdrift', hlast.pending s (mem_slots s) hpend⟩

/-- A debounce: the slot's task is cancelled and armed again. -/
theorem Owned.schedule (hw : Owned c w) (s : Slot) (delay : Nat) :
    Does (do
      cancelTask s.held fun c => s.fill none c
      let t ← request (.spawnTimer delay s.sends)
      modify fun c => s.fill (some t) c : Daemon Unit) c w fun _ c' w' =>
      (∃ t, c' = s.fill t c) ∧ Keeps (others s) c w c' w' ∧ Pending s c' w' := by
  have hfill : ∀ t, s.fill (some t) (s.fill none c) = s.fill (some t) c := by
    intro t
    cases s <;> rfl
  refine (hw.cancel s).bind ?_
  rintro _ _ w₁ ⟨rfl, hkeeps⟩
  refine (hkeeps.owned.arm s ?_).mono (fun _ _ _ => id) ?_
  · rintro w₂ _ _ ⟨rfl, rfl⟩
    exact ⟨rfl, fun w' w'' hdrift => ⟨rfl, hdrift⟩⟩
  · rintro _ _ w₂ ⟨⟨t, rfl⟩, hkeeps', hpend⟩
    exact ⟨⟨some t, hfill t⟩, hkeeps.trans hkeeps', hpend⟩

/-- The profile's debounce keeps the other slots. -/
theorem scheduleProfileReconcile_does (hw : Owned c w) :
    Does Effectors.scheduleProfileReconcile c w fun _ c' w' =>
      (∃ t, c' = { c with profileDebounce := t }) ∧ Keeps (others .profile) c w c' w' :=
  (hw.schedule .profile 500).mono (fun _ _ _ => id) fun _ _ _ h => ⟨h.1, h.2.1⟩

/-- The supply's keeps the others, and is running. -/
theorem schedulePowerSettle_does (hw : Owned c w) :
    Does Effectors.schedulePowerSettle c w fun _ c' w' =>
      (∃ t, c' = { c with powerDebounce := t }) ∧ Keeps (others .settle) c w c' w' ∧
        Pending .settle c' w' :=
  hw.schedule .settle 5000

/-- To cancel the grace timer keeps the others. -/
theorem cancelGraceTimer_does (hw : Owned c w) :
    Does Effectors.cancelGraceTimer c w fun _ c' w' =>
      c' = { c with graceTimer := none } ∧ Keeps (others .grace) c w c' w' :=
  hw.cancel .grace

/-- To cancel the watch keeps the others. -/
theorem cancelClaimWatch_does (hw : Owned c w) :
    Does Effectors.cancelClaimWatch c w fun _ c' w' =>
      c' = { c with claimWatch := none } ∧ Keeps (others .watch) c w c' w' :=
  hw.cancel .watch

/-- A task that is found alive is still to send its event, or has sent it. -/
theorem Owned.live (hw : Owned c w) (s : Slot) :
    Does (taskLive s.held) c w fun live c' w' =>
      c' = c ∧ Keeps slots c w c w' ∧ (live = true → s.held c ≠ none) := by
  rw [Does, taskLive, wp_get_bind]
  generalize s.held c = held
  cases held with
  | none => exact does_pure fun w' hdrift => ⟨rfl, hw.drifts hdrift, fun h => absurd h (by simp)⟩
  | some t =>
    refine wp_ask_bind.mpr fun w₁ hdrift => ⟨trivial, ?_⟩
    rintro finished _ ⟨-, rfl⟩
    exact does_pure fun w' hdrift' => ⟨rfl, (hw.drifts hdrift).drifts hdrift', fun _ => by simp⟩

/-- Armed afresh the grace timer is pending, and in a re-assertion where it was. -/
theorem startGraceTimer_does (hw : Owned c w) (fresh : Bool) :
    Does (Effectors.startGraceTimer fresh) c w fun _ c' w' =>
      (∃ t, c' = { c with graceTimer := t }) ∧ Keeps (others .grace) c w c' w' ∧
        (fresh = true ∨ Pending .grace c w → Pending .grace c' w') := by
  -- A fresh entry never asks whether the old timer is alive.
  have hlive : Does (if fresh then pure false else taskLive Context.graceTimer : Daemon Bool) c w
      fun live c' w' => c' = c ∧ Keeps slots c w c w' ∧ (live = true → fresh = false) := by
    rw [Does, wp_ite]
    refine ⟨fun _ => does_pure fun w' hdrift => ⟨rfl, hw.drifts hdrift, fun h =>
      absurd h (by simp)⟩, fun hfresh => (hw.live .grace).mono (fun _ _ _ => id) ?_⟩
    rintro live _ w' ⟨rfl, hkeeps, -⟩
    exact ⟨rfl, hkeeps, fun _ => by simpa using hfresh⟩
  rw [Effectors.startGraceTimer]
  refine hlive.bind ?_
  rintro live _ w₁ ⟨rfl, hkeeps, hfresh⟩
  have hothers := hkeeps.weaken fun s (hs : s ∈ others .grace) => (List.mem_filter.mp hs).1
  rw [wp_when]
  constructor
  · intro _
    -- The old one is aborted and a new one put in its place.
    refine (cancelGraceTimer_does hkeeps.owned).bind ?_
    rintro _ _ w₂ ⟨rfl, hkeeps₂⟩
    rw [wp_get_bind]
    refine (hkeeps₂.owned.arm .grace ?_).mono (fun _ _ _ => id) ?_
    · rintro w₃ _ _ ⟨rfl, rfl⟩
      exact ⟨rfl, fun w' w'' hdrift => ⟨rfl, hdrift⟩⟩
    · rintro _ _ w₃ ⟨⟨t, rfl⟩, hkeeps₃, hpend⟩
      exact ⟨⟨_, rfl⟩, (hothers.trans hkeeps₂).trans hkeeps₃, fun _ => hpend⟩
  · intro hnot
    refine does_pure fun w₂ hdrift => ⟨⟨_, rfl⟩, hothers.drifts hdrift, ?_⟩
    rintro (h | h)
    · exact absurd (hfresh (by simpa using hnot)) (by simp [h])
    · exact (hkeeps.drifts hdrift).pending .grace (by simp) h

/-- The watch runs where `deferred` holds a Wayland claim: it is started unless it lives. Elsewhere
it is cancelled. -/
theorem enterClaimWatch_does (hw : Owned c w) (state : State) :
    Does (Effectors.enterClaimWatch state) c w fun _ c' w' =>
      (∃ t, c' = { c with claimWatch := t }) ∧ Keeps (others .watch) c w c' w' ∧
        (state ≠ .deferred → c'.claimWatch = none) ∧
        (state = .deferred → c.waylandInhibitor = true → c.claimWatch = none ∨ Pending .watch c w →
          Pending .watch c' w') := by
  -- In Deferred on a claim the watch is to run; everywhere else it is aborted.
  rw [Does, Effectors.enterClaimWatch, wp_get_bind, wp_ite]
  constructor
  · intro hwatch
    have hstate : state = .deferred := by
      simp only [Bool.and_eq_true, decide_eq_true_eq] at hwatch
      exact hwatch.1
    rw [Effectors.startClaimWatch]
    refine (hw.live .watch).bind ?_
    rintro live _ w₁ ⟨rfl, hkeeps, hheld⟩
    have hothers := hkeeps.weaken fun s (hs : s ∈ others .watch) => (List.mem_filter.mp hs).1
    -- One that is still alive is left to run.
    rw [wp_when]
    constructor
    · intro _
      refine (hkeeps.owned.arm .watch ?_).mono (fun _ _ _ => id) ?_
      · rintro w₂ _ _ ⟨rfl, rfl⟩
        exact ⟨rfl, fun w' w'' hdrift => ⟨rfl, hdrift⟩⟩
      · rintro _ _ w₂ ⟨⟨t, rfl⟩, hkeeps₂, hpend⟩
        exact ⟨⟨_, rfl⟩, hothers.trans hkeeps₂, fun hne => absurd hstate hne, fun _ _ _ => hpend⟩
    · intro hnot
      refine does_pure fun w₂ hdrift =>
        ⟨⟨_, rfl⟩, hothers.drifts hdrift, fun hne => absurd hstate hne, ?_⟩
      rintro - - (h | h)
      · exact absurd h (hheld (by simpa using hnot))
      · exact (hkeeps.drifts hdrift).pending .watch (by simp) h
  · intro hnot
    refine (cancelClaimWatch_does hw).mono (fun _ _ _ => id) ?_
    rintro _ _ w₁ ⟨rfl, hkeeps⟩
    refine ⟨⟨_, rfl⟩, hkeeps, fun _ => rfl, fun hstate hclaim => absurd ?_ hnot⟩
    simp [hstate, hclaim]

/-! ## The machine -/

/-- What the machine and the two AC axes make of the tasks, but for the machine's state. -/
def axes (c : Context) : Bool × Bool × Bool := (c.onAc, c.onAcSettled, c.waylandInhibitor)

/-- The axes are three fields. -/
theorem axes_eq_iff : axes c' = axes c ↔ c'.onAc = c.onAc ∧ c'.onAcSettled = c.onAcSettled ∧
    c'.waylandInhibitor = c.waylandInhibitor := by
  simp only [axes, Prod.mk.injEq]

/-- The view has the axes. -/
theorem axes_of_view (h : view c' = view c) : axes c' = axes c :=
  congrArg (fun v => (v.onAc, v.onAcSettled, v.waylandInhibitor)) h

/-- The view has the state. -/
theorem state_of_view (h : view c' = view c) : c'.state = c.state := congrArg View.state h

/-- The view has the watch's handle. -/
theorem claimWatch_of_view (h : view c' = view c) : c'.claimWatch = c.claimWatch :=
  congrArg View.claimWatch h

/-- All slots but one are among the slots. -/
theorem Keeps.toOthers (h : Keeps slots c w c' w') (s : Slot) : Keeps (others s) c w c' w' :=
  h.weaken fun _ hs => (List.mem_filter.mp hs).1

/-- What the entry into a state leaves of the tasks. -/
structure Entered (state : State) (fresh : Bool) (c : Context) (w : Tasks) (c' : Context)
    (w' : Tasks) : Prop where
  keeps : Keeps [.settle, .profile] c w c' w'
  axes : axes c' = axes c
  stays : c'.state = c.state
  grace : state = .countdown → fresh = true ∨ Pending .grace c w → Pending .grace c' w'
  watch : state = .deferred → c.waylandInhibitor = true → c.claimWatch = none ∨ Pending .watch c w →
    Pending .watch c' w'
  unwatched : state ≠ .deferred → c'.claimWatch = none

/-- The entry of a state: its tasks are the entry's. -/
theorem onEnter_does (hw : Owned c w) (state : State) (fresh : Bool) :
    Does (fx.onEnter state fresh) c w fun _ c' w' => Entered state fresh c w c' w' := by
  refine (enterClaimWatch_does hw state).bind ?_
  rintro _ _ w₁ ⟨⟨u, rfl⟩, hkeeps, hunwatched, hwatch⟩
  -- After the watch only the grace timer moves.
  have hdone : ∀ (c₂ : Context) (w₂ : Tasks), Keeps (others .grace)
      { c with claimWatch := u } w₁ c₂ w₂ →
      Tasks.axes c₂ = Tasks.axes c → c₂.state = c.state → c₂.claimWatch = u →
      (state = .countdown → fresh = true ∨ Pending .grace { c with claimWatch := u } w₁ →
        Pending .grace c₂ w₂) → Entered state fresh c w c₂ w₂ := by
    intro c₂ w₂ hrest haxes hstate hu hgrace
    refine ⟨(hkeeps.weaken (by decide)).trans (hrest.weaken (by decide)), haxes, hstate,
      fun hs hp => hgrace hs (hp.imp_right (hkeeps.pending .grace (by decide))),
      fun hs hclaim hp => hrest.pending .watch (by decide) (hwatch hs hclaim hp),
      fun hs => hu.trans (hunwatched hs)⟩
  have hcancel : ∀ x : Daemon Bool, Untasked x → state ≠ .countdown →
      Does (Effectors.cancelGraceTimer >>= fun _ => x) { c with claimWatch := u } w₁
        fun _ c' w' => Entered state fresh c w c' w' := by
    intro x hx hne
    refine (cancelGraceTimer_does hkeeps.owned).bind ?_
    rintro _ _ w₂ ⟨rfl, hkeeps₂⟩
    refine (hkeeps₂.owned.untasked hx).mono (fun _ _ _ => id) ?_
    rintro _ c₃ w₃ ⟨hview, hkeeps₃⟩
    exact hdone c₃ w₃ (hkeeps₂.trans (hkeeps₃.toOthers _)) ((axes_of_view hview).trans rfl)
      ((state_of_view hview).trans rfl) (claimWatch_of_view hview) fun hs => absurd hs hne
  cases state with
  | lidOpen | docked => exact hcancel _ (.bind (untasked_setEdp fx _) fun _ => .pure _) (by simp)
  | deferred =>
    refine hcancel _ (.bind (untasked_setEdp fx _) fun _ => .get_bind fun c₁ => ?_) (by simp)
    exact .bind (.when _ (untasked_sendCmd fx _)) fun _ => .pure _
  | suspending => exact hcancel _ (untasked_suspendingTail fx) (by simp)
  | countdown =>
    refine (hkeeps.owned.untasked (untasked_setEdp fx _)).bind ?_
    rintro _ c₂ w₂ ⟨hview, hkeeps₂⟩
    refine (startGraceTimer_does hkeeps₂.owned fresh).bind ?_
    rintro _ _ w₃ ⟨⟨t, rfl⟩, hkeeps₃, hgrace⟩
    refine does_pure fun w₄ hdrift => ?_
    have hlast := hkeeps₃.owned.drifts hdrift
    exact hdone _ w₄ (((hkeeps₂.toOthers _).trans hkeeps₃).drifts hdrift) 
      ((axes_of_view hview).trans rfl) ((state_of_view hview).trans rfl) (claimWatch_of_view hview)
      fun _ hp => hlast.pending .grace (by simp)
        (hgrace (hp.imp_right (hkeeps₂.pending .grace (by simp))))

/-- What the machine's evaluation leaves of the tasks: in the countdown a grace timer is pending,
and in a `deferred` that is entered on a Wayland claim the watch. -/
structure Evaluated (kind : EventKind) (c : Context) (w : Tasks) (c' : Context) (w' : Tasks) :
    Prop where
  keeps : Keeps [.settle, .profile] c w c' w'
  axes : axes c' = axes c
  grace : c'.state = .countdown →
    (c.state = .countdown → kind ≠ .timerExpired → Pending .grace c w) →
    Pending .grace c' w'
  watch : c'.state = .deferred → c.waylandInhibitor = true →
    (c.state = .deferred → Pending .watch c w) →
    Pending .watch c' w'
  unwatched : c'.state ≠ .deferred → c'.claimWatch = none

/-- An expiry takes the machine out of the countdown, or tries to. -/
theorem desiredState_timerExpired_countdown (i : WorldInputs) :
    ∃ new, desiredState .countdown .timerExpired i = some new ∧ new ≠ .countdown := by
  unfold desiredState
  by_cases h : worldState i = .countdown
  · exact ⟨.suspending, by simp [h], by simp⟩
  · exact ⟨worldState i, by simp [h], h⟩

/-- An evaluation: its tasks are those of the state it is in. -/
theorem evaluateFsms_does (hw : Owned c w) (kind : EventKind)
    (hunwatched : c.state ≠ .deferred → c.claimWatch = none) :
    Does (fx.evaluateFsms kind) c w fun _ c' w' => Evaluated kind c w c' w' := by
  have hstay : (desiredState c.state kind c.world = none ∨
      desiredState c.state kind c.world = some c.state) →
      Does (pure () : Daemon Unit) c w fun _ c' w' => Evaluated kind c w c' w' := by
    intro hsame
    refine does_pure fun w' hdrift => ?_
    have hkeeps := hw.drifts hdrift
    refine ⟨hkeeps.weaken (by decide), rfl, fun hs hp => hkeeps.pending .grace (by simp) (hp hs ?_),
      fun hs _ hp => hkeeps.pending .watch (by simp) (hp hs), hunwatched⟩
    rintro rfl
    obtain ⟨new, hnew, hne⟩ := desiredState_timerExpired_countdown c.world
    rw [hs, hnew] at hsame
    exact hsame.elim (by simp) fun h => hne (Option.some.inj h)
  rw [Does, Effectors.evaluateFsms, wp_get_bind]
  generalize hdesired : desiredState c.state kind c.world = desired at hstay
  cases desired with
  | none => exact hstay (.inl rfl)
  | some new =>
    dsimp only
    rw [wp_when]
    refine ⟨fun hne => ?_, fun heq => hstay (.inr (by simpa using heq))⟩
    rw [wp_ite]
    constructor
    · rintro rfl
      obtain ⟨-, hcount, -⟩ := (desiredState_eq_suspending_iff _ _ _).mp hdesired
      refine (onEnter_does fx hw .suspending true).bind ?_
      rintro entered c₁ w₁ henter
      rw [wp_ite]
      constructor
      · intro _ w₂ hdrift
        exact ⟨(henter.keeps.same fun s => by cases s <;> rfl).drifts hdrift, henter.axes,
          fun h => absurd h (by simp), fun h => absurd h (by simp), fun _ =>
            henter.unwatched (by simp)⟩
      · intro _
        -- The suspend was refused.
        refine (startGraceTimer_does henter.keeps.owned true).mono (fun _ _ _ => id) ?_
        rintro _ _ w₂ ⟨⟨t, rfl⟩, hkeeps, hgrace⟩
        have hstate : c₁.state ≠ .deferred := by simp [henter.stays, hcount]
        exact ⟨henter.keeps.trans (hkeeps.weaken (by decide)), henter.axes,
          fun _ _ => hgrace (.inl rfl), fun h => absurd h hstate, fun _ =>
            henter.unwatched (by simp)⟩
    · intro hsus
      rw [wp_modify_bind]
      have hw' : Owned { c with state := new } w := hw.same fun s => by cases s <;> rfl
      refine (onEnter_does fx hw' new true).bind ?_
      rintro _ c₁ w₁ henter
      refine does_pure fun w₂ hdrift => ?_
      have hlast := henter.keeps.owned.drifts hdrift
      have hstate : c₁.state = new := henter.stays
      have hkeeps : Keeps [.settle, .profile] c w c₁ w₁ := henter.keeps.before fun s => by
        cases s <;> rfl
      refine ⟨hkeeps.drifts hdrift, henter.axes, ?_, ?_, ?_⟩
      · intro hs _
        exact hlast.pending .grace (by simp) (henter.grace (hstate.symm.trans hs) (.inl rfl))
      · intro hs hclaim _
        have hnew : new = .deferred := hstate.symm.trans hs
        have hout : c.state ≠ .deferred := by
          rintro heq
          exact absurd hne (by simp [hnew, heq])
        exact hlast.pending .watch (by simp) (henter.watch hnew hclaim (.inl (hunwatched hout)))
      · intro hs
        exact henter.unwatched fun hnew => hs (hstate.trans hnew)

end Tasks

end Hyprstate
