import Hyprstate.Safety.GraceTimer
import Hyprstate.Safety.Suspend

/-!
# A full grace before a suspend

An expiry that suspends should come from a grace timer armed no earlier than the latest fresh entry
into the countdown and the latest retry. Cancelling a timer aborts its task, but the expiry it has
queued already stays in the queue, and carries no identity: in a later countdown it is as good as
the later timer's.

The dispatcher runs as a server in a world of timers and its own queue, where each expiry is tagged
by its timer. `FullGrace` is the safety property, `Grace.calm` the condition on the steps of a run
that has it: no timer is armed afresh beside a queued expiry.
-/

namespace Hyprstate

open Reactive Process

/-- The dispatcher's queue, each expiry with the timer that sent it; the grace timers that run; and
two marks of the timers so far, which are numbered as they are armed. -/
structure Grace where
  queue : List (Event × Option Handle) := []
  /-- Armed, and neither fired nor aborted. -/
  timers : List Handle := []
  next : Handle := 0
  /-- The timer armed by the latest fresh entry into the countdown or the latest retry. -/
  fresh : Handle := 0
  /-- The event in dispatch re-asserts a state, and so does not enter it afresh. -/
  reassert : Bool := false

namespace Grace

/-- Whether an event re-asserts the present state. -/
def reasserts : Event → Bool
  | .configReloaded | .profileApplied => true
  | _ => false

/-- A timer sends its expiry, and is over. -/
def fire (w : Grace) (h : Handle) : Grace :=
  { w with
    timers := w.timers.filter fun h' => decide (h' ≠ h)
    queue := w.queue ++ [(.timerExpired, some h)] }

/-- Another source sends an event. -/
def send (w : Grace) (ev : Event) : Grace := { w with queue := w.queue ++ [(ev, none)] }

/-- A timer fires, or another source sends an event. Only grace timers send an expiry. The events
that the dispatcher itself sends come this way too. -/
inductive Drift : Grace → Grace → Prop
  | fire {w : Grace} {h : Handle} : h ∈ w.timers → Drift w (w.fire h)
  | send {w : Grace} (ev : Event) : ev ≠ .timerExpired → Drift w (w.send ev)

/-- A timer is armed under the next number, an abort stops one that has not fired, and a timer that
has not is not finished. Any other request is answered by anything. -/
def Answer (r : Context × Eff) (w : Grace) (b : stamped Eff.Ans r) (w' : Grace) : Prop :=
  match r, b with
  | (_, .spawnTimer _ ev), h => h = w.next ∧ w' =
      if ev = .timerExpired then
        { w with
          timers := w.timers ++ [h]
          next := h + 1
          fresh := if w.reassert then w.fresh else h }
      else { w with next := h + 1 }
  | (_, .spawnClaimWatch), h => h = w.next ∧ w' = { w with next := h + 1 }
  | (_, .abort h), _ => w' = { w with timers := w.timers.filter fun h' => decide (h' ≠ h) }
  | (_, .isFinished h), finished => (h ∈ w.timers → finished = false) ∧ w' = w
  | _, _ => w' = w

/-- The dispatcher's world. -/
def world : World (Context × Eff) (stamped Eff.Ans) Grace := ⟨Drift, Answer⟩

/-- The first event of the queue is taken. -/
def taken (w : Grace) (ev : Event) : Grace :=
  { w with queue := w.queue.tail, reassert := reasserts ev }

/-- The dispatcher takes the first event of its queue. -/
def deliver (w : Grace) (ev : Event) (w' : Grace) : Prop :=
  (∃ sender, w.queue.head? = some (ev, sender)) ∧ w' = w.taken ev

/-- No expiry is queued. -/
def drained (w : Grace) : Prop := ∀ p ∈ w.queue, p.1 ≠ .timerExpired

/-- No grace timer is armed afresh while an expiry is queued. -/
def calm : World (Context × Eff) (stamped Eff.Ans) Grace :=
  world.under (fun _ _ => True) fun r w =>
    (∃ delay, r.2 = .spawnTimer delay .timerExpired) → w.reassert = false → w.drained

/-- Every queued expiry is from a timer no older than the latest fresh one, and so is every timer
that runs, which is the one the dispatcher holds. -/
structure Fresh (held : Option Handle) (w : Grace) : Prop where
  queue : ∀ p ∈ w.queue, p.1 = .timerExpired → ∃ h, p.2 = some h ∧ w.fresh ≤ h
  timers : ∀ h ∈ w.timers, held = some h ∧ w.fresh ≤ h
  next : w.fresh ≤ w.next

/-- The tasks keep a fresh timer. -/
theorem fresh_drift (held : Option Handle) (w w' : Grace) (h : calm.drift w w')
    (hw : Fresh held w) : Fresh held w' := by
  cases h.1 with
  | @fire t ht =>
    refine ⟨fun p hp hexp => ?_, fun t' ht' => ?_, hw.next⟩
    · rcases List.mem_append.mp hp with hp | hp
      · exact hw.queue p hp hexp
      · obtain rfl := List.mem_singleton.mp hp
        exact ⟨t, rfl, (hw.timers t ht).2⟩
    · exact hw.timers t' (List.mem_filter.mp ht').1
  | send ev hev =>
    refine ⟨fun p hp hexp => ?_, hw.timers, hw.next⟩
    rcases List.mem_append.mp hp with hp | hp
    · exact hw.queue p hp hexp
    · obtain rfl := List.mem_singleton.mp hp
      exact absurd hexp hev

/-- An abort leaves fewer timers. -/
theorem Fresh.abort {held : Option Handle} {w : Grace} (hw : Fresh held w) (h : Handle) :
    Fresh held { w with timers := w.timers.filter fun h' => decide (h' ≠ h) } :=
  ⟨hw.queue, fun t ht => hw.timers t (List.mem_filter.mp ht).1, hw.next⟩

/-- After the abort of the held timer none runs. -/
theorem Fresh.abort_held {w : Grace} {h : Handle} (hw : Fresh (some h) w) :
    Fresh none { w with timers := w.timers.filter fun h' => decide (h' ≠ h) } := by
  refine ⟨hw.queue, fun t ht => ?_, hw.next⟩
  obtain ⟨ht, hne⟩ := List.mem_filter.mp ht
  exact absurd (Option.some.inj (hw.timers t ht).1).symm (by simpa using hne)

/-- So does a request of another resource. -/
theorem fresh_answer (held : Option Handle) (c : Context) (e : Eff) (w : Grace)
    (b : stamped Eff.Ans (c, e)) (w' : Grace) (he : e.resource ≠ .graceTimer)
    (h : calm.answer (c, e) w b w') (hw : Fresh held w) : Fresh held w' := by
  have hstep := h.1
  have hcount : Fresh held { w with next := w.next + 1 } :=
    ⟨hw.queue, hw.timers, Nat.le_succ_of_le hw.next⟩
  cases e with
  | spawnTimer delay ev =>
    obtain ⟨rfl, hw'⟩ := hstep
    have hev : ev ≠ .timerExpired := fun heq => he (by simp [heq])
    rw [if_neg hev] at hw'
    exact hw' ▸ hcount
  | spawnClaimWatch =>
    obtain ⟨rfl, hw'⟩ := hstep
    exact hw' ▸ hcount
  | abort t =>
    change w' = _ at hstep
    exact hstep ▸ hw.abort t
  | isFinished t => exact hstep.2 ▸ hw
  | _ =>
    change w' = w at hstep
    exact hstep ▸ hw

/-- Arming the grace timer beside a drained queue, or in a re-assertion. -/
theorem fresh_arm {c : Context} {delay : Nat} {w w' : Grace} {t : Handle}
    (h : calm.answer (c, .spawnTimer delay .timerExpired) w t w') (hw : Fresh none w) :
    Fresh (some t) w' := by
  obtain ⟨⟨rfl, hw'⟩, hcalm⟩ := h
  rw [if_pos rfl] at hw'
  subst hw'
  have hnone : w.timers = [] := List.eq_nil_iff_forall_not_mem.mpr fun t ht =>
    absurd (hw.timers t ht).1 (by simp)
  cases hre : w.reassert with
  | true =>
    refine ⟨hw.queue, fun t ht => ?_, Nat.le_succ_of_le hw.next⟩
    obtain rfl : t = w.next := by simpa [hnone] using ht
    exact ⟨rfl, hw.next⟩
  | false =>
    refine ⟨fun p hp hexp => absurd hexp (hcalm ⟨_, rfl⟩ hre p hp), fun t ht => ?_, Nat.le_succ _⟩
    obtain rfl : t = w.next := by simpa [hnone] using ht
    exact ⟨rfl, Nat.le_refl _⟩

/-- What every turn keeps in a calm run. -/
theorem graceInvariant_fresh : GraceInvariant calm Fresh where
  drift := fresh_drift
  answer t c e w b w' he hans hw := fresh_answer t c e w b w' he hans hw
  unheld t w hw := ⟨hw.queue, fun t' ht => absurd (hw.timers t' ht).1 (by simp), hw.next⟩
  cancel c t w _ w' hans hw := by
    have hw' : w' = _ := hans.1
    exact hw' ▸ hw.abort_held
  arm c w t w' hans hw := fresh_arm hans hw

end Grace

section

variable (fx : Effectors) {w : Grace}

open Grace

/-! ## Runs -/

/-- The dispatcher starts, before any timer was armed. -/
def graceStart : Config Context Eff Eff.Ans Grace := ⟨fx.boot.run {}, {}⟩

/-- So does the start. -/
theorem boot_fresh :
    Wp calm (fun _ _ _ => True) (fun _ c' w' => Fresh c'.graceTimer w') fx.boot {} {} :=
  graceInvariant_fresh.boot fx
    ⟨fun _ hp => absurd hp List.not_mem_nil, fun _ hh => absurd hh List.not_mem_nil, Nat.le_refl _⟩

/-- An expiry taken in `c` goes on to a suspend attempt, where the request file is found to stand or
not when it is checked again. -/
def attempts (c : Context) (standing : Bool) : Prop :=
  desiredState c.state .timerExpired
    { c with suspendRequested := c.suspendRequested && standing }.world = some .suspending

/-- The expiry that the dispatcher takes next to a suspend attempt was sent by a timer armed at the
latest fresh entry into the countdown, at the latest retry, or later. -/
def FullGrace (c : Context) (w : Grace) : Prop :=
  ∀ standing sender rest, attempts c standing → w.queue = (.timerExpired, sender) :: rest →
    ∃ h, sender = some h ∧ w.fresh ≤ h

/-- In every run whose steps are calm, a full grace precedes every suspend attempt. -/
theorem fullGrace_kept {c : Context} {w : Grace}
    (h : Config.Reaches calm deliver fx.handle (graceStart fx) (Config.idle c w)) :
    FullGrace c w := by
  have htake : ∀ (c : Context) (w : Grace) (ev : Event) (w' : Grace), Fresh c.graceTimer w →
      deliver w ev w' →
      Wp calm (fun _ _ _ => True) (fun _ c' w' => Fresh c'.graceTimer w') (fx.handle ev) c w' := by
    rintro c w ev _ hw ⟨-, rfl⟩
    exact graceInvariant_fresh.handle fx ev c _
      ⟨fun p hp => hw.queue p (List.mem_of_mem_tail hp), hw.timers, hw.next⟩
  have hinit : (graceStart fx).task.Wp calm (fun _ _ => True)
      (fun r w => Fresh r.2.graceTimer w) (graceStart fx).world := boot_fresh fx
  have hfresh : Fresh c.graceTimer w := Config.inv_of_reaches_idle (s := c) (w := w) htake hinit h
  intro standing sender rest _ hqueue
  exact hfresh.queue (.timerExpired, sender) (by simp [hqueue]) rfl

end

/-! ## A stale expiry -/

/-- The world of a machine with its lid shut, where the timers are counted. -/
def Grace.counting : (r : Context × Eff) → Grace → stamped Eff.Ans r × Grace
  | (_, .spawnTimer _ ev), w => (w.next,
      if ev = .timerExpired then
        { w with
          timers := w.timers ++ [w.next]
          next := w.next + 1
          fresh := if w.reassert then w.fresh else w.next }
      else { w with next := w.next + 1 })
  | (_, .spawnClaimWatch), w => (w.next, { w with next := w.next + 1 })
  | (_, .abort h), w => ((), { w with timers := w.timers.filter fun h' => decide (h' ≠ h) })
  | (_, .isFinished _), w => (false, w)
  | (_, e), w => (lidShut e, w)

/-- The answers of the run are the timers'. -/
theorem Grace.counting_answer (r : Context × Eff) (w : Grace) :
    Answer r w (counting r w).1 (counting r w).2 := by
  obtain ⟨c, e⟩ := r
  cases e with
  | spawnTimer delay ev => exact ⟨rfl, rfl⟩
  | spawnClaimWatch => exact ⟨rfl, rfl⟩
  | isFinished h => exact ⟨fun _ => rfl, rfl⟩
  | _ => rfl

/-- They leave the queue. -/
theorem Grace.counting_queue (r : Context × Eff) (w : Grace) :
    (counting r w).2.queue = w.queue := by
  obtain ⟨c, e⟩ := r
  cases e with
  | spawnTimer delay ev =>
    show (if ev = .timerExpired then _ else _ : Grace).queue = w.queue
    split <;> rfl
  | _ => rfl

/-- The context after a piece of the dispatcher's code in that world, and the world. -/
def Grace.after (x : Daemon Unit) (c : Context) (w : Grace) : Context × Grace :=
  (((x.run c).exec counting w).1.2, ((x.run c).exec counting w).2.1)

/-- Where no timer is armed beside a queued expiry the world of the counted timers is calm. -/
theorem Grace.counting_calm (r : Context × Eff) (w : Grace) (hw : w.queue = []) :
    calm.answer r w (counting r w).1 (counting r w).2 ∧ (counting r w).2.queue = [] := by
  refine ⟨⟨counting_answer r w, fun _ _ p hp => ?_⟩, (counting_queue r w).trans hw⟩
  rw [hw] at hp
  exact absurd hp List.not_mem_nil

open Grace in
/-- A machine started with its lid shut suspends on its own timer's expiry. -/
theorem fullGrace_kept_lidShut : ∃ c w, attempts c true ∧
    w.queue = [(.timerExpired, some 0)] ∧ FullGrace c w := by
  have hboot : Config.Reaches calm deliver (Effectors.handle ⟨false, true⟩)
      (graceStart ⟨false, true⟩) (Config.idle _ _) :=
    Config.reaches_exec counting_calm ((Effectors.boot ⟨false, true⟩).run {}) {} rfl
  have hfire := hboot.tail (.drift ⟨.fire (h := 0) (by decide +kernel), trivial⟩)
  exact ⟨_, _, by unfold attempts; decide +kernel, by decide +kernel,
    fullGrace_kept ⟨false, true⟩ hfire⟩

/-- The configuration after the start, with the lid shut. -/
def Grace.booted : Context × Grace := after (Effectors.boot ⟨false, true⟩) {} {}

/-- The timer fires behind two turns of the lid. -/
def Grace.fired : Grace := ((booted.2.send (.lid false)).send (.lid true)).fire 0

/-- The lid is found open. -/
def Grace.opened : Context × Grace :=
  after ((⟨false, true⟩ : Effectors).handle (.lid false)) booted.1 (fired.taken (.lid false))

/-- The lid is found shut. -/
def Grace.shut : Context × Grace :=
  after ((⟨false, true⟩ : Effectors).handle (.lid true)) opened.1 (opened.2.taken (.lid true))

open Grace in
/-- The expiry of a cancelled timer suspends in the next countdown. -/
theorem not_fullGrace : ¬∀ (fx : Effectors) (c : Context) (w : Grace),
    Config.Reaches Grace.world deliver fx.handle (graceStart fx) (Config.idle c w) →
    FullGrace c w := by
  intro h
  have hanswer : ∀ (r : Context × Eff) (w : Grace), True →
      Grace.world.answer r w (counting r w).1 (counting r w).2 ∧ True :=
    fun r w _ => ⟨counting_answer r w, trivial⟩
  have hboot : Config.Reaches Grace.world deliver (Effectors.handle ⟨false, true⟩)
      (graceStart ⟨false, true⟩) (Config.idle booted.1 booted.2) :=
    Config.reaches_exec hanswer _ _ trivial
  have hturned := (hboot.tail (.drift (.send (.lid false) (by simp)))).tail
    (.drift (.send (.lid true) (by simp)))
  have hfired := hturned.tail (.drift (.fire (h := 0) (by decide +kernel)))
  have htake : fired.deliver (.lid false) (fired.taken (.lid false)) :=
    ⟨⟨none, by decide +kernel⟩, rfl⟩
  have hopen := (hfired.tail (.take htake)).trans (Config.reaches_exec hanswer _ _ trivial)
  have htake' : opened.2.deliver (.lid true) (opened.2.taken (.lid true)) :=
    ⟨⟨none, by decide +kernel⟩, rfl⟩
  have hshut := (hopen.tail (.take htake')).trans (Config.reaches_exec hanswer _ _ trivial)
  have hqueue : shut.2.queue = [(.timerExpired, some 0)] := by decide +kernel
  have hfresh : shut.2.fresh = 1 := by decide +kernel
  obtain ⟨t, ht, hle⟩ := h ⟨false, true⟩ shut.1 shut.2 hshut true (some 0) []
    (by unfold attempts; decide +kernel) hqueue
  obtain rfl := Option.some.inj ht
  exact absurd (hfresh ▸ hle) (by decide)

end Hyprstate
