import Hyprstate.Safety.GraceTimer
import Hyprstate.Safety.Grace

/-!
# A failed suspend is tried again only after the fixed grace

An attempt that fails leaves the machine in the countdown and arms the grace timer again. The next
expiry should not lead to another attempt before the fixed grace of 30 s has passed. The timer is
the one of a fresh lid close, so without a standing request its duration is the user's `lid-grace`,
which may be shorter, down to none at all.

The dispatcher runs as a server in a world with a clock, where each timer has a deadline.
`Retry.timely` is the condition on the steps of a run that has the property: a failure arms a timer
of the fixed grace at least, with no expiry queued beside it.
-/

namespace Hyprstate

open Reactive Process

/-- The dispatcher's queue and its grace timers, by a clock. -/
structure Retry where
  clock : Nat := 0
  queue : List Event := []
  /-- Armed, and neither fired nor aborted, each with its deadline. -/
  timers : List (Handle × Nat) := []
  next : Handle := 0
  /-- The event in dispatch is an expiry: a grace timer is armed then only where an attempt
  failed. -/
  expiry : Bool := false
  /-- When the latest attempt failed. It is forgotten when the timer that runs for the next one is
  aborted, since the countdown is left then. -/
  failed : Option Nat := none

namespace Retry

/-- A timer sends its expiry, and is over. -/
def fire (w : Retry) (p : Handle × Nat) : Retry :=
  { w with timers := w.timers.filter fun q => decide (q ≠ p), queue := w.queue ++ [.timerExpired] }

/-- Time passes, a timer fires at its deadline or later, or another source sends an event. -/
inductive Drift : Retry → Retry → Prop
  | pass {w : Retry} (d : Nat) : Drift w { w with clock := w.clock + d }
  | fire {w : Retry} {p : Handle × Nat} : p ∈ w.timers → p.2 ≤ w.clock → Drift w (w.fire p)
  | send {w : Retry} (ev : Event) : ev ≠ .timerExpired → Drift w { w with queue := w.queue ++ [ev] }

/-- A grace timer is armed with its deadline. -/
def arm (w : Retry) (delay : Nat) : Retry :=
  { w with
    timers := w.timers ++ [(w.next, w.clock + delay)]
    next := w.next + 1
    failed := if w.expiry then some w.clock else w.failed }

/-- An abort stops a timer that has not fired. -/
def abort (w : Retry) (h : Handle) : Retry :=
  { w with
    timers := w.timers.filter fun p => decide (p.1 ≠ h)
    failed := if w.timers.any fun p => decide (p.1 = h) then none else w.failed }

/-- A timer is armed under the next number, and one that has not fired is not finished. Any other
request is answered by anything. -/
def Answer (r : Context × Eff) (w : Retry) (b : stamped Eff.Ans r) (w' : Retry) : Prop :=
  match r, b with
  | (_, .spawnTimer delay ev), h =>
    h = w.next ∧ w' = if ev = .timerExpired then w.arm delay else { w with next := w.next + 1 }
  | (_, .spawnClaimWatch), h => h = w.next ∧ w' = { w with next := w.next + 1 }
  | (_, .abort h), _ => w' = w.abort h
  | (_, .isFinished h), finished => ((∃ p ∈ w.timers, p.1 = h) → finished = false) ∧ w' = w
  | _, _ => w' = w

/-- The dispatcher's world. -/
def world : World (Context × Eff) (stamped Eff.Ans) Retry := ⟨Drift, Answer⟩

/-- The first event of the queue is taken. -/
def taken (w : Retry) (ev : Event) : Retry :=
  { w with queue := w.queue.tail, expiry := decide (ev.kind = .timerExpired) }

/-- The dispatcher takes the first event of its queue. -/
def deliver (w : Retry) (ev : Event) (w' : Retry) : Prop :=
  w.queue.head? = some ev ∧ w' = w.taken ev

/-- A failure arms the fixed grace at least: a request stands, or the lid grace is as long; and no
expiry is queued then. -/
def timely : World (Context × Eff) (stamped Eff.Ans) Retry :=
  world.under (fun _ _ => True) fun r w =>
    (∃ delay, r.2 = .spawnTimer delay .timerExpired) → w.expiry = true →
      (r.1.suspendRequested = true ∨ graceSeconds ≤ r.1.lidGrace) ∧ .timerExpired ∉ w.queue

/-- The fixed grace since the latest failure has passed. -/
def Late (w : Retry) : Prop := ∀ t, w.failed = some t → t + graceSeconds ≤ w.clock

/-- The timers that run are the one the dispatcher holds, and due late; where an expiry is queued,
or no timer runs, it is late already. -/
structure OnTime (held : Option Handle) (w : Retry) : Prop where
  timers : ∀ p ∈ w.timers, held = some p.1
  due : ∀ t, w.failed = some t → ∀ p ∈ w.timers, t + graceSeconds ≤ p.2
  queue : .timerExpired ∈ w.queue → w.Late
  rest : w.timers = [] → w.Late

variable {held : Option Handle} {w w' : Retry}

/-- What is late stays late as time passes. -/
theorem Late.pass (h : w.Late) (d : Nat) : Late { w with clock := w.clock + d } := fun t ht =>
  Nat.le_add_right_of_le (h t ht)

/-- The tasks keep a timer that is on time. -/
theorem onTime_drift (hdrift : timely.drift w w') (h : OnTime held w) : OnTime held w' := by
  cases hdrift.1 with
  | pass d => exact ⟨h.timers, h.due, fun hq => (h.queue hq).pass d, fun hr => (h.rest hr).pass d⟩
  | @fire p hp hdue =>
    -- The timer was due late, and it is its deadline now.
    have hlate : w.Late := fun t ht => Nat.le_trans (h.due t ht p hp) hdue
    exact ⟨fun q hq => h.timers q (List.mem_filter.mp hq).1,
      fun t ht q hq => h.due t ht q (List.mem_filter.mp hq).1, fun _ => hlate, fun _ => hlate⟩
  | send ev hev =>
    refine ⟨h.timers, h.due, fun hq => ?_, h.rest⟩
    rcases List.mem_append.mp hq with hq | hq
    · exact h.queue hq
    · exact absurd (List.mem_singleton.mp hq).symm hev

/-- An abort forgets the failure with the timer that it stops. -/
theorem OnTime.abort (h : OnTime held w) (t : Handle) : OnTime held (w.abort t) := by
  -- Where a failure is still on record, no timer was stopped.
  have hkept : ∀ t', (w.abort t).failed = some t' →
      w.failed = some t' ∧ (w.abort t).timers = w.timers := by
    intro t' ht'
    simp only [Retry.abort] at ht' ⊢
    split at ht'
    · exact absurd ht' (by simp)
    · rename_i hnone
      refine ⟨ht', List.filter_eq_self.mpr fun p hp => ?_⟩
      simpa using fun heq => hnone (List.any_eq_true.mpr ⟨p, hp, by simpa using heq⟩)
  refine ⟨fun p hp => h.timers p (List.mem_filter.mp hp).1, fun t' ht' p hp => ?_,
    fun hq t' ht' => ?_, fun hr t' ht' => ?_⟩
  · obtain ⟨hf, hsame⟩ := hkept t' ht'
    exact h.due t' hf p (hsame ▸ hp)
  · exact h.queue hq t' (hkept t' ht').1
  · obtain ⟨hf, hsame⟩ := hkept t' ht'
    exact h.rest (hsame.symm.trans hr) t' hf

/-- After the abort of the held timer none runs. -/
theorem OnTime.abort_held {t : Handle} (h : OnTime (some t) w) : OnTime none (w.abort t) := by
  have hnone : (w.abort t).timers = [] := by
    refine List.filter_eq_nil_iff.mpr fun p hp => ?_
    simpa using (Option.some.inj (h.timers p hp)).symm
  have h' := h.abort t
  exact ⟨fun p hp => absurd (hnone ▸ hp) List.not_mem_nil, h'.due, h'.queue, h'.rest⟩

/-- So does a request of another resource. -/
theorem onTime_answer {c : Context} {e : Eff} {b : stamped Eff.Ans (c, e)}
    (he : e.resource ≠ .graceTimer) (hans : timely.answer (c, e) w b w') (h : OnTime held w) :
    OnTime held w' := by
  have hstep := hans.1
  have hcount : OnTime held { w with next := w.next + 1 } := ⟨h.timers, h.due, h.queue, h.rest⟩
  cases e with
  | spawnTimer delay ev =>
    obtain ⟨-, hw'⟩ := hstep
    have hev : ev ≠ .timerExpired := fun heq => he (by simp [heq])
    rw [if_neg hev] at hw'
    exact hw' ▸ hcount
  | spawnClaimWatch =>
    obtain ⟨-, hw'⟩ := hstep
    exact hw' ▸ hcount
  | abort t =>
    change w' = _ at hstep
    exact hstep ▸ h.abort t
  | isFinished t => exact hstep.2 ▸ h
  | _ =>
    change w' = w at hstep
    exact hstep ▸ h

/-- Arming the timer where none runs: after a failure for the fixed grace at least, else late
already. -/
theorem onTime_arm {c : Context} {t : Handle}
    (hans : timely.answer (c, .spawnTimer (graceOf c) .timerExpired) w t w') (h : OnTime none w) :
    OnTime (some t) w' := by
  obtain ⟨⟨rfl, hw'⟩, htimely⟩ := hans
  rw [if_pos rfl] at hw'
  subst hw'
  have hnone : w.timers = [] := List.eq_nil_iff_forall_not_mem.mpr fun p hp =>
    absurd (h.timers p hp) (by simp)
  -- The timer that is armed is the only one.
  have hmem : ∀ p ∈ (w.arm (graceOf c)).timers, p = (w.next, w.clock + graceOf c) := by
    intro p hp
    simpa [arm, hnone] using hp
  refine ⟨fun p hp => by rw [hmem p hp], fun t ht p hp => ?_, fun hq => ?_, fun hr => ?_⟩
  · rw [hmem p hp]
    cases hexp : w.expiry with
    | true =>
      obtain rfl : w.clock = t := by simpa [arm, hexp] using ht
      -- The grace is fixed while a request stands, else it is that of the lid.
      have hlong : graceSeconds ≤ graceOf c := by
        rcases (htimely ⟨_, rfl⟩ hexp).1 with hreq | hlid
        · rw [graceOf, if_pos hreq]
        · unfold graceOf
          split
          · exact Nat.le_refl _
          · exact hlid
      exact Nat.add_le_add_left hlong _
    | false =>
      have ht' : w.failed = some t := by simpa [arm, hexp] using ht
      exact Nat.le_add_right_of_le (h.rest hnone t ht')
  · cases hexp : w.expiry with
    | true => exact absurd hq (htimely ⟨_, rfl⟩ hexp).2
    | false =>
      intro t ht
      exact h.queue hq t (by simpa [arm, hexp] using ht)
  · exact absurd hr (by simp [arm])

/-- What every turn keeps in a timely run. -/
theorem graceInvariant_onTime : GraceInvariant timely OnTime where
  drift _ _ _ hdrift h := onTime_drift hdrift h
  answer _ _ _ _ _ _ he hans h := onTime_answer he hans h
  unheld _ _ h := ⟨fun p hp => absurd (h.timers p hp) (by simp), h.due, h.queue, h.rest⟩
  cancel _ t w _ w' hans h := by
    have hw' : w' = w.abort t := hans.1
    exact hw' ▸ h.abort_held
  arm _ _ _ _ hans h := onTime_arm hans h

end Retry

/-! ## What an attempt leaves -/

/-- The request file was found to stand or not, wherever it was looked for. -/
def findsRequest (standing : Bool) : (e : Eff) → e.Ans → Prop
  | .suspendRequestExists, b => b = standing
  | _, _ => True

/-- The suspend went through: logind accepted it, or the mode is shadow mode, where none is asked
for. -/
def Accepted (fx : Effectors) (tr : List DaemonObs) : Prop :=
  fx.shadow = true ∨ ∃ c, (⟨(c, Eff.suspend), true⟩ : DaemonObs) ∈ tr

/-- The grace timer was armed again, and is held. -/
def Rearmed (c' : Context) (tr : List DaemonObs) : Prop :=
  ∃ c t, (⟨(c, Eff.spawnTimer (graceOf c) .timerExpired), t⟩ : DaemonObs) ∈ tr ∧
    c'.graceTimer = some t

/-- An attempt succeeds and the machine suspends, or it fails, and the machine stays in the
countdown with its timer armed again. -/
def Attempted (fx : Effectors) (c' : Context) (tr : List DaemonObs) : Prop :=
  c'.state = .suspending ∧ Accepted fx tr ∨ c'.state = .countdown ∧ Rearmed c' tr

/-- Every expiry that leads to an attempt leaves it so, whatever else is answered. -/
def FailsIntoCountdown (fx : Effectors) : Prop :=
  ∀ (c c' : Context) (tr : List DaemonObs) (standing : Bool),
    Process.Runs (fx.handle .timerExpired) c tr () c' →
    (∀ o ∈ tr, findsRequest standing o.1.2 o.2) → attempts c standing → Attempted fx c' tr

section

variable (fx : Effectors)

/-- The world that records the trace, and answers as the request file stands. -/
abbrev finding (standing : Bool) : World (Context × Eff) (stamped Eff.Ans) (List DaemonObs) :=
  World.observer (fun o => findsRequest standing o.1.2 o.2) World.record

variable {standing : Bool} {c : Context} {h : List DaemonObs}

/-- What a contract says, of the trace so far prolonged. -/
theorem prolonged {α : Type} {x : Daemon α} {G : Context → Eff → Prop} {Q : α → Context → Prop}
    (hx : Meets x c G Q) :
    Wp (finding standing) (fun _ _ _ => True) (fun a c' h' => Q a c' ∧ ∃ t, h' = h ++ t) x c h := by
  refine (wp_observer_of_meets (J := fun h' => ∃ t, h' = h ++ t) hx ⟨[], by simp⟩ ?_).mono
    (fun _ _ _ _ => trivial) fun _ _ _ => id
  rintro s e _ b - - ⟨t, rfl⟩
  exact ⟨t ++ [⟨(s, e), b⟩], by simp [World.record]⟩

/-- More of the trace does not take an accepted suspend back. -/
theorem Accepted.append {tr : List DaemonObs} (hacc : Accepted fx tr) (t : List DaemonObs) :
    Accepted fx (tr ++ t) :=
  hacc.imp_right (Exists.imp fun _ hc => List.mem_append_left _ hc)

/-- Nor an attempt, where the state and the timer stay. -/
theorem Attempted.append {c c' : Context} {tr : List DaemonObs} (hatt : Attempted fx c tr)
    (hstate : c'.state = c.state) (htimer : c'.graceTimer = c.graceTimer) (t : List DaemonObs) :
    Attempted fx c' (tr ++ t) := by
  rcases hatt with ⟨hs, hacc⟩ | ⟨hs, c₁, h, hmem, hheld⟩
  · exact .inl ⟨hstate.trans hs, hacc.append fx t⟩
  · exact .inr ⟨hstate.trans hs, c₁, h, List.mem_append_left _ hmem, htimer.trans hheld⟩

/-- The tail succeeds only where the suspend went through. -/
theorem suspendingTail_accepted :
    Wp (finding standing) (fun _ _ _ => True)
      (fun ok c' h' => c' = c ∧ (ok = true → Accepted fx h')) fx.suspendingTail c h := by
  have hproven : ∀ (live : Bool) (h₁ : List DaemonObs), Wp (finding standing) (fun _ _ _ => True)
      (fun _ c' _ => c' = c) (if live then pure true else fx.lockAndProve : Daemon Bool) c h₁ := by
    intro live h₁
    rw [wp_ite]
    refine ⟨fun _ => by rw [wp_observer_pure], fun _ => ?_⟩
    exact (prolonged (lockAndProve_spec fx c)).mono (fun _ _ _ => id) fun _ _ _ hq => hq.1
  refine (prolonged (liveLocker_spec fx c)).bind ?_
  rintro live _ h₁ ⟨rfl, -⟩
  refine (hproven live h₁).bind ?_
  rintro proven _ h₂ rfl
  rw [wp_ite]
  refine ⟨fun _ => ?_, fun _ => by rw [wp_observer_pure]; exact ⟨rfl, by simp⟩⟩
  -- The lock is proven: shadow mode stops here, else logind is asked.
  rw [Effectors.doSuspend, wp_ite]
  refine ⟨fun hs => by rw [wp_observer_pure]; exact ⟨rfl, fun _ => .inl hs⟩, fun _ => ?_⟩
  refine (wp_observer_ask (e := Eff.suspend)).mpr ⟨trivial, fun ok _ => ⟨rfl, ?_⟩⟩
  rintro rfl
  exact .inr ⟨_, List.mem_append_right _ (List.mem_singleton_self _)⟩

/-- A timer armed afresh is held. -/
theorem startGraceTimer_rearms :
    Wp (finding standing) (fun _ _ _ => True)
      (fun _ c' h' => c'.state = c.state ∧ Rearmed c' h') (Effectors.startGraceTimer true) c h := by
  rw [Effectors.startGraceTimer, if_pos rfl, wp_pure_bind, wp_when]
  refine ⟨fun _ => ?_, by simp⟩
  refine (prolonged (cancelGraceTimer_spec c)).bind ?_
  rintro _ _ h₁ ⟨rfl, -⟩
  rw [wp_get_bind]
  refine (wp_observer_ask_bind (e := Eff.spawnTimer _ _)).mpr ⟨trivial, fun t _ => ?_⟩
  rw [wp_observer_modify]
  exact ⟨rfl, _, t, List.mem_append_right _ (List.mem_singleton_self _), rfl⟩

/-- The machine on an expiry that leads to an attempt. -/
theorem evaluateFsms_attempted
    (hatt : desiredState c.state .timerExpired c.world = some .suspending) :
    Wp (finding standing) (fun _ _ _ => True) (fun _ c' h' => Attempted fx c' h')
      (fx.evaluateFsms .timerExpired) c h := by
  have hcount : c.state = .countdown := ((desiredState_eq_suspending_iff _ _ _).mp hatt).2.1
  rw [Effectors.evaluateFsms, wp_get_bind, hatt]
  dsimp only
  rw [wp_when]
  refine ⟨fun _ => ?_, fun hsame => absurd hsame (by simp [hcount])⟩
  rw [if_pos rfl]
  have henter : Wp (finding standing) (fun _ _ _ => True)
      (fun ok c' h' => c'.state = c.state ∧ (ok = true → Accepted fx h'))
        (fx.onEnter .suspending true)
      c h := by
    refine (prolonged (enterClaimWatch_spec c _)).bind ?_
    rintro _ _ h₁ ⟨⟨w, rfl⟩, -⟩
    refine (prolonged (cancelGraceTimer_spec _)).bind ?_
    rintro _ _ h₂ ⟨rfl, -⟩
    refine (suspendingTail_accepted fx).mono (fun _ _ _ => id) ?_
    rintro ok _ h₃ ⟨rfl, hacc⟩
    exact ⟨rfl, hacc⟩
  refine henter.bind ?_
  rintro entered c' h' ⟨hstate, hacc⟩
  -- The machine moves on only where the suspend went through.
  cases entered with
  | true =>
    show Wp _ _ _ (modify _) c' h'
    rw [wp_observer_modify]
    exact .inl ⟨rfl, hacc rfl⟩
  | false =>
    refine startGraceTimer_rearms.mono (fun _ _ _ => id) ?_
    rintro _ c'' h'' ⟨hstate', hrearmed⟩
    have hcounting : c''.state = .countdown := calc c''.state = c'.state := hstate'
      _ = c.state := hstate
      _ = .countdown := hcount
    exact .inr ⟨hcounting, hrearmed⟩

/-- A suspend that fails leaves the countdown with a timer. -/
theorem failsIntoCountdown : FailsIntoCountdown fx := by
  intro c c' tr standing hrun hfinds hatt
  have hwp : Wp (finding standing) (fun _ _ _ => True) (fun _ c' h' => Attempted fx c' h')
      (fx.handle .timerExpired) c [] := by
    simp only [Effectors.handle, Effectors.dispatch, bind_assoc]
    -- The arm withdraws a request whose file is gone, and falls through.
    have hcheck : Wp (finding standing) (fun _ _ _ => True)
        (fun falls c' _ => falls = true ∧
          c' = { c with suspendRequested := c.suspendRequested && standing })
        (fx.dispatchUpdate .timerExpired) c [] := by
      rw [Effectors.dispatchUpdate, wp_get_bind, wp_bind, wp_when]
      refine ⟨fun hreq => ?_, fun hreq => ?_⟩
      · refine wp_observer_ask_bind.mpr ⟨trivial, ?_⟩
        rintro b (rfl : b = standing)
        rw [wp_when]
        refine ⟨fun hgone => ?_, fun hstands => ?_⟩
        · rw [wp_observer_modify, wp_observer_pure]
          have hb : b = false := by simpa using hgone
          exact ⟨rfl, by simp [hb]⟩
        · rw [wp_observer_pure, wp_observer_pure]
          have hb : b = true := by simpa using hstands
          exact ⟨rfl, by simp [hb]⟩
      · rw [wp_observer_pure, wp_observer_pure]
        exact ⟨rfl, by rw [hreq]; cases c; simp_all⟩
    refine hcheck.bind ?_
    rintro falls _ h₁ ⟨rfl, rfl⟩
    have htail : Wp (finding standing) (fun _ _ _ => True) (fun _ c' h' => Attempted fx c' h')
        (when true (fx.dispatchTail .timerExpired))
        { c with suspendRequested := c.suspendRequested && standing } h₁ :=
      wp_when.mpr ⟨fun _ => evaluateFsms_attempted fx hatt, by simp⟩
    refine htail.bind ?_
    rintro _ c₂ h₂ hatt₂
    refine (prolonged (syncWaybar_spec fx c₂)).mono (fun _ _ _ => id) ?_
    rintro _ _ _ ⟨⟨v, rfl⟩, t, rfl⟩
    exact hatt₂.append fx rfl rfl t
  have hpost := (Program.Runs.of_wp_observer hrun hfinds hwp).2
  simpa using hpost

/-! ## Runs -/

/-- The dispatcher starts, before any timer was armed. -/
def retryStart : Config Context Eff Eff.Ans Retry := ⟨fx.boot.run {}, {}⟩

/-- An expiry that the dispatcher takes next to an attempt comes late. -/
def RetriesLate (c : Context) (w : Retry) : Prop :=
  ∀ standing rest, attempts c standing → w.queue = .timerExpired :: rest → w.Late

open Retry in
/-- Every failed attempt stays in the countdown, and in every run whose failures are timely the next
one comes after the fixed grace. -/
theorem retriesLate_kept : FailsIntoCountdown fx ∧ ∀ c w,
    Config.Reaches timely deliver fx.handle (retryStart fx) (Config.idle c w) →
    RetriesLate c w := by
  refine ⟨failsIntoCountdown fx, fun c w hreach standing rest _ hqueue => ?_⟩
  -- Taking an event leaves the rest of the queue.
  have htake : ∀ (c : Context) (w : Retry) (ev : Event) (w' : Retry), OnTime c.graceTimer w →
      deliver w ev w' →
      Wp timely (fun _ _ _ => True) (fun _ c' w' => OnTime c'.graceTimer w')
        (fx.handle ev) c w' := by
    rintro c w ev _ hw ⟨-, rfl⟩
    exact graceInvariant_onTime.handle fx ev c _
      ⟨hw.timers, hw.due, fun hq => hw.queue (List.mem_of_mem_tail hq), hw.rest⟩
  have hstart : OnTime none {} := ⟨by simp, by simp, by simp, by simp [Late]⟩
  have hinit : (retryStart fx).task.Wp timely (fun _ _ => True)
      (fun r w => OnTime r.2.graceTimer w) (retryStart fx).world :=
    graceInvariant_onTime.boot fx hstart
  have hontime : OnTime c.graceTimer w :=
    Config.inv_of_reaches_idle (s := c) (w := w) htake hinit hreach
  exact hontime.queue (by simp [hqueue])

end

/-- A machine with its lid shut whose locker never engages, with this lid grace. -/
def lockerBroken (lidGraceSecs : Nat) : (e : Eff) → e.Ans
  | .loadPowerConf => { lidGraceSecs := lidGraceSecs }
  | .lidClosed => some true
  | .waitLocked => false
  | e => e.quiet

namespace Retry

/-- The world where the timers are counted, and anything else has its one answer. -/
def counting (answers : (e : Eff) → e.Ans) : (r : Context × Eff) → Retry → stamped Eff.Ans r × Retry
  | (_, .spawnTimer delay ev), w =>
    (w.next, if ev = .timerExpired then w.arm delay else { w with next := w.next + 1 })
  | (_, .spawnClaimWatch), w => (w.next, { w with next := w.next + 1 })
  | (_, .abort h), w => ((), w.abort h)
  | (_, .isFinished _), w => (false, w)
  | (_, e), w => (answers e, w)

variable (answers : (e : Eff) → e.Ans)

/-- The answers of the run are the timers'. -/
theorem counting_answer (r : Context × Eff) (w : Retry) :
    Answer r w (counting answers r w).1 (counting answers r w).2 := by
  obtain ⟨c, e⟩ := r
  cases e with
  | spawnTimer delay ev => exact ⟨rfl, rfl⟩
  | spawnClaimWatch => exact ⟨rfl, rfl⟩
  | isFinished h => exact ⟨fun _ => rfl, rfl⟩
  | _ => rfl

/-- Whether a failure's timer is timely. -/
def timelyCheck (r : Context × Eff) (w : Retry) : Bool :=
  !w.expiry || (r.1.suspendRequested || decide (graceSeconds ≤ r.1.lidGrace)) &&
    !w.queue.contains .timerExpired

/-- The timely ones are timely. -/
theorem counting_timely (r : Context × Eff) (w : Retry) (hr : timelyCheck r w = true) :
    timely.answer r w (counting answers r w).1 (counting answers r w).2 := by
  refine ⟨counting_answer answers r w, fun _ hexp => ?_⟩
  simpa [timelyCheck, hexp] using hr

/-- The timer fires after that much time. -/
def ranOut (w : Retry) (p : Handle × Nat) (d : Nat) : Retry :=
  fire { w with clock := w.clock + d } p

/-- Time passes, and the timer fires. -/
theorem reaches_ranOut {W : World (Context × Eff) (stamped Eff.Ans) Retry}
    (hW : ∀ w w', Drift w w' → W.drift w w') {fx : Effectors} {s : Config Context Eff Eff.Ans Retry}
    {c : Context} {w : Retry} {p : Handle × Nat} {d : Nat}
    (h : Config.Reaches W deliver fx.handle s (Config.idle c w)) (hp : p ∈ w.timers)
    (hd : p.2 ≤ w.clock + d) :
    Config.Reaches W deliver fx.handle s (Config.idle c (w.ranOut p d)) :=
  (h.tail (.drift (hW _ _ (.pass d)))).tail (.drift (hW _ _ (.fire hp hd)))

end Retry

open Retry in
/-- With the fixed grace as its lid grace the machine tries again when it has passed. -/
theorem retriesLate_kept_lockerBroken : ∃ c w, attempts c true ∧ w.failed = some 30000 ∧
    w.queue = [.timerExpired] ∧ RetriesLate c w := by
  have hboot : Config.Reaches timely deliver (Effectors.handle ⟨false, true⟩)
      (retryStart ⟨false, true⟩) (Config.idle _ _) :=
    Config.reaches_exec_of_passes (counting_timely (lockerBroken 30)) _ _ (by decide +kernel)
  have hfire := reaches_ranOut (W := timely) (fun _ _ h => ⟨h, trivial⟩) hboot
    (p := (0, 30000)) (d := 30000)
    (by decide +kernel) (by decide +kernel)
  have htake :=
    hfire.tail (.take (show deliver _ Event.timerExpired _ from ⟨by decide +kernel, rfl⟩))
  have hfail := htake.trans
    (Config.reaches_exec_of_passes (counting_timely (lockerBroken 30)) _ _ (by decide +kernel))
  have hagain := reaches_ranOut (W := timely) (fun _ _ h => ⟨h, trivial⟩) hfail
    (p := (1, 60000)) (d := 30000)
    (by decide +kernel) (by decide +kernel)
  exact ⟨_, _, by unfold attempts; decide +kernel, by decide +kernel, by decide +kernel,
    (retriesLate_kept ⟨false, true⟩).2 _ _ hagain⟩

open Retry in
/-- Without a lid grace a failed attempt is tried again at once. -/
theorem not_retriesLate : ¬∀ (fx : Effectors), FailsIntoCountdown fx ∧ ∀ c w,
    Config.Reaches Retry.world deliver fx.handle (retryStart fx) (Config.idle c w) →
    RetriesLate c w := by
  intro hall
  have hanswer : ∀ (r : Context × Eff) (w : Retry), True →
      Retry.world.answer r w (counting (lockerBroken 0) r w).1 (counting (lockerBroken 0) r w).2 ∧
        True :=
    fun r w _ => ⟨counting_answer _ r w, trivial⟩
  have hboot : Config.Reaches Retry.world deliver (Effectors.handle ⟨false, true⟩)
      (retryStart ⟨false, true⟩) (Config.idle _ _) :=
    Config.reaches_exec hanswer _ _ trivial
  have hfire := reaches_ranOut (fun _ _ => id) hboot (p := (0, 0)) (d := 0)
    (by decide +kernel) (by decide +kernel)
  have htake :=
    hfire.tail (.take (show deliver _ Event.timerExpired _ from ⟨by decide +kernel, rfl⟩))
  have hfail := htake.trans (Config.reaches_exec hanswer _ _ trivial)
  have hagain := reaches_ranOut (fun _ _ => id) hfail (p := (1, 0)) (d := 0)
    (by decide +kernel) (by decide +kernel)
  have hlate := (hall _).2 _ _ hagain true [] (by unfold attempts; decide +kernel)
    (by decide +kernel)
  exact absurd (hlate 0 (by decide +kernel)) (by decide +kernel)

end Hyprstate
