import Hyprstate.Daemon.Transition
import Hyprstate.Reactive.World

/-!
# What precedes a suspend

Over every run of the daemon, whatever the world answers: logind is asked to suspend only in the
dispatch of a timer expiry taken in the countdown, with a reason that no claim overrules, and right
after a locker was proven live by both probes.

Every other event is bounded by its footprint, which has no suspend in it (`handle_spec`). The
expiry itself is followed with its trace (`handle_timerExpired_atSuspend`): a request made in a
context is judged with all that was asked before it.
-/

namespace Hyprstate

open Reactive Process

/-- The world that answers anything and records the trace. -/
abbrev recorder : World (Context × Eff) (stamped Eff.Ans) (List DaemonObs) :=
  World.observer (fun _ => True) World.record

/-- A guard on suspend requests alone: `P` holds of the context and the trace before them. -/
def atSuspend (P : Context → List DaemonObs → Prop) (c : Context) (e : Eff)
    (h : List DaemonObs) : Prop :=
  e = .suspend → P c h

/-- The trace ends with the two probes of a live locker, both answered yes. -/
def lockProven (h : List DaemonObs) : Prop :=
  ∃ h' c₁ c₂, h = h' ++
    [(⟨(c₁, Eff.lockedHint), some true⟩ : DaemonObs), ⟨(c₂, Eff.hyprctlLocked), some "true"⟩]

/-- A request stands, and the request file existed when it was checked again at the expiry. -/
def requestChecked (c : Context) (h : List DaemonObs) : Prop :=
  c.suspendRequested = true ∧
    ∃ c₀ t, h = (⟨(c₀, Eff.suspendRequestExists), true⟩ : DaemonObs) :: t

/-- The lid alone wants the machine asleep. -/
def lidWantsSleep (c : Context) : Prop :=
  c.lidClosed = true ∧ c.extMonCount = 0 ∧ c.world.lidAcHold = false

/-- What must hold when the dispatch of `ev`, begun in `c₀`, asks logind to suspend in the context
`c` after the trace `h`. -/
structure SuspendSound (c₀ : Context) (ev : Event) (c : Context) (h : List DaemonObs) : Prop where
  /-- The event is a timer expiry. -/
  expired : ev = .timerExpired
  /-- It was taken in the countdown. -/
  countdown : c₀.state = .countdown
  /-- Only the check of the request file has moved the machine's inputs since. -/
  rechecked : c.inputs = { c₀.inputs with suspendRequested := c.suspendRequested }
  /-- A request stands, or the lid alone wants it. -/
  reason : requestChecked c h ∨ lidWantsSleep c
  /-- No claim has authority. -/
  unclaimed : claimGoverns c.world = false
  /-- The last two probes proved a live locker. -/
  locked : lockProven h
  /-- Without a lid, only a request can be the reason. -/
  lidless : c₀.lidPresent = false → requestChecked c h

section

variable (fx : Effectors) {P : Context → List DaemonObs → Prop}

/-! ## The lock proof -/

/-- A piece of the dispatcher that cannot suspend only prolongs the trace. -/
theorem recorded {α : Type} {x : Daemon α} {c : Context} {rs : List Resource}
    {Q : α → Context → Prop} (hx : Meets x c (fun _ e => e.resource ∈ rs) Q)
    (hs : Resource.suspend ∉ rs) (h : List DaemonObs) :
    Wp recorder (atSuspend P) (fun a c' h' => Q a c' ∧ ∃ t, h' = h ++ t) x c h := by
  refine (wp_observer_of_meets (J := fun h' => ∃ t, h' = h ++ t) hx ⟨[], by simp⟩ ?_).mono ?_ ?_
  · rintro s e _ b - - ⟨t, rfl⟩
    exact ⟨t ++ [⟨(s, e), b⟩], by simp [World.record]⟩
  · rintro c' e h' ⟨he, -⟩ rfl
    exact absurd he hs
  · exact fun _ _ _ => id

/-- A locker reported live was proven live by the last two requests. -/
theorem liveLocker_proven (c : Context) (h : List DaemonObs) :
    Wp recorder (atSuspend P)
      (fun live c' h' => c' = c ∧ (∃ t, h' = h ++ t) ∧ (live = true → lockProven h'))
      fx.liveLocker c h := by
  simp only [Effectors.liveLocker, Hyprctl.sessionIsLocked, wp_ite]
  refine ⟨fun _ => ?_, fun _ => ?_⟩
  · rw [wp_observer_ask_bind]
    refine ⟨(fun h => by cases h), fun hint _ => ?_⟩
    rw [wp_ite]
    refine ⟨fun hhint => ?_, fun _ => ?_⟩
    · subst hhint
      rw [bind_assoc, wp_observer_ask_bind]
      refine ⟨(fun h => by cases h), fun out _ => ?_⟩
      rw [pure_bind, wp_observer_pure]
      refine ⟨rfl, ⟨_, by rw [World.record, World.record, List.append_assoc]⟩, fun hlive => ?_⟩
      have hout : out = some "true" := by
        by_contra hne
        split_ifs at hlive <;> simp_all
      subst hout
      exact ⟨h, c, c, by rw [World.record, World.record, List.append_assoc]; rfl⟩
    · rw [wp_observer_pure]
      exact ⟨rfl, ⟨_, rfl⟩, by simp⟩
  · rw [wp_observer_pure]
    exact ⟨rfl, ⟨[], by simp⟩, by simp⟩

/-- The tail suspends only right after a live locker was proven. -/
theorem suspendingTail_atSuspend (c : Context) (h : List DaemonObs)
    (hP : ∀ t, lockProven (h ++ t) → P c (h ++ t)) :
    Wp recorder (atSuspend P) (fun _ c' _ => c' = c) fx.suspendingTail c h := by
  have hsuspend : ∀ t, lockProven (h ++ t) →
      Wp recorder (atSuspend P) (fun _ c' _ => c' = c) fx.doSuspend c (h ++ t) := by
    intro t ht
    rw [Effectors.doSuspend, wp_ite]
    refine ⟨fun _ => by rw [wp_observer_pure], fun _ => ?_⟩
    exact (wp_observer_ask (e := Eff.suspend)).mpr ⟨fun _ => hP t ht, fun _ _ => rfl⟩
  -- The lock is proved by a live locker, or engaged and then looked at once more.
  have hproven : ∀ (live : Bool) (t : List DaemonObs), (live = true → lockProven (h ++ t)) →
      Wp recorder (atSuspend P)
        (fun proven c' h' => c' = c ∧ ∃ t, h' = h ++ t ∧ (proven = true → lockProven (h ++ t)))
        (if live then pure true else fx.lockAndProve : Daemon Bool) c (h ++ t) := by
    intro live t hlive
    rw [wp_ite]
    refine ⟨fun hl => ?_, fun _ => ?_⟩
    · rw [wp_observer_pure]
      exact ⟨rfl, t, rfl, fun _ => hlive hl⟩
    · refine (recorded (requestLock_spec fx c) (by simp) _).bind ?_
      rintro _ c _ ⟨rfl, t₁, rfl⟩
      refine (recorded (waitForLock_spec fx c) (by simp) _).bind ?_
      rintro engaged c _ ⟨rfl, t₂, rfl⟩
      rw [wp_ite]
      refine ⟨fun _ => ?_, fun _ => ?_⟩
      · refine (liveLocker_proven fx c _).mono (fun _ _ _ => id) ?_
        rintro proven c _ ⟨rfl, ⟨t₃, rfl⟩, hp⟩
        exact ⟨rfl, t ++ (t₁ ++ (t₂ ++ t₃)), by simp, by simpa using hp⟩
      · rw [wp_observer_pure]
        exact ⟨rfl, t ++ (t₁ ++ t₂), by simp, by simp⟩
  refine (liveLocker_proven fx c h).bind ?_
  rintro live c _ ⟨rfl, ⟨t, rfl⟩, hlive⟩
  refine (hproven live t hlive).bind ?_
  rintro proven c _ ⟨rfl, t', rfl, hp⟩
  rw [wp_ite]
  exact ⟨fun h => hsuspend t' (hp h), fun _ => by rw [wp_observer_pure]⟩

/-! ## The expiry -/

/-- The entry into `suspending` suspends only right after a live locker was proven. -/
theorem onEnter_atSuspend (c : Context) (h : List DaemonObs)
    (hP : ∀ t c', onlyTimers c c' → lockProven (h ++ t) → P c' (h ++ t)) :
    Wp recorder (atSuspend P) (fun _ c' _ => onlyTimers c c')
      (fx.onEnter .suspending true) c h := by
  refine (recorded (enterClaimWatch_spec c _) (by simp) h).bind ?_
  rintro _ _ _ ⟨⟨w, rfl⟩, t₁, rfl⟩
  refine (recorded (cancelGraceTimer_spec _) (by simp) _).bind ?_
  rintro _ _ _ ⟨rfl, t₂, rfl⟩
  refine (suspendingTail_atSuspend fx _ _ fun t ht => ?_).mono (fun _ _ _ => id) ?_
  · have hassoc : h ++ t₁ ++ t₂ ++ t = h ++ (t₁ ++ (t₂ ++ t)) := by simp
    rw [hassoc] at ht ⊢
    exact hP _ _ ⟨_, _, rfl⟩ ht
  · rintro _ _ _ rfl
    exact ⟨_, _, rfl⟩

/-- The machine suspends on an expiry in the countdown of a world that rests there. -/
theorem evaluateFsms_atSuspend (c : Context) (h : List DaemonObs)
    (hP : ∀ t c', onlyTimers c c' → c.state = .countdown → worldState c.world = .countdown →
      lockProven (h ++ t) → P c' (h ++ t)) :
    Wp recorder (atSuspend P) (fun _ _ _ => True) (fx.evaluateFsms .timerExpired) c h := by
  have hquiet : ∀ {α : Type} {x : Daemon α} {c' : Context} {rs : List Resource}
      {Q : α → Context → Prop} (h' : List DaemonObs), Resource.suspend ∉ rs →
      Meets x c' (fun _ e => e.resource ∈ rs) Q →
      Wp recorder (atSuspend P) (fun _ _ _ => True) x c' h' := fun h' hs hx =>
    (recorded hx hs h').mono (fun _ _ _ => id) fun _ _ _ _ => trivial
  have hnone : ∀ (c' : Context) (h' : List DaemonObs),
      Wp recorder (atSuspend P) (fun _ _ _ => True) (pure () : Daemon Unit) c' h' := fun c' h' =>
    wp_observer_pure.mpr trivial
  simp only [Effectors.evaluateFsms, wp_get_bind]
  -- By the state that is called for: none, Suspending, or another one.
  cases hd : desiredState c.state .timerExpired c.world with
  | none => exact hnone c h
  | some new =>
    dsimp only
    rw [wp_when, wp_ite]
    refine ⟨fun _ => ⟨fun hnew => ?_, fun hnew => ?_⟩, fun _ => hnone c h⟩
    · subst hnew
      obtain ⟨-, hcount, hworld⟩ := (desiredState_eq_suspending_iff _ _ _).mp hd
      -- Suspending is called for only out of a Countdown that the inputs still ask for.
      refine (onEnter_atSuspend fx c h fun t c' hc' => hP t c' hc' hcount hworld).bind ?_
      rintro entered c' h' -
      rw [wp_ite]
      refine ⟨fun _ => wp_observer_modify.mpr trivial, fun _ => ?_⟩
      exact hquiet h' (by simp) (startGraceTimer_spec c' true)
    · rw [wp_modify_bind]
      refine Wp.bind (hquiet h (by simp [entryResources])
        ((onEnter_spec fx _ new true hnew).mono (fun _ _ he => he.1) fun _ _ => id)) ?_
      rintro _ c' h' -
      exact hnone c' h'

/-- In the dispatch of an expiry, every suspend is sound. -/
theorem handle_timerExpired_atSuspend (c : Context)
    (hlid : c.lidPresent = false → c.lidClosed = false) :
    Wp recorder (atSuspend fun c' h => SuspendSound c .timerExpired c' h) (fun _ _ _ => True)
      (fx.handle .timerExpired) c [] := by
  -- From here the inputs are those the expiry was judged on, and where a request still stands the
  -- trace begins with the check of its file.
  have htail : ∀ (c₁ : Context) (h₁ : List DaemonObs),
      c₁.state = c.state → c₁.inputs = { c.inputs with suspendRequested := c₁.suspendRequested } →
      (c₁.suspendRequested = true → ∃ c₀ t, h₁ =
        (⟨(c₀, Eff.suspendRequestExists), true⟩ : DaemonObs) :: t) →
      Wp recorder (atSuspend fun c' h => SuspendSound c .timerExpired c' h) (fun _ _ _ => True)
        (do when true (fx.dispatchTail .timerExpired); fx.syncWaybar) c₁ h₁ := by
    intro c₁ h₁ hst hin hreq
    show Wp _ _ _ (fx.evaluateFsms .timerExpired >>= fun _ => fx.syncWaybar) c₁ h₁
    refine (evaluateFsms_atSuspend fx c₁ h₁ ?_).bind ?_
    · rintro t c' ⟨g, w, rfl⟩ hcount hworld hproof
      obtain ⟨hclaim, hwhy⟩ := (worldState_eq_countdown_iff _).mp hworld
      have hcheck : c₁.suspendRequested = true →
          requestChecked { c₁ with graceTimer := g, claimWatch := w } (h₁ ++ t) := by
        intro hr
        obtain ⟨c₀, t₀, rfl⟩ := hreq hr
        exact ⟨hr, c₀, t₀ ++ t, rfl⟩
      refine ⟨rfl, hst ▸ hcount, hin, hwhy.imp hcheck id, hclaim, hproof, fun hp => ?_⟩
      rcases hwhy with hr | ⟨hclosed, -, -⟩
      · exact hcheck hr
      · have hsame : c₁.lidClosed = c.lidClosed := congrArg Inputs.lidClosed hin
        exact absurd (hsame.symm.trans hclosed) (by simp [hlid hp])
    · rintro _ c' h' -
      exact (recorded (syncWaybar_spec fx c') (by simp) h').mono (fun _ _ _ => id)
        fun _ _ _ _ => trivial
  simp only [Effectors.handle, Effectors.dispatch, Effectors.dispatchUpdate, bind_assoc]
  rw [wp_get_bind]
  cases hr : c.suspendRequested with
  | false => exact htail c [] rfl rfl (by simp [hr])
  | true =>
    simp only [when, if_true, bind_assoc]
    rw [wp_observer_ask_bind]
    refine ⟨(fun h => by cases h), fun standing _ => ?_⟩
    cases standing with
    | true => exact htail c _ rfl rfl fun _ => ⟨c, [], rfl⟩
    | false => exact htail { c with suspendRequested := false } _ rfl rfl (by simp)

end

/-! ## Runs -/

/-- No request to suspend is in the trace. -/
def noSuspend (tr : List DaemonObs) : Prop := ∀ o ∈ tr, o.1.2 ≠ .suspend

/-- Every request to suspend that the turn made was sound. -/
def Turn.SuspendsSoundly (t : Turn) : Prop :=
  ∀ pre c b post, t.trace = pre ++ (⟨(c, Eff.suspend), b⟩ : DaemonObs) :: post →
    SuspendSound t.before t.ev c pre

/-- A resource outside a contract is in none of its traces. -/
theorem noSuspend_of_runs {α : Type} {x : Daemon α} {c c' : Context} {tr : List DaemonObs} {a : α}
    {rs : List Resource} {Q : α → Context → Prop} (hr : Process.Runs x c tr a c')
    (hx : Meets x c (fun _ e => e.resource ∈ rs) Q) (hrs : Resource.suspend ∉ rs) :
    noSuspend tr ∧ Q a c' := by
  obtain ⟨hG, hQ⟩ := Program.Runs.of_meets hr hx
  exact ⟨fun o ho heq => hrs (by simpa [heq] using hG o ho), hQ⟩

/-- One turn calls for a suspend where the claim allows it. -/
theorem turn_suspendsSoundly (fx : Effectors) {c c' : Context} {ev : Event} {tr : List DaemonObs}
    (hc : lidConsistent c) (hr : Process.Runs (fx.handle ev) c tr () c') :
    (⟨c, ev, tr, c'⟩ : Turn).SuspendsSoundly := by
  intro pre cs b post heq
  by_cases hev : ev = .timerExpired
  · subst hev
    obtain ⟨hG, -⟩ := Program.Runs.of_wp_observer hr (fun _ _ => trivial)
      (handle_timerExpired_atSuspend fx c hc)
    have hsound := hG pre _ post heq rfl
    rwa [World.foldl_record, List.nil_append] at hsound
  · have hspec := handle_spec fx c ev
    rw [if_neg hev] at hspec
    obtain ⟨hquiet, -⟩ := noSuspend_of_runs hr
      (hspec.mono (fun _ _ h => h.1) fun _ _ => id) (by simp [eventResources])
    change tr = _ at heq
    exact absurd rfl (hquiet ⟨(cs, Eff.suspend), b⟩ (by rw [heq]; simp))

/-- Over every run of the daemon, setup and startup ask for no suspend, and every suspend of a turn
is sound. -/
theorem suspend_sound (fx : Effectors) {tr₀ : List DaemonObs} {ts : List Turn} {c : Context}
    (h : Run fx tr₀ ts c) : noSuspend tr₀ ∧ ∀ t ∈ ts, t.SuspendsSoundly := by
  suffices hinv : lidConsistent c ∧ noSuspend tr₀ ∧ ∀ t ∈ ts, t.SuspendsSoundly from hinv.2
  induction h with
  | @start c c' tr tr' hsetup hstart =>
    obtain ⟨hq, hc⟩ := noSuspend_of_runs hsetup (setup_spec fx {}) (by simp)
    obtain ⟨hq', hin, -⟩ := noSuspend_of_runs hstart
      ((startup_spec fx c).mono (fun _ _ h => h.1) fun _ _ => id) (by simp [eventResources])
    refine ⟨fun hp => ?_, ?_, by simp⟩
    · have hp' : c.lidPresent = false := (congrArg Inputs.lidPresent hin).symm.trans hp
      exact (congrArg Inputs.lidClosed hin).trans (hc rfl hp')
    · intro o ho
      rcases List.mem_append.mp ho with h | h
      · exact hq o h
      · exact hq' o h
  | @turn c c' tr₀ tr ts ev _ hr ih =>
    obtain ⟨hc, hq, hts⟩ := ih
    have hdisp : Dispatched c ev c' :=
      (Program.Runs.of_meets hr (handle_spec fx c ev)).2
    refine ⟨hdisp.lidConsistent hc, hq, fun t ht => ?_⟩
    rcases List.mem_append.mp ht with h | h
    · exact hts t h
    · obtain rfl := List.mem_singleton.mp h
      exact turn_suspendsSoundly fx hc hr

/-- The lid is shut on a machine with nothing else attached, and a locker is live. -/
def lidShut : (e : Eff) → e.Ans
  | .lidClosed | .lockedHint => some true
  | .hyprctlLocked => some "true"
  | e => e.quiet

/-- A machine started with its lid shut suspends at the first expiry, soundly. -/
theorem suspend_sound_lidShut : ∃ tr₀ t c, Run ⟨false, true⟩ tr₀ [t] c ∧
    (∃ o ∈ t.trace, o.1.2 = .suspend) ∧ noSuspend tr₀ ∧ t.SuspendsSoundly := by
  have hrun := Run.turn .timerExpired
    (Run.start (runs_answered (Effectors.setup ⟨false, true⟩) lidShut {})
      (runs_answered (Effectors.startup ⟨false, true⟩) lidShut _))
    (runs_answered (Effectors.handle ⟨false, true⟩ .timerExpired) lidShut _)
  obtain ⟨hquiet, hsound⟩ := suspend_sound _ hrun
  exact ⟨_, _, _, hrun, by decide +kernel, hquiet, hsound _ (by simp)⟩

end Hyprstate
