import Hyprstate.Daemon.Reconciler
import Hyprstate.Reactive.World

/-!
# Reconcile triggers

`reconcile_task` of `daemon/sources/reconciler.rs` beside `request_reconcile` of
`daemon/effectors.rs`: a queue of triggers that drops what it has no room for, and a task that waits
for a trigger or the safety tick, lets the burst settle, and runs a pass. A pass is the code of
`Reconciler.pass`, one request at a time, so that a trigger can come at any point of it.

No trigger is forgotten (`pass_of_waiting`): when the task waits again, a pass that made all of its
requests after the trigger is over. That pass delivered its tick, unless it was abandoned over a lid
that could not be read.
-/

namespace Hyprstate

open Reactive Process

namespace Reconciler

/-- The capacity of the trigger queue. -/
def triggerCapacity : Nat := 32

/-- A request of a pass with its answer, and when it was made. -/
structure Timed where
  began : Nat
  obs : Obs (Nat × Eff) (stamped Eff.Ans)

/-- What is left to do of a pass. -/
abbrev Rest := Program (Nat × Eff) (stamped Eff.Ans) (Unit × Nat)

/-- Where the task is. -/
inductive Phase
  /-- Waiting for a trigger or the safety tick. -/
  | waiting
  /-- Letting a burst settle. -/
  | settling (reasons : List ReconcileTrigger)
  /-- In a pass, with the requests made so far. -/
  | passing (rest : Rest) (made : List Timed)
  /-- In a pass, at a request that was made but not answered. -/
  | asking (began : Nat) (r : Nat × Eff) (rest : stamped Eff.Ans r → Rest) (made : List Timed)
  /-- The dispatcher is gone. -/
  | ended

/-- The task and its queue, the times at which a pass was asked for, and the passes that are
over. -/
structure TaskState where
  now : Nat
  queue : List ReconcileTrigger
  phase : Phase
  extPrev : Nat
  triggered : List Nat
  passes : List (List Timed)

/-- The task before its first step. -/
def TaskState.start (extPrev : Nat) : TaskState := ⟨0, [], .waiting, extPrev, [], []⟩

/-- The queue takes a trigger where it has room. -/
def offer (queue : List ReconcileTrigger) (t : ReconcileTrigger) : List ReconcileTrigger :=
  if queue.length < triggerCapacity then queue ++ [t] else queue

/-- One step of the task, or of one that asks for a pass. Every step takes time. -/
inductive Step (session lidPresent : Bool) : TaskState → TaskState → Prop
  /-- `request_reconcile`. -/
  | request (s : TaskState) (t : ReconcileTrigger) : Step session lidPresent s
      { s with now := s.now + 1, queue := offer s.queue t, triggered := s.triggered ++ [s.now] }
  | receive (s : TaskState) {t : ReconcileTrigger} {queue : List ReconcileTrigger} :
      s.phase = .waiting → s.queue = t :: queue →
      Step session lidPresent s { s with now := s.now + 1, queue, phase := .settling [t] }
  | safetyTick (s : TaskState) : s.phase = .waiting →
      Step session lidPresent s { s with now := s.now + 1, phase := .settling [.safetyTick] }
  | coalesce (s : TaskState) {reasons : List ReconcileTrigger} {t : ReconcileTrigger}
      {queue : List ReconcileTrigger} : s.phase = .settling reasons → s.queue = t :: queue →
      Step session lidPresent s
        { s with now := s.now + 1, queue, phase := .settling (reasons ++ [t]) }
  | settle (s : TaskState) {reasons : List ReconcileTrigger} : s.phase = .settling reasons →
      Step session lidPresent s { s with
        now := s.now + 1, phase := .passing ((pass session lidPresent reasons).run s.extPrev) [] }
  | ask (s : TaskState) {r : Nat × Eff} {rest : stamped Eff.Ans r → Rest} {made : List Timed} :
      s.phase = .passing (.call r rest) made →
      Step session lidPresent s { s with now := s.now + 1, phase := .asking s.now r rest made }
  | answer (s : TaskState) {began : Nat} {r : Nat × Eff} {rest : stamped Eff.Ans r → Rest}
      {made : List Timed} (b : stamped Eff.Ans r) : s.phase = .asking began r rest made →
      Step session lidPresent s { s with
        now := s.now + 1, phase := .passing (rest b) (made ++ [⟨began, ⟨r, b⟩⟩]) }
  | finish (s : TaskState) {extPrev : Nat} {made : List Timed} : s.phase = .passing
      (.ret ((), extPrev)) made →
      Step session lidPresent s { s with
        now := s.now + 1, phase := .waiting, extPrev, passes := s.passes ++ [made] }
  /-- The tick could not be sent. -/
  | leave (s : TaskState) {began : Nat} {r : Nat × Eff} {rest : stamped Eff.Ans r → Rest}
      {made : List Timed} {snap : ReconcileSnapshot} : s.phase = .asking began r rest made →
      r.2 = .sendEvent (.reconcileTick snap) →
      Step session lidPresent s { s with now := s.now + 1, phase := .ended }

/-- What the task can come to. -/
def Reaches (session lidPresent : Bool) (extPrev : Nat) : TaskState → Prop :=
  Relation.ReflTransGen (Step session lidPresent) (TaskState.start extPrev)

/-- The pass handed its tick to the dispatcher. -/
def Delivered (made : List Timed) : Prop :=
  ∃ o ∈ made, ∃ snap, o.obs.1.2 = .sendEvent (.reconcileTick snap)

/-- The pass could not read the lid. -/
def LidFailed (made : List Timed) : Prop := ∃ o ∈ made, ∃ n, o.obs = ⟨(n, .lidClosed), none⟩

/-- Every request of the pass was made after the time. -/
def After (t : Nat) (made : List Timed) : Prop := ∀ o ∈ made, t < o.began

/-! ## A pass -/

/-- The pass handed its tick over, or it could not read the lid of a machine with one. -/
def Concluded (lidPresent : Bool) (tr : List (Obs (Nat × Eff) (stamped Eff.Ans))) : Prop :=
  (∃ o ∈ tr, ∃ snap, o.1.2 = .sendEvent (.reconcileTick snap)) ∨
    lidPresent = true ∧ ∃ n, ⟨(n, .lidClosed), none⟩ ∈ tr

/-- A pass ends with its conclusion. -/
theorem pass_concluded (session lidPresent : Bool) (reasons : List ReconcileTrigger) (prev : Nat) :
    Wp (World.observer (fun _ => True) World.record) (fun _ _ _ => True)
      (fun _ _ tr => Concluded lidPresent tr) (pass session lidPresent reasons) prev [] := by
  have hrest : ∀ lid prev tr, Wp (World.observer (fun _ => True) World.record) (fun _ _ _ => True)
      (fun snap _ _ => ∃ s, snap = some s) (some <$> gatherRest session lid) prev tr := by
    intro lid prev tr
    have hmade : Meets (some <$> gatherRest session lid) prev (fun _ _ => True) fun snap _ =>
        ∃ s, snap = some s := by
      rw [meets_map]
      simp [gatherRest, logindRealInhibitorActive]
    exact (wp_observer_of_meets (J := fun _ => True) hmade trivial
      fun _ _ _ _ _ _ _ => trivial).mono
      (fun _ _ _ _ => trivial) fun _ _ _ h => h.1
  have hgather : Wp (World.observer (fun _ => True) World.record) (fun _ _ _ => True)
      (fun snap _ tr => (∃ s, snap = some s) ∨ snap = none ∧ Concluded lidPresent tr)
      (gather session lidPresent) prev [] := by
    rw [gather]
    cases lidPresent with
    | false => exact (hrest false prev []).mono (fun _ _ _ => id) fun _ _ _ => .inl
    | true =>
      refine wp_observer_ask_bind.mpr ⟨trivial, fun lid _ => ?_⟩
      cases lid with
      | none => exact wp_observer_pure.mpr (.inr ⟨rfl, .inr ⟨rfl, prev, List.mem_cons_self⟩⟩)
      | some lid => exact (hrest lid _ _).mono (fun _ _ _ => id) fun _ _ _ => .inl
  rw [pass]
  refine hgather.bind ?_
  rintro _ n tr (⟨snap, rfl⟩ | ⟨rfl, hconcluded⟩)
  · refine (wp_observer_ask (e := Eff.sendEvent _)).mpr ⟨trivial, fun b _ => ?_⟩
    exact .inl ⟨_, List.mem_append_right _ List.mem_cons_self, _, rfl⟩
  · exact wp_observer_pure.mpr hconcluded

/-- A run of a pass did one or the other. -/
theorem delivered_or_lidFailed {session lidPresent : Bool} {reasons : List ReconcileTrigger}
    {prev prev' : Nat} {made : List Timed}
    (h : Process.Runs (pass session lidPresent reasons) prev (made.map Timed.obs) () prev') :
    Delivered made ∨ lidPresent = true ∧ LidFailed made := by
  have hdone := (Program.Runs.of_wp_observer h (fun _ _ => trivial)
    (pass_concluded session lidPresent reasons prev)).2
  rw [World.foldl_record, List.nil_append] at hdone
  rcases hdone with ⟨o, ho, snap, hsnap⟩ | ⟨hlid, n, hmem⟩
  · obtain ⟨timed, htimed, rfl⟩ := List.mem_map.mp ho
    exact .inl ⟨timed, htimed, snap, hsnap⟩
  · obtain ⟨timed, htimed, hobs⟩ := List.mem_map.mp hmem
    exact .inr ⟨hlid, timed, htimed, n, hobs⟩

/-! ## What every step keeps -/

section

variable {session lidPresent : Bool}

/-- What is left of a pass, after the requests made so far, is a run of the pass. -/
def Continues (session lidPresent : Bool) (rest : Rest) (made : List Timed) : Prop :=
  ∃ reasons prev, ∀ tr a, Program.Runs rest tr a →
    Program.Runs ((pass session lidPresent reasons).run prev) (made.map Timed.obs ++ tr) a

/-- A trigger that no pass has met yet is ahead of one: in the queue, or in the burst, or there is a
pass that began after it. -/
def Ahead (t : Nat) (s : TaskState) : Prop :=
  s.queue ≠ [] ∨
    match s.phase with
    | .waiting => False
    | .settling _ => True
    | .passing _ made => After t made
    | .asking began _ _ made => t < began ∧ After t made
    | .ended => True

/-- What every state of the task keeps: who asked was met, or is ahead. -/
structure Kept (session lidPresent : Bool) (s : TaskState) : Prop where
  past : ∀ t ∈ s.triggered, t < s.now
  met : ∀ t ∈ s.triggered, (∃ made ∈ s.passes, After t made) ∨ Ahead t s
  ran : ∀ made ∈ s.passes, ∃ reasons prev prev',
    Process.Runs (pass session lidPresent reasons) prev (made.map Timed.obs) () prev'
  passing : ∀ rest made, s.phase = .passing rest made → Continues session lidPresent rest made
  asking : ∀ began r rest made, s.phase = .asking began r rest made → ∀ b,
    Continues session lidPresent (rest b) (made ++ [⟨began, ⟨r, b⟩⟩])

/-- The start keeps it. -/
theorem kept_start (extPrev : Nat) : Kept session lidPresent (TaskState.start extPrev) where
  past _ h := absurd h List.not_mem_nil
  met _ h := absurd h List.not_mem_nil
  ran _ h := absurd h List.not_mem_nil
  passing _ _ h := by cases h
  asking _ _ _ _ h := by cases h

/-- A queue that was offered a trigger is not empty. -/
theorem offer_ne_nil (queue : List ReconcileTrigger) (t : ReconcileTrigger) :
    offer queue t ≠ [] := by
  unfold offer
  split
  · simp
  · next hfull =>
    rintro rfl
    exact hfull (by decide)

variable {s s' : TaskState}

/-- The triggers that came before stay so. -/
theorem Kept.past_succ (h : Kept session lidPresent s) : ∀ t ∈ s.triggered, t < s.now + 1 :=
  fun t ht =>
  Nat.lt_succ_of_lt (h.past t ht)

/-- One step keeps it. -/
theorem Kept.step (h : Kept session lidPresent s) (hstep : Step session lidPresent s s') :
    Kept session lidPresent s' := by
  cases hstep with
  | request t =>
    refine { h with past := fun t' ht' => ?_, met := fun t' ht' => ?_ }
    · rcases List.mem_append.mp ht' with ht' | ht'
      · exact h.past_succ t' ht'
      · rw [List.mem_singleton.mp ht']
        exact Nat.lt_succ_self _
    -- Taken or dropped, it leaves a queue that is not empty.
    · exact .inr (.inl (offer_ne_nil _ _))
  | receive hphase hqueue | safetyTick hphase | coalesce hphase hqueue =>
    refine ⟨h.past_succ, fun t' ht' => ?_, h.ran, fun _ _ heq => (by cases heq), fun _ _ _ _ heq =>
      (by cases heq)⟩
    exact (h.met t' ht').imp_right fun _ => .inr trivial
  | @settle reasons hphase =>
    refine ⟨h.past_succ, fun t' ht' => ?_, h.ran, ?_, fun _ _ _ _ heq => (by cases heq)⟩
    -- The pass has made no request yet.
    · exact (h.met t' ht').imp_right fun _ => .inr fun _ hmem => absurd hmem List.not_mem_nil
    · rintro rest made heq
      obtain ⟨rfl, rfl⟩ := Phase.passing.inj heq
      exact ⟨reasons, s.extPrev, fun _ _ => id⟩
  | @ask r rest made hphase =>
    refine ⟨h.past_succ, fun t' ht' => ?_, h.ran, fun _ _ heq => (by cases heq), ?_⟩
    · refine (h.met t' ht').imp_right (Or.imp_right fun hahead => ?_)
      rw [hphase] at hahead
      exact ⟨h.past t' ht', hahead⟩
    · rintro began r' rest' made' heq b
      obtain ⟨rfl, rfl, hrest, rfl⟩ := Phase.asking.inj heq
      obtain rfl := eq_of_heq hrest
      obtain ⟨reasons, prev, hcontinues⟩ := h.passing _ _ hphase
      refine ⟨reasons, prev, fun tr a hruns => ?_⟩
      rw [List.map_append, List.append_assoc]
      exact hcontinues _ _ (.call b hruns)
  | @answer began r rest made b hphase =>
    refine ⟨h.past_succ, fun t' ht' => ?_, h.ran, ?_, fun _ _ _ _ heq => (by cases heq)⟩
    · refine (h.met t' ht').imp_right (Or.imp_right fun hahead => ?_)
      rw [hphase] at hahead
      intro o ho
      rcases List.mem_append.mp ho with ho | ho
      · exact hahead.2 o ho
      · rw [List.mem_singleton.mp ho]
        exact hahead.1
    · rintro rest' made' heq
      obtain ⟨rfl, rfl⟩ := Phase.passing.inj heq
      exact h.asking _ _ _ _ hphase b
  | @finish extPrev made hphase =>
    refine ⟨h.past_succ, fun t' ht' => ?_, fun made' hmade' => ?_, fun _ _ heq => (by cases heq),
      fun _ _ _ _ heq => (by cases heq)⟩
    · rcases h.met t' ht' with ⟨made', hmade', hafter⟩ | hqueue | hahead
      · exact .inl ⟨made', List.mem_append_left _ hmade', hafter⟩
      · exact .inr (.inl hqueue)
      · rw [hphase] at hahead
        exact .inl ⟨made, List.mem_append_right _ List.mem_cons_self, hahead⟩
    · rcases List.mem_append.mp hmade' with hmade' | hmade'
      · exact h.ran made' hmade'
      · obtain rfl := List.mem_singleton.mp hmade'
        obtain ⟨reasons, prev, hcontinues⟩ := h.passing _ _ hphase
        have hruns := hcontinues [] _ (.ret ((), extPrev))
        rw [List.append_nil] at hruns
        exact ⟨reasons, prev, extPrev, hruns⟩
  | leave hphase hsend =>
    refine ⟨h.past_succ, fun t' ht' => ?_, h.ran, fun _ _ heq => (by cases heq), fun _ _ _ _ heq =>
      (by cases heq)⟩
    exact (h.met t' ht').imp_right fun _ => .inr trivial

/-- So does a run. -/
theorem Reaches.kept {extPrev : Nat} (h : Reaches session lidPresent extPrev s) :
    Kept session lidPresent s := by
  induction h with
  | refl => exact kept_start extPrev
  | tail _ hstep ih => exact ih.step hstep

end

/-- Whenever the task waits with an empty queue, every trigger before that, dropped or not, was
followed by a pass that made all of its requests after it. That pass delivered its tick, unless the
lid of a machine with one could not be read. -/
theorem pass_of_waiting {session lidPresent : Bool} {extPrev : Nat} {s : TaskState}
    (h : Reaches session lidPresent extPrev s) (hwaiting : s.phase = .waiting)
    (hqueue : s.queue = []) :
    ∀ t ∈ s.triggered, ∃ made ∈ s.passes, After t made ∧ (∃ reasons prev prev',
        Process.Runs (pass session lidPresent reasons) prev (made.map Timed.obs) () prev') ∧
      (Delivered made ∨ lidPresent = true ∧ LidFailed made) := by
  intro t ht
  rcases h.kept.met t ht with ⟨made, hmade, hafter⟩ | hne | hahead
  · obtain ⟨reasons, prev, prev', hruns⟩ := h.kept.ran made hmade
    exact ⟨made, hmade, hafter, ⟨reasons, prev, prev', hruns⟩, delivered_or_lidFailed hruns⟩
  · exact absurd hqueue hne
  · rw [hwaiting] at hahead
    exact hahead.elim

/-! ## One trigger -/

/-- The task can take every run of a pass to its end, with nothing else happening. -/
theorem steps_of_runs (session lidPresent : Bool) {rest : Rest}
    {tr : List (Obs (Nat × Eff) (stamped Eff.Ans))} {a : Unit × Nat} (h : Program.Runs rest tr a)
    {s : TaskState} {made : List Timed} (hphase : s.phase = .passing rest made) :
    ∃ now made', Relation.ReflTransGen (Step session lidPresent) s
        { s with now, phase := .passing (.ret a) made' } ∧
      made'.map Timed.obs = made.map Timed.obs ++ tr := by
  induction h generalizing s made with
  | ret a =>
    obtain ⟨now, queue, phase, extPrev, triggered, passes⟩ := s
    obtain rfl := hphase
    exact ⟨now, made, .refl, (List.append_nil _).symm⟩
  | @call e k b tr a _ ih =>
    obtain ⟨now, made', hsteps, hmade⟩ :=
      ih (s := { s with now := s.now + 2, phase := .passing (k b) (made ++ [⟨s.now, ⟨e, b⟩⟩]) }) rfl
    refine ⟨now, made', .head (.ask s hphase) (.head (.answer _ b rfl) hsteps), ?_⟩
    rw [hmade, List.map_append, List.append_assoc]
    rfl

/-- One trigger, and the pass that it prompts. -/
theorem exists_waiting {session lidPresent : Bool} {extPrev prev' : Nat}
    {tr : List (Obs (Nat × Eff) (stamped Eff.Ans))}
    (h : Process.Runs (pass session lidPresent [.resumed]) extPrev tr () prev') :
    ∃ s made, Reaches session lidPresent extPrev s ∧ s.phase = .waiting ∧ s.queue = [] ∧
    s.triggered = [0] ∧
      s.passes = [made] ∧ made.map Timed.obs = tr := by
  obtain ⟨now, made, hsteps, hmade⟩ := steps_of_runs session lidPresent h
    (s := ⟨3, [], .passing ((pass session lidPresent [.resumed]).run extPrev) [], extPrev, [0], []⟩)
      rfl
  refine ⟨⟨now + 1, [], .waiting, prev', [0], [made]⟩, made, ?_, rfl, rfl, rfl, rfl, hmade⟩
  refine .head (.request _ .resumed) (.head (.receive _ rfl rfl) (.head (.settle _ rfl) ?_))
  exact hsteps.tail (.finish _ rfl)

/-- A pass that is answered is delivered. -/
theorem pass_of_waiting_quiet :
    ∃ s made, Reaches false false 0 s ∧ s.passes = [made] ∧ After 0 made ∧
    Delivered made := by
  obtain ⟨s, made, hreaches, hwaiting, hqueue, htriggered, hpasses, -⟩ :=
    exists_waiting (runs_answered (pass false false [.resumed]) Eff.quiet 0)
  obtain ⟨made', hmade', hafter, -, hconcluded⟩ :=
    pass_of_waiting hreaches hwaiting hqueue 0 (by rw [htriggered]; exact List.mem_cons_self)
  rw [hpasses, List.mem_singleton] at hmade'
  subst hmade'
  refine ⟨s, made', hreaches, hpasses, hafter, hconcluded.resolve_right ?_⟩
  exact fun hlid => absurd hlid.1 (by decide)

/-- A pass that cannot read the lid takes its trigger with it. -/
theorem not_delivered_lidFailed :
    ¬∀ (session lidPresent : Bool) (extPrev : Nat) (s : TaskState),
      Reaches session lidPresent extPrev s → s.phase = .waiting → s.queue = [] →
        ∀ t ∈ s.triggered, ∃ made ∈ s.passes, After t made ∧ Delivered made := by
  intro h
  obtain ⟨s, made, hreaches, hwaiting, hqueue, htriggered, hpasses, hobs⟩ :=
    exists_waiting (runs_answered (pass true true [.resumed]) Eff.quiet 0)
  obtain ⟨made', hmade', -, o, ho, snap, hsnap⟩ :=
    h true true 0 s hreaches hwaiting hqueue 0 (by rw [htriggered]; exact List.mem_cons_self)
  rw [hpasses, List.mem_singleton] at hmade'
  subst hmade'
  have hmem : o.obs ∈ ((pass true true [.resumed]).answered Eff.quiet 0).2.2 :=
    hobs ▸ List.mem_map_of_mem ho
  have hlid : o.obs = ⟨(0, .lidClosed), none⟩ := List.mem_singleton.mp hmem
  rw [hlid] at hsnap
  cases hsnap

end Reconciler

end Hyprstate
