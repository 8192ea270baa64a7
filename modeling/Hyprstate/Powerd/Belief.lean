import Hyprstate.Powerd.Client
import Hyprstate.Powerd.Coalescing
import Hyprstate.Reactive.Server

/-!
# What the daemon believes of powerd

The daemon's calls of `ApplyProfile` beside those of any number of other clients. A superseded call
is answered like a served one, and `apply_power_profile` takes any answer for an apply. Where none
of the daemon's calls is superseded, the profile it holds for applied was applied for its last call.
-/

namespace Hyprstate

open Reactive Process

/-- powerd with its clients, and the daemon's last call that was answered. -/
structure Belief where
  powerd : Powerd
  answered : Option Nat := none

namespace Belief

/-- A condition on the steps of powerd during the call `i` of the daemon. -/
abbrev Condition := Nat → Powerd → Powerd → Prop

/-- powerd and its clients during the call `i`. -/
abbrev Serves (C : Condition) (i : Nat) : Powerd → Powerd → Prop :=
  Relation.ReflTransGen fun s s' => Powerd.Step s s' ∧ C i s s'

/-- When the call `i` is checked, the slot has its profile. -/
def Unsuperseded : Condition := fun i s s' =>
  ∀ p, s.calls i = .holding p → s'.calls i = s.calls i ∨ s.latest = some p

/-- The dispatcher awaits its call while powerd and the other clients go on. A call that fails may
have been made or not. -/
def world (C : Condition) : World (Context × Eff) (stamped Eff.Ans) Belief where
  drift w w' := Powerd.Step w.powerd w'.powerd ∧ w'.answered = w.answered
  answer
    | (_, .powerdApplyProfile profile), w, ok, w' =>
      (∃ i, w.powerd.calls i = .idle ∧
        Serves C i (w.powerd.request i profile.asStr) w'.powerd ∧
        if ok then (∃ reply, w'.powerd.calls i = .returned profile reply) ∧ w'.answered = some i
        else w'.answered = w.answered) ∨ ok = false ∧ w' = w
    | _, w, _, w' => w' = w

/-- Any event may come next. -/
def deliver (w : Belief) (_ : Event) (w' : Belief) : Prop := w' = w

/-- The profile held for applied was applied for the daemon's last call. In shadow mode there is no
call. -/
def Believes (fx : Effectors) (v : PowerView) (w : Belief) : Prop :=
  ∀ p, v.applied = some p →
    fx.shadow = true ∨ ∃ i, w.answered = some i ∧ (Applier.call i, p) ∈ w.powerd.knobs

/-! ## One call -/

/-- Runs of the knob matrix are not forgotten. -/
theorem knobs_step {s s' : Powerd} (h : Powerd.Step s s') {run : Applier × PowerProfile}
    (hrun : run ∈ s.knobs) : run ∈ s'.knobs := by
  rcases Powerd.step_cases h with ⟨hknobs, -, -⟩ | ⟨i, p, -, -, -, hknobs, -, -⟩
  · rwa [hknobs]
  · rw [hknobs]
    exact List.mem_cons_of_mem _ hrun

/-- What was applied stays in the record while powerd serves. -/
theorem knobs_serves {C : Condition} {i : Nat} {s s' : Powerd} (h : Serves C i s s')
    {run : Applier × PowerProfile} (hrun : run ∈ s.knobs) : run ∈ s'.knobs := by
  induction h with
  | refl => exact hrun
  | tail _ hstep ih => exact knobs_step hstep.1 ih

/-- A call for `p` that has not been checked yet, or has run the knob matrix. -/
def Serving (i : Nat) (p : PowerProfile) (s : Powerd) : Prop :=
  s.calls i = .waiting p ∨ s.calls i = .holding p ∨
    (s.calls i = .signalling p ∨ ∃ reply, s.calls i = .returned p reply) ∧
      (Applier.call i, p) ∈ s.knobs

/-- A call whose profile parses is served from its first step. -/
theorem serving_request (s : Powerd) (i : Nat) (p : PowerProfile) :
    Serving i p (s.request i p.asStr) := by
  left
  unfold Powerd.request
  rw [PowerProfile.parse_asStr]
  exact Function.update_self i _ _

/-- A call that is not superseded runs the knob matrix between its check and its return. -/
theorem serving_step {i : Nat} {p : PowerProfile} {s s' : Powerd} (hs : Serving i p s)
    (h : Powerd.Step s s') (hfirst : Unsuperseded i s s') : Serving i p s' := by
  have hran : (Applier.call i, p) ∈ s.knobs → (Applier.call i, p) ∈ s'.knobs := knobs_step h
  rcases Powerd.step_call h i with hsame | hidle | ⟨q, hq, hq'⟩ | ⟨q, hq, -, hq', hrun⟩ |
    ⟨q, reply, hq, hlatest, hq'⟩ | ⟨q, hq, hq'⟩
  · unfold Serving
    rw [hsame]
    exact hs.imp_right (Or.imp_right fun hdone => ⟨hdone.1, hran hdone.2⟩)
  · exact absurd hs (by simp [Serving, hidle])
  · obtain rfl : q = p := by simpa [Serving, hq] using hs
    exact .inr (.inl hq')
  · obtain rfl : q = p := by simpa [Serving, hq] using hs
    exact .inr (.inr ⟨.inl hq', hrun⟩)
  · -- It would be superseded here.
    rcases hfirst q hq with hstay | hslot
    · exact absurd (hq'.symm.trans (hstay.trans hq)) (by simp)
    · exact absurd hslot hlatest
  · obtain ⟨rfl, hdone⟩ : q = p ∧ (Applier.call i, p) ∈ s.knobs := by simpa [Serving, hq] using hs
    exact .inr (.inr ⟨.inr ⟨_, hq'⟩, hran hdone⟩)

/-- A call that returned without being superseded ran the knob matrix. -/
theorem ran_of_serves {i : Nat} {p : PowerProfile} {s s' : Powerd} {reply : Reply}
    (h : Serves Unsuperseded i (s.request i p.asStr) s') (hret : s'.calls i = .returned p reply) :
    (Applier.call i, p) ∈ s'.knobs := by
  have hserving : Serving i p s' := by
    clear hret
    induction h with
    | refl => exact serving_request s i p
    | tail _ hstep ih => exact serving_step ih hstep.1 hstep.2
  rcases hserving with hcall | hcall | ⟨-, hrun⟩
  · exact absurd (hret.symm.trans hcall) (by simp)
  · exact absurd (hret.symm.trans hcall) (by simp)
  · exact hrun

/-! ## Runs of the daemon -/

variable (fx : Effectors)

/-- What others do to powerd keeps the belief, unless it supersedes. -/
theorem believes_drift {C : Condition} {v : PowerView} {w w' : Belief} (h : (world C).Drifts w w')
    (hw : Believes fx v w) : Believes fx v w' :=
  h.keeps (fun _ _ hstep hb p hp => (hb p hp).imp_right <|
    Exists.imp fun _ hran => ⟨hstep.2.trans hran.1, knobs_step hstep.1 hran.2⟩) hw

/-- The calls of the daemon keep what it believes. -/
theorem apply_believes (profile : PowerProfile) :
    KeepsView (world Unsuperseded) (Believes fx) (fx.applyPowerProfile profile) := by
  intro c w hw
  refine wp_applyPowerProfile fx c (fun _ w' h => believes_drift fx h hw) ?_ ?_
  · exact fun _ hs _ _ _ _ _ _ _ _ _ => .inl hs
  · rintro - - w₁ now w₂ w₃ ok w₄ w' h₁ rfl h₂ hanswer h₃
    have hw₃ : Believes fx c.powerView w₃ := believes_drift fx h₂ (believes_drift fx h₁ hw)
    refine believes_drift fx h₃ ?_
    rcases hanswer with ⟨i, -, hserves, hok⟩ | ⟨rfl, rfl⟩
    · cases ok with
      | false =>
        -- The failed call may have run, but what is believed is an earlier one.
        intro p hp
        refine (hw₃ p hp).imp_right (Exists.imp fun j hran => ⟨hok.trans hran.1, ?_⟩)
        refine knobs_serves hserves ?_
        unfold Powerd.request
        cases PowerProfile.parse profile.asStr <;> exact hran.2
      | true =>
        obtain ⟨⟨reply, hret⟩, hanswered⟩ := hok
        intro p hp
        obtain rfl : profile = p := Option.some.inj hp
        exact .inr ⟨i, hanswered, ran_of_serves hserves hret⟩
    · exact hw₃

/-- Every piece of a turn keeps the belief. -/
theorem clientInvariant : ClientInvariant fx (world Unsuperseded) (Believes fx) where
  drift v w w' hstep hw := believes_drift fx (.single hstep) hw
  answer v c e w b w' he hanswer hw := by
    have hsame : w' = w := by
      cases e with
      | powerdApplyProfile profile => exact absurd rfl (he profile)
      | _ => exact hanswer
    rwa [hsame]
  others v w _ _ _ _ hw := hw
  appeared v w _ p hp := absurd hp (by simp)
  judged v w _ _ hw := hw
  apply := apply_believes fx

/-- The daemon starts beside a powerd in any state. -/
def start (s : Powerd) : Config Context Eff Eff.Ans Belief := ⟨fx.boot.run {}, { powerd := s }⟩

/-- In every run in which no call of the daemon is superseded, the profile it holds for applied was
applied for its last call. -/
theorem believes_kept {s : Powerd} {c : Context} {w : Belief}
    (h : Config.Reaches (world Unsuperseded) deliver fx.handle (start fx s) (Config.idle c w)) :
    Believes fx c.powerView w := by
  have htake : ∀ (c : Context) (w : Belief) (ev : Event) (w' : Belief), Believes fx c.powerView w →
      deliver w ev w' →
      Wp (world Unsuperseded) (fun _ _ _ => True) (fun _ c' w' => Believes fx c'.powerView w')
        (fx.handle ev) c w' := by
    rintro c _ ev w hw rfl
    exact (clientInvariant fx).handle ev c w hw
  have hinit : (start fx s).task.Wp (world Unsuperseded) (fun _ _ => True)
      (fun r w => Believes fx r.2.powerView w) (start fx s).world :=
    (clientInvariant fx).boot {} { powerd := s } fun p hp => absurd hp (by simp [Context.powerView])
  exact Config.inv_of_reaches_idle (s := c) (w := w) htake hinit h

/-! ## A superseded call -/

/-- powerd when the daemon has made its first call. -/
def called : Powerd := (Powerd.start .balanced .balanced []).request 0 "balanced"

/-- The call is alone. -/
def alone : Powerd :=
  { ({ called with applyLock := some 0 }.setCall 0
      (.holding .balanced)).checkAndApply 0 .balanced with
    applyLock := none }.setCall 0 (.returned .balanced .results)

/-- Another client's call comes before it has the lock. -/
def overtaken : Powerd :=
  ({ called.request 1 "power-saver" with applyLock := some 0 }.setCall 0
    (.holding .balanced)).checkAndApply 0 .balanced

/-- The call that is alone is served. -/
theorem alone_serves : Serves Unsuperseded 0 called alone := by
  have hacquire : Serves Unsuperseded 0 called _ := .single
    ⟨.acquire (i := 0) (p := .balanced) rfl rfl, fun q hq =>
      absurd hq (by simp [called, Powerd.request, PowerProfile.parse, Powerd.start])⟩
  have hcheck := hacquire.tail ⟨.check (i := 0) (p := .balanced) rfl, fun q hq =>
    .inr (congrArg some (Call.holding.inj hq))⟩
  have hsignals :
      (({ called with applyLock := some 0 }.setCall 0
        (.holding .balanced)).checkAndApply 0 .balanced).calls 0 = .signalling .balanced := rfl
  exact hcheck.tail ⟨.signalled hsignals, fun q hq => absurd (hsignals.symm.trans hq) (by simp)⟩

/-- So is the one that another overtakes. -/
theorem overtaken_serves : Serves (fun _ _ _ => True) 0 called overtaken := by
  have hrequest : Serves (fun _ _ _ => True) 0 called _ := .single
    ⟨.request (i := 1) "power-saver" rfl, trivial⟩
  have hacquire := hrequest.tail ⟨.acquire (i := 0) (p := .balanced) rfl rfl, trivial⟩
  exact hacquire.tail ⟨.check (i := 0) (p := .balanced) rfl, trivial⟩

/-- The world of a quiet machine where the first call for the balanced profile leaves powerd so. -/
def first (served : Powerd) : (r : Context × Eff) → Belief → stamped Eff.Ans r × Belief
  | (_, .powerdApplyProfile profile), w =>
    if profile = .balanced ∧ w.answered = none then (true, ⟨served, some 0⟩) else (false, w)
  | (_, e), w => (e.quiet, w)

/-- The run's answers: the daemon's first call is served so. -/
theorem first_answer {C : Condition} {served : Powerd} (hserves : Serves C 0 called served)
    (hret : ∃ reply, served.calls 0 = .returned .balanced reply)
    (r : Context × Eff) (w : Belief)
    (hw : w.answered = none → w.powerd = .start .balanced .balanced []) :
    (world C).answer r w (first served r w).1 (first served r w).2 ∧
      ((first served r w).2.answered = none →
        (first served r w).2.powerd = .start .balanced .balanced []) := by
  obtain ⟨c, e⟩ := r
  cases e with
  | powerdApplyProfile profile =>
    have hfirst : first served (c, .powerdApplyProfile profile) w =
        if profile = .balanced ∧ w.answered = none then (true, ⟨served, some 0⟩)
          else (false, w) := rfl
    rw [hfirst]
    by_cases h : profile = .balanced ∧ w.answered = none
    · rw [if_pos h]
      obtain ⟨rfl, hnone⟩ := h
      refine ⟨.inl ⟨0, by rw [hw hnone]; rfl, by rw [hw hnone]; exact hserves, hret, rfl⟩, ?_⟩
      exact fun h => absurd h (by simp)
    · rw [if_neg h]
      exact ⟨.inr ⟨rfl, rfl⟩, hw⟩
  | _ => exact ⟨rfl, hw⟩

/-- The context after a piece of the dispatcher's code in that world, and the world. -/
def after (served : Powerd) (x : Daemon Unit) (p : Context × Belief) : Context × Belief :=
  (((x.run p.1).exec (first served) p.2).1.2, ((x.run p.1).exec (first served) p.2).2.1)

/-- A program that runs to its end under them. -/
theorem reaches_after {C : Condition} {served : Powerd} (hserves : Serves C 0 called served)
    (hret : ∃ reply, served.calls 0 = .returned .balanced reply) (x : Daemon Unit)
    (p : Context × Belief) (hp : p.2.answered = none → p.2.powerd = .start .balanced .balanced []) :
    Config.Reaches (world C) deliver (Effectors.handle ⟨false, true⟩) ⟨x.run p.1, p.2⟩
      (Config.idle (after served x p).1 (after served x p).2) :=
  Config.reaches_exec (first_answer hserves hret) (x.run p.1) p.2 hp

/-- The daemon after its start. -/
def booted (served : Powerd) : Context × Belief :=
  after served (Effectors.boot ⟨false, true⟩) ({}, { powerd := .start .balanced .balanced [] })

/-- The daemon after its first check of the policy. -/
def checked (served : Powerd) : Context × Belief :=
  after served ((⟨false, true⟩ : Effectors).handle .monitorsChanged) (booted served)

/-- The start and one check. -/
theorem reaches_checked {C : Condition} {served : Powerd} (hserves : Serves C 0 called served)
    (hret : ∃ reply, served.calls 0 = .returned .balanced reply)
    (hbooted : (booted served).2.answered = none →
      (booted served).2.powerd = .start .balanced .balanced []) :
    Config.Reaches (world C) deliver (Effectors.handle ⟨false, true⟩)
      (start ⟨false, true⟩ (.start .balanced .balanced []))
      (Config.idle (checked served).1 (checked served).2) := by
  have hboot : Config.Reaches (world C) deliver (Effectors.handle ⟨false, true⟩)
      (start ⟨false, true⟩ (.start .balanced .balanced []))
      (Config.idle (booted served).1 (booted served).2) :=
    reaches_after hserves hret (Effectors.boot ⟨false, true⟩)
      ({}, { powerd := .start .balanced .balanced [] }) fun _ => rfl
  have hdeliver : deliver (booted served).2 .monitorsChanged (booted served).2 := rfl
  exact (hboot.tail (.take hdeliver)).trans (reaches_after hserves hret _ (booted served) hbooted)

/-- The daemon's first apply, alone. -/
theorem believes_kept_alone : ∃ c w, Config.Reaches (world Unsuperseded) deliver
    (Effectors.handle ⟨false, true⟩) (start ⟨false, true⟩ (.start .balanced .balanced []))
    (Config.idle c w) ∧ c.power.powerApplied = some .balanced ∧
    Believes ⟨false, true⟩ c.powerView w := by
  have hreach := reaches_checked alone_serves ⟨_, rfl⟩ fun _ => rfl
  exact ⟨_, _, hreach, by decide +kernel, believes_kept ⟨false, true⟩ hreach⟩

/-- A superseded call is believed to have applied its profile. -/
theorem not_believes : ¬∀ (fx : Effectors) (s : Powerd) (c : Context) (w : Belief),
    Config.Reaches (world fun _ _ _ => True) deliver fx.handle (start fx s) (Config.idle c w) →
    Believes fx c.powerView w := by
  intro h
  have hreach := reaches_checked overtaken_serves ⟨_, rfl⟩ fun _ => rfl
  have happlied : (checked overtaken).1.powerView.applied = some .balanced := by decide +kernel
  have hnone : (checked overtaken).2.powerd.knobs = [] := by decide +kernel
  rcases h _ _ _ _ hreach .balanced happlied with hs | ⟨i, -, hrun⟩
  · exact absurd hs (by simp)
  · rw [hnone] at hrun
    exact absurd hrun List.not_mem_nil

end Belief

end Hyprstate
