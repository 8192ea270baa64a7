import Hyprstate.Powerd.Coalescing

/-!
# The startup apply

`run` of `powerd/mod.rs` around the calls: it reads the persisted profile, serves the interface, and
then applies the copy it read, outside the apply lock. Calls are served from the moment the bus name
is owned, so one can be applied before the startup apply and be overwritten by it. The resume path
reads `active` again and is harmless.
-/

namespace Hyprstate

/-- `powerd`: the object and its calls, and where `run` is. -/
structure Service where
  powerd : Powerd
  /-- `run`'s own copy of the persisted profile. -/
  copy : PowerProfile
  /-- Whether the startup apply is done. -/
  started : Bool := false

namespace Service

/-- `run` up to the interface being served: what is persisted is active, and nothing is applied. -/
def start (persisted : PowerProfile) : Service where
  powerd := .start persisted persisted []
  copy := persisted

/-- One step: of a call, the startup apply, or the re-apply on a resume. -/
inductive Step : Service → Service → Prop
  | call {s : Service} {powerd : Powerd} : Powerd.Step s.powerd powerd →
      Step s { s with powerd := powerd }
  | startup {s : Service} : s.started = false →
      Step s { s with powerd := s.powerd.powerdApply .startup s.copy, started := true }
  | resume {s : Service} : s.started = true →
      Step s { s with powerd := s.powerd.powerdApply .resume s.powerd.active }

/-- The startup apply writes the active profile's knobs, or a call is yet to apply over it. -/
def Calm (s s' : Service) : Prop :=
  s.started = false → s'.started = true →
    s.copy = s.powerd.active ∨ ∃ p, s.powerd.latest = some p ∧ s.powerd.Unchecked p

/-- The runs whose steps satisfy `D`. -/
abbrev Reaches (D : Service → Service → Prop) : Service → Service → Prop :=
  Relation.ReflTransGen fun s s' => Step s s' ∧ D s s'

/-- Once the startup apply is done and all calls have returned, the knobs are the active profile's,
which is persisted. -/
def Follows (s : Service) : Prop :=
  s.started = true → (∀ i, (s.powerd.calls i).pending = false) →
    s.powerd.applied = some s.powerd.active ∧ s.powerd.persisted = s.powerd.active

/-- What holds before the calls have returned. -/
structure Inv (s : Service) : Prop where
  persisted : s.powerd.persisted = s.powerd.active
  /-- The knobs are the active profile's, or a call for the slot's profile is yet to be checked. -/
  knobs : s.started = true → s.powerd.applied = some s.powerd.active ∨
    ∃ p, s.powerd.latest = some p ∧ s.powerd.Unchecked p

/-- One step of powerd keeps its invariant. -/
theorem inv_step {s s' : Service} (hs : s.Inv) (h : Step s s') (hcalm : Calm s s') : s'.Inv := by
  -- A call, the apply of the start, or that of a resume.
  cases h with
  | @call powerd hstep =>
    rcases Powerd.step_cases hstep with ⟨hknobs, hactive, hpersisted⟩ |
      ⟨i, p, -, -, -, hknobs, hactive, hpersisted⟩
    · refine ⟨?_, fun hstarted => ?_⟩
      · show powerd.persisted = powerd.active
        rw [hpersisted, hactive, hs.persisted]
      · show powerd.applied = some powerd.active ∨ ∃ p, powerd.latest = some p ∧ powerd.Unchecked p
        rcases hs.knobs hstarted with happlied | ⟨p, hlatest, hun⟩
        · left
          unfold Powerd.applied
          rw [hknobs, hactive]
          exact happlied
        · -- The slot is never emptied again.
          obtain ⟨q, hq⟩ : ∃ q, powerd.latest = some q := Powerd.latest_step hstep hlatest
          have hto : s.powerd.latest = some q → s.powerd.Unchecked q := fun h =>
            Option.some.inj (hlatest.symm.trans h) ▸ hun
          rcases Powerd.unchecked_step hstep hto hq with hsettled | hun'
          · exact .inl (hsettled.1.trans (congrArg some hsettled.2.1.symm))
          · exact .inr ⟨q, hq, hun'⟩
    · refine ⟨hpersisted.trans hactive.symm, fun _ => .inl ?_⟩
      show powerd.applied = some powerd.active
      rw [hactive]
      unfold Powerd.applied
      rw [hknobs]
      rfl
  | startup hfirst =>
    refine ⟨hs.persisted, fun _ => ?_⟩
    exact (hcalm hfirst rfl).imp (congrArg some) id
  | resume hstarted => exact ⟨hs.persisted, fun _ => .inl rfl⟩

/-- So does a run. -/
theorem inv_of_reaches {p : PowerProfile} {s : Service} (h : Reaches Calm (start p) s) : s.Inv := by
  induction h with
  | refl => exact ⟨rfl, fun h => by cases h⟩
  | tail _ hstep ih => exact inv_step ih hstep.1 hstep.2

/-- In every run whose steps are calm, the hardware follows the active profile. -/
theorem follows_kept {p : PowerProfile} {s : Service} (h : Reaches Calm (start p) s) :
    s.Follows := by
  intro hstarted hreturned
  obtain ⟨hpersisted, hknobs⟩ := inv_of_reaches h
  refine ⟨(hknobs hstarted).resolve_right ?_, hpersisted⟩
  rintro ⟨p, -, i, hi⟩
  have hidle := hreturned i
  rcases hi with hi | hi <;> rw [hi] at hidle <;> exact absurd hidle (by simp [Call.pending])

/-- Before any call, the startup apply is calm. -/
theorem follows_kept_quiet :
    ∃ s, Reaches Calm (start .balanced) s ∧ s.started = true ∧ s.Follows := by
  have hrun : Reaches Calm (start .balanced) _ :=
    Relation.ReflTransGen.single ⟨.startup rfl, fun _ _ => .inl rfl⟩
  exact ⟨_, hrun, rfl, follows_kept hrun⟩

/-- A call that is served and returns before the startup apply is overwritten by it. -/
theorem not_follows : ¬∀ (p : PowerProfile) (s : Service),
    Reaches (fun _ _ => True) (start p) s → s.Follows := by
  intro h
  have hrequest : Reaches (fun _ _ => True) (start .balanced) _ := .single
    ⟨.call (.request (i := 0) "performance" rfl), trivial⟩
  have hacquire := hrequest.tail
    ⟨.call (.acquire (i := 0) (p := .performance) rfl rfl), trivial⟩
  have hcheck := hacquire.tail ⟨.call (.check (i := 0) (p := .performance) rfl), trivial⟩
  have hreturn := hcheck.tail ⟨.call (.signalled (i := 0) (p := .performance) rfl), trivial⟩
  have hstartup := hreturn.tail ⟨.startup rfl, trivial⟩
  obtain ⟨happlied, -⟩ := h _ _ hstartup rfl fun i => by cases i <;> rfl
  exact absurd happlied (by decide)

end Service

end Hyprstate
