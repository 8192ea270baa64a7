import Hyprstate.Reactive.Program

/-!
# Processes: programs with a state of their own

A `Process S E A α` is a program that also reads and writes a state `S` which nobody else touches.
Each request it makes is recorded together with the state it is made in, so that a contract, or a
property of a trace, can speak of the state at the moment of a request.

`Process.Meets x s G Q` is `Program.Meets` for the process `x` started in `s`. The simp set rewrites
it along the operations of the monad, so the contract of a straight-line process unfolds to a
formula over the answers.
-/

namespace Reactive

/-- The answers to requests that carry the state they are made in. -/
abbrev stamped {S E : Type} (A : E → Type) (r : S × E) : Type := A r.2

/-- A program with a private state `S`. -/
abbrev Process (S E : Type) (A : E → Type) (α : Type) : Type :=
  StateT S (Program (S × E) (stamped A)) α

/-- Make a request in the present state. -/
def ask {S E : Type} {A : E → Type} (e : E) : Process S E A (A e) :=
  fun s => .call (s, e) fun b => .ret (b, s)

namespace Process

variable {S E : Type} {A : E → Type} {α β : Type}

/-- Run a process only where a condition holds. -/
def when (p : Bool) (x : Process S E A Unit) : Process S E A Unit :=
  if p then x else pure ()

/-- The process can be answered along `tr` from the state `s`, and then returns `a` in `s'`. -/
def Runs (x : Process S E A α) (s : S) (tr : List (Obs (S × E) (stamped A))) (a : α) (s' : S) :
    Prop :=
  Program.Runs (x.run s) tr (a, s')

/-- From the state `s`, every request satisfies `G` in the state it is made in, and every return
satisfies `Q`, whatever the answers are. -/
def Meets (x : Process S E A α) (s : S) (G : S → E → Prop) (Q : α → S → Prop) : Prop :=
  (x.run s).Meets (fun r => G r.1 r.2) (fun r => Q r.1 r.2)

variable {x : Process S E A α} {f : α → Process S E A β} {s : S} {G G' : S → E → Prop}
  {Q Q' : α → S → Prop}

/-- A process that returns meets what holds of its value. -/
@[simp] theorem meets_pure {a : α} : Meets (pure a : Process S E A α) s G Q ↔ Q a s := Iff.rfl

/-- A sequence meets a contract where its first part leads the second to meet it. -/
@[simp] theorem meets_bind {R : β → S → Prop} :
    Meets (x >>= f) s G R ↔ Meets x s G fun a s' => Meets (f a) s' G R :=
  Program.meets_bind

/-- Reading the state. -/
@[simp] theorem meets_get {Q : S → S → Prop} : Meets (get : Process S E A S) s G Q ↔ Q s s :=
  Iff.rfl

/-- Setting it. -/
@[simp] theorem meets_set {s' : S} {Q : PUnit → S → Prop} :
    Meets (set s' : Process S E A PUnit) s G Q ↔ Q ⟨⟩ s' := Iff.rfl

/-- Changing it. -/
@[simp] theorem meets_modify {g : S → S} {Q : PUnit → S → Prop} :
    Meets (modify g : Process S E A PUnit) s G Q ↔ Q ⟨⟩ (g s) := Iff.rfl

/-- A request is one that the contract allows, and any answer is possible. -/
@[simp] theorem meets_ask {e : E} {Q : A e → S → Prop} :
    Meets (ask e : Process S E A (A e)) s G Q ↔ G s e ∧ ∀ b, Q b s := Iff.rfl

/-- A function of the value. -/
@[simp] theorem meets_map {g : α → β} {R : β → S → Prop} :
    Meets (g <$> x) s G R ↔ Meets x s G fun a s' => R (g a) s' := by
  rw [map_eq_pure_bind, meets_bind]
  rfl

/-- A branch. -/
@[simp] theorem meets_ite {p : Prop} [Decidable p] {y : Process S E A α} :
    Meets (if p then x else y) s G Q ↔ (p → Meets x s G Q) ∧ (¬p → Meets y s G Q) := by
  by_cases h : p <;> simp [h]

/-- A process that may be skipped. -/
@[simp] theorem meets_when {p : Bool} {x : Process S E A Unit} {Q : Unit → S → Prop} :
    Meets (when p x) s G Q ↔ (p = true → Meets x s G Q) ∧ (p = false → Q () s) := by
  cases p <;> simp [when]

/-- A contract that asks for less, and promises less. -/
theorem Meets.mono (h : Meets x s G Q) (hG : ∀ s e, G s e → G' s e)
    (hQ : ∀ a s, Q a s → Q' a s) : Meets x s G' Q' :=
  Program.Meets.mono h (fun r => hG r.1 r.2) (fun r => hQ r.1 r.2)

/-- The rule of consequence for the returned values. -/
theorem Meets.imp (h : Meets x s G Q) (hQ : ∀ a s, Q a s → Q' a s) : Meets x s G Q' :=
  h.mono (fun _ _ => id) hQ

/-- Two contracts together. -/
theorem Meets.and (h : Meets x s G Q) (h' : Meets x s G' Q') :
    Meets x s (fun s e => G s e ∧ G' s e) (fun a s => Q a s ∧ Q' a s) :=
  Program.Meets.and h h'

/-- Sequencing, with a postcondition for the first part. -/
theorem Meets.bind {R : β → S → Prop} (h : Meets x s G Q)
    (hf : ∀ a s', Q a s' → Meets (f a) s' G R) : Meets (x >>= f) s G R :=
  meets_bind.mpr (h.imp hf)

/-- A process that runs one body for each element of a list: when the body keeps `I`, so does the
whole. -/
theorem meets_forM {ι : Type} {body : ι → Process S E A PUnit} {I : S → Prop}
    (hbody : ∀ i s, I s → Meets (body i) s G fun _ => I) (l : List ι) (s : S) (hs : I s) :
    Meets (l.forM body) s G fun _ => I := by
  induction l generalizing s with
  | nil => exact hs
  | cons i l ih =>
    show Meets (body i >>= fun _ => l.forM body) s G _
    rw [meets_bind]
    exact (hbody i s hs).imp fun _ s' hs' => ih s' hs'

/-! ## What a process leaves alone -/

/-- From no state does the process make a request of `R`, and it keeps the view `v` of its state. -/
def Leaves {V : Type} (R : E → Prop) (v : S → V) (x : Process S E A α) : Prop :=
  ∀ s, Meets x s (fun _ e => ¬R e) fun _ s' => v s' = v s

namespace Leaves

variable {V : Type} {R : E → Prop} {v : S → V}

/-- A value makes no request. -/
theorem pure (a : α) : Leaves R v (pure a : Process S E A α) := fun _ => rfl

/-- Neither does a sequence of processes that make none. -/
theorem bind (hx : Leaves R v x) (hf : ∀ a, Leaves R v (f a)) : Leaves R v (x >>= f) := fun s =>
  Meets.bind (hx s) fun a s' h => (hf a s').imp fun _ _ h' => h'.trans h

/-- After a read of the state the process goes on from there. -/
theorem get_bind {f : S → Process S E A β} (hf : ∀ s, Leaves R v (f s)) : Leaves R v (get >>= f) :=
  fun s => hf s s

/-- A write of a state computed from the one that was read. -/
theorem get_set_bind {g : S → S} {f : S → PUnit → Process S E A β} (hg : ∀ s, v (g s) = v s)
    (hf : ∀ s, Leaves R v (f s ⟨⟩)) : Leaves R v (get >>= fun s => set (g s) >>= f s) := by
  intro s
  rw [meets_bind, meets_get, meets_bind, meets_set]
  exact (hf s (g s)).imp fun _ _ h => h.trans (hg s)

/-- A change of the state that the view does not see, before the rest. -/
theorem modify_bind {g : S → S} {f : PUnit → Process S E A β} (hg : ∀ s, v (g s) = v s)
    (hf : Leaves R v (f ⟨⟩)) : Leaves R v (modify g >>= f) := fun s =>
  meets_bind.mpr ((hf (g s)).imp fun _ _ h => h.trans (hg s))

/-- A change of the state that the view does not see. -/
theorem modify {g : S → S} (hg : ∀ s, v (g s) = v s) :
    Leaves R v (modify g : Process S E A PUnit) := hg

/-- A request of another kind. -/
theorem ask {e : E} (he : ¬R e) : Leaves R v (ask e : Process S E A (A e)) := fun _ =>
  ⟨he, fun _ => rfl⟩

/-- A process that may be skipped. -/
theorem when {x : Process S E A Unit} (p : Bool) (hx : Leaves R v x) :
    Leaves R v (Process.when p x) := fun s => meets_when.mpr ⟨fun _ => hx s, fun _ => rfl⟩

/-- A branch. -/
theorem ite {p : Prop} [Decidable p] {y : Process S E A α} (hx : Leaves R v x)
    (hy : Leaves R v y) : Leaves R v (if p then x else y) := fun s =>
  meets_ite.mpr ⟨fun _ => hx s, fun _ => hy s⟩

/-- What a contract's requests are not, and its postcondition keeps. -/
theorem of_meets {G : S → S → E → Prop} {Q : S → α → S → Prop} (h : ∀ s, Meets x s (G s) (Q s))
    (hG : ∀ s s' e, G s s' e → ¬R e) (hQ : ∀ s a s', Q s a s' → v s' = v s) : Leaves R v x :=
  fun s => (h s).mono (hG s) (hQ s)

end Leaves

/-- From no state does the process make a request of `R`. -/
abbrev Avoids (R : E → Prop) (x : Process S E A α) : Prop := Leaves R (fun _ => ()) x

namespace Avoids

variable {R : E → Prop}

/-- The state may be set before the rest. -/
theorem set_bind {s' : S} {f : PUnit → Process S E A β} (hf : Avoids R (f ⟨⟩)) :
    Avoids R (set s' >>= f) := fun _ => hf s'

/-- A contract whose requests are of another kind. -/
theorem of_meets {G : S → S → E → Prop} {Q : S → α → S → Prop} (h : ∀ s, Meets x s (G s) (Q s))
    (hG : ∀ s s' e, G s s' e → ¬R e) : Avoids R x := Leaves.of_meets h hG fun _ _ _ _ => rfl

/-- The requests and the state, stated apart. -/
theorem leaves {V : Type} {v : S → V} {G : S → S → E → Prop} {Q : S → α → S → Prop}
    (hx : Avoids R x) (h : ∀ s, Meets x s (G s) (Q s)) (hQ : ∀ s a s', Q s a s' → v s' = v s) :
    Leaves R v x :=
  fun s => ((hx s).and (h s)).mono (fun _ _ hG => hG.1) fun a s' hboth => hQ s a s' hboth.2

end Avoids

/-! ## Fixed answers -/

/-- The process where each request has its one answer: the value, the state, and the trace. -/
def answered (x : Process S E A α) (answers : (e : E) → A e) (s : S) :
    (α × S) × Unit × List (Obs (S × E) (stamped A)) :=
  (x.run s).exec (fun r w => (answers r.2, w)) ()

/-- The process runs with the answers that it is given. -/
theorem runs_answered (x : Process S E A α) (answers : (e : E) → A e) (s : S) :
    Runs x s (x.answered answers s).2.2 (x.answered answers s).1.1 (x.answered answers s).1.2 :=
  Program.runs_exec _ _ _

section

variable {answers : (e : E) → A e}

/-- A value. -/
@[simp] theorem answered_pure {a : α} :
    ((pure a : Process S E A α).answered answers s).1 = (a, s) := rfl

/-- A sequence goes on where its first part ended. -/
@[simp] theorem answered_bind :
    ((x >>= f).answered answers s).1 =
      ((f (x.answered answers s).1.1).answered answers (x.answered answers s).1.2).1 :=
  Program.exec_bind _ _ _

/-- Reading the state. -/
@[simp] theorem answered_get : ((get : Process S E A S).answered answers s).1 = (s, s) := rfl

/-- Setting it. -/
@[simp] theorem answered_set {s' : S} :
    ((set s' : Process S E A PUnit).answered answers s).1 = (⟨⟩, s') := rfl

/-- A request gets its answer. -/
@[simp] theorem answered_ask {e : E} : ((ask e).answered answers s).1 = (answers e, s) := rfl

/-- A function of the value. -/
@[simp] theorem answered_map {g : α → β} :
    ((g <$> x).answered answers s).1 =
      (g (x.answered answers s).1.1, (x.answered answers s).1.2) := by
  rw [map_eq_pure_bind, answered_bind, answered_pure]

/-- A branch. -/
@[simp] theorem answered_ite {p : Prop} [Decidable p] {y : Process S E A α} :
    (if p then x else y).answered answers s =
      if p then x.answered answers s else y.answered answers s := by
  split <;> rfl

end

/-- Every request in the trace has its one answer. -/
theorem answer_of_mem_answered {answers : (e : E) → A e} {o : Obs (S × E) (stamped A)}
    (h : o ∈ (x.answered answers s).2.2) : o.2 = answers o.1.2 :=
  Program.answer_of_mem_exec h

/-- A run whose answers are the fixed ones is the run with those answers. -/
theorem Runs.eq_answered {answers : (e : E) → A e} {tr : List (Obs (S × E) (stamped A))} {a : α}
    {s' : S} (h : Runs x s tr a s') (hans : ∀ o ∈ tr, o.2 = answers o.1.2) :
    (a, s') = (x.answered answers s).1 :=
  Program.Runs.eq_exec h hans

end Process

end Reactive
