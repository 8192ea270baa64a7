import Hyprstate.Reactive.Process

/-!
# Contracts that assume something of the answers

`MeetsOn ok G Q` is `Meets G Q` where only the answers that `ok` admits are given: a read that
fails, a write that succeeds. What holds for every answer holds for those (`Meets.on`), it composes
along `bind` in the same way, and it says of a run with such answers what `Meets` says of any
(`Runs.of_meetsOn`).
-/

namespace Reactive

namespace Program

variable {E : Type} {A : E → Type} {α β : Type}

/-- Every request that the program can make satisfies `G`, and every value that it can return
satisfies `Q`, as long as it is answered as `ok` admits. -/
def MeetsOn (ok : (e : E) → A e → Prop) (G : E → Prop) (Q : α → Prop) : Program E A α → Prop
  | .ret a => Q a
  | .call e k => G e ∧ ∀ b, ok e b → (k b).MeetsOn ok G Q

variable {ok : (e : E) → A e → Prop} {G G' : E → Prop} {Q Q' : α → Prop}

/-- A sequence meets a contract where its first part leads the second to meet it. -/
theorem meetsOn_bind {R : β → Prop} {p : Program E A α} {f : α → Program E A β} :
    (p.bind f).MeetsOn ok G R ↔ p.MeetsOn ok G fun a => (f a).MeetsOn ok G R := by
  induction p with
  | ret a => rfl
  | call e k ih => simp only [bind, MeetsOn, ih]

/-- A contract that asks for less, and promises less. -/
theorem MeetsOn.mono {p : Program E A α} (h : p.MeetsOn ok G Q) (hG : ∀ e, G e → G' e)
    (hQ : ∀ a, Q a → Q' a) : p.MeetsOn ok G' Q' := by
  induction p with
  | ret a => exact hQ a h
  | call e k ih => exact ⟨hG e h.1, fun b hb => ih b (h.2 b hb)⟩

/-- A contract without assumptions holds under any. -/
theorem Meets.on {p : Program E A α} (h : p.Meets G Q) : p.MeetsOn ok G Q := by
  induction p with
  | ret a => exact h
  | call e k ih => exact ⟨h.1, fun b _ => ih b (h.2 b)⟩

/-- What a contract says of a run that is answered as it assumes. -/
theorem Runs.of_meetsOn {p : Program E A α} {tr : List (Obs E A)} {a : α} (hr : Runs p tr a)
    (hok : ∀ o ∈ tr, ok o.1 o.2) (h : p.MeetsOn ok G Q) : (∀ o ∈ tr, G o.1) ∧ Q a := by
  induction hr with
  | ret a => exact ⟨by simp, h⟩
  | call b _ ih =>
    have hfirst := hok _ List.mem_cons_self
    obtain ⟨hG, hQ⟩ := ih (fun o ho => hok o (List.mem_cons_of_mem _ ho)) (h.2 b hfirst)
    exact ⟨by simpa using ⟨h.1, hG⟩, hQ⟩

end Program

namespace Process

variable {S E : Type} {A : E → Type} {α β : Type}

/-- `Program.MeetsOn` for a process. -/
def MeetsOn (ok : (e : E) → A e → Prop) (x : Process S E A α) (s : S) (G : S → E → Prop)
    (Q : α → S → Prop) : Prop :=
  (x.run s).MeetsOn (fun r b => ok r.2 b) (fun r => G r.1 r.2) (fun r => Q r.1 r.2)

variable {ok : (e : E) → A e → Prop} {x : Process S E A α} {f : α → Process S E A β} {s : S}
  {G G' : S → E → Prop} {Q Q' : α → S → Prop}

/-- A value. -/
@[simp] theorem meetsOn_pure {a : α} :
    MeetsOn ok (pure a : Process S E A α) s G Q ↔ Q a s := Iff.rfl

/-- A sequence goes on where its first part ended. -/
@[simp] theorem meetsOn_bind {R : β → S → Prop} :
    MeetsOn ok (x >>= f) s G R ↔ MeetsOn ok x s G fun a s' => MeetsOn ok (f a) s' G R :=
  Program.meetsOn_bind

/-- Reading the state. -/
@[simp] theorem meetsOn_get {Q : S → S → Prop} :
    MeetsOn ok (get : Process S E A S) s G Q ↔ Q s s := Iff.rfl

/-- Setting it. -/
@[simp] theorem meetsOn_set {s' : S} {Q : PUnit → S → Prop} :
    MeetsOn ok (set s' : Process S E A PUnit) s G Q ↔ Q ⟨⟩ s' := Iff.rfl

/-- Changing it. -/
@[simp] theorem meetsOn_modify {g : S → S} {Q : PUnit → S → Prop} :
    MeetsOn ok (modify g : Process S E A PUnit) s G Q ↔ Q ⟨⟩ (g s) := Iff.rfl

/-- A request is one that the contract allows, and any answer that is assumed is possible. -/
@[simp] theorem meetsOn_ask {e : E} {Q : A e → S → Prop} :
    MeetsOn ok (ask e : Process S E A (A e)) s G Q ↔ G s e ∧ ∀ b, ok e b → Q b s := Iff.rfl

/-- A request goes on with its answer. -/
theorem meetsOn_ask_bind {e : E} {f : A e → Process S E A β} {R : β → S → Prop} :
    MeetsOn ok (ask e >>= f) s G R ↔ G s e ∧ ∀ b, ok e b → MeetsOn ok (f b) s G R := Iff.rfl

/-- A branch. -/
@[simp] theorem meetsOn_ite {p : Prop} [Decidable p] {y : Process S E A α} :
    MeetsOn ok (if p then x else y) s G Q ↔
      (p → MeetsOn ok x s G Q) ∧ (¬p → MeetsOn ok y s G Q) := by
  by_cases h : p <;> simp [h]

/-- A process that may be skipped. -/
@[simp] theorem meetsOn_when {p : Bool} {x : Process S E A Unit} {Q : Unit → S → Prop} :
    MeetsOn ok (when p x) s G Q ↔
      (p = true → MeetsOn ok x s G Q) ∧ (p = false → Q () s) := by
  cases p <;> simp [when]

/-- A contract that asks for less, and promises less. -/
theorem MeetsOn.mono (h : MeetsOn ok x s G Q) (hG : ∀ s e, G s e → G' s e)
    (hQ : ∀ a s, Q a s → Q' a s) : MeetsOn ok x s G' Q' :=
  Program.MeetsOn.mono h (fun r => hG r.1 r.2) (fun r => hQ r.1 r.2)

/-- The rule of consequence for the returned values. -/
theorem MeetsOn.imp (h : MeetsOn ok x s G Q) (hQ : ∀ a s, Q a s → Q' a s) :
    MeetsOn ok x s G Q' :=
  h.mono (fun _ _ => id) hQ

/-- A contract for every answer is one for those assumed. -/
theorem Meets.on (h : Meets x s G Q) : MeetsOn ok x s G Q := Program.Meets.on h

/-- Sequencing, with a postcondition for the first part. -/
theorem MeetsOn.bind {R : β → S → Prop} (h : MeetsOn ok x s G Q)
    (hf : ∀ a s', Q a s' → MeetsOn ok (f a) s' G R) : MeetsOn ok (x >>= f) s G R :=
  meetsOn_bind.mpr (h.imp hf)

/-- What a contract says of a run that is answered as it assumes. -/
theorem Runs.of_meetsOn {tr : List (Obs (S × E) (stamped A))} {a : α} {s' : S}
    (hr : Runs x s tr a s') (hok : ∀ o ∈ tr, ok o.1.2 o.2) (h : MeetsOn ok x s G Q) :
    (∀ o ∈ tr, G o.1.1 o.1.2) ∧ Q a s' := by
  have hmeets : (x.run s).MeetsOn (fun r b => ok r.2 b) (fun r => G r.1 r.2)
      (fun r => Q r.1 r.2) := h
  exact Program.Runs.of_meetsOn hr hok hmeets

end Process

end Reactive
