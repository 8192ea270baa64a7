import Hyprstate.Reactive.World

/-!
# Budgets

A process within a budget: along every path its requests cost at most so much together. The rule
`Costs.wp` spends the budget in a world, where a property that depends on what is left of it is kept
by the drift and by each request at its cost.
-/

namespace Reactive

namespace Program

variable {E : Type} {A : E → Type} {α β : Type}

/-- Along every path the requests cost at most `n` together. -/
def Costs (cost : E → Nat) : Nat → Program E A α → Prop
  | _, .ret _ => True
  | n, .call e k => cost e ≤ n ∧ ∀ b, Costs cost (n - cost e) (k b)

variable {cost : E → Nat} {n m : Nat} {p : Program E A α}

/-- A larger budget. -/
theorem Costs.mono (h : p.Costs cost n) (hle : n ≤ m) : p.Costs cost m := by
  induction p generalizing n m with
  | ret a => trivial
  | call e k ih => exact ⟨Nat.le_trans h.1 hle, fun b => ih b (h.2 b) (Nat.sub_le_sub_right hle _)⟩

/-- The costs of a sequence add up. -/
theorem Costs.bind {f : α → Program E A β} (h : p.Costs cost n) (hf : ∀ a, (f a).Costs cost m) :
    (p.bind f).Costs cost (n + m) := by
  induction p generalizing n with
  | ret a => exact (hf a).mono (Nat.le_add_left m n)
  | call e k ih =>
    refine ⟨Nat.le_trans h.1 (Nat.le_add_right n m), fun b => ?_⟩
    have hfirst : cost e ≤ n := h.1
    exact (ih b (h.2 b)).mono (by omega)

/-- A contract whose requests cost nothing. -/
theorem Costs.of_meets {G : E → Prop} {Q : α → Prop} (h : p.Meets G Q)
    (hG : ∀ e, G e → cost e = 0) : p.Costs cost 0 := by
  induction p with
  | ret a => trivial
  | call e k ih =>
    have hfree : cost e = 0 := hG e h.1
    exact ⟨Nat.le_of_eq hfree, fun b => by rw [hfree]; exact ih b (h.2 b)⟩

/-- A process without a budget makes requests that cost nothing. -/
theorem Costs.meets (h : p.Costs cost 0) : p.Meets (fun e => cost e = 0) fun _ => True := by
  induction p with
  | ret a => trivial
  | call e k ih => exact ⟨Nat.le_zero.mp h.1, fun b => ih b (by simpa using h.2 b)⟩

/-- What is left of the budget pays for each request of a contract. -/
theorem Costs.wp {σ : Type} {W : World E A σ} {J : Nat → σ → Prop} {G : E → Prop} {Q : α → Prop}
    {w : σ} (h : p.Costs cost n) (hm : p.Meets G Q) (hw : J n w)
    (hdrift : ∀ n w w', W.drift w w' → J n w → J n w')
    (hanswer : ∀ n e w b w', cost e ≤ n → G e → W.answer e w b w' → J n w → J (n - cost e) w') :
    p.Wp W (fun _ _ => True) (fun a w => Q a ∧ ∃ m, J m w) w := by
  induction p generalizing n w with
  | ret a => exact fun w' hw' => ⟨hm, n, hw'.keeps (hdrift n) hw⟩
  | call e k ih =>
    refine fun w' hw' => ⟨trivial, fun b w'' ha => ?_⟩
    exact ih b (h.2 b) (hm.2 b) (hanswer n e w' b w'' h.1 hm.1 ha (hw'.keeps (hdrift n) hw))

end Program

namespace Process

variable {S E : Type} {A : E → Type} {α β : Type}

/-- From every state the process stays within the budget. -/
def Costs (cost : E → Nat) (n : Nat) (x : Process S E A α) : Prop :=
  ∀ s, (x.run s).Costs (fun r => cost r.2) n

variable {cost : E → Nat} {n m : Nat} {x : Process S E A α} {f : α → Process S E A β}

namespace Costs

/-- A larger budget. -/
theorem mono (h : Costs cost n x) (hle : n ≤ m) : Costs cost m x := fun s => (h s).mono hle

/-- A value costs nothing. -/
theorem pure (a : α) : Costs cost 0 (pure a : Process S E A α) := fun _ => trivial

/-- The costs of a sequence add up. -/
theorem bind (h : Costs cost n x) (hf : ∀ a, Costs cost m (f a)) : Costs cost (n + m) (x >>= f) :=
  fun s => Program.Costs.bind (h s) fun r => hf r.1 r.2

/-- After a process that costs nothing. -/
theorem free_bind (h : Costs cost 0 x) (hf : ∀ a, Costs cost n (f a)) : Costs cost n (x >>= f) :=
  (h.bind hf).mono (Nat.le_of_eq (Nat.zero_add n))

/-- Before one that costs nothing. -/
theorem bind_free (h : Costs cost n x) (hf : ∀ a, Costs cost 0 (f a)) : Costs cost n (x >>= f) :=
  h.bind hf

/-- Reading the state costs nothing. -/
theorem get_bind {f : S → Process S E A β} (hf : ∀ s, Costs cost n (f s)) :
    Costs cost n (get >>= f) := fun s => hf s s

/-- Nor does setting it. -/
theorem set_bind {s' : S} {f : PUnit → Process S E A β} (hf : Costs cost n (f ⟨⟩)) :
    Costs cost n (set s' >>= f) := fun _ => hf s'

/-- Nor does changing it. -/
theorem modify_bind {g : S → S} {f : PUnit → Process S E A β} (hf : Costs cost n (f ⟨⟩)) :
    Costs cost n (modify g >>= f) := fun s => hf (g s)

/-- A change of the state costs nothing. -/
theorem modify {g : S → S} : Costs cost 0 (modify g : Process S E A PUnit) := fun _ => trivial

/-- A request costs what it costs. -/
theorem ask {e : E} (he : cost e ≤ n) : Costs cost n (ask e : Process S E A (A e)) := fun _ =>
  ⟨he, fun _ => trivial⟩

/-- A process that may be skipped costs no more than when it is not. -/
theorem when {x : Process S E A Unit} (p : Bool) (hx : Costs cost n x) :
    Costs cost n (Process.when p x) := by
  cases p
  · exact (Costs.pure ()).mono (Nat.zero_le n)
  · exact hx

/-- A branch costs what its dearer side does. -/
theorem ite {p : Prop} [Decidable p] {y : Process S E A α} (hx : Costs cost n x)
    (hy : Costs cost n y) : Costs cost n (if p then x else y) := by
  by_cases hp : p
  · rw [if_pos hp]
    exact hx
  · rw [if_neg hp]
    exact hy

/-- A contract whose requests cost nothing, from every state. -/
theorem of_meets {G : S → S → E → Prop} {Q : S → α → S → Prop} (h : ∀ s, Meets x s (G s) (Q s))
    (hG : ∀ s s' e, G s s' e → cost e = 0) : Costs cost 0 x :=
  fun s => Program.Costs.of_meets (h s) fun r => hG s r.1 r.2

/-- A process without a budget makes requests that cost nothing. -/
theorem meets (h : Costs cost 0 x) (s : S) : Meets x s (fun _ e => cost e = 0) fun _ _ => True :=
  Program.Costs.meets (h s)

/-- What is left of the budget pays for each request of a contract. -/
theorem wp {σ : Type} {W : World (S × E) (stamped A) σ} {J : Nat → σ → Prop} {G : S → E → Prop}
    {Q : α → S → Prop} {s : S} {w : σ} (h : Costs cost n x) (hm : Meets x s G Q) (hw : J n w)
    (hdrift : ∀ n w w', W.drift w w' → J n w → J n w')
    (hanswer : ∀ n s e w b w', cost e ≤ n → G s e → W.answer (s, e) w b w' → J n w →
      J (n - cost e) w') :
    Wp W (fun _ _ _ => True) (fun a s' w' => Q a s' ∧ ∃ m, J m w') x s w :=
  Program.Costs.wp (h s) hm hw hdrift fun n r w b w' => hanswer n r.1 r.2 w b w'

end Costs

end Process

end Reactive
