import Mathlib.Data.List.Basic
import Mathlib.Order.Basic

/-!
# Programs that make requests

A `Program E A α` makes requests of type `E`, is answered each request `e` by a value of `A e`, and
returns a value of `α`. It is a well-founded tree, so it always returns once it is answered. Nothing
is assumed of the answers: a program is a value, and what a world may answer is stated apart from
it.

`Runs` is the trace semantics. `Meets G Q` says that every request the program can make satisfies
`G` and every value it can return satisfies `Q`, whatever it is answered. It composes along `bind`
(`meets_bind`), which is how a function's contract is proved from those of the functions it calls.
-/

namespace Reactive

/-- A program that makes requests `e : E`, each answered by a value of `A e`, and returns an `α`. -/
inductive Program (E : Type) (A : E → Type) (α : Type) : Type
  /-- The program that returns at once. -/
  | ret (a : α)
  /-- The program that makes a request and goes on with its answer. -/
  | call (e : E) (k : A e → Program E A α)

/-- A request with the answer it got. -/
abbrev Obs (E : Type) (A : E → Type) : Type := (e : E) × A e

namespace Program

variable {E : Type} {A : E → Type} {α β γ : Type}

/-- Sequencing: the second program starts from the value that the first returns. -/
def bind : Program E A α → (α → Program E A β) → Program E A β
  | .ret a, f => f a
  | .call e k, f => .call e fun b => (k b).bind f

/-- A pure program and a bind, for the `do` notation. -/
instance : Monad (Program E A) where
  pure := .ret
  bind := bind

/-- A program that returns what it got is the program itself. -/
theorem bind_ret (p : Program E A α) : p.bind .ret = p := by
  induction p with
  | ret a => rfl
  | call e k ih => simp only [bind, ih]

/-- Sequencing is associative. -/
theorem bind_assoc (p : Program E A α) (f : α → Program E A β) (g : β → Program E A γ) :
    (p.bind f).bind g = p.bind fun a => (f a).bind g := by
  induction p with
  | ret a => rfl
  | call e k ih => simp only [bind, ih]

/-- The laws of a monad hold, by induction on the program. -/
instance : LawfulMonad (Program E A) :=
  LawfulMonad.mk' _ (fun p => bind_ret p) (fun _ _ => rfl) bind_assoc

/-! ## Traces -/

/-- The program can be answered along the trace `tr` and then returns `a`. -/
inductive Runs : Program E A α → List (Obs E A) → α → Prop
  | ret (a : α) : Runs (.ret a) [] a
  | call {e : E} {k : A e → Program E A α} (b : A e) {tr : List (Obs E A)} {a : α} :
      Runs (k b) tr a → Runs (.call e k) (⟨e, b⟩ :: tr) a

/-! ## Contracts for every answer -/

/-- Every request that the program can make satisfies `G`, and every value that it can return
satisfies `Q`, whatever it is answered. -/
def Meets (G : E → Prop) (Q : α → Prop) : Program E A α → Prop
  | .ret a => Q a
  | .call e k => G e ∧ ∀ b, (k b).Meets G Q

variable {G G' : E → Prop} {Q Q' : α → Prop}

/-- A sequence meets a contract where its first part leads the second to meet it. -/
theorem meets_bind {R : β → Prop} {p : Program E A α} {f : α → Program E A β} :
    (p.bind f).Meets G R ↔ p.Meets G fun a => (f a).Meets G R := by
  induction p with
  | ret a => rfl
  | call e k ih => simp only [bind, Meets, ih]

/-- A contract that asks for less, and promises less. -/
theorem Meets.mono {p : Program E A α} (h : p.Meets G Q) (hG : ∀ e, G e → G' e)
    (hQ : ∀ a, Q a → Q' a) : p.Meets G' Q' := by
  induction p with
  | ret a => exact hQ a h
  | call e k ih => exact ⟨hG e h.1, fun b => ih b (h.2 b)⟩

/-- Two contracts together. -/
theorem Meets.and {p : Program E A α} (h : p.Meets G Q) (h' : p.Meets G' Q') :
    p.Meets (fun e => G e ∧ G' e) (fun a => Q a ∧ Q' a) := by
  induction p with
  | ret a => exact ⟨h, h'⟩
  | call e k ih => exact ⟨⟨h.1, h'.1⟩, fun b => ih b (h.2 b) (h'.2 b)⟩

/-- What a contract says of one run. -/
theorem Runs.of_meets {p : Program E A α} {tr : List (Obs E A)} {a : α} (hr : Runs p tr a)
    (h : p.Meets G Q) : (∀ o ∈ tr, G o.1) ∧ Q a := by
  induction hr with
  | ret a => exact ⟨by simp, h⟩
  | call b _ ih =>
    obtain ⟨hG, hQ⟩ := ih (h.2 b)
    exact ⟨by simpa using ⟨h.1, hG⟩, hQ⟩

/-! ## Running against a deterministic world -/

/-- The program against a world that answers every request: the value, the world afterwards, and
the trace. -/
def exec {W : Type} (world : (e : E) → W → A e × W) : Program E A α → W → α × W × List (Obs E A)
  | .ret a, w => (a, w, [])
  | .call e k, w =>
    let r := exec world (k (world e w).1) (world e w).2
    (r.1, r.2.1, ⟨e, (world e w).1⟩ :: r.2.2)

/-- Executing a program is one of its runs. -/
theorem runs_exec {W : Type} (world : (e : E) → W → A e × W) (p : Program E A α) (w : W) :
    Runs p (p.exec world w).2.2 (p.exec world w).1 := by
  induction p generalizing w with
  | ret a => exact .ret a
  | call e k ih => exact .call _ (ih _ _)

/-- Whether every request of an execution passes a check, in the world that it is made in. -/
def passes {W : Type} (world : (e : E) → W → A e × W) (check : E → W → Bool) :
    Program E A α → W → Bool
  | .ret _, _ => true
  | .call e k, w => check e w && passes world check (k (world e w).1) (world e w).2

/-- Every answer of an execution is the world's. -/
theorem answer_of_mem_exec {W : Type} {answers : (e : E) → A e} {p : Program E A α} {w : W}
    {o : Obs E A} (h : o ∈ (p.exec (fun e w => (answers e, w)) w).2.2) : o.2 = answers o.1 := by
  induction p with
  | ret a => exact absurd h List.not_mem_nil
  | call e k ih =>
    rcases List.mem_cons.mp h with rfl | h
    · rfl
    · exact ih _ h

/-- Executing a sequence against a world that never changes. -/
theorem exec_bind {W : Type} {answers : (e : E) → A e} (p : Program E A α) (f : α → Program E A β)
    (w : W) :
    ((p.bind f).exec (fun e w => (answers e, w)) w).1 =
      ((f (p.exec (fun e w => (answers e, w)) w).1).exec (fun e w => (answers e, w)) w).1 := by
  induction p with
  | ret a => rfl
  | call e k ih => exact ih _

/-- A run whose answers are the world's is the execution. -/
theorem Runs.eq_exec {W : Type} {answers : (e : E) → A e} {p : Program E A α} {tr : List (Obs E A)}
    {a : α} {w : W} (h : Runs p tr a) (hans : ∀ o ∈ tr, o.2 = answers o.1) :
    a = (p.exec (fun e w => (answers e, w)) w).1 := by
  induction h with
  | ret a => rfl
  | @call e _ b _ _ _ ih =>
    obtain rfl : b = answers e := hans _ List.mem_cons_self
    exact ih fun o ho => hans o (List.mem_cons_of_mem _ ho)

end Program

end Reactive
