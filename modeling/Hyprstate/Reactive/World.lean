import Mathlib.Logic.Relation
import Hyprstate.Reactive.Process

/-!
# Worlds, and programs run against them

A `World` answers a program's requests and drifts by itself in between: other parties act on it.
`Wp` is the weakest precondition of a program in a world. It asks that each request satisfies a
guard when it is made and that the postcondition holds on return, along every answer and every
drift.

The frame rule `Process.wp_of_meets` turns a contract that speaks of no world into a statement about
one: a property of the world that neither the drift nor the contract's own requests can break holds
throughout. `Execs` is the relation of a whole execution, for what a program can do rather than
must.
-/

namespace Reactive

/-- How a world drifts by itself, and how it moves when it answers a request. -/
structure World (E : Type) (A : E → Type) (σ : Type) where
  /-- One step of the other parties. -/
  drift : σ → σ → Prop
  /-- The request, the world it is made in, the answer, and the world after it. -/
  answer : (e : E) → σ → A e → σ → Prop

namespace World

variable {E : Type} {A : E → Type} {σ : Type}

/-- Any number of steps of the other parties. -/
abbrev Drifts (W : World E A σ) : σ → σ → Prop := Relation.ReflTransGen W.drift

/-- A property that one step of the other parties keeps, any number keeps. -/
theorem Drifts.keeps {W : World E A σ} {J : σ → Prop} (hJ : ∀ w w', W.drift w w' → J w → J w')
    {w w' : σ} (h : W.Drifts w w') (hw : J w) : J w' := by
  induction h with
  | refl => exact hw
  | tail _ hstep ih => exact hJ _ _ hstep ih

/-- The world where each step of the other parties satisfies `D`, and each request `G` in the world
it is answered in. -/
def under (W : World E A σ) (D : σ → σ → Prop) (G : E → σ → Prop) : World E A σ where
  drift w w' := W.drift w w' ∧ D w w'
  answer e w b w' := W.answer e w b w' ∧ G e w

/-- The world whose answers are those that `ok` admits. -/
def admitting (W : World E A σ) (ok : Obs E A → Prop) : World E A σ where
  drift := W.drift
  answer e w b w' := W.answer e w b w' ∧ ok ⟨e, b⟩

/-- The world in which nothing moves but by a request, whose state `upd` computes from the requests
and answers so far, and whose answers are those that `ok` admits. -/
def observer (ok : Obs E A → Prop) (upd : σ → Obs E A → σ) : World E A σ where
  drift _ _ := False
  answer e w b w' := ok ⟨e, b⟩ ∧ w' = upd w ⟨e, b⟩

/-- Recording a trace. -/
def record (tr : List (Obs E A)) (o : Obs E A) : List (Obs E A) := tr ++ [o]

/-- A recorder has the trace that it began with, and what came after. -/
@[simp] theorem foldl_record (tr tr' : List (Obs E A)) : tr'.foldl record tr = tr ++ tr' := by
  induction tr' generalizing tr with
  | nil => simp
  | cons o tr' ih => rw [List.foldl_cons, ih, record, List.append_assoc, List.singleton_append]

/-- Without drift a world stays where it is. -/
theorem drifts_iff_of_still {W : World E A σ} (hW : ∀ w w', ¬W.drift w w') {w w' : σ} :
    W.Drifts w w' ↔ w' = w := by
  constructor
  · intro h
    induction h with
    | refl => rfl
    | tail _ hstep _ => exact absurd hstep (hW _ _)
  · rintro rfl
    exact .refl

end World

/-! ## Weakest preconditions -/

namespace Program

variable {E : Type} {A : E → Type} {σ α β : Type} {W : World E A σ}

/-- From the world `w`, every request satisfies `G` when it is made, and every return satisfies `Q`,
along every drift and every answer of `W`. -/
def Wp (W : World E A σ) (G : E → σ → Prop) (Q : α → σ → Prop) : Program E A α → σ → Prop
  | .ret a, w => ∀ w', W.Drifts w w' → Q a w'
  | .call e k, w =>
    ∀ w', W.Drifts w w' → G e w' ∧ ∀ b w'', W.answer e w' b w'' → (k b).Wp W G Q w''

variable {G G' : E → σ → Prop} {Q Q' : α → σ → Prop}

/-- The precondition is stable: the other parties may act before the program starts. -/
theorem Wp.drifts {p : Program E A α} {w w' : σ} (h : p.Wp W G Q w) (hw : W.Drifts w w') :
    p.Wp W G Q w' := by
  cases p with
  | ret a => exact fun w'' hw'' => h w'' (hw.trans hw'')
  | call e k => exact fun w'' hw'' => h w'' (hw.trans hw'')

/-- A precondition that asks for less, and promises less. -/
theorem Wp.mono {p : Program E A α} {w : σ} (h : p.Wp W G Q w) (hG : ∀ e w, G e w → G' e w)
    (hQ : ∀ a w, Q a w → Q' a w) : p.Wp W G' Q' w := by
  induction p generalizing w with
  | ret a => exact fun w' hw' => hQ a w' (h w' hw')
  | call e k ih =>
    exact fun w' hw' => ⟨hG e w' (h w' hw').1, fun b w'' ha => ih b ((h w' hw').2 b w'' ha)⟩

/-- A sequence goes on where its first part ended. -/
theorem wp_bind {R : β → σ → Prop} {p : Program E A α} {f : α → Program E A β} {w : σ} :
    (p.bind f).Wp W G R w ↔ p.Wp W G (fun a w' => (f a).Wp W G R w') w := by
  induction p generalizing w with
  | ret a => exact ⟨fun h w' hw' => h.drifts hw', fun h => h w .refl⟩
  | call e k ih => simp only [bind, Wp, ih]

/-- The frame rule. A contract of the program, and a property of the world that neither the drift
nor the requests of the contract break, hold together. -/
theorem Wp.of_meets {Gm : E → Prop} {Qm : α → Prop} {J : σ → Prop} {p : Program E A α} {w : σ}
    (h : p.Meets Gm Qm) (hw : J w) (hdrift : ∀ w w', W.drift w w' → J w → J w')
    (hanswer : ∀ e w b w', Gm e → W.answer e w b w' → J w → J w') :
    p.Wp W (fun e w => Gm e ∧ J w) (fun a w => Qm a ∧ J w) w := by
  induction p generalizing w with
  | ret a => exact fun w' hw' => ⟨h, hw'.keeps hdrift hw⟩
  | call e k ih =>
    intro w' hw'
    have hJ : J w' := hw'.keeps hdrift hw
    exact ⟨⟨h.1, hJ⟩, fun b w'' ha => ih b (h.2 b) (hanswer e w' b w'' h.1 ha hJ)⟩

/-- A statement about a world, and a contract that speaks of none, together. -/
theorem Wp.and_meets {Gm : E → Prop} {Qm : α → Prop} {p : Program E A α} {w : σ} (h : p.Wp W G Q w)
    (hm : p.Meets Gm Qm) : p.Wp W G (fun a w => Q a w ∧ Qm a) w := by
  induction p generalizing w with
  | ret a => exact fun w' hw' => ⟨h w' hw', hm⟩
  | call e k ih =>
    exact fun w' hw' => ⟨(h w' hw').1, fun b w'' ha => ih b ((h w' hw').2 b w'' ha) (hm.2 b)⟩

/-- Two statements about one world, together. -/
theorem Wp.and {p : Program E A α} {w : σ} (h : p.Wp W G Q w) (h' : p.Wp W G' Q' w) :
    p.Wp W (fun e w => G e w ∧ G' e w) (fun a w => Q a w ∧ Q' a w) w := by
  induction p generalizing w with
  | ret a => exact fun w' hw' => ⟨h w' hw', h' w' hw'⟩
  | call e k ih =>
    exact fun w' hw' => ⟨⟨(h w' hw').1, (h' w' hw').1⟩,
      fun b w'' ha => ih b ((h w' hw').2 b w'' ha) ((h' w' hw').2 b w'' ha)⟩

/-- The program can run from the world `w` to the world `w'`, answered along `tr`, and returns
`a`. -/
inductive Execs (W : World E A σ) : Program E A α → σ → List (Obs E A) → α → σ → Prop
  | ret (a : α) {w w' : σ} : W.Drifts w w' → Execs W (.ret a) w [] a w'
  | call {e : E} {k : A e → Program E A α} {b : A e} {w w₁ w₂ w' : σ}
      {tr : List (Obs E A)} {a : α} :
      W.Drifts w w₁ → W.answer e w₁ b w₂ → Execs W (k b) w₂ tr a w' →
      Execs W (.call e k) w (⟨e, b⟩ :: tr) a w'

/-- An execution made of a request at once and an execution of the rest. -/
theorem exists_execs_call {e : E} {k : A e → Program E A α} (b : A e) {w w₁ w' : σ} {a : α}
    (hanswer : W.answer e w b w₁) (h : ∃ tr, Execs W (k b) w₁ tr a w') :
    ∃ tr, Execs W (.call e k) w tr a w' := by
  obtain ⟨tr, h⟩ := h
  exact ⟨_, .call .refl hanswer h⟩

/-- An execution is a run, whatever the world. -/
theorem Execs.runs {p : Program E A α} {tr : List (Obs E A)} {a : α} {w w' : σ}
    (h : Execs W p w tr a w') : Runs p tr a := by
  induction h with
  | ret a _ => exact .ret a
  | call _ _ _ ih => exact .call _ ih

/-- What the weakest precondition says of an execution. -/
theorem Execs.of_wp {p : Program E A α} {tr : List (Obs E A)} {a : α} {w w' : σ}
    (h : Execs W p w tr a w') (hwp : p.Wp W G Q w) : Q a w' := by
  induction h with
  | ret a hdrift => exact hwp _ hdrift
  | call hdrift hanswer _ ih => exact ih ((hwp _ hdrift).2 _ _ hanswer)

/-- What each step of the world keeps, an execution keeps. -/
theorem Execs.keeps {J : σ → Prop} (hdrift : ∀ w w', W.drift w w' → J w → J w')
    (hanswer : ∀ e w b w', W.answer e w b w' → J w → J w') {p : Program E A α}
    {tr : List (Obs E A)} {a : α} {w w' : σ} (h : Execs W p w tr a w') (hw : J w) : J w' := by
  induction h with
  | ret a hd => exact hd.keeps hdrift hw
  | call hd ha _ ih => exact ih (hanswer _ _ _ _ ha (hd.keeps hdrift hw))

/-- An execution whose steps meet a condition is one. -/
theorem Execs.of_under {D : σ → σ → Prop} {H : E → σ → Prop} {p : Program E A α}
    {tr : List (Obs E A)} {a : α} {w w' : σ} (h : Execs (W.under D H) p w tr a w') :
    Execs W p w tr a w' := by
  have hdrifts : ∀ {w w' : σ}, (W.under D H).Drifts w w' → W.Drifts w w' := fun hd =>
    Relation.ReflTransGen.mono (fun _ _ hstep => hstep.1) _ _ hd
  induction h with
  | ret a hd => exact .ret a (hdrifts hd)
  | call hd ha _ ih => exact .call (hdrifts hd) ha.1 ih

/-- Without a condition on the steps it is nothing else. -/
theorem Execs.to_under {p : Program E A α} {tr : List (Obs E A)} {a : α} {w w' : σ}
    (h : Execs W p w tr a w') :
    Execs (W.under (fun _ _ => True) fun _ _ => True) p w tr a w' := by
  have hdrifts : ∀ {w w' : σ}, W.Drifts w w' →
      (W.under (fun _ _ => True) fun _ _ => True).Drifts w w' := fun hd =>
    Relation.ReflTransGen.mono (fun _ _ hstep => ⟨hstep, trivial⟩) _ _ hd
  induction h with
  | ret a hd => exact .ret a (hdrifts hd)
  | call hd ha _ ih => exact .call (hdrifts hd) ⟨ha, trivial⟩ ih

/-- An execution whose every answer is admitted is one where no other is given. -/
theorem Execs.admitting {ok : Obs E A → Prop} {p : Program E A α} {tr : List (Obs E A)} {a : α}
    {w w' : σ} (h : Execs W p w tr a w') (hok : ∀ o ∈ tr, ok o) :
    Execs (W.admitting ok) p w tr a w' := by
  induction h with
  | ret a hd => exact .ret a hd
  | call hd ha _ ih =>
    exact .call hd ⟨ha, hok _ List.mem_cons_self⟩ (ih fun o ho => hok o (List.mem_cons_of_mem _ ho))

/-- A property that does not come back once it is lost: an execution that has it at the end had it
all along, so it is one of any world that moves in the same way as long as the property holds. -/
theorem Execs.retained {W' : World E A σ} {J : σ → Prop}
    (hdrift : ∀ w w', W.drift w w' → J w' → W'.drift w w' ∧ J w)
    (hanswer : ∀ e w b w', W.answer e w b w' → J w' → W'.answer e w b w' ∧ J w)
    {p : Program E A α} {tr : List (Obs E A)} {a : α} {w w' : σ} (h : Execs W p w tr a w')
    (hw' : J w') : Execs W' p w tr a w' ∧ J w := by
  have hdrifts : ∀ {w w' : σ}, W.Drifts w w' → J w' → W'.Drifts w w' ∧ J w := by
    intro w w' h hw'
    induction h with
    | refl => exact ⟨.refl, hw'⟩
    | tail _ hstep ih =>
      obtain ⟨hstep', hmid⟩ := hdrift _ _ hstep hw'
      exact ⟨(ih hmid).1.tail hstep', (ih hmid).2⟩
  induction h with
  | ret a hd =>
    obtain ⟨hd', hw⟩ := hdrifts hd hw'
    exact ⟨.ret a hd', hw⟩
  | call hd ha _ ih =>
    obtain ⟨hrest, hafter⟩ := ih hw'
    obtain ⟨ha', hbefore⟩ := hanswer _ _ _ _ ha hafter
    obtain ⟨hd', hw⟩ := hdrifts hd hbefore
    exact ⟨.call hd' ha' hrest, hw⟩

/-- An execution against a deterministic world, which keeps `I`. -/
theorem execs_exec {world : (e : E) → σ → A e × σ} {I : σ → Prop}
    (hworld : ∀ e w, I w → W.answer e w (world e w).1 (world e w).2 ∧ I (world e w).2)
    (p : Program E A α) {w : σ} (hw : I w) :
    Execs W p w (p.exec world w).2.2 (p.exec world w).1 (p.exec world w).2.1 := by
  induction p generalizing w with
  | ret a => exact .ret a .refl
  | call e k ih =>
    obtain ⟨hanswer, hkeep⟩ := hworld e w hw
    exact .call .refl hanswer (ih _ hkeep)

/-- What the weakest precondition for an observer says of a run: the guard holds of each request
with what was observed before it, and the postcondition of all that was observed. -/
theorem Runs.of_wp_observer {ok : Obs E A → Prop} {upd : σ → Obs E A → σ} {p : Program E A α}
    {tr : List (Obs E A)} {a : α} {w : σ} (hr : Runs p tr a) (hok : ∀ o ∈ tr, ok o)
    (h : p.Wp (World.observer ok upd) G Q w) :
    (∀ pre o post, tr = pre ++ o :: post → G o.1 (pre.foldl upd w)) ∧ Q a (tr.foldl upd w) := by
  induction hr generalizing w with
  | ret a => exact ⟨fun pre o post heq => absurd heq (by simp), h w .refl⟩
  | @call e k b tr a _ ih =>
    obtain ⟨hG, hk⟩ := h w .refl
    have hfirst : ok ⟨e, b⟩ := hok _ List.mem_cons_self
    obtain ⟨ihG, ihQ⟩ := ih (fun o ho => hok o (List.mem_cons_of_mem _ ho))
      (hk b (upd w ⟨e, b⟩) ⟨hfirst, rfl⟩)
    refine ⟨fun pre o post heq => ?_, ihQ⟩
    rcases pre with _ | ⟨o', pre⟩
    · obtain ⟨rfl, rfl⟩ := List.cons.inj heq
      exact hG
    · obtain ⟨rfl, htr⟩ := List.cons.inj heq
      exact ihG pre o post htr

/-- What holds for an observer that admits every answer, and does not depend on what was observed,
is a contract. -/
theorem meets_of_wp_observer {Gm : E → Prop} {Qm : α → Prop} {upd : σ → Obs E A → σ}
    {p : Program E A α} {w : σ}
    (h : p.Wp (World.observer (fun _ => True) upd) (fun e _ => Gm e) (fun a _ => Qm a) w) :
    p.Meets Gm Qm := by
  induction p generalizing w with
  | ret a => exact h w .refl
  | call e k ih => exact ⟨(h w .refl).1, fun b => ih b ((h w .refl).2 b _ ⟨trivial, rfl⟩)⟩

end Program

namespace Process

variable {S E : Type} {A : E → Type} {σ α β : Type} {W : World (S × E) (stamped A) σ}

/-- `Program.Wp` for a process: the guard and the postcondition also see its state. -/
def Wp (W : World (S × E) (stamped A) σ) (G : S → E → σ → Prop) (Q : α → S → σ → Prop)
    (x : Process S E A α) (s : S) (w : σ) : Prop :=
  (x.run s).Wp W (fun r w => G r.1 r.2 w) (fun r w => Q r.1 r.2 w) w

variable {x : Process S E A α} {f : α → Process S E A β} {G G' : S → E → σ → Prop}
  {Q Q' : α → S → σ → Prop} {s : S} {w : σ}

/-- The other parties may have acted before. -/
theorem Wp.drifts {w' : σ} (h : Wp W G Q x s w) (hw : W.Drifts w w') : Wp W G Q x s w' :=
  Program.Wp.drifts h hw

/-- A precondition that asks for less, and promises less. -/
theorem Wp.mono (h : Wp W G Q x s w) (hG : ∀ s e w, G s e w → G' s e w)
    (hQ : ∀ a s w, Q a s w → Q' a s w) : Wp W G' Q' x s w :=
  Program.Wp.mono h (fun r => hG r.1 r.2) (fun r => hQ r.1 r.2)

/-- A sequence goes on where its first part ended. -/
theorem wp_bind {R : β → S → σ → Prop} :
    Wp W G R (x >>= f) s w ↔ Wp W G (fun a s' w' => Wp W G R (f a) s' w') x s w :=
  Program.wp_bind

/-- Sequencing, with a postcondition for the first part. -/
theorem Wp.bind {R : β → S → σ → Prop} (h : Wp W G Q x s w)
    (hf : ∀ a s' w', Q a s' w' → Wp W G R (f a) s' w') : Wp W G R (x >>= f) s w :=
  wp_bind.mpr (h.mono (fun _ _ _ => id) hf)

/-- A contract that holds in every world holds in this one. -/
theorem Wp.and_meets {Gm : S → E → Prop} {Qm : α → S → Prop} (h : Wp W G Q x s w)
    (hm : Meets x s Gm Qm) : Wp W G (fun a s w => Q a s w ∧ Qm a s) x s w :=
  Program.Wp.and_meets h hm

/-- Two preconditions together. -/
theorem Wp.and (h : Wp W G Q x s w) (h' : Wp W G' Q' x s w) :
    Wp W (fun s e w => G s e w ∧ G' s e w) (fun a s w => Q a s w ∧ Q' a s w) x s w :=
  Program.Wp.and h h'

/-- `Program.Execs` for a process: it is left in the state `s'`. -/
def Execs (W : World (S × E) (stamped A) σ) (x : Process S E A α) (s : S) (w : σ)
    (tr : List (Obs (S × E) (stamped A))) (a : α) (s' : S) (w' : σ) : Prop :=
  Program.Execs W (x.run s) w tr (a, s') w'

/-- `Program.Execs.runs` for a process. -/
theorem Execs.runs {tr : List (Obs (S × E) (stamped A))} {a : α} {s' : S} {w' : σ}
    (h : Execs W x s w tr a s' w') : Runs x s tr a s' :=
  Program.Execs.runs h

/-- `Program.Execs.of_wp` for a process. -/
theorem Execs.of_wp {tr : List (Obs (S × E) (stamped A))} {a : α} {s' : S} {w' : σ}
    (h : Execs W x s w tr a s' w') (hwp : Wp W G Q x s w) : Q a s' w' := by
  have hexec : Program.Execs W (x.run s) w tr (a, s') w' := h
  exact hexec.of_wp hwp

/-- `Program.Execs.keeps` for a process. -/
theorem Execs.keeps {J : σ → Prop} (hdrift : ∀ w w', W.drift w w' → J w → J w')
    (hanswer : ∀ r w b w', W.answer r w b w' → J w → J w')
    {tr : List (Obs (S × E) (stamped A))} {a : α} {s' : S} {w' : σ}
    (h : Execs W x s w tr a s' w') (hw : J w) : J w' :=
  Program.Execs.keeps hdrift hanswer h hw

/-- `Program.Execs.of_under` for a process. -/
theorem Execs.of_under {D : σ → σ → Prop} {H : S × E → σ → Prop}
    {tr : List (Obs (S × E) (stamped A))} {a : α} {s' : S} {w' : σ}
    (h : Execs (W.under D H) x s w tr a s' w') : Execs W x s w tr a s' w' :=
  Program.Execs.of_under h

/-- `Program.Execs.to_under` for a process. -/
theorem Execs.to_under {tr : List (Obs (S × E) (stamped A))} {a : α} {s' : S} {w' : σ}
    (h : Execs W x s w tr a s' w') :
    Execs (W.under (fun _ _ => True) fun _ _ => True) x s w tr a s' w' :=
  Program.Execs.to_under h

/-- `Program.Execs.admitting` for a process. -/
theorem Execs.admitting {ok : Obs (S × E) (stamped A) → Prop}
    {tr : List (Obs (S × E) (stamped A))} {a : α} {s' : S} {w' : σ}
    (h : Execs W x s w tr a s' w') (hok : ∀ o ∈ tr, ok o) :
    Execs (W.admitting ok) x s w tr a s' w' :=
  Program.Execs.admitting h hok

/-- `Program.Execs.retained` for a process. -/
theorem Execs.retained {W' : World (S × E) (stamped A) σ} {J : σ → Prop}
    (hdrift : ∀ w w', W.drift w w' → J w' → W'.drift w w' ∧ J w)
    (hanswer : ∀ r w b w', W.answer r w b w' → J w' → W'.answer r w b w' ∧ J w)
    {tr : List (Obs (S × E) (stamped A))} {a : α} {s' : S} {w' : σ} (h : Execs W x s w tr a s' w')
    (hw' : J w') : Execs W' x s w tr a s' w' :=
  (Program.Execs.retained hdrift hanswer h hw').1

/-- `Program.execs_exec` for a process. -/
theorem execs_exec {world : (r : S × E) → σ → stamped A r × σ} {I : σ → Prop}
    (hworld : ∀ r w, I w → W.answer r w (world r w).1 (world r w).2 ∧ I (world r w).2)
    (x : Process S E A α) (s : S) {w : σ} (hw : I w) :
    Execs W x s w ((x.run s).exec world w).2.2 ((x.run s).exec world w).1.1
      ((x.run s).exec world w).1.2 ((x.run s).exec world w).2.1 :=
  Program.execs_exec hworld (x.run s) hw

/-- The frame rule for a process. -/
theorem wp_of_meets {Gm : S → E → Prop} {Qm : α → S → Prop} {J : σ → Prop}
    (h : Meets x s Gm Qm) (hw : J w) (hdrift : ∀ w w', W.drift w w' → J w → J w')
    (hanswer : ∀ s e w b w', Gm s e → W.answer (s, e) w b w' → J w → J w') :
    Wp W (fun s e w => Gm s e ∧ J w) (fun a s w => Qm a s ∧ J w) x s w :=
  Program.Wp.of_meets h hw hdrift fun r w b w' hr => hanswer r.1 r.2 w b w' hr

/-! ### A process that reads or writes its own state goes on from there -/

/-- A process that is over waits for the other parties. -/
@[simp] theorem wp_pure {a : α} : Wp W G Q (pure a) s w ↔ ∀ w', W.Drifts w w' → Q a s w' := Iff.rfl

/-- A value goes on at once. -/
@[simp] theorem wp_pure_bind {a : α} {R : β → S → σ → Prop} :
    Wp W G R (pure a >>= f) s w ↔ Wp W G R (f a) s w := Iff.rfl

/-- Reading the state. -/
@[simp] theorem wp_get_bind {f : S → Process S E A β} {R : β → S → σ → Prop} :
    Wp W G R (get >>= f) s w ↔ Wp W G R (f s) s w := Iff.rfl

/-- Setting it. -/
@[simp] theorem wp_set_bind {s' : S} {f : PUnit → Process S E A β} {R : β → S → σ → Prop} :
    Wp W G R (set s' >>= f) s w ↔ Wp W G R (f ⟨⟩) s' w := Iff.rfl

/-- Changing it. -/
@[simp] theorem wp_modify_bind {g : S → S} {f : PUnit → Process S E A β} {R : β → S → σ → Prop} :
    Wp W G R (modify g >>= f) s w ↔ Wp W G R (f ⟨⟩) (g s) w := Iff.rfl

/-- The last request: the other parties act before it and after it. -/
theorem wp_ask {e : E} {Q : A e → S → σ → Prop} :
    Wp W G Q (ask e) s w ↔ ∀ w', W.Drifts w w' →
      G s e w' ∧ ∀ b w'', W.answer (s, e) w' b w'' → ∀ w₃, W.Drifts w'' w₃ → Q b s w₃ := Iff.rfl

/-- A request goes on with its answer. -/
theorem wp_ask_bind {e : E} {f : A e → Process S E A β} {R : β → S → σ → Prop} :
    Wp W G R (ask e >>= f) s w ↔ ∀ w', W.Drifts w w' →
      G s e w' ∧ ∀ b w'', W.answer (s, e) w' b w'' → Wp W G R (f b) s w'' := Iff.rfl

/-- A branch. -/
@[simp] theorem wp_ite {p : Prop} [Decidable p] {y : Process S E A α} :
    Wp W G Q (if p then x else y) s w ↔ (p → Wp W G Q x s w) ∧ (¬p → Wp W G Q y s w) := by
  by_cases h : p <;> simp [h]

/-- A process that may be skipped. -/
theorem wp_when {p : Bool} {x : Process S E A Unit} {Q : Unit → S → σ → Prop} :
    Wp W G Q (when p x) s w ↔
      (p = true → Wp W G Q x s w) ∧ (p = false → Wp W G Q (pure ()) s w) := by
  cases p <;> simp [when]

/-! ### Worlds without drift -/

section

variable (hstill : ∀ w w', ¬W.drift w w')
include hstill

/-- Where nobody else acts, a process that is over is over at once. -/
theorem wp_still_pure {a : α} : Wp W G Q (pure a) s w ↔ Q a s w := by
  simp only [wp_pure, World.drifts_iff_of_still hstill, forall_eq]

/-- Where nobody else acts, a request is answered at once. -/
theorem wp_still_ask_bind {e : E} {f : A e → Process S E A β} {R : β → S → σ → Prop} :
    Wp W G R (ask e >>= f) s w ↔
      G s e w ∧ ∀ b w', W.answer (s, e) w b w' → Wp W G R (f b) s w' := by
  rw [wp_ask_bind]
  constructor
  · exact fun h => h w .refl
  · intro h w' hdrift
    obtain rfl := (World.drifts_iff_of_still hstill).mp hdrift
    exact h

/-- The last request, where nobody else acts. -/
theorem wp_still_ask {e : E} {Q : A e → S → σ → Prop} :
    Wp W G Q (ask e) s w ↔ G s e w ∧ ∀ b w', W.answer (s, e) w b w' → Q b s w' := by
  rw [← bind_pure (ask e), wp_still_ask_bind hstill]
  simp only [wp_still_pure hstill]

end

/-! ### Observers -/

variable {ok : Obs (S × E) (stamped A) → Prop} {upd : σ → Obs (S × E) (stamped A) → σ}

/-- Nobody acts but the process that is observed. -/
private theorem observer_still (w w' : σ) : ¬(World.observer ok upd).drift w w' := id

/-- A process that is over, under an observer. -/
theorem wp_observer_pure {a : α} :
    Wp (World.observer ok upd) G Q (pure a) s w ↔ Q a s w :=
  wp_still_pure observer_still

/-- A change of the state, under an observer. -/
theorem wp_observer_modify {g : S → S} {Q : PUnit → S → σ → Prop} :
    Wp (World.observer ok upd) G Q (modify g) s w ↔ Q ⟨⟩ (g s) w :=
  wp_observer_pure (s := g s)

/-- The observer sees a request with its answer. -/
theorem wp_observer_ask_bind {e : E} {f : A e → Process S E A β} {R : β → S → σ → Prop} :
    Wp (World.observer ok upd) G R (ask e >>= f) s w ↔
      G s e w ∧ ∀ b : A e, ok ⟨(s, e), b⟩ →
        Wp (World.observer ok upd) G R (f b) s (upd w ⟨(s, e), b⟩) := by
  rw [wp_still_ask_bind observer_still]
  refine and_congr_right fun _ => forall_congr' fun b => ?_
  constructor
  · exact fun h hok => h _ ⟨hok, rfl⟩
  · rintro h _ ⟨hok, rfl⟩
    exact h hok

/-- The last request, under an observer. -/
theorem wp_observer_ask {e : E} {Q : A e → S → σ → Prop} :
    Wp (World.observer ok upd) G Q (ask e) s w ↔
      G s e w ∧ ∀ b : A e, ok ⟨(s, e), b⟩ → Q b s (upd w ⟨(s, e), b⟩) := by
  rw [← bind_pure (ask e), wp_observer_ask_bind]
  simp only [wp_observer_pure]

/-- `Program.meets_of_wp_observer` for a process. -/
theorem meets_of_wp_observer {Gm : S → E → Prop} {Qm : α → S → Prop}
    {upd : σ → Obs (S × E) (stamped A) → σ}
    (h : Wp (World.observer (fun _ => True) upd) (fun s e _ => Gm s e)
      (fun a s _ => Qm a s) x s w) :
    Meets x s Gm Qm :=
  Program.meets_of_wp_observer h

/-- The frame rule for an observer. -/
theorem wp_observer_of_meets {Gm : S → E → Prop} {Qm : α → S → Prop} {J : σ → Prop}
    (h : Meets x s Gm Qm) (hw : J w)
    (hupd : ∀ s e w b, Gm s e → ok ⟨(s, e), b⟩ → J w → J (upd w ⟨(s, e), b⟩)) :
    Wp (World.observer ok upd) (fun s e w => Gm s e ∧ J w) (fun a s w => Qm a s ∧ J w) x s w :=
  wp_of_meets h hw (fun _ _ hdrift => absurd hdrift id) fun s e w b _ hG ha hJ =>
    ha.2 ▸ hupd s e w b hG ha.1 hJ

end Process

end Reactive
