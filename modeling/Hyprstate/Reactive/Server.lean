import Hyprstate.Reactive.World

/-!
# Servers

A server takes events one at a time and runs a process for each, while the world drifts. A `Config`
is what is left of the process that runs now, and the world. Between events the process is a plain
return.

There are two ways to an invariant of every reachable configuration. `Config.wp_of_reaches` carries
a weakest precondition: an invariant that ties the server's state to the world is kept by each
event's process as a whole. `Config.keeps_of_reaches` carries a contract and a property of the world
alone.
-/

namespace Reactive

variable {S E : Type} {A : E → Type} {Ev σ : Type}

/-- A server at work: the rest of the running process, and the world. -/
structure Config (S E : Type) (A : E → Type) (σ : Type) where
  task : Program (S × E) (stamped A) (Unit × S)
  world : σ

namespace Config

/-- The server that waits for an event in the state `s`. -/
def idle (s : S) (w : σ) : Config S E A σ := ⟨.ret ((), s), w⟩

/-- One step: of the other parties, of the running process, or the next event is taken. -/
inductive Step (W : World (S × E) (stamped A) σ) (deliver : σ → Ev → σ → Prop)
    (handle : Ev → Process S E A Unit) : Config S E A σ → Config S E A σ → Prop
  | drift {p : Program (S × E) (stamped A) (Unit × S)} {w w' : σ} :
      W.drift w w' → Step W deliver handle ⟨p, w⟩ ⟨p, w'⟩
  | answer {r : S × E} {k : stamped A r → Program (S × E) (stamped A) (Unit × S)} {w w' : σ}
      {b : stamped A r} :
      W.answer r w b w' → Step W deliver handle ⟨.call r k, w⟩ ⟨k b, w'⟩
  | take {s : S} {w w' : σ} {ev : Ev} :
      deliver w ev w' → Step W deliver handle (idle s w) ⟨(handle ev).run s, w'⟩

/-- The configurations reachable by any number of steps. -/
abbrev Reaches (W : World (S × E) (stamped A) σ) (deliver : σ → Ev → σ → Prop)
    (handle : Ev → Process S E A Unit) : Config S E A σ → Config S E A σ → Prop :=
  Relation.ReflTransGen (Step W deliver handle)

variable {W : World (S × E) (stamped A) σ} {deliver : σ → Ev → σ → Prop}
  {handle : Ev → Process S E A Unit} {c c' : Config S E A σ}

/-- An invariant of the server's state and the world that each event's process keeps holds whenever
the server is idle, and the rest of the running process keeps it. -/
theorem wp_of_reaches {Inv : S → σ → Prop} {G : S → E → σ → Prop}
    (htake : ∀ s w ev w', Inv s w → deliver w ev w' →
      Process.Wp W G (fun _ => Inv) (handle ev) s w')
    (hinit : c.task.Wp W (fun r w => G r.1 r.2 w) (fun r w => Inv r.2 w) c.world)
    (hreach : Reaches W deliver handle c c') :
    c'.task.Wp W (fun r w => G r.1 r.2 w) (fun r w => Inv r.2 w) c'.world := by
  induction hreach with
  | refl => exact hinit
  | tail _ hstep ih =>
    cases hstep with
    | drift h => exact ih.drifts (.single h)
    | answer h => exact (ih _ .refl).2 _ _ h
    | take h => exact htake _ _ _ _ (ih _ .refl) h

/-- In particular the invariant holds of an idle server. -/
theorem inv_of_reaches_idle {Inv : S → σ → Prop} {G : S → E → σ → Prop} {s : S} {w : σ}
    (htake : ∀ s w ev w', Inv s w → deliver w ev w' →
      Process.Wp W G (fun _ => Inv) (handle ev) s w')
    (hinit : c.task.Wp W (fun r w => G r.1 r.2 w) (fun r w => Inv r.2 w) c.world)
    (hreach : Reaches W deliver handle c (idle s w)) : Inv s w :=
  wp_of_reaches htake hinit hreach w .refl

/-- A property of the world that the drift, the delivery of events and the requests of a contract
keep holds in every reachable configuration, and the rest of the running process meets the
contract. -/
theorem keeps_of_reaches {Gm : S → E → Prop} {I : S → Prop} {J : σ → Prop}
    (hhandle : ∀ ev s, I s → Process.Meets (handle ev) s Gm fun _ => I)
    (hdrift : ∀ w w', W.drift w w' → J w → J w')
    (hanswer : ∀ s e w b w', Gm s e → W.answer (s, e) w b w' → J w → J w')
    (hdeliver : ∀ w ev w', deliver w ev w' → J w → J w')
    (hinit : c.task.Meets (fun r => Gm r.1 r.2) fun r => I r.2) (hworld : J c.world)
    (hreach : Reaches W deliver handle c c') :
    J c'.world ∧ c'.task.Meets (fun r => Gm r.1 r.2) fun r => I r.2 := by
  induction hreach with
  | refl => exact ⟨hworld, hinit⟩
  | tail _ hstep ih =>
    cases hstep with
    | drift h => exact ⟨hdrift _ _ h ih.1, ih.2⟩
    | @answer r _ _ _ _ h => exact ⟨hanswer r.1 r.2 _ _ _ ih.2.1 h ih.1, ih.2.2 _⟩
    | take h => exact ⟨hdeliver _ _ _ h ih.1, hhandle _ _ ih.2⟩

/-- The other parties may act any number of times. -/
theorem reaches_of_drifts {p : Program (S × E) (stamped A) (Unit × S)} {w w' : σ}
    (h : W.Drifts w w') : Reaches W deliver handle ⟨p, w⟩ ⟨p, w'⟩ := by
  induction h with
  | refl => exact .refl
  | tail _ hstep ih => exact ih.tail (.drift hstep)

/-- A run whose steps meet a condition is a run. -/
theorem reaches_of_under {D : σ → σ → Prop} {G : S × E → σ → Prop}
    (h : Reaches (W.under D G) deliver handle c c') : Reaches W deliver handle c c' := by
  refine Relation.ReflTransGen.mono (fun _ _ hstep => ?_) _ _ h
  cases hstep with
  | drift h => exact .drift h.1
  | answer h => exact .answer h.1
  | take h => exact .take h

/-- A server against a deterministic world, where the other parties may act before each answer: what
its running process does is reachable. -/
theorem reaches_exec_drifts {world : (r : S × E) → σ → stamped A r × σ} {I : σ → Prop}
    (hworld : ∀ r w, I w → (∃ w₁, W.Drifts w w₁ ∧ W.answer r w₁ (world r w).1 (world r w).2) ∧
      I (world r w).2)
    (p : Program (S × E) (stamped A) (Unit × S)) (w : σ) (hw : I w) :
    Reaches W deliver handle ⟨p, w⟩ (idle (p.exec world w).1.2 (p.exec world w).2.1) := by
  induction p generalizing w with
  | ret a => exact .refl
  | call r k ih =>
    obtain ⟨⟨w₁, hdrift, hanswer⟩, hkeep⟩ := hworld r w hw
    exact (reaches_of_drifts hdrift).trans (.head (.answer hanswer) (ih _ _ hkeep))

/-- The same where they stand still. -/
theorem reaches_exec {world : (r : S × E) → σ → stamped A r × σ} {I : σ → Prop}
    (hworld : ∀ r w, I w → W.answer r w (world r w).1 (world r w).2 ∧ I (world r w).2)
    (p : Program (S × E) (stamped A) (Unit × S)) (w : σ) (hw : I w) :
    Reaches W deliver handle ⟨p, w⟩ (idle (p.exec world w).1.2 (p.exec world w).2.1) :=
  reaches_exec_drifts
    (fun r w hw => ⟨⟨w, .refl, (hworld r w hw).1⟩, (hworld r w hw).2⟩) p w hw

/-- The same in a world under a condition that the execution is checked against. -/
theorem reaches_exec_of_passes {world : (r : S × E) → σ → stamped A r × σ}
    {check : S × E → σ → Bool}
    (hworld : ∀ r w, check r w = true → W.answer r w (world r w).1 (world r w).2)
    (p : Program (S × E) (stamped A) (Unit × S)) (w : σ) (hp : p.passes world check w = true) :
    Reaches W deliver handle ⟨p, w⟩ (idle (p.exec world w).1.2 (p.exec world w).2.1) := by
  induction p generalizing w with
  | ret a => exact .refl
  | call r k ih =>
    obtain ⟨hr, hrest⟩ := Bool.and_eq_true_iff.mp hp
    exact .head (.answer (hworld r w hr)) (ih _ _ hrest)

end Config

end Reactive
