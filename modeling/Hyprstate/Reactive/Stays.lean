import Hyprstate.Reactive.World

/-!
# Invariants that an observer watches

An observer is told each request with its answer, and moves its own state by them. `Stays ok upd G I
x` says that the process `x`, from any state and observer that satisfy `I`, makes only requests that
satisfy the guard `G` when they are made, and leaves a state and an observer that satisfy `I` again.
It composes along the operations of the monad. `Stays.of_leaves` frames the pieces that keep the
view of the state which `I` reads and make no request that matters to it.
-/

namespace Reactive

section

variable {σ α β : Type} {f : σ → α → σ} {P : σ → α → Prop} {w : σ}

/-- Each element of the list satisfies `P` with the state that those before it lead to. -/
def Along (f : σ → α → σ) (P : σ → α → Prop) : σ → List α → Prop
  | _, [] => True
  | w, a :: l => P w a ∧ Along f P (f w a) l

/-- A list in two parts. -/
theorem along_append {l l' : List α} :
    Along f P w (l ++ l') ↔ Along f P w l ∧ Along f P (l.foldl f w) l' := by
  induction l generalizing w with
  | nil => simp [Along]
  | cons a l ih => rw [List.cons_append, Along, ih, List.foldl_cons, Along, and_assoc]

/-- Elements that are mapped first. -/
theorem along_map {g : β → α} {l : List β} :
    Along f P w (l.map g) ↔ Along (fun w b => f w (g b)) (fun w b => P w (g b)) w l := by
  induction l generalizing w with
  | nil => rfl
  | cons b l ih => rw [List.map_cons, Along, ih, Along]

/-- What holds along a list holds of each element, after those before it. -/
theorem along_iff_split {l : List α} :
    Along f P w l ↔ ∀ pre a post, l = pre ++ a :: post → P (pre.foldl f w) a := by
  constructor
  · rintro h pre a post rfl
    exact (along_append.mp h).2.1
  · intro h
    induction l generalizing w with
    | nil => trivial
    | cons a l ih =>
      refine ⟨h [] a l rfl, ih fun pre b post heq => ?_⟩
      exact h (a :: pre) b post (by rw [heq, List.cons_append])

end

namespace Process

variable {S E : Type} {A : E → Type} {σ α β : Type}

/-- From where `I` holds, every request satisfies `G`, and `I` holds on return. -/
def Stays (ok : Obs (S × E) (stamped A) → Prop) (upd : σ → Obs (S × E) (stamped A) → σ)
    (G : S → E → σ → Prop) (I : S → σ → Prop) (x : Process S E A α) : Prop :=
  ∀ s w, I s w → Wp (World.observer ok upd) G (fun _ s' w' => I s' w') x s w

namespace Stays

variable {ok : Obs (S × E) (stamped A) → Prop} {upd : σ → Obs (S × E) (stamped A) → σ}
  {G : S → E → σ → Prop} {I : S → σ → Prop} {x : Process S E A α} {f : α → Process S E A β}

/-- A value stays. -/
theorem pure (a : α) : Stays ok upd G I (pure a : Process S E A α) := fun _ _ hI =>
  wp_observer_pure.mpr hI

/-- A sequence stays where both parts do. -/
theorem bind (hx : Stays ok upd G I x) (hf : ∀ a, Stays ok upd G I (f a)) :
    Stays ok upd G I (x >>= f) :=
  fun s w hI => (hx s w hI).bind fun a s' w' hI' => hf a s' w' hI'

/-- After a read of the state the process goes on from there. -/
theorem get_bind {f : S → Process S E A β} (hf : ∀ s, Stays ok upd G I (f s)) :
    Stays ok upd G I (get >>= f) := fun s w hI => hf s s w hI

/-- A change of the state that keeps the invariant, before the rest. -/
theorem modify_bind {g : S → S} {f : PUnit → Process S E A β} (hg : ∀ s w, I s w → I (g s) w)
    (hf : Stays ok upd G I (f ⟨⟩)) : Stays ok upd G I (modify g >>= f) := fun s w hI =>
  hf (g s) w (hg s w hI)

/-- A change of the state that keeps the invariant. -/
theorem modify {g : S → S} (hg : ∀ s w, I s w → I (g s) w) :
    Stays ok upd G I (modify g : Process S E A PUnit) := fun s w hI =>
  wp_observer_modify.mpr (hg s w hI)

/-- A write of a state computed from the one that was read. -/
theorem get_set_bind {g : S → S} {f : S → PUnit → Process S E A β} (hg : ∀ s w, I s w → I (g s) w)
    (hf : ∀ s, Stays ok upd G I (f s ⟨⟩)) : Stays ok upd G I (get >>= fun s => set (g s) >>= f s) :=
  fun s w hI => hf s (g s) w (hg s w hI)

/-- A request that the invariant allows, and whose answer keeps it. -/
theorem ask {e : E} (hG : ∀ s w, I s w → G s e w)
    (hI : ∀ s w b, I s w → ok ⟨(s, e), b⟩ → I s (upd w ⟨(s, e), b⟩)) :
    Stays ok upd G I (ask e : Process S E A (A e)) := fun s w h =>
  wp_observer_ask.mpr ⟨hG s w h, fun b hok => hI s w b h hok⟩

/-- A process that may be skipped. -/
theorem when {x : Process S E A Unit} (p : Bool) (hx : Stays ok upd G I x) :
    Stays ok upd G I (Process.when p x) := by
  cases p
  · exact pure ()
  · exact hx

/-- A branch. -/
theorem ite {p : Prop} [Decidable p] {y : Process S E A α} (hx : Stays ok upd G I x)
    (hy : Stays ok upd G I y) : Stays ok upd G I (if p then x else y) := by
  split
  · exact hx
  · exact hy

/-- A piece that keeps the view of the state and makes no request of `R`, for an invariant of the
view that the other requests do not move. -/
theorem of_leaves {V : Type} {R : E → Prop} {v : S → V} {J : V → σ → Prop} (hx : Leaves R v x)
    (hG : ∀ s e w, ¬R e → G s e w)
    (hupd : ∀ a s e w b, ¬R e → ok ⟨(s, e), b⟩ → J a w → J a (upd w ⟨(s, e), b⟩)) :
    Stays ok upd G (fun s w => J (v s) w) x := by
  intro s w hJ
  refine (wp_observer_of_meets (J := fun w => J (v s) w) (hx s) hJ ?_).mono
    (fun s' e w' h => hG s' e w' h.1) ?_
  · exact fun s' e w' b he hok => hupd (v s) s' e w' b he hok
  · rintro a s' w' ⟨hv, hJ'⟩
    rwa [hv]

/-- What moves no view of the state keeps a property of the view too. -/
theorem and_view {V : Type} {R : E → Prop} {v : S → V} {p : V → Prop} (hx : Stays ok upd G I x)
    (hv : Leaves R v x) : Stays ok upd G (fun s w => I s w ∧ p (v s)) x := by
  rintro s w ⟨hI, hp⟩
  refine ((hx s w hI).and_meets (hv s)).mono (fun _ _ _ => id) ?_
  rintro a s' w' ⟨hI', hkeep⟩
  exact ⟨hI', hkeep ▸ hp⟩

end Stays

/-- What a run does whose requests satisfy the guard and whose end satisfies `I`. -/
theorem Runs.along_of_wp {ok : Obs (S × E) (stamped A) → Prop}
    {upd : σ → Obs (S × E) (stamped A) → σ} {G : S → E → σ → Prop} {I : S → σ → Prop}
    {x : Process S E A α} {s s' : S} {w : σ} {tr : List (Obs (S × E) (stamped A))} {a : α}
    (hr : Runs x s tr a s') (h : Wp (World.observer ok upd) G (fun _ s' w' => I s' w') x s w)
    (hok : ∀ o ∈ tr, ok o) :
    Along upd (fun w o => G o.1.1 o.1.2 w) w tr ∧ I s' (tr.foldl upd w) := by
  obtain ⟨hG, hI⟩ := Program.Runs.of_wp_observer hr hok h
  exact ⟨along_iff_split.mpr hG, hI⟩

end Process

end Reactive
