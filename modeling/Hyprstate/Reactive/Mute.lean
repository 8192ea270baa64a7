import Hyprstate.Reactive.Process

/-!
# Programs with some requests cut

`Program.mute ans p` is the program `p` without the requests that `ans` has an answer for: instead
of making one it goes on with that answer. Muting commutes with sequencing, so a program is muted
piece by piece, and `runs_mute` says what is left: the runs of the muted program are those of the
program in which the cut requests got the answer of `ans`, with these requests taken out of the
trace.
-/

namespace Reactive

namespace Program

variable {E : Type} {A : E → Type} {α β : Type} {ans : (e : E) → Option (A e)}

/-- The program without the requests that `ans` answers. -/
def mute (ans : (e : E) → Option (A e)) : Program E A α → Program E A α
  | .ret a => .ret a
  | .call e k =>
    match ans e with
    | some b => (k b).mute ans
    | none => .call e fun b => (k b).mute ans

/-- Each request of the trace that `ans` answers got that answer. -/
def Pretends (ans : (e : E) → Option (A e)) (tr : List (Obs E A)) : Prop :=
  ∀ o ∈ tr, ∀ b, ans o.1 = some b → o.2 = b

/-- The trace without the requests that `ans` answers. -/
def heard (ans : (e : E) → Option (A e)) (tr : List (Obs E A)) : List (Obs E A) :=
  tr.filter fun o => (ans o.1).isNone

/-- A request that is answered for is left out. -/
theorem mute_call_of_some {e : E} {b : A e} (he : ans e = some b) (k : A e → Program E A α) :
    (call e k).mute ans = (k b).mute ans := by
  simp only [mute, he]

/-- Any other is made. -/
theorem mute_call_of_none {e : E} (he : ans e = none) (k : A e → Program E A α) :
    (call e k).mute ans = call e fun b => (k b).mute ans := by
  simp only [mute, he]

/-- A program that makes no cut request is left as it is. -/
theorem mute_of_meets {Q : α → Prop} {p : Program E A α} (h : p.Meets (fun e => ans e = none) Q) :
    p.mute ans = p := by
  induction p with
  | ret a => rfl
  | call e k ih => rw [mute_call_of_none h.1, funext fun b => ih b (h.2 b)]

/-- Muting goes through a sequence. -/
theorem mute_bind (p : Program E A α) (f : α → Program E A β) :
    (p.bind f).mute ans = (p.mute ans).bind fun a => (f a).mute ans := by
  induction p with
  | ret a => rfl
  | call e k ih =>
    cases he : ans e with
    | some b => rw [bind, mute_call_of_some he, mute_call_of_some he, ih]
    | none => simp only [bind, mute_call_of_none he, ih]

/-- A trace in two parts. -/
theorem Pretends.append {tr tr' : List (Obs E A)} :
    Pretends ans (tr ++ tr') ↔ Pretends ans tr ∧ Pretends ans tr' := by
  simp only [Pretends, List.mem_append, or_imp, forall_and]

/-- What is heard of a trace in two parts. -/
@[simp] theorem heard_append (tr tr' : List (Obs E A)) :
    heard ans (tr ++ tr') = heard ans tr ++ heard ans tr' := List.filter_append ..

/-- A request that is answered for is not heard. -/
theorem heard_cons_of_some {e : E} {b : A e} (he : ans e = some b) (b' : A e)
    (tr : List (Obs E A)) : heard ans (⟨e, b'⟩ :: tr) = heard ans tr := by
  simp [heard, he]

/-- Any other is. -/
theorem heard_cons_of_none {e : E} (he : ans e = none) (b : A e) (tr : List (Obs E A)) :
    heard ans (⟨e, b⟩ :: tr) = ⟨e, b⟩ :: heard ans tr := by
  simp [heard, he]

/-- A run of the program in which the cut requests got the answer of `ans` is one of the muted
program. -/
theorem Runs.mute {p : Program E A α} {tr : List (Obs E A)} {a : α} (h : Runs p tr a)
    (htr : Pretends ans tr) : Runs (p.mute ans) (heard ans tr) a := by
  induction h with
  | ret a => exact .ret a
  | @call e k b tr a _ ih =>
    have hrest : Pretends ans tr := fun o ho => htr o (List.mem_cons_of_mem _ ho)
    cases he : ans e with
    | some b' =>
      obtain rfl : b = b' := htr _ List.mem_cons_self b' he
      rw [mute_call_of_some he, heard_cons_of_some he]
      exact ih hrest
    | none =>
      rw [mute_call_of_none he, heard_cons_of_none he]
      exact .call b (ih hrest)

/-- A run of the muted program is one of the program, with the cut requests put back. -/
theorem exists_runs_of_mute {p : Program E A α} {tr : List (Obs E A)} {a : α}
    (h : Runs (p.mute ans) tr a) : ∃ tr', Runs p tr' a ∧ Pretends ans tr' ∧ heard ans tr' = tr := by
  induction p generalizing tr with
  | ret =>
    cases h
    exact ⟨[], .ret _, by simp [Pretends], rfl⟩
  | call e k ih =>
    cases he : ans e with
    | some b =>
      rw [mute_call_of_some he] at h
      obtain ⟨tr', hruns, hans, rfl⟩ := ih b h
      refine ⟨⟨e, b⟩ :: tr', .call b hruns, ?_, heard_cons_of_some he b tr'⟩
      rw [Pretends, List.forall_mem_cons]
      exact ⟨fun b' hb' => Option.some.inj (he.symm.trans hb'), hans⟩
    | none =>
      rw [mute_call_of_none he] at h
      cases h with
      | call b h =>
        obtain ⟨tr', hruns, hans, rfl⟩ := ih b h
        refine ⟨⟨e, b⟩ :: tr', .call b hruns, ?_, heard_cons_of_none he b tr'⟩
        rw [Pretends, List.forall_mem_cons]
        exact ⟨fun b' hb' => absurd (he.symm.trans hb') (by simp), hans⟩

/-- A muted program runs as the program does that is answered so, and is heard in part. -/
theorem runs_mute {p : Program E A α} {tr : List (Obs E A)} {a : α} :
    Runs (p.mute ans) tr a ↔ ∃ tr', Runs p tr' a ∧ Pretends ans tr' ∧ heard ans tr' = tr := by
  constructor
  · exact exists_runs_of_mute
  · rintro ⟨tr', hruns, hans, rfl⟩
    exact hruns.mute hans

end Program

namespace Process

variable {S E : Type} {A : E → Type} {α β : Type} {ans : (e : E) → Option (A e)}

/-- `Program.mute` for a process. -/
def mute (ans : (e : E) → Option (A e)) (x : Process S E A α) : Process S E A α :=
  fun s => (x.run s).mute fun r => ans r.2

/-- A muted process runs as the process does that is answered so, and is heard in part. -/
theorem runs_mute {x : Process S E A α} {s s' : S} {tr : List (Obs (S × E) (stamped A))} {a : α} :
    Runs (mute ans x) s tr a s' ↔
      ∃ tr', Runs x s tr' a s' ∧ Program.Pretends (fun r : S × E => ans r.2) tr' ∧
        Program.heard (fun r : S × E => ans r.2) tr' = tr :=
  Program.runs_mute

/-! ### Muting piece by piece -/

/-- A value. -/
@[simp] theorem mute_pure (a : α) : mute ans (pure a : Process S E A α) = pure a := rfl

/-- A sequence. -/
@[simp] theorem mute_bind (x : Process S E A α) (f : α → Process S E A β) :
    mute ans (x >>= f) = mute ans x >>= fun a => mute ans (f a) :=
  funext fun s => Program.mute_bind (x.run s) _

/-- Reading the state. -/
@[simp] theorem mute_get : mute ans (get : Process S E A S) = get := rfl

/-- Setting it. -/
@[simp] theorem mute_set (s : S) : mute ans (set s : Process S E A PUnit) = set s := rfl

/-- Changing it. -/
@[simp] theorem mute_modify (g : S → S) :
    mute ans (modify g : Process S E A PUnit) = modify g := rfl

/-- A branch. -/
@[simp] theorem mute_ite {p : Prop} [Decidable p] (x y : Process S E A α) :
    mute ans (if p then x else y) = if p then mute ans x else mute ans y := by
  split <;> rfl

/-- A process that may be skipped. -/
@[simp] theorem mute_when (p : Bool) (x : Process S E A Unit) :
    mute ans (when p x) = when p (mute ans x) := by
  cases p <;> rfl

/-- A function of the value. -/
@[simp] theorem mute_map (g : α → β) (x : Process S E A α) :
    mute ans (g <$> x) = g <$> mute ans x := by
  rw [map_eq_pure_bind, map_eq_pure_bind, mute_bind]
  rfl

/-- A process that makes no cut request is left as it is. -/
theorem mute_of_avoids {x : Process S E A α} (hx : Avoids (fun e => ans e ≠ none) x) :
    mute ans x = x :=
  funext fun s => Program.mute_of_meets (Q := fun _ => True)
    (Program.Meets.mono (hx s) (fun _ he => not_not.mp he) fun _ _ => trivial)

/-- A cut request goes on with its answer. -/
theorem mute_ask_of_some {e : E} {b : A e} (he : ans e = some b) :
    mute ans (ask e : Process S E A (A e)) = pure b :=
  funext fun s => @Program.mute_call_of_some (S × E) (fun r => A r.2) _
    (fun r => ans r.2) (s, e) b he _

/-- The body of a loop is muted at each element. -/
theorem mute_forM {ι : Type} (body : ι → Process S E A PUnit) (l : List ι) :
    mute ans (l.forM body) = l.forM fun i => mute ans (body i) := by
  induction l with
  | nil => rfl
  | cons i l ih =>
    show mute ans (body i >>= fun _ => l.forM body) = _
    rw [mute_bind, ih]
    rfl

end Process

end Reactive
