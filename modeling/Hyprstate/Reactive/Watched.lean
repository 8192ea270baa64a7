import Mathlib.Tactic.Common

/-!
# Watched values

A value that anybody may write, and two parties that keep a copy of it. The watcher compares the
value with what it read last, and sends a message on a change. The keeper takes the messages in
order; it also writes the value itself, its own copy first. So the watcher never compares with the
copy it is there to keep right.

The keeper copies what the value means to it, `mean`, and not the value. A write of its own that
fails may leave anything, so `own` takes what is left and what was meant apart.

`due` is what the keeper's copy comes to once the messages are taken. `Sound` is what the parties
keep: where the value is what the watcher read last, the copy that is due is what that means. The
keeper's own writes keep it; a write of a third party that puts back what was read last may break
it.
-/

namespace Reactive

/-- A value, what the watcher read last, the keeper's copy of what it means, and whether the value
was written since the watcher read it. -/
structure Watched (α β : Type) where
  value : α
  last : α
  held : β
  written : Bool := false

namespace Watched

variable {α β Ev : Type}

/-- A third party writes the value. -/
def write (v : α) (w : Watched α β) : Watched α β := { w with value := v, written := true }

/-- The keeper means the value to be `v`, and what its write leaves is `left`. Its copy is moved in
any case. -/
def own (left : α) (v : β) (w : Watched α β) : Watched α β :=
  { w with value := left, held := v, written := true }

/-- The watcher reads the value. -/
def check (w : Watched α β) : Watched α β := { w with last := w.value, written := false }

/-- The keeper reads the value by itself. -/
def seed (mean : α → β) (w : Watched α β) : Watched α β := { w with held := mean w.value }

section

variable (mean : α → β) (hear : Ev → Option β)

/-- The copy once a message was taken; a message that is not heard leaves it. -/
def heard (v : β) (ev : Ev) : β := (hear ev).getD v

/-- The keeper takes a message. -/
def take (ev : Ev) (w : Watched α β) : Watched α β := { w with held := heard hear w.held ev }

/-- What the keeper's copy comes to once the messages are taken. -/
def due (msgs : List Ev) (w : Watched α β) : β := msgs.foldl (heard hear) w.held

/-- Some message will be heard. -/
def UnderWay (msgs : List Ev) : Prop := ∃ ev ∈ msgs, (hear ev).isSome = true

/-- A write that puts back what the watcher read last is made only where the copy is due there. -/
def Timely (msgs : List Ev) (w w' : Watched α β) : Prop :=
  w'.value ≠ w.value → w'.value = w.last → w.due hear msgs = mean w.last

/-- What the keeper's own write leaves is what the watcher read last only where the copy is meant to
be that, or where a message is under way. -/
def Lands (msgs : List Ev) (left : α) (v : β) (w : Watched α β) : Prop :=
  left = w.last → v = mean w.last ∨ UnderWay hear msgs

/-- What the watcher and the keeper keep of each other. -/
structure Sound (msgs : List Ev) (w : Watched α β) : Prop where
  /-- The last message under way is what was read last. -/
  sent : UnderWay hear msgs → w.due hear msgs = mean w.last
  /-- What the watcher will not notice needs no notice. -/
  unnoticed : w.value = w.last → w.due hear msgs = mean w.last
  /-- A value that nobody wrote is what was read last. -/
  read : w.written = false → w.value = w.last

end

variable {mean : α → β} {hear : Ev → Option β} {msgs msgs' : List Ev} {w : Watched α β} {left : α}
  {v : β} {ev : Ev}

/-- The messages are taken in order. -/
theorem due_append : w.due hear (msgs ++ msgs') = msgs'.foldl (heard hear) (w.due hear msgs) :=
  List.foldl_append

/-- A message that is not heard may stand anywhere. -/
theorem due_insert (hev : hear ev = none) :
    w.due hear (msgs ++ ev :: msgs') = w.due hear (msgs ++ msgs') := by
  rw [due_append, due_append, List.foldl_cons, heard, hev, Option.getD_none]

/-- A message that is not heard is not under way. -/
theorem underWay_insert (hev : hear ev = none) :
    UnderWay hear (msgs ++ ev :: msgs') ↔ UnderWay hear (msgs ++ msgs') := by
  simp only [UnderWay, List.mem_append, List.mem_cons]
  constructor
  · rintro ⟨ev', hmem, hsome⟩
    refine ⟨ev', ?_, hsome⟩
    rcases hmem with h | rfl | h
    · exact .inl h
    · exact absurd hsome (by simp [hev])
    · exact .inr h
  · rintro ⟨ev', h | h, hsome⟩
    · exact ⟨ev', .inl h, hsome⟩
    · exact ⟨ev', .inr (.inr h), hsome⟩

/-- With a message under way, the copy that is held now does not matter. -/
theorem due_of_underWay (h : UnderWay hear msgs) (w' : Watched α β) :
    w'.due hear msgs = w.due hear msgs := by
  have hfold : ∀ (l : List Ev) (u u' : β), (∃ ev ∈ l, (hear ev).isSome = true) →
      l.foldl (heard hear) u' = l.foldl (heard hear) u := by
    intro l
    induction l with
    | nil =>
      rintro _ _ ⟨_, hmem, -⟩
      exact absurd hmem List.not_mem_nil
    | cons ev l ih =>
      rintro u u' ⟨ev', hmem, hsome⟩
      simp only [List.foldl_cons]
      -- the first message that is heard forgets the copy; before it the copies stay apart
      cases hev : hear ev with
      | some x => simp only [heard, hev, Option.getD_some]
      | none =>
        rcases List.mem_cons.mp hmem with rfl | hmem
        · exact absurd hsome (by simp [hev])
        · exact ih _ _ ⟨ev', hmem, hsome⟩
  exact hfold msgs w.held w'.held h

/-- Without one, it is what is due. -/
theorem due_of_not_underWay (h : ¬UnderWay hear msgs) : w.due hear msgs = w.held := by
  have hfold : ∀ (l : List Ev) (u : β), (¬∃ ev ∈ l, (hear ev).isSome = true) →
      l.foldl (heard hear) u = u := by
    intro l
    induction l with
    | nil => exact fun _ _ => rfl
    | cons ev l ih =>
      intro u hnone
      have hev : hear ev = none :=
        Option.not_isSome_iff_eq_none.mp fun hs => hnone ⟨ev, List.mem_cons_self, hs⟩
      rw [List.foldl_cons, heard, hev, Option.getD_none]
      refine ih u ?_
      rintro ⟨ev', hmem, hs⟩
      exact hnone ⟨ev', List.mem_cons_of_mem _ hmem, hs⟩
  exact hfold msgs w.held h

/-- A write that leaves what it meant lands. -/
theorem Lands.of_mean (h : mean left = v) : w.Lands mean hear msgs left v := by
  rintro rfl
  exact .inl h.symm

namespace Sound

/-- A timely write is noticed, or needs no notice. -/
theorem write {v : α} (h : w.Sound mean hear msgs) (ht : w.Timely mean hear msgs (w.write v)) :
    (w.write v).Sound mean hear msgs where
  sent := h.sent
  unnoticed hv := by
    have hvalue : v = w.last := hv
    by_cases hsame : v = w.value
    · exact h.unnoticed (hsame.symm.trans hvalue)
    · exact ht hsame hvalue
  read h := by cases h

/-- The keeper's own write moves the copy, and a message under way overrules both copies. -/
theorem own (h : w.Sound mean hear msgs) (hl : w.Lands mean hear msgs left v) :
    (w.own left v).Sound mean hear msgs where
  sent hway := (due_of_underWay hway (w.own left v)).trans (h.sent hway)
  unnoticed hv := by
    by_cases hway : UnderWay hear msgs
    · exact (due_of_underWay hway (w.own left v)).trans (h.sent hway)
    · rw [due_of_not_underWay hway]
      exact (hl hv).resolve_right hway
  read h := by cases h

/-- The watcher finds a change, and sends what it read. -/
theorem changed (hev : hear ev = some (mean w.value)) :
    w.check.Sound mean hear (msgs ++ [ev]) := by
  have hdue : w.check.due hear (msgs ++ [ev]) = mean w.value := by
    rw [due_append, List.foldl_cons, List.foldl_nil, heard, hev, Option.getD_some]
  exact ⟨fun _ => hdue, fun _ => hdue, fun _ => rfl⟩

/-- The watcher reads what is due. It does so in particular where it finds no change. -/
theorem begun (h : mean w.value = w.due hear msgs) : w.check.Sound mean hear msgs :=
  ⟨fun _ => h.symm, fun _ => h.symm, fun _ => rfl⟩

/-- The watcher finds no change. -/
theorem unchanged (h : w.Sound mean hear msgs) (hv : w.value = w.last) :
    w.check.Sound mean hear msgs :=
  begun ((congrArg mean hv).trans (h.unnoticed hv).symm)

/-- A message that is not heard may be sent at any time. -/
theorem insert (h : w.Sound mean hear (msgs ++ msgs')) (hev : hear ev = none) :
    w.Sound mean hear (msgs ++ ev :: msgs') where
  sent hway := (due_insert hev).trans (h.sent ((underWay_insert hev).mp hway))
  unnoticed hv := (due_insert hev).trans (h.unnoticed hv)
  read := h.read

/-- The keeper takes the first message. -/
theorem take (h : w.Sound mean hear (ev :: msgs)) : (w.take hear ev).Sound mean hear msgs where
  sent hway := h.sent (hway.imp fun _ hmem => ⟨List.mem_cons_of_mem _ hmem.1, hmem.2⟩)
  unnoticed := h.unnoticed
  read := h.read

/-- Once the watcher has read what was written last, and the messages are taken, the copy is what
the value means. -/
theorem converged (h : w.Sound mean hear []) (hread : w.written = false) :
    w.held = mean w.value := by
  have hlast : w.value = w.last := h.read hread
  exact (h.unnoticed hlast).trans (congrArg mean hlast.symm)

end Sound

end Watched

end Reactive
