import Hyprstate.Reactive.Server
import Hyprstate.Safety.Suspend

/-!
# A withdrawn request

The request file is checked again when the dispatch of an expiry begins, and the lock is proven
after that. Whoever removes the file in between comes too late: the machine suspends on the request
that was checked. Nothing else suspends it on a request that does not stand (`justified_iff`).
-/

namespace Hyprstate

open Reactive Process

/-- A call of Suspend: the context it was made in, and how the request file stood. -/
structure SuspendCall where
  context : Context
  standing : Bool
  withdrawn : Bool

/-- The request file, and what the running dispatch knows of it. -/
structure RequestFile where
  standing : Bool
  /-- The dispatch found the file standing. -/
  checked : Bool := false
  /-- It was removed since, and is absent. -/
  withdrawn : Bool := false
  calls : List SuspendCall := []

namespace RequestFile

/-- Somebody removes the file. -/
def remove (w : RequestFile) : RequestFile :=
  { w with standing := false, withdrawn := w.withdrawn || w.checked && w.standing }

/-- Somebody writes the file. -/
def write (w : RequestFile) : RequestFile := { w with standing := true, withdrawn := false }

/-- Other programs remove and write the file at any time. -/
inductive Moves : RequestFile → RequestFile → Prop
  | remove {w : RequestFile} : Moves w w.remove
  | write {w : RequestFile} : Moves w w.write

/-- The request's file, which others write and remove at any moment. -/
def world : World (Context × Eff) (stamped Eff.Ans) RequestFile where
  drift := Moves
  answer
    | (_, .suspendRequestExists), w, standing, w' =>
      standing = w.standing ∧ w' = { w with checked := w.checked || w.standing }
    | (_, .suspendRequestWrite _), w, ok, w' => w' = if ok then w.write else w
    | (_, .suspendRequestRemove), w, ok, w' => w' = if ok then { w with standing := false } else w
    | (c, .suspend), w, _, w' => w' = { w with calls := ⟨c, w.standing, w.withdrawn⟩ :: w.calls }
    | _, w, _, w' => w' = w

/-- Any event may come next. -/
def deliver (w : RequestFile) (_ : Event) (w' : RequestFile) : Prop :=
  w' = { w with checked := false, withdrawn := false }

/-- The lid alone justifies a suspend. -/
def LidAlone (c : Context) : Prop := lidWantsSleep c ∧ claimGoverns c.world = false

/-- Where the file was absent at the call, the lid alone justified it, unless the request was
withdrawn under the dispatch. -/
def Exact (s : SuspendCall) : Prop :=
  (s.standing = false → LidAlone s.context) ↔ (s.withdrawn = true → LidAlone s.context)

/-- A withdrawn file is absent, and the calls so far were exact. -/
structure Sound (w : RequestFile) : Prop where
  absent : w.withdrawn = true → w.standing = false
  calls : ∀ s ∈ w.calls, Exact s

/-- The dispatch found the file standing, and if it does not stand any more it was withdrawn. -/
def Watched (w : RequestFile) : Prop :=
  w.checked = true ∧ (w.standing = true ∨ w.withdrawn = true)

/-- What others do keeps the file sound. -/
theorem sound_moves {w w' : RequestFile} (h : Moves w w') (hw : Sound w) : Sound w' := by
  cases h with
  | remove => exact ⟨fun _ => rfl, hw.calls⟩
  | write => exact ⟨fun h => absurd h (by simp [write]), hw.calls⟩

/-- And watched. -/
theorem watched_moves {w w' : RequestFile} (h : Moves w w') (hw : Watched w) : Watched w' := by
  obtain ⟨hchecked, hstands⟩ := hw
  cases h with
  | remove =>
    refine ⟨hchecked, .inr ?_⟩
    show (w.withdrawn || w.checked && w.standing) = true
    rcases hstands with hs | hs <;> simp [hchecked, hs]
  | write => exact ⟨hchecked, .inl rfl⟩

/-- So does a request that is not the suspend. -/
theorem sound_answer {c : Context} {e : Eff} {w w' : RequestFile} {b : stamped Eff.Ans (c, e)}
    (he : e ≠ .suspend) (h : world.answer (c, e) w b w') (hw : Sound w) : Sound w' := by
  cases e with
  | suspend => exact absurd rfl he
  | suspendRequestExists =>
    obtain ⟨-, rfl⟩ : _ ∧ w' = _ := h
    exact ⟨hw.absent, hw.calls⟩
  | suspendRequestWrite body =>
    obtain rfl : w' = if b then w.write else w := h
    cases b
    · exact hw
    · exact sound_moves .write hw
  | suspendRequestRemove =>
    obtain rfl : w' = if b then { w with standing := false } else w := h
    cases b
    · exact hw
    · exact ⟨fun _ => rfl, hw.calls⟩
  | _ =>
    obtain rfl : w' = w := h
    exact hw

/-- And one of another resource. -/
theorem watched_answer {c : Context} {e : Eff} {w w' : RequestFile} {b : stamped Eff.Ans (c, e)}
    (he : e.resource ≠ .requestFile) (h : world.answer (c, e) w b w') (hw : Watched w) :
    Watched w' := by
  cases e with
  | suspendRequestWrite _ | suspendRequestRemove => exact absurd rfl he
  | suspendRequestExists =>
    obtain ⟨-, rfl⟩ : _ ∧ w' = _ := h
    exact ⟨by simp [hw.1], hw.2⟩
  | _ =>
    obtain rfl : w' = _ := h
    exact hw

/-- A call in a countdown without a governing claim is exact, where a request is one that was
checked. -/
theorem exact_of_countdown {c : Context} {w : RequestFile} (hw : Sound w)
    (hworld : worldState c.world = .countdown) (hreq : c.suspendRequested = true → Watched w) :
    Exact ⟨c, w.standing, w.withdrawn⟩ := by
  obtain ⟨hclaim, hwhy⟩ := (worldState_eq_countdown_iff _).mp hworld
  rcases hwhy with hr | hlid
  · -- The request was found standing: absent and withdrawn are the same.
    have hsame : w.standing = false ↔ w.withdrawn = true := by
      constructor
      · intro hs
        exact (hreq hr).2.resolve_left (by simp [hs])
      · exact hw.absent
    exact imp_congr_left hsame
  · have halone : LidAlone c := ⟨hlid, hclaim⟩
    exact ⟨fun _ _ => halone, fun _ _ => halone⟩

section

variable (fx : Effectors)

/-- A piece that cannot suspend. -/
theorem quiet_sound {α : Type} {x : Daemon α} {c : Context} {w : RequestFile} {rs : List Resource}
    {Q : α → Context → Prop} (hx : Meets x c (fun _ e => e.resource ∈ rs) Q)
    (hrs : Resource.suspend ∉ rs) (hw : Sound w) :
    Wp world (fun _ _ _ => True) (fun a c' w' => Q a c' ∧ Sound w') x c w := by
  refine (wp_of_meets (J := Sound) hx hw (fun _ _ => sound_moves) ?_).mono
    (fun _ _ _ _ => trivial) fun _ _ _ => id
  intro c' e w₁ b w₂ he hanswer
  refine sound_answer ?_ hanswer
  rintro rfl
  exact hrs he

/-- The machine, evaluated on an expiry, suspends in the world it found. -/
theorem evaluateFsms_sound (c : Context) {w : RequestFile} (hw : Sound w)
    (hreq : c.suspendRequested = true → Watched w) :
    Wp world (fun _ _ _ => True) (fun _ _ w' => Sound w') (fx.evaluateFsms .timerExpired) c w := by
  have hsuspends : Meets (fx.evaluateFsms .timerExpired) c
      (fun c' e => e = .suspend → onlyTimers c c' ∧ worldState c.world = .countdown)
      fun _ _ => True :=
    meets_of_wp_observer (evaluateFsms_atSuspend fx c [] fun t c' hc' _ hworld _ => ⟨hc', hworld⟩)
  have hresources : Meets (fx.evaluateFsms .timerExpired) c
      (fun _ e => e.resource ∈ entryResources ++ suspendResources) fun _ _ => True :=
    (evaluateFsms_timerExpired_spec fx c).mono (fun _ _ h => h.1) fun _ _ _ => trivial
  refine (wp_of_meets (J := fun w => Sound w ∧ (c.suspendRequested = true → Watched w))
    (hsuspends.and hresources) ⟨hw, hreq⟩ ?_ ?_).mono (fun _ _ _ _ => trivial) fun _ _ _ h => h.2.1
  · rintro w₁ w₂ hstep ⟨hw₁, hreq₁⟩
    exact ⟨sound_moves hstep hw₁, fun hr => watched_moves hstep (hreq₁ hr)⟩
  · rintro c' e w₁ b w₂ ⟨hsus, hres⟩ hanswer ⟨hw₁, hreq₁⟩
    by_cases he : e = .suspend
    · subst he
      obtain ⟨⟨t, cw, rfl⟩, hworld⟩ := hsus rfl
      obtain rfl : w₂ = _ := hanswer
      refine ⟨⟨hw₁.absent, fun s hs => ?_⟩, hreq₁⟩
      rcases List.mem_cons.mp hs with rfl | hs
      · exact exact_of_countdown hw₁ hworld hreq₁
      · exact hw₁.calls s hs
    · refine ⟨sound_answer he hanswer hw₁, fun hr => watched_answer ?_ hanswer (hreq₁ hr)⟩
      exact fun h => absurd (h ▸ hres) (by simp [entryResources, suspendResources])

/-- A turn makes exact calls only. -/
theorem handle_sound (c : Context) (ev : Event) {w : RequestFile} (hw : Sound w) :
    Wp world (fun _ _ _ => True) (fun _ _ w' => Sound w') (fx.handle ev) c w := by
  by_cases hev : ev = .timerExpired
  · subst hev
    -- From the check of the file on, the turn suspends only with a request that it found standing.
    have hrest : ∀ (c₁ : Context) (w₁ : RequestFile), Sound w₁ →
        (c₁.suspendRequested = true → Watched w₁) →
        Wp world (fun _ _ _ => True) (fun _ _ w' => Sound w')
          (do fx.evaluateFsms .timerExpired; fx.syncWaybar) c₁ w₁ := by
      intro c₁ w₁ hw₁ hreq
      refine (evaluateFsms_sound fx c₁ hw₁ hreq).bind ?_
      rintro _ c₂ w₂ hw₂
      exact (quiet_sound (syncWaybar_spec fx c₂) (by simp) hw₂).mono (fun _ _ _ => id)
        fun _ _ _ h => h.2
    simp only [Effectors.handle, Effectors.dispatch, Effectors.dispatchUpdate, bind_assoc]
    rw [wp_get_bind, wp_bind, wp_when]
    constructor
    · -- The check of the file, before anything is awaited.
      intro hr
      refine (wp_ask_bind (e := Eff.suspendRequestExists)).mpr fun w₁ h₁ => ⟨trivial, ?_⟩
      rintro standing w₂ ⟨hstanding, rfl⟩
      have hw₁ : Sound w₁ := h₁.keeps (fun _ _ => sound_moves) hw
      have hw₂ : Sound { w₁ with checked := w₁.checked || w₁.standing } := ⟨hw₁.absent, hw₁.calls⟩
      cases standing with
      | true =>
        have hwatched : Watched { w₁ with checked := w₁.checked || w₁.standing } :=
          ⟨by simp [← hstanding], .inl hstanding.symm⟩
        intro w₃ h₃
        exact hrest c w₃ (h₃.keeps (fun _ _ => sound_moves) hw₂)
          fun _ => h₃.keeps (fun _ _ => watched_moves) hwatched
      | false =>
        intro w₃ h₃
        exact hrest { c with suspendRequested := false } w₃ (h₃.keeps (fun _ _ => sound_moves) hw₂)
          fun h => absurd h (by simp)
    · intro hr w₁ h₁
      exact hrest c w₁ (h₁.keeps (fun _ _ => sound_moves) hw) fun h =>
        absurd (hr.symm.trans h) (by simp)
  · have hspec := handle_spec fx c ev
    rw [if_neg hev] at hspec
    exact (quiet_sound (hspec.mono (fun _ _ h => h.1) fun _ _ => id)
      (by simp [eventResources]) hw).mono
      (fun _ _ _ => id) fun _ _ _ h => h.2

/-- The daemon starts beside a request file that stands or not. -/
def start (standing : Bool) : Config Context Eff Eff.Ans RequestFile :=
  ⟨fx.boot.run {}, { standing := standing }⟩

/-- In every run, each call of Suspend is justified by the lid alone where the request file is
absent, exactly when the request was not withdrawn between its check and the call or the lid alone
justifies it. -/
theorem justified_iff {standing : Bool} {c : Context} {w : RequestFile}
    (h : Config.Reaches world deliver fx.handle (start fx standing) (Config.idle c w))
    {s : SuspendCall} (hs : s ∈ w.calls) :
    (s.standing = false → LidAlone s.context) ↔ (s.withdrawn = true → LidAlone s.context) := by
  have htake : ∀ (c : Context) (w : RequestFile) (ev : Event) (w' : RequestFile), Sound w →
      deliver w ev w' →
      Wp world (fun _ _ _ => True) (fun _ _ w' => Sound w') (fx.handle ev) c w' := by
    rintro c w ev _ hw rfl
    exact handle_sound fx c ev ⟨fun h => absurd h (by simp), hw.calls⟩
  have hinit : (start fx standing).task.Wp world (fun _ _ => True) (fun _ w => Sound w)
      (start fx standing).world := by
    have hsound : Sound { standing := standing } :=
      ⟨fun h => absurd h (by simp), fun s hs => absurd hs List.not_mem_nil⟩
    have hboot : Wp world (fun _ _ _ => True) (fun _ _ w' => Sound w') fx.boot {}
        { standing := standing } := by
      refine (quiet_sound (setup_spec fx {}) (by simp) hsound).bind ?_
      rintro ok c w₁ ⟨-, hw₁⟩
      rw [wp_when]
      refine ⟨fun _ => ?_, fun _ w₂ hdrift => hdrift.keeps (fun _ _ => sound_moves) hw₁⟩
      exact (quiet_sound ((startup_spec fx c).mono (fun _ _ h => h.1) fun _ _ => id)
        (by simp [eventResources]) hw₁).mono (fun _ _ _ => id) fun _ _ _ h => h.2
    exact hboot
  exact (Config.inv_of_reaches_idle (s := c) (w := w) htake hinit h).calls s hs

end

/-! ## A removal during the lock proof -/

/-- The world of a quiet machine with a live locker; the file is removed as the locker is probed, or
not. -/
def locking (gone : Bool) : (r : Context × Eff) → RequestFile → stamped Eff.Ans r × RequestFile
  | (_, .lockedHint), w => (some true, if gone then w.remove else w)
  | (_, .hyprctlLocked), w => (some "true", w)
  | (_, .suspendRequestExists), w => (w.standing, { w with checked := w.checked || w.standing })
  | (_, .suspendRequestWrite _), w => (true, w.write)
  | (_, .suspendRequestRemove), w => (true, { w with standing := false })
  | (c, .suspend), w => (true, { w with calls := ⟨c, w.standing, w.withdrawn⟩ :: w.calls })
  | (_, e), w => (e.quiet, w)

/-- The answers of the run are the file's. -/
theorem locking_answer (gone : Bool) (r : Context × Eff) (w : RequestFile) (_ : True) :
    (∃ w₁, world.Drifts w w₁ ∧ world.answer r w₁ (locking gone r w).1 (locking gone r w).2) ∧
    True := by
  refine ⟨?_, trivial⟩
  obtain ⟨c, e⟩ := r
  cases e with
  | lockedHint =>
    cases gone
    · exact ⟨w, .refl, rfl⟩
    · exact ⟨w.remove, .single .remove, rfl⟩
  | _ => first | exact ⟨w, .refl, rfl⟩ | exact ⟨w, .refl, rfl, rfl⟩

/-- The context after a piece of the dispatcher's code in that world, and the world. -/
def after (gone : Bool) (x : Daemon Unit) (p : Context × RequestFile) : Context × RequestFile :=
  (((x.run p.1).exec (locking gone) p.2).1.2, ((x.run p.1).exec (locking gone) p.2).2.1)

/-- A program that runs to its end under them. -/
theorem reaches_after (gone : Bool) (x : Daemon Unit) (p : Context × RequestFile) :
    Config.Reaches world deliver (Effectors.handle ⟨false, true⟩) ⟨x.run p.1, p.2⟩
      (Config.idle (after gone x p).1 (after gone x p).2) :=
  Config.reaches_exec_drifts (locking_answer gone) (x.run p.1) p.2 trivial

/-- An event is taken and dispatched. -/
def turn (gone : Bool) (ev : Event) (p : Context × RequestFile) : Context × RequestFile :=
  after gone ((⟨false, true⟩ : Effectors).handle ev)
    (p.1, { p.2 with checked := false, withdrawn := false })

/-- One turn of the loop. -/
theorem reaches_turn (gone : Bool) (ev : Event) (p : Context × RequestFile) :
    Config.Reaches world deliver (Effectors.handle ⟨false, true⟩) (Config.idle p.1 p.2)
      (Config.idle (turn gone ev p).1 (turn gone ev p).2) := by
  have htake : deliver p.2 ev { p.2 with checked := false, withdrawn := false } := rfl
  exact .head (.take htake)
    (reaches_after gone _ (p.1, { p.2 with checked := false, withdrawn := false }))

/-- The daemon has started. -/
def booted : Context × RequestFile :=
  after false (Effectors.boot ⟨false, true⟩) ({}, { standing := false })

/-- The file was written, and the dispatcher knows. -/
def requested : Context × RequestFile :=
  turn false (.suspendRequestChanged (some "idle")) (booted.1, booted.2.write)

/-- The grace timer has expired. -/
def expired (gone : Bool) : Context × RequestFile := turn gone .timerExpired requested

/-- The turns to the timer's expiry. -/
theorem reaches_expired (gone : Bool) :
    Config.Reaches world deliver (Effectors.handle ⟨false, true⟩) (start ⟨false, true⟩ false)
      (Config.idle (expired gone).1 (expired gone).2) := by
  have hbooted : Config.Reaches world deliver (Effectors.handle ⟨false, true⟩)
      (start ⟨false, true⟩ false) (Config.idle booted.1 booted.2) :=
    reaches_after false (Effectors.boot ⟨false, true⟩) ({}, { standing := false })
  have hwritten := hbooted.tail (.drift .write)
  exact (hwritten.trans (reaches_turn false _ (booted.1, booted.2.write))).trans
    (reaches_turn gone .timerExpired requested)

/-- A request that stands through the dispatch. -/
theorem justified_iff_standing : ∃ c w s, Config.Reaches world deliver
    (Effectors.handle ⟨false, true⟩) (start ⟨false, true⟩ false) (Config.idle c w) ∧ s ∈ w.calls ∧
    ((s.standing = false → LidAlone s.context) ↔ (s.withdrawn = true → LidAlone s.context)) := by
  have hone : ((expired false).2.calls.map SuspendCall.standing) = [true] := by decide +kernel
  obtain ⟨s, hs, -⟩ := List.mem_map.mp (show true ∈ (expired false).2.calls.map SuspendCall.standing
    from hone ▸ List.mem_singleton_self true)
  exact ⟨_, _, s, reaches_expired false, hs,
    justified_iff ⟨false, true⟩ (reaches_expired false) hs⟩

/-- The user returns while the lock is proven, and the machine suspends with its lid open. -/
theorem not_justified : ¬∀ (fx : Effectors) (standing : Bool) (c : Context) (w : RequestFile),
    Config.Reaches world deliver fx.handle (start fx standing) (Config.idle c w) →
    ∀ s ∈ w.calls, s.standing = false → LidAlone s.context := by
  intro h
  have hone : ((expired true).2.calls.map fun s => (s.standing, s.context.lidClosed)) =
      [(false, false)] := by decide +kernel
  obtain ⟨s, hs, hcall⟩ := List.mem_map.mp (show (false, false) ∈
    (expired true).2.calls.map fun s => (s.standing, s.context.lidClosed)
    from hone ▸ List.mem_singleton_self _)
  obtain ⟨hstanding, hopen⟩ := Prod.mk.inj hcall
  obtain ⟨⟨hclosed, -⟩, -⟩ := h _ _ _ _ (reaches_expired true) s hs hstanding
  exact absurd (hopen.symm.trans hclosed) (by simp)

end RequestFile

end Hyprstate
