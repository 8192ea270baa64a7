import Hyprstate.Daemon.Worker
import Hyprstate.Panel.LastOutput
import Hyprstate.Reactive.Server

/-!
# The sole output

The dispatcher refuses to turn the panel off without an external monitor on record. The worker runs
the command later, behind others, and checks nothing again. So a monitor unplugged in between, or a
count on record that is out of date, has it disable the only output.

The dispatcher runs as a server in a world of the worker and the compositor's monitors. `SoleOutput`
is the safety property, `calm` the condition on the steps of a run that has it.
-/

namespace Hyprstate

open Reactive Process

/-- The external monitors that are really connected, the worker's queue, and what is left of the
command the worker runs. -/
structure Rig where
  ext : Nat
  queue : List Cmd
  worker : Program (Unit × Eff) (stamped Eff.Ans) (Unit × Unit)

namespace Rig

/-- Monitors come and go, and the worker runs its commands, each request answered by anything. -/
inductive Drift : Rig → Rig → Prop
  | plug {n q p} : Drift ⟨n, q, p⟩ ⟨n + 1, q, p⟩
  | unplug {n q p} : Drift ⟨n + 1, q, p⟩ ⟨n, q, p⟩
  | take {n cmd q r} : Drift ⟨n, cmd :: q, .ret r⟩ ⟨n, q, (EffectorWorker.run cmd).run ()⟩
  | work {n q r k} (b : stamped Eff.Ans r) : Drift ⟨n, q, .call r k⟩ ⟨n, q, k b⟩

/-- The queue takes a command or refuses it, and a listing of the monitors has those connected. Any
other request is answered by anything. -/
def Answer (r : Context × Eff) (w : Rig) (b : stamped Eff.Ans r) (w' : Rig) : Prop :=
  match r, b with
  | (_, .trySend cmd), taken => w' = if taken then { w with queue := w.queue ++ [cmd] } else w
  | (_, .monitors), some monitors => w' = w ∧ extMonitorCountIn (some monitors) 0 = w.ext
  | _, _ => w' = w

/-- The dispatcher's world. -/
def world : World (Context × Eff) (stamped Eff.Ans) Rig := ⟨Drift, Answer⟩

/-- What is left of a command may still disable the panel. -/
def canDisable (p : Program (Unit × Eff) (stamped Eff.Ans) (Unit × Unit)) : Prop :=
  ¬p.Meets (fun r => r.2 ≠ .hyprctlOk .disableEdp) fun _ => True

/-- A command to turn the panel off is queued or in the worker's hands. -/
def offPending (w : Rig) : Prop := Cmd.setEdp false ∈ w.queue ∨ canDisable w.worker

/-- The worker is at the call that disables the panel. -/
def atDisable (w : Rig) : Prop := ∃ k, w.worker = .call ((), .hyprctlOk .disableEdp) k

/-- A worker that is about to disable the panel has the command pending. -/
theorem atDisable.offPending {w : Rig} (h : w.atDisable) : w.offPending := by
  obtain ⟨k, hk⟩ := h
  refine .inr fun hmeets => ?_
  rw [hk] at hmeets
  exact hmeets.1 rfl

/-- No step unplugs the last external monitor while a command to turn the panel off is pending, and
such a command is queued only where the count on record is not out of date: where it has an external
monitor, there is one. -/
def calm : World (Context × Eff) (stamped Eff.Ans) Rig :=
  world.under (fun w w' => 0 < w.ext → w'.ext = 0 → ¬w.offPending)
    fun r w => r.2 = .trySend (.setEdp false) → 0 < r.1.extMonCount → 0 < w.ext

/-- Wherever the worker disables the panel, an external monitor is connected. -/
def SoleOutput (w : Rig) : Prop := w.atDisable → 0 < w.ext

/-- A pending command to turn the panel off has an external monitor beside it. -/
def Covered (w : Rig) : Prop := w.offPending → 0 < w.ext

/-- Where every pending disable is covered, so is the one that runs. -/
theorem Covered.soleOutput {w : Rig} (h : w.Covered) : w.SoleOutput := fun hd => h hd.offPending

/-- The monitors and the worker keep it between the turns. -/
theorem covered_drift (w w' : Rig) (h : calm.drift w w') (hw : w.Covered) : w'.Covered := by
  obtain ⟨hstep, hcalm⟩ := h
  cases hstep with
  | plug => exact fun _ => Nat.succ_pos _
  | @unplug n q p =>
    intro hoff
    refine Nat.pos_of_ne_zero fun hz => ?_
    exact hcalm (Nat.succ_pos n) hz hoff
  | @take n cmd q r =>
    rintro (hq | hcan)
    · exact hw (.inl (List.mem_cons_of_mem _ hq))
    · by_cases hcmd : cmd = .setEdp false
      · exact hw (.inl (hcmd ▸ List.mem_cons_self))
      · exact absurd (EffectorWorker.run_noDisable hcmd) hcan
  | @work n q r k b =>
    rintro (hq | hcan)
    · exact hw (.inl hq)
    · exact hw (.inr fun hmeets => hcan (hmeets.2 b))

/-- The dispatcher's side: the panel is turned off only with an external monitor on record. -/
def guarded (c : Context) (e : Eff) : Prop :=
  ∀ on, e = .trySend (.setEdp on) → on = true ∨ 0 < c.extMonCount

/-- So does a guarded request. -/
theorem covered_answer (c : Context) (e : Eff) (w : Rig) (b : stamped Eff.Ans (c, e)) (w' : Rig)
    (hg : guarded c e) (h : calm.answer (c, e) w b w') (hw : w.Covered) : w'.Covered := by
  obtain ⟨hstep, hcalm⟩ := h
  by_cases hoff : e = .trySend (.setEdp false)
  · have hpos : 0 < w.ext := hcalm hoff ((hg false hoff).resolve_left (by simp))
    subst hoff
    change w' = if b = true then _ else _ at hstep
    subst hstep
    intro _
    split_ifs <;> exact hpos
  · have hsame : ∀ cmd taken, e = .trySend cmd →
        w' = (if taken = true then { w with queue := w.queue ++ [cmd] } else w) →
        w'.Covered := by
      rintro cmd taken rfl rfl
      split_ifs
      · rintro (hq | hcan)
        · rcases List.mem_append.mp hq with hq | hq
          · exact hw (.inl hq)
          · exact absurd (congrArg Eff.trySend (List.mem_singleton.mp hq).symm) hoff
        · exact hw (.inr hcan)
      · exact hw
    have hkeep : w' = w → w'.Covered := fun h => h ▸ hw
    cases e with
    | trySend cmd => exact hsame cmd b rfl hstep
    | monitors =>
      cases b with
      | none => exact hkeep hstep
      | some monitors => exact hkeep hstep.1
    | _ => exact hkeep hstep

end Rig

section

variable (fx : Effectors)

/-- The dispatcher starts, beside an idle worker. -/
def rigStart (ext : Nat) : Config Context Eff Eff.Ans Rig :=
  ⟨fx.boot.run {}, ⟨ext, [], .ret ((), ())⟩⟩

/-- The start sends no disable that is not covered. -/
theorem boot_guarded (c : Context) : Meets fx.boot c Rig.guarded fun _ _ => True := by
  refine ((setup_spec fx c).mono (fun _ e he on heq => ?_) fun _ _ => id).bind ?_
  · subst heq
    exact absurd he (by simp [only])
  · intro ok c₁ _
    rw [meets_when]
    refine ⟨fun _ => (startup_spec fx c₁).mono (fun c' e he on heq => ?_) fun _ _ _ => trivial,
      fun _ => trivial⟩
    obtain ⟨hcount, hon⟩ := he.2 on heq
    rwa [hcount]

/-- Nor does a handler. -/
theorem handle_guarded (ev : Event) (c : Context) :
    Meets (fx.handle ev) c Rig.guarded fun _ _ => True :=
  (handle_spec fx c ev).mono (fun _ _ he => he.2) fun _ _ _ => trivial

/-- In every run whose steps are calm, whatever events are dispatched, the sole output is never
disabled. -/
theorem soleOutput_kept {ext : Nat} {c : Config Context Eff Eff.Ans Rig}
    (h : Config.Reaches Rig.calm (fun w (_ : Event) w' => w' = w) fx.handle (rigStart fx ext) c) :
    c.world.SoleOutput := by
  have hstart : (rigStart fx ext).world.Covered := by
    rintro (hq | hcan)
    · exact absurd hq List.not_mem_nil
    · exact absurd trivial hcan
  have htask : (rigStart fx ext).task.Meets (fun r => Rig.guarded r.1 r.2) fun _ => True :=
    boot_guarded fx {}
  have hdeliver : ∀ (w : Rig) (_ : Event) (w' : Rig), w' = w → w.Covered → w'.Covered := by
    rintro w - _ rfl hw
    exact hw
  exact (Config.keeps_of_reaches (I := fun _ => True) (fun ev s _ => handle_guarded fx ev s)
    Rig.covered_drift Rig.covered_answer hdeliver htask hstart h).1.soleOutput

end

/-! ## Losing the race -/

/-- The world of a docked laptop with its lid shut, where the queue takes every command. -/
def Rig.docked : (r : Context × Eff) → Rig → stamped Eff.Ans r × Rig
  | (_, .trySend cmd), w => (true, { w with queue := w.queue ++ [cmd] })
  | (_, .monitors), w => (some (List.replicate w.ext { name := "DP-1" }), w)
  | (_, e), w => (docking true e, w)

/-- The answers of the docked machine are answers of the rig. -/
theorem Rig.docked_answer (r : Context × Eff) (w : Rig) :
    Answer r w (docked r w).1 (docked r w).2 := by
  obtain ⟨c, e⟩ := r
  cases e with
  | monitors =>
    refine ⟨rfl, ?_⟩
    have hext : ∀ m ∈ List.replicate w.ext ({ name := "DP-1" } : MonitorSnapshot),
        (!("eDP".toList.isPrefixOf m.name.toList)) = true := by
      intro m hm
      rw [List.eq_of_mem_replicate hm]
      decide
    rw [extMonitorCountIn, List.filter_eq_self.mpr hext, List.length_replicate]
  | _ => rfl

/-- They leave the monitors. -/
theorem Rig.docked_ext (r : Context × Eff) (w : Rig) : (docked r w).2.ext = w.ext := by
  obtain ⟨c, e⟩ := r
  cases e <;> rfl

/-- The worker, at the call that disables the panel. -/
def Rig.disabling (ext : Nat) : Rig :=
  ⟨ext, [], .call ((), .hyprctlOk .disableEdp) fun _ => .ret ((), ())⟩

/-- A docked laptop starts with its lid shut, and its worker comes to disable the panel. -/
theorem docked_reaches : ∃ c, Config.Reaches Rig.calm (fun w (_ : Event) w' => w' = w)
    (Effectors.handle ⟨false, true⟩) (rigStart ⟨false, true⟩ 1)
    (Config.idle c (Rig.disabling 1)) := by
  have hcalm : ∀ (r : Context × Eff) (w : Rig), w.ext = 1 →
      Rig.calm.answer r w (Rig.docked r w).1 (Rig.docked r w).2 ∧ (Rig.docked r w).2.ext = 1 :=
    fun r w hw => ⟨⟨Rig.docked_answer r w, fun _ _ => hw ▸ Nat.one_pos⟩,
      (Rig.docked_ext r w).trans hw⟩
  have hboot : Config.Reaches Rig.calm (fun w (_ : Event) w' => w' = w)
      (Effectors.handle ⟨false, true⟩) (rigStart ⟨false, true⟩ 1) (Config.idle _ _) :=
    Config.reaches_exec hcalm ((Effectors.boot ⟨false, true⟩).run {}) _ rfl
  have hqueued : (((Effectors.boot ⟨false, true⟩).run {}).exec Rig.docked
      ⟨1, [], .ret ((), ())⟩).2.1 = ⟨1, [.setEdp false], .ret ((), ())⟩ := by rfl
  rw [hqueued] at hboot
  have hsteps : ∀ c : Context, Config.Reaches Rig.calm (fun w (_ : Event) w' => w' = w)
      (Effectors.handle ⟨false, true⟩) (Config.idle c ⟨1, [.setEdp false], .ret ((), ())⟩)
      (Config.idle c (Rig.disabling 1)) := by
    intro c
    have hstep : ∀ {q q' p p'}, Rig.Drift ⟨1, q, p⟩ ⟨1, q', p'⟩ →
        Config.Step Rig.calm (fun w (_ : Event) w' => w' = w) (Effectors.handle ⟨false, true⟩)
          (Config.idle c ⟨1, q, p⟩) (Config.idle c ⟨1, q', p'⟩) :=
      fun h => .drift ⟨h, fun _ hz => absurd hz (by simp)⟩
    refine .head (hstep .take) ?_
    refine .head (hstep (.work (r := ((), .monitorsAll)) (some [{ name := "eDP-2" }]))) ?_
    exact .single (hstep (.work (r := ((), .edpMarkerWrite)) true))
  exact ⟨_, hboot.trans (hsteps _)⟩

/-- The rule at the disable of a docked laptop: a monitor is connected. -/
theorem soleOutput_kept_docked :
    (Rig.disabling 1).atDisable ∧ (Rig.disabling 1).SoleOutput := by
  obtain ⟨c, h⟩ := docked_reaches
  exact ⟨⟨_, rfl⟩, soleOutput_kept ⟨false, true⟩ h⟩

/-- Unplugged between the guard and the worker, the sole output is disabled. -/
theorem not_soleOutput : ¬∀ (fx : Effectors) (ext : Nat) (c : Config Context Eff Eff.Ans Rig),
    Config.Reaches Rig.world (fun w (_ : Event) w' => w' = w) fx.handle (rigStart fx ext) c →
    c.world.SoleOutput := by
  intro h
  obtain ⟨c, hreach⟩ := docked_reaches
  have hunplug := (Config.reaches_of_under hreach).tail
    (.drift (.unplug (n := 0)) : Config.Step Rig.world _ _ _ (Config.idle c (Rig.disabling 0)))
  exact absurd (h _ _ _ hunplug ⟨_, rfl⟩) (Nat.lt_irrefl 0)

end Hyprstate
