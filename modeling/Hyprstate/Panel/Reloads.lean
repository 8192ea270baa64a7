import Hyprstate.Panel.Echoes

/-!
# Reloads

How many reloads the loop of `Panel/Loop.lean` runs when nothing comes in from outside. A report of
a reload is paid for by what it reports, and an event of the loop's own is free where it finds
nothing new, so what is in flight bounds the reloads that are to come: the storm is excluded, but
for two shapes. A re-assert that wants a panel on which each reload turns off again runs a reload
for each reload. And two profiles that match in turn, as one turns the panel off that the other
matches on, have each other applied.

`Steady` is the condition that leaves those shapes out, and `Idle` that of a pass of the reconciler
that finds nothing. `reloads_bounded` is the theorem about their runs. It starts from any context
and with anything in flight, so it says the same of a run from its last turn that is not steady.
-/

namespace Hyprstate

open Reactive Process

namespace Loop

variable {ok : DaemonObs → Prop} {bound n k r ext : Nat} {m : Flight.Mode} {c c' : Context}
  {w w' w₀ : Loop} {e : Eff} {fx : Effectors} {chosen : Option MonitorProfile}

/-! ## What is paid for in advance -/

/-- An event that is worth more than a budget leaves the dispatcher with it. -/
theorem Bounded.take {ev : Event} {rest : List Event} (hevents : w.events = ev :: rest)
    (hworth : n < worth ev) (hw : Bounded bound m r w) :
    Bounded bound .busy n { w with events := rest } := by
  have hstirred : (flight n { w with events := rest }).potential .busy + 1 ≤
      (w.flight r).potential m := by
    refine Flight.potential_stirred ?_ ?_ ?_ ?_
    · simp only [flight, hevents, worths_cons]
      omega
    · exact Nat.le_succ _
    · exact Nat.le_succ _
    · simp only [flight, hevents, List.countP_cons]
      omega
  unfold Bounded at hw ⊢
  dsimp only
  omega

/-- A request within what is left of the budget. -/
theorem Bounded.answer {b : stamped Eff.Ans (c, e)} (hle : cost e ≤ n) (hq : e.resource ≠ .queue)
    (ha : world.answer (c, e) w b w') (hw : Bounded bound .busy n w) :
    Bounded bound .busy (n - cost e) w' := by
  by_cases hfree : cost e = 0
  · obtain ⟨hflight, hreloads⟩ := answer_flight (n := n) hfree hq ha
    unfold Bounded at hw ⊢
    rw [hfree, Nat.sub_zero, hflight, hreloads]
    exact hw
  have hpos : 0 < cost e := Nat.pos_of_ne_zero hfree
  have hspent : ∀ w' : Loop, (w'.flight (n - cost e)).potential .busy ≤
      (w.flight n).potential .busy →
      w'.reloads = w.reloads → Bounded bound .busy (n - cost e) w' := by
    intro w' hpot hreloads
    calc (w'.flight (n - cost e)).potential .busy + w'.reloads
        ≤ (w.flight n).potential .busy + w'.reloads := Nat.add_le_add_right hpot _
      _ = (w.flight n).potential .busy + w.reloads := by rw [hreloads]
      _ ≤ bound := hw
  have hless : (w.flight (n - cost e)).level < (w.flight n).level := by
    simp only [flight]
    omega
  have hrefused : (w.flight (n - cost e)).potential .busy ≤ (w.flight n).potential .busy :=
    Nat.le_of_succ_le (Flight.potential_stirred hless (Nat.le_succ _) (Nat.le_succ _)
      (Nat.le_add_right _ _))
  rcases eq_of_cost hfree with ⟨on, rfl⟩ | rfl | ⟨delay, ev, rfl⟩
  · rcases answer_trySend ha with rfl | rfl
    · exact hspent _ hrefused rfl
    · refine hspent _ (Nat.le_of_succ_le
        (Flight.potential_stirred ?_ ?_ ?_ (Nat.le_add_right _ _))) rfl
      · simpa [flight] using hless
      · cases on <;> simp [flight]
      · cases on <;> simp [flight]
  · rcases answer_trySend ha with rfl | rfl
    · exact hspent _ hrefused rfl
    · -- the apply in the queue is worth the command that queued it
      have hsame : flight (n - 1) { w with cmds := w.cmds ++ [.applyProfile] } = w.flight n := by
        have hn : 1 ≤ n := hle
        simp [flight]
        omega
      exact hspent _ (Nat.le_of_eq (congrArg _ hsame)) rfl
  · obtain rfl : w' = { w with timers := w.timers ++ [ev] } := ha
    cases hev : reasserts ev with
    | true =>
      refine hspent _ (Nat.le_of_succ_le (Flight.potential_stirred ?_ (Nat.le_succ _)
        (Nat.le_succ _) ?_)) rfl
      · simpa [flight, worth_of_reasserts hev] using hless
      · simp [flight, hev]
        omega
    | false =>
      -- and so is the event of a timer
      have hcost : cost (.spawnTimer delay ev) = worth ev := by simp [cost, hev]
      have hsame : flight (n - cost (.spawnTimer delay ev)) { w with timers := w.timers ++ [ev] } =
          w.flight n := by
        rw [hcost] at hle ⊢
        simp [flight, hev]
        omega
      exact hspent _ (Nat.le_of_eq (congrArg _ hsame)) rfl

/-- The other parties act while the dispatcher is busy. -/
theorem Bounded.drift (hw : Bounded bound .busy n w) (h : Drift w w') :
    Bounded bound .busy n w' ∧ w'.config = w.config := by
  have hpaid : Paid n .busy w w' := h.paid ⟨by simp, by simp⟩
  exact ⟨Nat.le_trans hpaid.paid hw, hpaid.config⟩

/-- However long they do. -/
theorem Bounded.drifts (hw : Bounded bound .busy n w) (h : (world.admitting ok).Drifts w w') :
    Bounded bound .busy n w' ∧ w'.config = w.config :=
  h.keeps (J := fun w' => Bounded bound .busy n w' ∧ w'.config = w.config)
    (fun _ _ hstep hw₁ => ⟨(hw₁.1.drift hstep).1, (hw₁.1.drift hstep).2.trans hw₁.2⟩) ⟨hw, rfl⟩

/-- A piece whose costs are paid for. Only a repoint moves the config. -/
theorem Bounded.pays {α : Type} {x : Daemon α} {G : Context → Eff → Prop} {Q : α → Context → Prop}
    (hx : Costs cost n x) (hm : Meets x c G Q) (hqueue : ∀ s e, G s e → e.resource ≠ .queue)
    (hw : Bounded bound .busy (k + n) w) :
    Wp (world.admitting ok) (fun _ _ _ => True) (fun a c' w' => Q a c' ∧
      ((∀ s e, G s e → Calm e) → w'.config = w.config) ∧ Bounded bound .busy k w') x c w := by
  refine (hx.wp (W := world.admitting ok) (J := fun n w' => Bounded bound .busy (k + n) w' ∧
    ((∀ s e, G s e → Calm e) → w'.config = w.config)) hm ⟨hw, fun _ => rfl⟩ ?_ ?_).mono
    (fun _ _ _ _ => trivial) ?_
  · rintro n w₁ w₂ hstep ⟨hw₁, hc⟩
    obtain ⟨hw₂, hstill⟩ := hw₁.drift hstep
    exact ⟨hw₂, fun h => hstill.trans (hc h)⟩
  · rintro n s e w₁ b w₂ hle he ha ⟨hw₁, hc⟩
    refine ⟨?_, fun h => (answer_config (h s e he).2 ha.1).trans (hc h)⟩
    have hspent := hw₁.answer (Nat.le_trans hle (Nat.le_add_left n k)) (hqueue s e he) ha.1
    rwa [Nat.add_sub_assoc hle] at hspent
  · rintro a c' w' ⟨ha, n, hw', hc⟩
    exact ⟨ha, hc, hw'.lower (Nat.le_add_right k n)⟩

/-- What holds after a piece, whatever it is answered. -/
theorem of_wp_any {x : Daemon Unit} {tr : List DaemonObs} {Q : Unit → Context → Loop → Prop}
    (h : Execs world x c w tr () c' w')
    (hx : Wp (world.admitting fun _ => True) (fun _ _ _ => True) Q x c w) : Q () c' w' :=
  (h.admitting fun _ _ => trivial).of_wp hx

/-- The turn of an event that is worth something. -/
theorem turn_other {ev : Event} {tr : List DaemonObs}
    (hw : Bounded bound .busy (24 + (armBudget ev + 1)) w)
    (h : Execs world (fx.handle ev) c w tr () c' w') : Rested fx ext chosen bound c' w' := by
  have hqueue : ∀ (c : Context) (e : Eff), safely (if ev = .timerExpired then
      eventResources ++ [.lock, .suspend] else eventResources) c e → e.resource ≠ .queue := by
    intro c e he hq
    have hres := he.1
    rw [hq] at hres
    split_ifs at hres <;> simp [eventResources] at hres
  obtain ⟨-, -, hw'⟩ := of_wp_any h (hw.pays (handle_costs fx ev) (handle_spec fx c ev) hqueue)
  exact hw'.settle (reserve_le fx ext chosen c' w')

/-! ## What is free -/

namespace Rested

variable (hw : Rested fx ext chosen bound c w)

include hw

/-- At rest the dispatcher has nothing to answer. -/
theorem answering : Answering bound (w.mode fx c) (reserve fx ext chosen c w) w 0 w := by
  refine ⟨?_, rfl, fits_mode w fx c⟩
  rw [Nat.zero_mul, Nat.add_zero]
  exact hw

/-- To a context of the same mode, with no larger reserve. -/
theorem lower (hmode : w.mode fx c' = w.mode fx c)
    (h : reserve fx ext chosen c' w ≤ reserve fx ext chosen c w) :
    Rested fx ext chosen bound c' w := by
  unfold Rested
  rw [hmode]
  exact Bounded.lower hw h

/-- To a context of which the same is seen. -/
theorem of_seen (h : seen c' = seen c) : Rested fx ext chosen bound c' w :=
  hw.lower (mode_of_seen h) (Nat.le_of_eq (reserve_of_seen h))

end Rested

/-- What was answered is at rest again. -/
theorem Answering.rested
    (h : Answering bound (w₀.mode fx c) (reserve fx ext chosen c w₀) w₀ n w) :
    Rested fx ext chosen bound c w := by
  unfold Rested
  rw [mode_of_config h.config, reserve_of_config h.config]
  exact Nat.le_trans (Nat.add_le_add_right (Nat.le_add_right _ _) _) h.paid

/-- The other parties act. -/
theorem Rested.drift (hw : Rested fx ext chosen bound c w) (h : Drift w w') :
    Rested fx ext chosen bound c w' := (hw.answering.drift h).rested

/-- However long they do. -/
theorem Rested.drifts (hw : Rested fx ext chosen bound c w) (h : (world.admitting ok).Drifts w w') :
    Rested fx ext chosen bound c w' := h.keeps (fun _ _ hstep hw => hw.drift hstep) hw

/-- A free piece leaves what is at rest in the context before it. -/
theorem Rested.free {α : Type} {x : Daemon α} {Q : α → Context → Prop} (hx : Meets x c' Free Q)
    (hw : Rested fx ext chosen bound c w) :
    Wp (world.admitting ok) (fun _ _ _ => True) (fun a c₁ w' => Q a c₁ ∧ w'.config = w.config ∧
      Rested fx ext chosen bound c w') x c' w :=
  (hw.answering.free hx).mono (fun _ _ _ _ => trivial) fun _ _ _ h => ⟨h.1, h.2.config, h.2.rested⟩

/-- A free request, whatever it is answered. -/
theorem Rested.asks {α : Type} {e : Eff} {f : e.Ans → Daemon α} {R : α → Context → Loop → Prop}
    (hw : Rested fx ext chosen bound c w) (he : Free c' e)
    (h : ∀ b w', ok ⟨(c', e), b⟩ → w'.config = w.config →
      Rested fx ext chosen bound c w' → Wp (world.admitting ok) (fun _ _ _ => True) R (f b) c' w') :
    Wp (world.admitting ok) (fun _ _ _ => True) R (request e >>= f) c' w := by
  refine (wp_ask_bind (e := e)).mpr fun w₁ hdrift => ⟨trivial, fun b w₂ ha => ?_⟩
  have hw₁ := hw.answering.drifts hdrift
  have hw₂ := hw₁.answer_free he ha.1
  exact h b w₂ ha.2 hw₂.config hw₂.rested

/-- And one that changes nothing of what is seen leaves it at rest. -/
theorem Rested.unseen {x : Daemon Unit} (hx : Meets x c Free fun _ c' => seen c' = seen c)
    (hw : Rested fx ext chosen bound c w) :
    Wp (world.admitting ok) (fun _ _ _ => True)
      (fun _ c' w' => w'.config = w.config ∧ Rested fx ext chosen bound c' w') x c w :=
  (hw.free hx).mono (fun _ _ _ _ => trivial) fun _ _ _ h => ⟨h.2.1, h.2.2.of_seen h.1⟩

/-- The dispatcher does nothing for now. -/
theorem Rested.stays (hw : Rested fx ext chosen bound c w) {a : Unit} :
    Wp (world.admitting ok) (fun _ _ _ => True)
      (fun _ c' w' => Rested fx ext chosen bound c' w') (pure a) c w :=
  fun _ hdrift => hw.drifts hdrift

/-- A reserve that falls pays for a command, and for whatever the config is then. -/
theorem Rested.pays {α : Type} {x : Daemon α} {G : Context → Eff → Prop} {Q : α → Context → Prop}
    (hw : Rested fx ext chosen bound c w) (hx : Costs cost 1 x) (hm : Meets x c G Q)
    (hcalm : ∀ s e, G s e → Calm e)
    (hk : k + 2 ≤ reserve fx ext chosen c w)
    (hlow : ∀ a c', Q a c' → reserve fx ext chosen c' w ≤ k) :
    Wp (world.admitting ok) (fun _ _ _ => True)
      (fun _ c' w' => Rested fx ext chosen bound c' w') x c w := by
  have hbusy : Bounded bound .busy (k + 1) w := Bounded.stir hw hk
  refine (hbusy.pays hx hm fun s e he => (hcalm s e he).1).mono (fun _ _ _ _ => trivial) ?_
  rintro a c' w' ⟨ha, hc, hw'⟩
  refine hw'.settle ?_
  rw [reserve_of_config (hc hcalm)]
  exact hlow a c' ha

/-! ## The machine -/

/-- What is kept back for a machine that is to be settled. -/
theorem reserve_unsettled (hunsettled : unsettled c = true) : 4 ≤ reserve fx ext chosen c w := by
  unfold reserve
  rw [hunsettled, Bool.toNat_true]
  omega

/-- A machine that settles gives it back. -/
theorem reserve_settled {t v : Option Handle} (hunsettled : unsettled c = true) :
    reserve fx ext chosen
      { c with graceTimer := t, claimWatch := v, state := worldState c.world } w +
      4 = reserve fx ext chosen c w := by
  obtain ⟨hs, -⟩ := of_decide_eq_true hunsettled
  have hsettled : unsettled
      { c with graceTimer := t, claimWatch := v, state := worldState c.world } = false :=
    decide_eq_false fun h => h.2 rfl
  have hawake : decide (worldState c.world ≠ .suspending) = decide (c.state ≠ .suspending) := by
    rw [decide_eq_true (worldState_ne_suspending c.world), decide_eq_true hs]
  unfold reserve
  rw [hsettled, hunsettled]
  show 4 * (_ + _ + _ + (decide (worldState c.world ≠ .suspending)).toNat + 0) + 4 = _
  rw [hawake]
  simp only [linked, Bool.toNat_true]
  omega

/-- So does one that suspends. -/
theorem reserve_suspended {t v : Option Handle} (hs : c.state ≠ .suspending) :
    reserve fx ext chosen { c with graceTimer := t, claimWatch := v, state := .suspending } w <
      reserve fx ext chosen c w := by
  have hsettled : unsettled { c with graceTimer := t, claimWatch := v, state := .suspending } =
      false := decide_eq_false fun h => h.1 rfl
  unfold reserve
  rw [hsettled, decide_eq_true hs]
  show 4 * (_ + _ + _ + 0 + 0) < 4 * (_ + _ + _ + 1 + _)
  simp only [linked]
  omega

/-- Nothing is evaluated where the map wants nothing. -/
theorem Rested.unwanted {kind : EventKind} (hw : Rested fx ext chosen bound c w)
    (h : desiredState c.state kind c.world = none) :
    Wp (world.admitting ok) (fun _ _ _ => True)
      (fun _ c' w' => Rested fx ext chosen bound c' w') (fx.evaluateFsms kind) c w := by
  rw [Effectors.evaluateFsms, wp_get_bind, h]
  exact hw.stays

/-- To settle the machine is paid for. -/
theorem Rested.evaluates {kind : EventKind} (ht : kind ≠ .timerExpired) (hr : kind ≠ .resumed)
    (hw : Rested fx ext chosen bound c w) :
    Wp (world.admitting ok) (fun _ _ _ => True)
      (fun _ c' w' => Rested fx ext chosen bound c' w') (fx.evaluateFsms kind) c w := by
  cases hunsettled : unsettled c with
  | false =>
    refine hw.unwanted ?_
    rw [desiredState_of_world c.world ht hr, if_pos]
    by_contra h
    rw [not_or] at h
    exact absurd (decide_eq_true h) (by rw [← unsettled, hunsettled]; exact Bool.false_ne_true)
  | true =>
    have hreserve : 4 ≤ reserve fx ext chosen c w := reserve_unsettled hunsettled
    refine hw.pays (k := reserve fx ext chosen c w - 4) (evaluateFsms_costs fx kind)
      (evaluateFsms_spec fx c kind ht) (fun s e he => ?_) (by omega) ?_
    · exact calm_of_resource (by simp [entryResources]) (by simp [entryResources]) he.1
    · rintro _ _ ⟨t, v, rfl⟩
      rw [settled_eq c ht hr, if_neg (of_decide_eq_true hunsettled).1]
      exact Nat.le_sub_of_add_le (Nat.le_of_eq (reserve_settled hunsettled))

/-- The grace is over: the dispatcher suspends, is refused, or settles where the world has moved. -/
theorem Rested.expires (hw : Rested fx ext chosen bound c w) :
    Wp (world.admitting ok) (fun _ _ _ => True)
      (fun _ c' w' => Rested fx ext chosen bound c' w') (fx.evaluateFsms .timerExpired) c w := by
  -- Outside the countdown an expiry moves nothing.
  by_cases hc : c.state = .countdown
  case neg => exact hw.unwanted (by simp [desiredState, hc])
  -- A countdown that the world does not want is left, which the reserve pays for.
  by_cases hrests : worldState c.world = .countdown
  case neg =>
    have hwant : settled .timerExpired c = worldState c.world := by
      simp [settled, desiredState, hc, hrests]
    have hunsettled : unsettled c = true := decide_eq_true ⟨by simp [hc], by rwa [hc]⟩
    have hreserve : 4 ≤ reserve fx ext chosen c w := reserve_unsettled hunsettled
    refine hw.pays (k := reserve fx ext chosen c w - 4) (evaluateFsms_costs fx .timerExpired)
      (evaluateFsms_timerExpired_spec fx c) (fun s e he => ?_) (by omega) ?_
    · exact calm_of_resource (by simp [entryResources, suspendResources])
        (by simp [entryResources, suspendResources]) he.1
    · rintro _ _ ⟨t, v, s, rfl, hs⟩
      obtain rfl : s = worldState c.world := by
        rcases hs with h | ⟨h, -⟩
        · exact h.trans hwant
        · exact absurd (hwant.symm.trans h) (worldState_ne_suspending c.world)
      exact Nat.le_sub_of_add_le (Nat.le_of_eq (reserve_settled hunsettled))
  case pos =>
    -- A countdown that it wants ends in the suspend, or in a new grace timer.
    have hwant : desiredState c.state .timerExpired c.world = some .suspending := by
      simp [desiredState, hc, hrests]
    rw [Effectors.evaluateFsms, wp_get_bind, hwant]
    dsimp only
    rw [wp_when]
    refine ⟨fun _ => ?_, fun h => absurd h (by simp [hc])⟩
    rw [if_pos rfl]
    have henter := meets_free_of_costs (onEnter_suspending_free fx true)
      (onEnter_suspending_spec fx c true) (by simp [suspendResources]) (by simp [suspendResources])
    refine (hw.free henter).bind ?_
    rintro entered _ w₁ ⟨⟨t, v, rfl⟩, -, hw₁⟩
    rw [wp_ite]
    constructor
    · -- on its way into suspend it re-asserts nothing
      intro _ w₂ hdrift
      have hw₂ : Rested fx ext chosen bound c w₂ :=
        hw₁.drifts hdrift
      exact Bounded.stir hw₂ (reserve_suspended (by simp [hc]))
    · intro _
      have hgrace :=
        meets_free (startGraceTimer_spec { c with graceTimer := t, claimWatch := v } true)
        (by decide)
      refine ((hw₁.of_seen (by rfl)).unseen (hgrace.imp ?_)).mono (fun _ _ _ _ => trivial)
        fun _ _ _ h => h.2
      rintro _ _ ⟨t', rfl⟩
      rfl

/-! ## The loop's own events -/

/-- The bar is synced at the end of a turn. -/
theorem Rested.syncs (hw : Rested fx ext chosen bound c w) :
    Wp (world.admitting ok) (fun _ _ _ => True)
      (fun _ c' w' => Rested fx ext chosen bound c' w') fx.syncWaybar c w := by
  refine (hw.unseen ((meets_free (syncWaybar_spec fx c) (by decide)).imp ?_)).mono
    (fun _ _ _ _ => trivial) fun _ _ _ h => h.2
  rintro _ _ ⟨v, rfl⟩
  rfl

/-- A turn is the arm of the event, and the tail where the event falls through. -/
theorem handled {ev : Event} (h : Wp (world.admitting ok) (fun _ _ _ => True)
    (fun falls c' w' => Wp (world.admitting ok) (fun _ _ _ => True)
      (fun _ c' w' => Rested fx ext chosen bound c' w') (when falls (fx.dispatchTail ev)) c' w')
    (fx.dispatchUpdate ev) c w) :
    Wp (world.admitting ok) (fun _ _ _ => True)
      (fun _ c' w' => Rested fx ext chosen bound c' w') (fx.handle ev) c w := by
  rw [Effectors.handle, Effectors.dispatch]
  exact (h.bind fun _ _ _ hfalls => hfalls).bind fun _ _ _ hw => hw.syncs

/-- A listing of the monitors that failed, or counts the external ones as before. -/
def Counted (ext : Nat) (o : DaemonObs) : Prop :=
  ∀ c ms, o = ⟨(c, .monitors), some ms⟩ → extMonitorCountIn (some ms) 0 = ext

/-- To count the monitors again may unsettle the machine, and gives back what that takes. -/
theorem Rested.counts {count : Nat} (hw : Rested fx ext chosen bound c w)
    (h : count = c.extMonCount ∨ count = ext) :
    Rested fx ext chosen bound { c with extMonCount := count } w := by
  by_cases hsame : count = c.extMonCount
  · rw [hsame]
    exact hw
  obtain rfl : count = ext := h.resolve_left hsame
  refine hw.lower (mode_of_policy (by rfl) (by rfl)) ?_
  have hstale : decide (c.extMonCount ≠ count) = true := decide_eq_true fun h => hsame h.symm
  have hunsettled := Bool.toNat_le (unsettled { c with extMonCount := count })
  unfold reserve
  rw [hstale, decide_eq_false (by simp)]
  simp only [linked, Bool.toNat_true, Bool.toNat_false]
  omega

/-- A hotplug that finds as many monitors as before is free. -/
theorem turn_hotplug {added : Bool} {name : String} (hok : ∀ o, ok o → Counted ext o)
    (hw : Rested fx ext chosen bound c w) :
    Wp (world.admitting ok) (fun _ _ _ => True)
      (fun _ c' w' => Rested fx ext chosen bound c' w') (fx.handle (.monitorHotplug added name))
      c w := by
  refine handled ?_
  rw [Effectors.dispatchUpdate, wp_get_bind, Hyprctl.extMonitorCount, bind_assoc]
  refine hw.asks (free_of_query rfl) fun monitors w₁ ho _ hw₁ => ?_
  rw [wp_pure_bind, wp_modify_bind]
  have hcount : extMonitorCountIn monitors c.extMonCount = c.extMonCount ∨
      extMonitorCountIn monitors c.extMonCount = ext := by
    cases monitors with
    | none => exact .inl rfl
    | some ms => exact .inr (hok _ ho c ms rfl)
  have hdebounce : ∀ c₁ : Context, Meets Effectors.scheduleProfileReconcile c₁ Free
      fun _ c' => seen c' = seen c₁ := by
    intro c₁
    refine (meets_free_of_costs scheduleProfileReconcile_free (scheduleProfileReconcile_spec c₁)
      (by simp) (by simp)).imp ?_
    rintro _ _ ⟨t, rfl⟩
    rfl
  refine ((hw₁.counts hcount).unseen (hdebounce _)).bind ?_
  rintro _ c₂ w₂ ⟨-, hw₂⟩
  refine (hw₂.free (meets_free (requestReconcile_spec c₂ .monitorHotplug) (by decide))).bind ?_
  rintro _ _ w₃ ⟨rfl, -, hw₃⟩ w₄ hdrift
  have hw₄ : Rested fx ext chosen bound _ w₄ :=
    hw₃.drifts hdrift
  -- none of the tail's checks is for a hotplug
  have htail : fx.dispatchTail (.monitorHotplug added name) =
      fx.evaluateFsms (Event.monitorHotplug added name).kind := by
    cases added
    · rfl
    · rfl
  show Wp _ _ _ (fx.dispatchTail _) _ _
  rw [htail]
  refine hw₄.evaluates ?_ ?_
  · cases added <;> simp [Event.kind]
  · cases added <;> simp [Event.kind]

/-- A request that is withdrawn gives back more than it may unsettle. -/
theorem Rested.withdraws (hw : Rested fx ext chosen bound c w) (h : c.suspendRequested = true) :
    Rested fx ext chosen bound { c with suspendRequested := false } w := by
  refine hw.lower (mode_of_policy (by rfl) (by rfl)) ?_
  have hunsettled := Bool.toNat_le (unsettled { c with suspendRequested := false })
  unfold reserve
  rw [h]
  simp only [linked, Bool.toNat_true, Bool.toNat_false]
  omega

/-- The expiry of the grace is free, or pays with what it settles. -/
theorem turn_expired (hw : Rested fx ext chosen bound c w) :
    Wp (world.admitting ok) (fun _ _ _ => True)
      (fun _ c' w' => Rested fx ext chosen bound c' w') (fx.handle .timerExpired) c w := by
  refine handled ?_
  have hfalls : ∀ {c₁ : Context} {w₁ : Loop}, Rested fx ext chosen bound c₁ w₁ →
      Wp (world.admitting ok) (fun _ _ _ => True)
        (fun falls c' w' => Wp (world.admitting ok) (fun _ _ _ => True)
          (fun _ c' w' => Rested fx ext chosen bound c' w')
          (when falls (fx.dispatchTail .timerExpired)) c' w') (pure true : Daemon Bool) c₁ w₁ := by
    intro c₁ w₁ hw₁ w₂ hdrift
    have hw₂ : Rested fx ext chosen bound c₁ w₂ :=
      hw₁.drifts hdrift
    exact hw₂.expires
  rw [Effectors.dispatchUpdate, wp_get_bind, wp_bind, wp_when]
  refine ⟨fun hrequested => ?_, fun _ w₁ hdrift =>
    hfalls (hw.drifts hdrift)⟩
  refine hw.asks (free_of_query rfl) fun standing w₁ _ _ hw₁ => ?_
  rw [wp_when]
  refine ⟨fun _ w₂ hdrift => ?_, fun _ w₂ hdrift =>
    hfalls (hw₁.drifts hdrift)⟩
  exact hfalls ((hw₁.drifts hdrift).withdraws hrequested)

/-- A selection of the profile that is chosen. -/
def Selects (chosen : Option MonitorProfile) (o : DaemonObs) : Prop :=
  ∀ c signature profiles selected, o = ⟨(c, .selectProfile signature profiles), selected⟩ →
    (selected.bind fun s => profiles.find? fun p => p.name == s.name) = chosen

/-- The monitors match the profile that is chosen. -/
theorem Rested.chooses (hok : ∀ o, ok o → Selects chosen o)
    (hw : Rested fx ext chosen bound c w) :
    Wp (world.admitting ok) (fun _ _ _ => True)
      (fun a c' w' => a = chosen ∧ c' = c ∧ Rested fx ext chosen bound c w')
      Effectors.currentMatch c w := by
  rw [Effectors.currentMatch, Hyprctl.monitorSignature, bind_assoc]
  refine hw.asks (free_of_query rfl) fun monitors w₁ _ _ hw₁ => ?_
  rw [wp_pure_bind]
  refine hw₁.asks (free_of_query rfl) fun profiles w₂ _ _ hw₂ => ?_
  refine hw₂.asks (free_of_query rfl) fun selected w₃ ho _ hw₃ w₄ hdrift => ?_
  exact ⟨hok _ ho _ _ _ _ rfl, rfl, hw₃.drifts hdrift⟩

/-- The breadcrumb is free. -/
theorem writeGpuBreadcrumb_free (value : Option GpuPref) :
    Meets (fx.writeGpuBreadcrumb value) c Free fun _ c' => c' = c := by
  have hcrumb : ∀ {e : Eff}, e = .gpuBreadcrumbExists ∨ e = .gpuBreadcrumbRemove ∨
      (∃ v, e = .gpuBreadcrumbWrite v) → Free c e := by
    rintro e (rfl | rfl | ⟨v, rfl⟩)
    · exact ⟨rfl, by simp [Calm]⟩
    · exact ⟨rfl, by simp [Calm]⟩
    · exact ⟨rfl, by simp [Calm]⟩
  have hremove : Meets (do
      let present ← request .gpuBreadcrumbExists
      when present do
        let _ ← request .gpuBreadcrumbRemove : Daemon Unit) c Free fun _ c' => c' = c := by
    rw [meets_bind, meets_ask]
    refine ⟨hcrumb (.inl rfl), fun present => ?_⟩
    rw [meets_when]
    exact ⟨fun _ => ⟨hcrumb (.inr (.inl rfl)), fun _ => rfl⟩, fun _ => rfl⟩
  simp only [Effectors.writeGpuBreadcrumb, meets_when]
  refine ⟨fun _ => ?_, fun _ => trivial⟩
  split
  · exact hremove
  · exact hremove
  · exact ⟨hcrumb (.inr (.inr ⟨_, rfl⟩)), fun _ => rfl⟩

/-- To move the link pays for the apply: it is where it was meant to be from then on. -/
theorem reserve_linked {p : MonitorProfile} (hlinked : linked fx (some p) c w = false) :
    reserve fx ext (some p)
      { c with currentProfile := some p.name, activeProfileRev := some p, edpPolicy := p.edp }
      { w with active := some p.name, direct := true } + 4 = reserve fx ext (some p) c w := by
  have hafter : linked fx (some p)
      { c with currentProfile := some p.name, activeProfileRev := some p, edpPolicy := p.edp }
      { w with active := some p.name, direct := true } = true := by
    simp [linked]
  unfold reserve
  rw [hafter, hlinked]
  show 4 * ((decide (c.extMonCount ≠ ext)).toNat + 0 + 2 * c.suspendRequested.toNat +
    (decide (c.state ≠ .suspending)).toNat + (unsettled c).toNat) + 4 = _
  rw [Bool.not_false, Bool.toNat_true]
  omega

/-- The profile that is chosen is applied where the link is not at it, and that is paid for. -/
theorem Rested.applies {p : MonitorProfile} (hw : Rested fx ext (some p) bound c w) :
    Wp (world.admitting ok) (fun _ _ _ => True)
      (fun _ c' w' => Rested fx ext (some p) bound c' w') (fx.applyProfile p) c w := by
  rw [Effectors.applyProfile]
  refine (wp_ask_bind (e := Eff.activeLinkIs p.name)).mpr fun _ hdrift => ⟨trivial, ?_⟩
  rintro leads w₁ ⟨⟨hleads, rfl⟩, -⟩
  have hw₁ : Rested fx ext (some p) bound c w₁ :=
    hw.drifts hdrift
  rw [wp_get_bind, wp_when]
  refine ⟨fun hmoves => ?_, fun _ => hw₁.stays⟩
  rw [wp_bind, wp_ite]
  constructor
  · -- in shadow mode the context alone goes to the profile
    intro hshadow w₂ hdrift
    have hw₂ : Rested fx ext (some p) bound c w₂ :=
      hw₁.drifts hdrift
    refine wp_when.mpr ⟨fun _ => ?_, fun h => absurd h (by simp)⟩
    rw [wp_modify_bind, hshadow]
    refine Rested.stays (hw₂.lower ?_ ?_)
    · rw [mode, mode, if_pos (.inl hshadow), if_pos (.inl hshadow)]
    · refine Nat.le_of_eq ?_
      unfold reserve linked
      dsimp only
      rw [hshadow]
      rfl
  · intro hshadow
    have hlinked : linked fx (some p) c w₁ = false := by
      rw [Bool.eq_false_iff]
      intro h
      obtain ⟨hactive, hdirect, hname, hrev⟩ := of_decide_eq_true
        ((Bool.or_eq_true_iff.mp h).resolve_left hshadow)
      -- a link that leads to the profile is known to
      simp [hleads ⟨hactive, hdirect⟩, hname, hrev] at hmoves
    refine (wp_ask (e := Eff.repointActive p.name)).mpr fun w₂ hdrift => ⟨trivial, ?_⟩
    rintro repointed w₃ ⟨hlink, -⟩ w₄ hdrift'
    have hw₂ := hw₁.answering.drifts hdrift
    refine wp_when.mpr ?_
    cases repointed with
    | false =>
      obtain rfl : w₃ = w₂ := hlink
      refine ⟨fun h => absurd h (by simp), fun _ => Rested.stays ?_⟩
      exact (hw₂.drifts hdrift').rested
    | true =>
      obtain rfl : w₃ = { w₂ with active := some p.name, direct := true } := hlink
      refine ⟨fun _ => ?_, fun h => absurd h (by simp)⟩
      have hlinked₂ := (linked_of_config hw₂.config).trans hlinked
      have hbusy : Bounded bound .busy (reserve fx ext (some p) { c with
          currentProfile := some p.name
          activeProfileRev := some p
          edpPolicy := p.edp } { w₂ with active := some p.name, direct := true } + 1)
          { w₂ with active := some p.name, direct := true } :=
        Bounded.stir (w := w₂) hw₂.rested
          (Nat.lt_of_lt_of_eq (Nat.add_lt_add_left (by decide) _) (reserve_linked hlinked₂))
      have hbusy₄ := hbusy.drifts hdrift'
      rw [wp_modify_bind]
      refine (hbusy₄.1.pays ?_ (profileCmds_spec fx _ p) ?_).mono (fun _ _ _ _ => trivial) ?_
      · exact .when _ (.bind_free (sendCmd_costs fx _ (Nat.le_refl 1)) fun _ => runHooks_free fx _)
      · rintro _ _ (rfl | ⟨hook, rfl⟩) <;> simp
      · rintro _ _ w₅ ⟨rfl, hconfig, hw₅⟩
        refine hw₅.settle (Nat.le_of_eq ?_)
        refine reserve_of_config ((hconfig ?_).trans hbusy₄.2)
        rintro _ _ (rfl | ⟨hook, rfl⟩) <;> simp [Calm]

/-- A change of the monitors that matches the profile that is chosen is free, or pays with the
link. -/
theorem turn_monitors (hok : ∀ o, ok o → Selects chosen o)
    (hw : Rested fx ext chosen bound c w) :
    Wp (world.admitting ok) (fun _ _ _ => True)
      (fun _ c' w' => Rested fx ext chosen bound c' w') (fx.handle .monitorsChanged) c w := by
  refine handled ?_
  -- What follows the match asks for no reload.
  have hrest : ∀ {c₁ : Context} {w₁ : Loop}, Rested fx ext chosen bound c₁ w₁ →
      Wp (world.admitting ok) (fun _ _ _ => True)
        (fun _ c' w' => Rested fx ext chosen bound c' w') (do
          fx.writeGpuBreadcrumb (chosen.map MonitorProfile.gpu)
          fx.gpuCheck "monitors changed" chosen
          fx.powerPolicyCheck
          let c ← get
          when (!Effectors.edpShouldBeOn c && decide (c.extMonCount > 0)) fx.rehomeEdpWorkspaces)
        c₁ w₁ := by
    intro c₁ w₁ hw₁
    refine (hw₁.free (writeGpuBreadcrumb_free _)).bind ?_
    rintro _ c₂ w₂ ⟨rfl, -, hw₂⟩
    have hgpu := meets_free (gpuCheck_spec fx c₂ "monitors changed" chosen) (by decide)
    refine (hw₂.free hgpu).bind ?_
    rintro _ _ w₃ ⟨⟨g, p, rfl⟩, -, hw₃⟩
    have hpower :=
      meets_free (powerPolicyCheck_spec fx { c₂ with gpu := g, power := p }) (by decide)
    refine ((hw₃.of_seen (by rfl)).free hpower).bind ?_
    rintro _ _ w₄ ⟨⟨p', b, rfl⟩, -, hw₄⟩
    rw [wp_get_bind, wp_when]
    refine ⟨fun _ => ?_, fun _ => (hw₄.of_seen (by rfl)).stays⟩
    refine ((hw₄.of_seen (by rfl)).free ((sendCmd_spec fx _ .rehomeEdpWorkspaces).mono ?_
      fun _ _ => id)).mono (fun _ _ _ _ => trivial) ?_
    · rintro _ _ ⟨-, rfl, -⟩
      exact free_of_resource [.command] (by decide) (by simp)
    · rintro _ _ w₅ ⟨rfl, -, hw₅⟩
      exact hw₅
  -- The match is the profile of the run, and applying it is what the reserve is for.
  have harm : Wp (world.admitting ok) (fun _ _ _ => True)
      (fun _ c' w' => Rested fx ext chosen bound c' w') fx.handleMonitorsChanged c w := by
    rw [Effectors.handleMonitorsChanged]
    refine (hw.chooses hok).bind ?_
    rintro matched c₁ w₁ ⟨rfl, rfl, hw₁⟩
    cases matched with
    | none =>
      dsimp only
      rw [wp_modify_bind]
      exact hrest (hw₁.lower (mode_of_policy (by rfl) (by rfl)) (Nat.le_refl _))
    | some p => exact hw₁.applies.bind fun _ _ _ hw₂ => hrest hw₂
  rw [Effectors.dispatchUpdate]
  refine harm.bind fun _ _ w₁ hw₁ w₂ hdrift => ?_
  exact (hw₁.drifts hdrift).stays

/-! ## A re-assert, and a pass of the reconciler -/

/-- The link was read on the way. -/
theorem Rested.ingested {c₁ : Context} (hw : Rested fx ext chosen bound c w)
    (hconfig : w.config = w₀.config) (h : Ingested w₀ c c₁) : Rested fx ext chosen bound c₁ w := by
  refine hw.lower ?_ ?_
  · rw [mode_of_config hconfig, mode_of_config hconfig, h.mode]
  · rw [reserve_of_config hconfig, reserve_of_config hconfig]
    exact reserve_ingested h.only h.read

/-- The turn of an echo: what it had in hand paid for the answer. -/
theorem turn_reassert {ev : Event} (hev : reasserts ev = true)
    (hw : Answering bound (w.mode fx c) (reserve fx ext chosen c w) w 1 w) :
    Wp (world.admitting ok) (fun _ _ _ => True)
      (fun _ c' w' => Rested fx ext chosen bound c' w') (fx.handle ev) c w := by
  have hturn : ∀ trigger, Wp (world.admitting ok) (fun _ _ _ => True)
      (fun falls c' w' => Wp (world.admitting ok) (fun _ _ _ => True)
        (fun _ c' w' => Rested fx ext chosen bound c' w') (when falls (fx.dispatchTail ev)) c' w')
      (do fx.reassert trigger; pure false) c w := by
    intro trigger
    refine (reassert_after fx trigger hw).bind ?_
    rintro _ c₂ w₂ ⟨⟨c₁, hc₁, t, v, rfl⟩, n, hw₂⟩ w₃ hdrift
    have hw₁ : Rested fx ext chosen bound c₁ w₂ := by
      rcases hc₁ with rfl | hc₁
      · exact hw₂.rested
      · exact hw₂.rested.ingested hw₂.config hc₁
    exact ((hw₁.of_seen (by rfl)).drifts hdrift).stays
  refine handled ?_
  cases ev with
  | configReloaded => exact hturn .configReloaded
  | profileApplied => exact hturn .profileApplied
  | _ => exact absurd hev (by simp [reasserts])

/-- The request file stands as the machine has it, which has nothing else to repair. -/
def Agrees (snap : ReconcileSnapshot) (c : Context) (o : DaemonObs) : Prop :=
  ∀ c₁ standing, o = ⟨(c₁, .suspendRequestExists), standing⟩ →
    Effectors.fsmDrift snap c standing = false

/-- A pass that agrees with the context repairs nothing. -/
theorem Rested.repairs {snap : ReconcileSnapshot} (hok : ∀ o, ok o → Agrees snap c o)
    (hpower : Effectors.powerDrift snap c = false) (hw : Rested fx ext chosen bound c w) :
    Wp (world.admitting ok) (fun _ _ _ => True)
      (fun drift c' w' => drift = (false, false) ∧ c' = c ∧ w'.config = w.config ∧
        Rested fx ext chosen bound c w') (Effectors.repairContext snap) c w := by
  rw [Effectors.repairContext, wp_get_bind, wp_modify_bind]
  refine hw.asks (free_of_query rfl) fun standing w₁ ho hconfig hw₁ => ?_
  have hfsm := hok _ ho _ standing rfl
  have hdrift : (Effectors.fsmDrift snap c standing, Effectors.powerDrift snap c) =
      (false, false) := by
    rw [hfsm, hpower]
  simp only [Effectors.fsmDrift, Effectors.powerDrift, Bool.or_eq_false_iff, Bool.and_eq_false_iff,
    decide_eq_false_iff_not, not_not] at hfsm hpower
  obtain ⟨⟨⟨⟨⟨hlid, hrequest⟩, hext⟩, hlogind⟩, hwayland⟩, hlocked⟩ := hfsm
  refine wp_modify_bind.mpr (wp_bind.mpr (wp_when.mpr
    ⟨fun h => absurd hext (of_decide_eq_true h), fun _ w₂ hdrift₂ => ?_⟩))
  refine wp_modify_bind.mpr (wp_bind.mpr (wp_when.mpr
    ⟨fun h => absurd hlocked (of_decide_eq_true h), fun _ w₃ hdrift₃ => ?_⟩))
  refine wp_modify_bind.mpr fun w₄ hdrift₄ => ?_
  have hw₄ := ((hw₁.answering.drifts hdrift₂).drifts hdrift₃).drifts hdrift₄
  refine ⟨hdrift, ?_, hw₄.config.trans hconfig, hw₄.rested⟩
  have hclosed : (if c.lidPresent then snap.lidClosed else c.lidClosed) = c.lidClosed := by
    rcases hlid with h | h
    · rw [h]
      rfl
    · rw [h, ite_self]
  dsimp only
  rw [hclosed, hrequest, hext, hlogind, hwayland, hlocked, hpower.2]

/-- Nor does it enforce a panel that it finds as it is meant to be. -/
theorem enforceEdp_idle {snap : ReconcileSnapshot}
    (h : snap.edpDisabled ≠ some (Effectors.edpShouldBeOn c)) :
    Meets (fx.enforceEdp snap) c Free fun _ c' => c' = c := by
  simp only [Effectors.enforceEdp, meets_bind, meets_get]
  cases hread : snap.edpDisabled with
  | none => rfl
  | some disabled =>
    have hother : disabled ≠ Effectors.edpShouldBeOn c := fun heq => h (by rw [hread, heq])
    rw [meets_ite, meets_when]
    refine ⟨fun hon => ?_, fun _ => ⟨fun hoff => ?_, fun _ => rfl⟩⟩
    · obtain ⟨hon, hdisabled⟩ := Bool.and_eq_true_iff.mp hon
      exact absurd (hdisabled.trans hon.symm) hother
    · have hsame : disabled = Effectors.edpShouldBeOn c := by
        simp only [Bool.and_eq_true, Bool.not_eq_true'] at hoff
        exact hoff.2.trans hoff.1.symm
      exact absurd hsame hother

/-- A pass that finds nothing to repair and nothing to enforce. -/
structure Idle (c : Context) (w : Loop) (snap : ReconcileSnapshot) (tr : List DaemonObs) :
    Prop where
  repairs : ∀ o ∈ tr, Agrees snap c o
  power : Effectors.powerDrift snap c = false
  panel : snap.edpDisabled ≠ some (w.wants c)

/-- It is free. -/
theorem turn_pass {snap : ReconcileSnapshot} (hok : ∀ o, ok o → Agrees snap c o)
    (hpower : Effectors.powerDrift snap c = false) (hpanel : snap.edpDisabled ≠ some (w.wants c))
    (hw : Rested fx ext chosen bound c w) :
    Wp (world.admitting ok) (fun _ _ _ => True)
      (fun _ c' w' => Rested fx ext chosen bound c' w') (fx.handle (.reconcileTick snap)) c w := by
  have hpass : Wp (world.admitting ok) (fun _ _ _ => True)
      (fun _ c' w' => Rested fx ext chosen bound c' w') (fx.handleReconcileTick snap) c w := by
    rw [Effectors.handleReconcileTick]
    refine (hw.repairs hok hpower).bind ?_
    rintro _ c₁ w₁ ⟨rfl, rfl, hconfig, hw₁⟩
    -- nothing is driven
    have hidle : fx.driveRepairs false false = pure () := rfl
    rw [hidle, wp_pure_bind]
    rw [wp_get_bind, wp_when]
    refine ⟨fun _ => ?_, fun _ => hw₁.stays⟩
    refine (ingestActiveProfile_after c₁ hw₁.answering).bind ?_
    rintro _ c₂ w₄ ⟨hc₂, hw₄⟩
    have hmeant : Effectors.edpShouldBeOn c₂ = w.wants c₁ := by
      rw [Effectors.edpShouldBeOn, hc₂.policy, hc₂.state, wants, policyAfter, policyAfter]
      have hactive : w₁.active = w.active := congrArg Prod.fst hconfig
      have hprofiles : w₁.profiles = w.profiles := congrArg (fun p => p.2.2.1) hconfig
      rw [hactive, hprofiles]
    have hrested := hw₄.rested.ingested hw₄.config hc₂
    refine (hrested.free (enforceEdp_idle (hmeant ▸ hpanel))).bind ?_
    rintro _ c₃ w₅ ⟨rfl, -, hw₅⟩
    have hlit := meets_free (dpmsBackstop_spec fx c₃ snap) (by decide)
    refine (hw₅.unseen (hlit.imp ?_)).mono (fun _ _ _ _ => trivial) fun _ _ _ h => h.2
    rintro _ _ rfl
    rfl
  refine handled ?_
  rw [Effectors.dispatchUpdate]
  refine hpass.bind fun _ _ w₁ hw₁ w₂ hdrift => ?_
  exact (hw₁.drifts hdrift).stays

/-! ## Runs -/

/-- What the dispatcher's turns and the other parties' steps make of the loop, with `P` of each turn
and `I` of each pass of the reconciler. No event comes in from outside. -/
inductive Run (fx : Effectors) (P : Context → Loop → Event → List DaemonObs → Prop)
    (I : Context → Loop → ReconcileSnapshot → List DaemonObs → Prop) (c₀ : Context) (w₀ : Loop) :
    Context → Loop → Prop
  | start : Run fx P I c₀ w₀ c₀ w₀
  | drift {c : Context} {w w' : Loop} : Run fx P I c₀ w₀ c w → Drift w w' → Run fx P I c₀ w₀ c w'
  | turn {c c' : Context} {w w' : Loop} {ev : Event} {rest : List Event} {tr : List DaemonObs} :
      Run fx P I c₀ w₀ c w → w.events = ev :: rest → P c w ev tr →
      Execs world (fx.handle ev) c { w with events := rest } tr () c' w' → Run fx P I c₀ w₀ c' w'
  | pass {c c' : Context} {w w' : Loop} {snap : ReconcileSnapshot} {tr : List DaemonObs} :
      Run fx P I c₀ w₀ c w → I c w snap tr →
      Execs world (fx.handle (.reconcileTick snap)) c w tr () c' w' → Run fx P I c₀ w₀ c' w'

/-- No re-assert meets a disabled panel that it commands on and that a reload would leave disabled.
Every hotplug that the dispatcher handles finds the same number of external monitors, or no listing,
and every change of the monitors matches the same profile. -/
structure Steady (fx : Effectors) (ext : Nat) (chosen : Option MonitorProfile) (c : Context)
    (w : Loop) (ev : Event) (tr : List DaemonObs) : Prop where
  storm : ¬(reasserts ev = true ∧ fx.shadow = false ∧ c.state ≠ .suspending ∧ w.wants c = true ∧
    w.disabled = true ∧ w.dark = true)
  count : ∀ added name, ev = .monitorHotplug added name → ∀ o ∈ tr, Counted ext o
  chosen : ev = .monitorsChanged → ∀ o ∈ tr, Selects chosen o

/-- A re-assert in the mode `dark` meets a panel that is on. -/
theorem Steady.of_mode {ev : Event} {tr : List DaemonObs} (h : Steady fx ext chosen c w ev tr)
    (hev : reasserts ev = true) (hm : w.mode fx c = .dark) : w.disabled = false := by
  have hon : ¬(fx.shadow = true ∨ c.state = .suspending ∨ w.wants c = false) := by
    intro hoff
    rw [mode, if_pos hoff] at hm
    exact absurd hm (by simp)
  obtain ⟨hshadow, hs, hwants⟩ : fx.shadow = false ∧ c.state ≠ .suspending ∧ w.wants c = true := by
    simpa using hon
  rw [Bool.eq_false_iff]
  exact fun hdisabled => h.storm ⟨hev, hshadow, hs, hwants, hdisabled, (fits_mode w fx c).2 hm⟩

/-- One turn. -/
theorem Rested.turn {ev : Event} {rest : List Event} {tr : List DaemonObs}
    (hw : Rested fx ext chosen bound c w) (hevents : w.events = ev :: rest)
    (hsteady : Steady fx ext chosen c w ev tr)
    (h : Execs world (fx.handle ev) c { w with events := rest } tr () c' w') :
    Rested fx ext chosen bound c' w' := by
  by_cases hev : reasserts ev = true
  case pos =>
    have htaken := Answering.of_take hevents hev (hsteady.of_mode hev) (fits_mode w fx c) hw
    exact of_wp_any h (turn_reassert hev htaken)
  have hpopped : worth ev = 0 → Rested fx ext chosen bound c { w with events := rest } := by
    intro hfree
    have hsame : flight (reserve fx ext chosen c w) { w with events := rest } =
        w.flight (reserve fx ext chosen c w) := by
      simp [flight, hevents, hfree, hev]
    have hbound := hw
    unfold Rested Bounded at hbound ⊢
    rw [← hsame] at hbound
    exact hbound
  have hother : 24 + (armBudget ev + 1) < worth ev → Rested fx ext chosen bound c' w' :=
    fun hworth => turn_other (Bounded.take hevents hworth hw) h
  cases ev with
  | configReloaded | profileApplied => exact absurd rfl hev
  | monitorHotplug added name =>
    exact (h.admitting (hsteady.count added name rfl)).of_wp
      (turn_hotplug (fun _ => id) (hpopped rfl))
  | monitorsChanged =>
    exact (h.admitting (hsteady.chosen rfl)).of_wp (turn_monitors (fun _ => id) (hpopped rfl))
  | timerExpired =>
    exact of_wp_any h (turn_expired (hpopped rfl))
  | _ => exact hother (by simp [worth, armBudget])

/-- In every run whose turns are steady and whose passes are idle, from any context and with
anything in flight, what was in flight bounds the reloads. -/
theorem reloads_bounded {c₀ : Context} (h : Run fx (Steady fx ext chosen) Idle c₀ w₀ c w) :
    w.reloads ≤ w₀.reloads + (w₀.flight 24).potential .busy := by
  have hbounded : Rested fx ext chosen (w₀.reloads + (w₀.flight 24).potential .busy) c w := by
    induction h with
    | start =>
      have hbusy : Bounded (w₀.reloads + (w₀.flight 24).potential .busy) .busy 24 w₀ := by
        unfold Bounded
        omega
      exact hbusy.settle (reserve_le fx ext chosen c₀ w₀)
    | drift _ hstep ih => exact ih.drift hstep
    | turn _ hevents hsteady hexec ih => exact ih.turn hevents hsteady hexec
    | pass _ hidle hexec ih =>
      exact (hexec.admitting hidle.repairs).of_wp
        (turn_pass (fun _ => id) hidle.power hidle.panel ih)
  calc w.reloads
      ≤ (w.flight (reserve fx ext chosen c w)).potential (w.mode fx c) + w.reloads :=
        Nat.le_add_left _ _
    _ ≤ w₀.reloads + (w₀.flight 24).potential .busy := hbounded

/-! ## The storm -/

/-- The lid is open, and waybar shows it. -/
def opened : Context := { waybarView := some (WaybarView.of {}) }

/-- The report of a reload is queued, after `k` reloads. -/
def echoed (body : Option String → Option Bool) (disabled : Bool) (k : Nat) : Loop where
  events := [.configReloaded]
  disabled := disabled
  body := body
  reloads := k

/-- The re-assert of an open lid queues a command to turn the panel on. -/
theorem opened_turn (body : Option String → Option Bool) (disabled : Bool) (k : Nat) :
    ∃ tr, Execs world (Effectors.handle ⟨false, true⟩ .configReloaded) opened
      { echoed body disabled k with events := [] } tr () opened
      { echoed body disabled k with events := [], cmds := [.setEdp true] } := by
  refine Program.exists_execs_call none ⟨rfl, rfl⟩ ?_
  refine Program.exists_execs_call true rfl ?_
  refine Program.exists_execs_call () rfl ?_
  exact ⟨_, .ret _ .refl⟩

/-- Where the panel is disabled, the worker runs the reload. Outputs may come or go with it. -/
theorem reload_work (body : Option String → Option Bool) (k : Nat) (plugs : List (Bool × String)) :
    Drift { echoed body true k with events := [], cmds := [.setEdp true] }
      { echoed body (echoed body true k).dark (k + 1) with
        events := []
        socket := 1
        hotplugs := plugs } := by
  have hrun : ∃ tr, Execs compositor (EffectorWorker.run (.setEdp true)) ()
      { echoed body true k with events := [] } tr () ()
      { echoed body (echoed body true k).dark (k + 1) with
        events := []
        socket := 1
        hotplugs := plugs } := by
    refine Program.exists_execs_call (some [{ name := "eDP-2", disabled := true }]) ⟨rfl, ?_⟩ ?_
    · rintro _ ⟨rfl⟩
      exact .inr rfl
    · refine Program.exists_execs_call true rfl ?_
      refine Program.exists_execs_call true (.inr ⟨plugs, rfl⟩) ?_
      exact ⟨_, .ret _ .refl⟩
  obtain ⟨tr, h⟩ := hrun
  exact .work rfl h

/-- A report whose re-assert runs one reload. -/
theorem reported_run {P : Context → Loop → Event → List DaemonObs → Prop}
    {I : Context → Loop → ReconcileSnapshot → List DaemonObs → Prop} {c₀ : Context}
    {body : Option String → Option Bool} {k : Nat} (plugs : List (Bool × String))
    (h : Run ⟨false, true⟩ P I c₀ w₀ opened (echoed body true k))
    (hP : ∀ tr, P opened (echoed body true k) .configReloaded tr) :
    Run ⟨false, true⟩ P I c₀ w₀ opened { echoed body (echoed body true k).dark (k + 1) with
      events := []
      socket := 1
      hotplugs := plugs } := by
  obtain ⟨tr, hturn⟩ := opened_turn body true k
  exact (Run.turn h rfl (hP tr) hturn).drift (reload_work body k plugs)

/-- The panel comes up at the reload: the hotplug finds no external monitor, and arms the
debounce. -/
theorem opened_hotplug (body : Option String → Option Bool) (k : Nat) :
    ∃ tr, Execs world (Effectors.handle ⟨false, true⟩ (.monitorHotplug true "eDP-2")) opened
      { echoed body false k with events := [], socket := 1 } tr ()
      { opened with profileDebounce := some 7 }
      { echoed body false k with events := [], socket := 1, timers := [.monitorsChanged] } ∧
      ∀ o ∈ tr, Counted 0 o := by
  have hturn : Execs world (Effectors.handle ⟨false, true⟩ (.monitorHotplug true "eDP-2")) opened
      { echoed body false k with events := [], socket := 1 }
      [⟨(opened, .monitors), some [{ name := "eDP-2" }]⟩,
        ⟨(opened, .spawnTimer 500 .monitorsChanged), 7⟩,
          ⟨({ opened with profileDebounce := some 7 }, .requestReconcile .monitorHotplug), ()⟩] ()
      { opened with profileDebounce := some 7 }
      { echoed body false k with events := [], socket := 1, timers := [.monitorsChanged] } :=
    .call .refl rfl (.call .refl rfl (.call .refl rfl (.ret _ .refl)))
  refine ⟨_, hturn, ?_⟩
  simp only [List.forall_mem_cons, List.not_mem_nil]
  refine ⟨fun c ms h => ?_, fun c ms h => ?_, fun c ms h => ?_, fun o ho => ?_⟩
  · cases h
    decide
  · cases h
  · cases h
  · cases ho

/-- The rule on a report that finds the panel disabled, where the config turns it on: one reload is
all there is, also after the hotplug of the panel. -/
theorem reloads_bounded_reported : ∃ c w,
    Run ⟨false, true⟩ (Steady ⟨false, true⟩ 0 none) Idle opened
      (echoed (fun _ => none) true 0) c w ∧
      c.profileDebounce = some 7 ∧ w.events = [.monitorsChanged, .configReloaded] ∧ w.reloads = 1 ∧
      w.reloads ≤ 0 + (flight 24 (echoed (fun _ => none) true 0)).potential .busy := by
  have hsteady : ∀ tr, Steady ⟨false, true⟩ 0 none opened (echoed (fun _ => none) true 0)
      .configReloaded tr := fun _ =>
    { storm := fun h => absurd h.2.2.2.2.2 (by decide)
      count := fun _ _ h => by cases h
      chosen := fun h => by cases h }
  have hreload := reported_run (I := Idle) [(true, "eDP-2")] .start hsteady
  obtain ⟨tr, hturn, hcount⟩ := opened_hotplug (fun _ => none) 1
  have hcounted := Run.turn (hreload.drift (.plug rfl)) rfl
    { storm := fun h => absurd h.1 (by decide)
      count := fun _ _ _ => hcount
      chosen := fun h => by cases h } hturn
  have hrun := (hcounted.drift (@Drift.fire _ _ [] [] rfl)).drift (.relay rfl)
  exact ⟨_, _, hrun, rfl, rfl, rfl, reloads_bounded hrun⟩

/-- A profile that turns the panel off, whose policy wants it on: each report of a reload has the
next one run. -/
theorem not_reloads_bounded : ¬∀ (fx : Effectors) (c₀ : Context) (w₀ : Loop), ∃ bound, ∀ c w,
    Run fx (fun _ _ _ _ => True) (fun _ _ _ _ => False) c₀ w₀ c w → w.reloads ≤ bound := by
  intro h
  obtain ⟨bound, hbound⟩ := h ⟨false, true⟩ opened (echoed (fun _ => some true) true 0)
  have hstorm : ∀ k, Run ⟨false, true⟩ (fun _ _ _ _ => True) (fun _ _ _ _ => False) opened
      (echoed (fun _ => some true) true 0) opened (echoed (fun _ => some true) true k) := by
    intro k
    induction k with
    | zero => exact .start
    | succ k ih => exact (reported_run [] ih fun _ => trivial).drift (.relay rfl)
  exact absurd (hbound _ _ (hstorm (bound + 1))) (Nat.not_succ_le_self bound)

end Loop

end Hyprstate
