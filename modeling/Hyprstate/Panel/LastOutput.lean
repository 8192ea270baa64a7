import Hyprstate.Panel.Enforcement

/-!
# The panel with nothing else to show

With no external monitor on record, the last panel command that the worker's queue took should be
on. The dispatcher never turns the panel off then, but a command from before may stand: whether the
event that takes the last monitor away also turns the panel on again depends on where the machine
moves.

A run is judged turn by turn. `Lit` bounds what one turn commands, `KeepsLit` is the condition on a
turn, and `lastOutput_kept` the run theorem.
-/

namespace Hyprstate

open Reactive Process

/-! ## The last command -/

/-- The panel commands of a trace. -/
def panelLog (tr : List DaemonObs) : PanelLog := tr.foldl commanded []

/-- The log of a trace goes behind the log before it. -/
theorem foldl_commanded (tr : List DaemonObs) (log : PanelLog) :
    tr.foldl commanded log = log ++ panelLog tr := by
  have hone : ∀ (o : DaemonObs) (log : PanelLog), commanded log o = log ++ commanded [] o := by
    rintro ⟨⟨c, e⟩, b⟩ log
    cases e with
    | trySend cmd => cases cmd <;> simp [commanded]
    | _ => simp [commanded]
  induction tr generalizing log with
  | nil => simp [panelLog]
  | cons o tr ih =>
    rw [panelLog, List.foldl_cons, List.foldl_cons, ih, ih (commanded [] o), hone o log,
      List.append_assoc]

/-- The log of two traces is that of the one and that of the other. -/
theorem panelLog_append (tr tr' : List DaemonObs) :
    panelLog (tr ++ tr') = panelLog tr ++ panelLog tr' := by
  rw [panelLog, List.foldl_append, foldl_commanded]
  rfl

/-- The last panel command that the queue took. -/
def lastSent (log : PanelLog) : Option Bool := (log.filter Prod.snd).getLast?.map Prod.fst

/-- The last command of two logs is the second's, if it has one. -/
theorem lastSent_append (log log' : PanelLog) :
    lastSent (log ++ log') = (lastSent log').or (lastSent log) := by
  rw [lastSent, List.filter_append, List.getLast?_append, lastSent, lastSent]
  cases (log'.filter Prod.snd).getLast? <;> rfl

/-- A log of commands to turn the panel on leaves it on, or as it was. -/
theorem lastSent_of_all_on {log : PanelLog} (h : ∀ p ∈ log, p.1 = true) :
    lastSent log = none ∨ lastSent log = some true := by
  rw [lastSent]
  cases hlast : (log.filter Prod.snd).getLast? with
  | none => exact .inl rfl
  | some p =>
    have hp : p ∈ log := (List.mem_filter.mp (List.mem_of_getLast? hlast)).1
    exact .inr (congrArg some (h p hp))

/-- A log that only lights the panel, and did, ends with a lit one. -/
theorem lastSent_of_taken {log : PanelLog} (h : ∀ p ∈ log, p.1 = true)
    (htaken : (true, true) ∈ log) : lastSent log = some true := by
  rcases lastSent_of_all_on h with hnone | hsome
  · have hmem : (true, true) ∈ log.filter Prod.snd := List.mem_filter.mpr ⟨htaken, rfl⟩
    rw [lastSent, Option.map_eq_none_iff, List.getLast?_eq_none_iff] at hnone
    rw [hnone] at hmem
    exact absurd hmem List.not_mem_nil
  · exact hsome

/-! ## What one turn commands -/

/-- The log has grown; with no external monitor, by commands to turn the panel on alone. -/
def Lit (n : Nat) (log log' : PanelLog) : Prop :=
  ∃ l : PanelLog, log' = log ++ l ∧ (n = 0 → ∀ p ∈ l, p.1 = true)

/-- A log that stays lights the panel. -/
theorem lit_refl (n : Nat) (log : PanelLog) : Lit n log log := ⟨[], by simp, by simp⟩

/-- Two turns' worth that light the panel light it together. -/
theorem Lit.trans {n : Nat} {log log' log'' : PanelLog} (h : Lit n log log')
    (h' : Lit n log' log'') : Lit n log log'' := by
  obtain ⟨l, rfl, hl⟩ := h
  obtain ⟨l', rfl, hl'⟩ := h'
  refine ⟨l ++ l', by simp, fun hn p hp => ?_⟩
  rcases List.mem_append.mp hp with h | h
  · exact hl hn p h
  · exact hl' hn p h

/-- What never turns the panel off does not with any count on record. -/
theorem Lit.of_zero {n : Nat} {log log' : PanelLog} (h : Lit 0 log log') : Lit n log log' := by
  obtain ⟨l, rfl, hl⟩ := h
  exact ⟨l, rfl, fun _ => hl rfl⟩

section

variable (fx : Effectors) {ok : DaemonObs → Prop}

/-- So does what a footprint without another monitor bounds. -/
theorem lit_of_within {α : Type} {x : Daemon α} {c : Context} {rs : List Resource} {n : Nat}
    {Q : α → Context → Prop} (hx : Meets x c (within rs n) Q) (log : PanelLog) :
    Wp (panelWorld ok) (fun _ _ _ => True) (fun a c' log' => Q a c' ∧ Lit n log log') x c log := by
  refine (wp_observer_of_meets (J := Lit n log) hx (lit_refl n log) ?_).mono
    (fun _ _ _ _ => trivial) fun _ _ _ h => h
  rintro s e w b ⟨-, hpanel⟩ - hlit
  refine hlit.trans ?_
  by_cases hedp : ∃ on, e = .trySend (.setEdp on)
  · obtain ⟨on, rfl⟩ := hedp
    refine ⟨[(on, b)], rfl, fun hn p hp => ?_⟩
    obtain rfl := List.mem_singleton.mp hp
    exact (hpanel on rfl).2.resolve_right (by simp [hn])
  · rw [commanded_of_resource]
    · exact lit_refl n w
    · intro hres
      cases e with
      | trySend cmd =>
        cases cmd with
        | setEdp on => exact hedp ⟨on, rfl⟩
        | _ => exact absurd hres (by simp)
      | spawnTimer delay ev =>
        simp only [Eff.resource] at hres
        split_ifs at hres
      | _ => exact absurd hres (by simp)

/-- The count that an arm's commands are made with is the count it leaves, or the arm makes none. -/
theorem exists_armCount_of_arm (c : Context) (ev : Event) :
    ∃ n, ArmCount c n ev ∧ ∀ falls c', Arm c ev falls c' → n = 0 ∨ n = c'.extMonCount := by
  cases ev
  case reconcileTick snap =>
    refine ⟨snap.extMonCount, rfl, ?_⟩
    rintro falls c' ⟨-, req, ac, r, hin⟩
    exact .inr (congrArg Inputs.extMonCount hin).symm
  case configReloaded | profileApplied =>
    refine ⟨c.extMonCount, rfl, ?_⟩
    rintro falls c' ⟨-, hin, -⟩
    exact .inr (congrArg Inputs.extMonCount hin).symm
  all_goals exact ⟨0, trivial, fun _ _ _ => .inl rfl⟩

/-- A turn that leaves no external monitor on record commands the panel on, if at all. -/
theorem handle_lit (ev : Event) (c : Context) (log : PanelLog) :
    Wp (panelWorld ok) (fun _ _ _ => True) (fun _ c' log' => Lit c'.extMonCount log log')
      (fx.handle ev) c log := by
  obtain ⟨n, hn, hcount⟩ := exists_armCount_of_arm c ev
  have htail : ∀ c₁ : Context, Meets (fx.dispatchTail ev) c₁
      (within (eventResources ++ [.lock, .suspend]) c₁.extMonCount)
      fun _ c' => c'.inputs = c₁.inputs := by
    intro c₁
    by_cases hev : ev = .timerExpired
    · subst hev
      exact (dispatchTail_timerExpired_spec fx c₁).imp fun _ _ h => h.1
    · exact (dispatchTail_spec fx c₁ ev hev).mono
        (fun _ _ h => ⟨List.mem_append_left _ h.1, h.2⟩) fun _ _ h => h.1
  simp only [Effectors.handle, Effectors.dispatch, bind_assoc]
  refine (lit_of_within (dispatchUpdate_spec fx c ev hn) log).bind ?_
  rintro falls c₁ log₁ ⟨⟨harm, -⟩, hlit₁⟩
  -- An arm judged with no monitor turns nothing off, whatever the count after it.
  have hlit₁' : Lit c₁.extMonCount log log₁ := by
    rcases hcount falls c₁ harm with rfl | rfl
    · exact hlit₁.of_zero
    · exact hlit₁
  have hmid : Meets (when falls (fx.dispatchTail ev)) c₁
      (within (eventResources ++ [.lock, .suspend]) c₁.extMonCount)
      fun _ c' => c'.inputs = c₁.inputs := by
    rw [meets_when]
    exact ⟨fun _ => htail c₁, fun _ => rfl⟩
  refine (lit_of_within hmid log₁).bind ?_
  rintro _ c₂ log₂ ⟨hin, hlit₂⟩
  refine (unlogged (syncWaybar_spec fx c₂) (by simp) log₂).mono (fun _ _ _ => id) ?_
  rintro _ _ _ ⟨⟨v, rfl⟩, rfl⟩
  have hext : c₂.extMonCount = c₁.extMonCount := congrArg Inputs.extMonCount hin
  show Lit c₂.extMonCount log _
  rw [hext]
  exact hlit₁'.trans hlit₂

/-- So does the startup. -/
theorem startup_lit (c : Context) (log : PanelLog) :
    Wp (panelWorld ok) (fun _ _ _ => True) (fun _ c' log' => Lit c'.extMonCount log log')
      fx.startup c log := by
  refine (lit_of_within (startup_spec fx c) log).mono (fun _ _ _ => id) ?_
  rintro _ c' log' ⟨⟨hin, -⟩, hlit⟩
  rwa [show c'.extMonCount = c.extMonCount from congrArg Inputs.extMonCount hin]

/-! ## The events that take the last monitor away -/

/-- The trace answered a plain listing of the monitors by `monitors`. -/
def monitorsAdmit (monitors : Option (List MonitorSnapshot)) : (e : Eff) → e.Ans → Prop
  | .monitors, b => b = monitors
  | _, _ => True

/-- Without an external monitor, the machine moves to a state that turns the panel on. -/
def HotplugLights (c : Context) : Prop :=
  fx.shadow = false ∧ c.state ≠ .suspending ∧
    worldState { c with extMonCount := 0 }.world ≠ c.state ∧
    c.edpPolicy.resolve (decide (worldState { c with extMonCount := 0 }.world = .lidOpen)) = true

/-- The tick's repairs move the machine to a state that turns the panel on, or the snapshot has it
disabled where it resolves to on. -/
def TickLights (a : TickReads) (snap : ReconcileSnapshot) (c : Context) : Prop :=
  fx.shadow = false ∧ c.state ≠ .suspending ∧
    (EntryLights fx a snap c ∨ snap.edpDisabled = some true ∧ resolvedAfter fx a snap c = true)

/-- What a hotplug commands is read off its move. -/
theorem handle_monitorHotplug_log (monitors : Option (List MonitorSnapshot)) (added : Bool)
    (name : String) (c : Context) (log : PanelLog) :
    Wp (panelWorld fun o => monitorsAdmit monitors o.1.2 o.2) (fun _ _ _ => True)
      (fun _ c' log' => c'.extMonCount = extMonitorCountIn monitors c.extMonCount ∧
        Sent (moveCommands fx (Event.kind (.monitorHotplug added name))
          { c with extMonCount := extMonitorCountIn monitors c.extMonCount }) log log')
      (fx.handle (.monitorHotplug added name)) c log := by
  have htail : fx.dispatchTail (.monitorHotplug added name) =
      fx.evaluateFsms (Event.kind (.monitorHotplug added name)) := by
    cases added <;> rfl
  simp only [Effectors.handle, Effectors.dispatch, Effectors.dispatchUpdate,
    Hyprctl.extMonitorCount, bind_assoc, pure_bind]
  rw [wp_get_bind]
  refine (wp_observer_ask_bind (e := Eff.monitors)).mpr ⟨trivial, ?_⟩
  rintro _ rfl
  rw [wp_modify_bind]
  refine (unlogged (scheduleProfileReconcile_spec _) (by simp) log).bind ?_
  rintro _ _ _ ⟨⟨t, rfl⟩, rfl⟩
  refine (unlogged (requestReconcile_spec _ _) (by simp) _).bind ?_
  rintro _ _ _ ⟨rfl, rfl⟩
  show Wp _ _ _ (fx.dispatchTail (.monitorHotplug added name) >>= fun _ => fx.syncWaybar) _ _
  rw [htail]
  refine (evaluateFsms_log fx _ _ (by cases added <;> simp [Event.kind]) _).bind ?_
  rintro _ _ log' ⟨⟨g, w, rfl⟩, hsent⟩
  refine (unlogged (syncWaybar_spec fx _) (by simp) log').mono (fun _ _ _ => id) ?_
  rintro _ _ _ ⟨⟨v, rfl⟩, rfl⟩
  exact ⟨rfl, hsent⟩

/-- What a tick commands is read off its repairs. -/
theorem handle_reconcileTick_log (a : TickReads) (snap : ReconcileSnapshot) (c : Context)
    (log : PanelLog) :
    Wp (tickWorld a) (fun _ _ _ => True)
      (fun _ c' log' => c'.extMonCount = snap.extMonCount ∧
        Sent (tickCommands fx a snap c) log log')
      (fx.handle (.reconcileTick snap)) c log := by
  refine (dispatch_reconcileTick_log fx a snap c log).bind ?_
  rintro _ c₁ log₁ ⟨hin, -, -, hsent⟩
  refine (unlogged (syncWaybar_spec fx c₁) (by simp) log₁).mono (fun _ _ _ => id) ?_
  rintro _ _ _ ⟨⟨v, rfl⟩, rfl⟩
  have hext : c₁.extMonCount = _ := congrArg Inputs.extMonCount hin
  exact ⟨hext.trans (repairedInputs_fields fx a snap c).1, hsent⟩

/-- A tick that lights the panel commands it. -/
theorem true_mem_tickCommands {a : TickReads} {snap : ReconcileSnapshot} {c : Context}
    (h : TickLights fx a snap c) : true ∈ tickCommands fx a snap c := by
  obtain ⟨hs, hc, hentry | ⟨hobs, hres⟩⟩ := h
  · exact List.mem_append_left _ ((true_mem_tickMoveCommands_iff fx a hc).mpr ⟨hs, hentry⟩)
  · refine List.mem_append_right _ ?_
    rw [resolvedAfter] at hres
    have hon : (tickPolicy fx a snap c).resolve true = true := by
      cases hpol : tickPolicy fx a snap c
      · rfl
      · rfl
      · rw [hpol] at hres
        exact absurd hres (by simp [EdpPolicy.resolve])
    simp [tickState_ne_suspending fx a snap hc, enforceCommands, hobs, hres, edpCommands, hon, hs]

/-! ## Runs -/

/-- Where the last command is off and the turn takes the last external monitor away, the turn moves
the machine to turn the panel on, or the tick enforces it, and the queue takes the command. -/
def KeepsLit (log : PanelLog) (t : Turn) : Prop :=
  lastSent log = some false → 0 < t.before.extMonCount →
    match t.ev with
    | .monitorHotplug _ _ => ∃ monitors, (∀ o ∈ t.trace, monitorsAdmit monitors o.1.2 o.2) ∧
        (extMonitorCountIn monitors t.before.extMonCount = 0 →
          HotplugLights fx t.before ∧ queueTakes (panelLog t.trace) true)
    | .reconcileTick snap => ∃ a : TickReads, a.Of t.trace ∧
        (snap.extMonCount = 0 →
          TickLights fx a snap t.before ∧ queueTakes (panelLog t.trace) true)
    | _ => True

/-- Without an external monitor on record, the last panel command is not off. -/
def panelLit (c : Context) (log : PanelLog) : Prop :=
  c.extMonCount = 0 → lastSent log ≠ some false

/-- Where nothing darkens the panel, the last command is off only if it was. -/
theorem lastSent_of_lit {log l : PanelLog} (hl : ∀ p ∈ l, p.1 = true)
    (h : lastSent log ≠ some false) : lastSent (log ++ l) ≠ some false := by
  rw [lastSent_append]
  rcases lastSent_of_all_on hl with hnone | hsome
  · rwa [hnone]
  · rw [hsome]
    simp

/-- Only a hotplug and a tick move the count of external monitors. -/
theorem Dispatched.extMonCount {c c' : Context} {ev : Event} (h : Dispatched c ev c')
    (hplug : ∀ added name, ev ≠ .monitorHotplug added name)
    (htick : ∀ snap, ev ≠ .reconcileTick snap) : c'.extMonCount = c.extMonCount := by
  obtain ⟨falls, c₁, harm, hin, -⟩ := h
  refine (congrArg Inputs.extMonCount hin).trans ?_
  show c₁.inputs.extMonCount = c.inputs.extMonCount
  -- By what the arm may change of the inputs; the count is never among it.
  cases ev with
  | reconcileTick snap => exact absurd rfl (htick snap)
  | monitorHotplug added name => exact absurd rfl (hplug added name)
  | lid closed =>
    obtain ⟨-, -, h⟩ := harm
    split_ifs at h
    · obtain ⟨w, h⟩ := h
      rw [h]
    · rw [h]
  | inhibitor wayland active => cases wayland <;> rw [harm.2.2]
  | acChanged onAc =>
    obtain ⟨-, -, h⟩ := harm
    split_ifs at h
    · rw [h]
    · obtain ⟨r, h⟩ := h
      rw [h]
  | batteryPercent pct =>
    obtain ⟨-, r, h, -⟩ := harm
    rw [h]
  | powerAcSettled | suspendRequestChanged _ | timerExpired =>
    obtain ⟨-, -, _, h⟩ := harm
    rw [h]
  | lockChanged _ | powerdAppeared | resumed => rw [harm.2.2]
  | configReloaded | profileApplied | monitorsChanged | profilesChanged | backlightHotplug
  | sleeping | kbdIdle _ | kbdLevelChanged _ | kbdOverrideChanged _ | kbdLedHotplug
  | platformProfileChanged _ | gpuOverrideChanged _ | powerOverrideChanged _ => rw [harm.2.1]

/-- A turn that meets the condition keeps the panel lit. -/
theorem turn_panelLit {c c' : Context} {ev : Event} {tr : List DaemonObs} {log : PanelLog}
    (hlit : panelLit c log) (hrun : Process.Runs (fx.handle ev) c tr () c')
    (hcond : KeepsLit fx log ⟨c, ev, tr, c'⟩) : panelLit c' (log ++ panelLog tr) := by
  intro hzero
  have hany : ∀ o ∈ tr, (fun _ : DaemonObs => True) o := fun _ _ => trivial
  obtain ⟨l, hl, hon⟩ := (Program.Runs.of_wp_observer hrun hany (handle_lit fx ev c [])).2
  obtain rfl : panelLog tr = l := hl
  have hall := hon hzero
  by_cases hlast : lastSent log = some false
  · have hpos : 0 < c.extMonCount := Nat.pos_of_ne_zero fun h => hlit h hlast
    -- Then the turn takes the last monitor away, and its command to turn the panel on is taken.
    have htaken : (true, true) ∈ panelLog tr := by
      have hev := hcond hlast hpos
      cases ev with
      | monitorHotplug added name =>
        obtain ⟨monitors, hof, hlights⟩ := hev
        obtain ⟨hext, hsent⟩ := (Program.Runs.of_wp_observer hrun hof
          (handle_monitorHotplug_log fx monitors added name c [])).2
        have hcount : extMonitorCountIn monitors c.extMonCount = 0 := hext.symm.trans hzero
        obtain ⟨⟨hs, hst, hmove, hres⟩, htakes⟩ := hlights hcount
        refine htakes ((mem_map_fst_of_sent hsent true).mpr ?_)
        rw [true_mem_moveCommands_iff fx (by cases added <;> simp [Event.kind])
          (by cases added <;> simp [Event.kind]), hcount]
        exact ⟨hs, hst, hmove, hres⟩
      | reconcileTick snap =>
        obtain ⟨a, hof, hlights⟩ := hev
        obtain ⟨hext, hsent⟩ := (Program.Runs.of_wp_observer hrun hof
          (handle_reconcileTick_log fx a snap c [])).2
        obtain ⟨hl, htakes⟩ := hlights (hext.symm.trans hzero)
        exact htakes ((mem_map_fst_of_sent hsent true).mpr (true_mem_tickCommands fx hl))
      | _ =>
        have hdisp := (Program.Runs.of_meets hrun (handle_spec fx c _)).2
        have hsame := hdisp.extMonCount (by simp) (by simp)
        exact absurd (hsame.symm.trans hzero) (Nat.ne_of_gt hpos)
    rw [lastSent_append, lastSent_of_taken hall htaken]
    simp
  · exact lastSent_of_lit hall hlast

/-- The trace of the daemon up to now. -/
def history (tr₀ : List DaemonObs) (ts : List Turn) : List DaemonObs :=
  tr₀ ++ ts.flatMap Turn.trace

/-- The history of one turn more. -/
theorem history_snoc (tr₀ : List DaemonObs) (ts : List Turn) (t : Turn) :
    history tr₀ (ts ++ [t]) = history tr₀ ts ++ t.trace := by
  simp [history]

/-- A turn of a run that took one more is one of those before, or the last. -/
theorem split_snoc {α : Type} {l pre post : List α} {x y : α} (h : l ++ [x] = pre ++ y :: post) :
    (∃ post', l = pre ++ y :: post') ∨ l = pre ∧ x = y := by
  rcases List.eq_nil_or_concat post with rfl | ⟨post', z, rfl⟩
  · obtain ⟨hl, hx⟩ := List.append_inj' h rfl
    exact .inr ⟨hl, by simpa using hx⟩
  · rw [List.concat_eq_append, ← List.cons_append, ← List.append_assoc] at h
    exact .inl ⟨post', (List.append_inj' h rfl).1⟩

/-- After the startup the panel is lit, or another monitor is there. -/
theorem startup_panelLit {c c' : Context} {tr tr' : List DaemonObs}
    (hsetup : Process.Runs fx.setup {} tr true c) (hstart : Process.Runs fx.startup c tr' () c') :
    panelLit c' (panelLog (tr ++ tr')) := by
  intro hzero
  have hany : ∀ tr : List DaemonObs, ∀ o ∈ tr, (fun _ : DaemonObs => True) o :=
    fun _ _ _ => trivial
  have hquiet : panelLog tr = [] := (Program.Runs.of_wp_observer hsetup (hany tr)
    (unlogged (setup_spec fx {}) (by simp) [])).2.2
  obtain ⟨l, hl, hon⟩ := (Program.Runs.of_wp_observer hstart (hany tr') (startup_lit fx c [])).2
  obtain rfl : panelLog tr' = l := hl
  rw [panelLog_append, hquiet, List.nil_append]
  rcases lastSent_of_all_on (hon hzero) with h | h <;> rw [h] <;> simp

/-- In every run whose turns meet the condition, the panel is lit after every turn. -/
theorem lastOutput_kept {tr₀ : List DaemonObs} {ts : List Turn} {c : Context}
    (h : Run fx tr₀ ts c)
    (hcond : ∀ pre t post, ts = pre ++ t :: post → KeepsLit fx (panelLog (history tr₀ pre)) t) :
    ∀ pre t post, ts = pre ++ t :: post →
      panelLit t.after (panelLog (history tr₀ (pre ++ [t]))) := by
  suffices hinv : panelLit c (panelLog (history tr₀ ts)) ∧ ∀ pre t post, ts = pre ++ t :: post →
      panelLit t.after (panelLog (history tr₀ (pre ++ [t]))) from hinv.2
  induction h with
  | start hsetup hstart =>
    refine ⟨?_, fun pre t post h => absurd h (by simp)⟩
    rw [history, List.flatMap_nil, List.append_nil]
    exact startup_panelLit fx hsetup hstart
  | @turn c c' tr₀ tr ts ev _ hr ih =>
    obtain ⟨hlit, hbefore⟩ := ih fun pre t post h =>
      hcond pre t (post ++ [⟨c, ev, tr, c'⟩]) (by rw [h]; simp)
    have hlast : panelLit c' (panelLog (history tr₀ (ts ++ [⟨c, ev, tr, c'⟩]))) := by
      rw [history_snoc, panelLog_append]
      exact turn_panelLit fx hlit hr (hcond ts ⟨c, ev, tr, c'⟩ [] rfl)
    refine ⟨hlast, fun pre t post h => ?_⟩
    rcases split_snoc h with ⟨post', hts⟩ | ⟨rfl, rfl⟩
    · exact hbefore pre t post' hts
    · exact hlast

end

/-! ## Undocking -/

/-- One external monitor is connected, and the lid is open or shut. -/
def docking (shut : Bool) : (e : Eff) → e.Ans
  | .lidClosed => some shut
  | .monitors => some [{ name := "DP-1" }]
  | e => e.quiet

/-- No external monitor is connected any more. -/
def undocking : (e : Eff) → e.Ans
  | .monitors => some []
  | e => e.quiet

/-- A profile whose policy turns the panel on. -/
def enabling : MonitorProfile := { name := "dock", edp := .enable }

/-- The monitor matches it. -/
def matching : (e : Eff) → e.Ans
  | .monitors => some [{ name := "DP-1" }]
  | .loadProfiles => [enabling]
  | .selectProfile _ _ => some enabling
  | .activeLinkIs _ => false
  | e => e.quiet

/-- A docked laptop with its lid shut matches the profile, and loses its monitor: the last command
is off until then, and the move into the countdown lights the panel. -/
theorem lastOutput_kept_enabled : ∃ tr₀ t₁ t₂ c, Run ⟨false, true⟩ tr₀ [t₁, t₂] c ∧
    lastSent (panelLog (history tr₀ [t₁])) = some false ∧ t₂.before.extMonCount = 1 ∧
    t₂.after.extMonCount = 0 ∧ lastSent (panelLog (history tr₀ [t₁, t₂])) = some true ∧
    panelLit t₂.after (panelLog (history tr₀ [t₁, t₂])) := by
  have hmatched := Run.turn .monitorsChanged
    (Run.start (runs_answered (Effectors.setup ⟨false, true⟩) (docking true) {})
      (runs_answered (Effectors.startup ⟨false, true⟩) (docking true) _))
    (runs_answered (Effectors.handle ⟨false, true⟩ .monitorsChanged) matching _)
  have hrun := Run.turn (.monitorHotplug false "DP-1") hmatched
    (runs_answered (Effectors.handle ⟨false, true⟩ (.monitorHotplug false "DP-1")) undocking _)
  refine ⟨_, _, _, _, hrun, by decide +kernel, by decide +kernel, by decide +kernel,
    by decide +kernel, lastOutput_kept _ hrun (fun pre t post h => ?_) [_] _ [] rfl⟩
  rcases split_snoc (l := [_]) h with ⟨post', hts⟩ | ⟨rfl, rfl⟩
  · obtain ⟨rfl, rfl, rfl⟩ : pre = [] ∧ t = _ ∧ post' = [] := by
      simpa [List.singleton_eq_append_iff] using hts
    exact fun _ _ => trivial
  · intro _ _
    refine ⟨some [], fun o ho => ?_, fun _ => ⟨⟨rfl, by decide +kernel, by decide +kernel,
      by decide +kernel⟩, fun _ => by decide +kernel⟩⟩
    rw [answer_of_mem_answered ho]
    obtain ⟨⟨c, e⟩, b⟩ := o
    cases e <;> trivial

/-- A docked laptop with its lid shut loses its monitor: the panel stays commanded off. -/
theorem not_panelLit : ¬∀ (fx : Effectors) (tr₀ : List DaemonObs) (ts : List Turn) (c : Context),
    Run fx tr₀ ts c → ∀ pre t post, ts = pre ++ t :: post →
      panelLit t.after (panelLog (history tr₀ (pre ++ [t]))) := by
  intro h
  have hrun := Run.turn (.monitorHotplug false "DP-1")
    (Run.start (runs_answered (Effectors.setup ⟨false, true⟩) (docking true) {})
      (runs_answered (Effectors.startup ⟨false, true⟩) (docking true) _))
    (runs_answered (Effectors.handle ⟨false, true⟩ (.monitorHotplug false "DP-1")) undocking _)
  exact absurd (h _ _ _ _ hrun [] _ [] rfl (by decide +kernel)) (by decide +kernel)

end Hyprstate
