import Hyprstate.Daemon.Reconciler
import Hyprstate.Reconcile.Tick

/-!
# The panel's repair

A reconcile pass should bring the internal panel to what it resolves to. It reads the panel in a
plain listing of the monitors, and a plain listing has the enabled outputs only. So the panel is
observed enabled or not at all, and the branch that turns a disabled panel on again never runs: only
a move of the machine lights it.
-/

namespace Hyprstate

open Reactive Process Reconciler

/-! ## The compositor's outputs -/

/-- What the compositor lists plainly: the enabled outputs of all it has. -/
def enabledOutputs (all : List MonitorSnapshot) : List MonitorSnapshot :=
  all.filter fun m => !m.disabled

/-- Whether the panel is really enabled. -/
def panelOn (all : List MonitorSnapshot) : Bool :=
  all.any fun m => m.name == edpMonitor && !m.disabled

/-- A plain listing shows the panel enabled, or does not show it. -/
theorem edpIsDisabledIn_enabledOutputs (all : List MonitorSnapshot) :
    edpIsDisabledIn (enabledOutputs all) = if panelOn all then some false else none := by
  induction all with
  | nil => rfl
  | cons m all ih =>
    rw [edpIsDisabledIn] at ih ⊢
    simp only [enabledOutputs, panelOn] at ih ⊢
    cases hdis : m.disabled <;> by_cases hname : m.name = edpMonitor
    · simp [hdis, hname]
    · simpa [hdis, hname] using ih
    · simpa [hdis, hname] using ih
    · simpa [hdis, hname] using ih

/-! ## Enforcement -/

section

variable (fx : Effectors) (a : TickReads)

/-- The panel as it resolves after the repairs of a pass. -/
def resolvedAfter (snap : ReconcileSnapshot) (c : Context) : Bool :=
  (tickPolicy fx a snap c).resolve (decide (tickState fx a snap c = .lidOpen))

/-- The repairs move the machine to a state that turns the panel on when it is entered. The policy
is still the one before the active profile was read again. -/
def EntryLights (snap : ReconcileSnapshot) (c : Context) : Prop :=
  Effectors.fsmDrift snap c a.standing = true ∧
    worldState (repairedInputs fx a snap c).world ≠ c.state ∧
    c.edpPolicy.resolve
      (decide (worldState (repairedInputs fx a snap c).world = .lidOpen)) = true

/-- The queue does not refuse every command for this panel state. -/
def queueTakes (log : PanelLog) (on : Bool) : Prop := on ∈ log.map Prod.fst → (on, true) ∈ log

/-- Where the panel's real state differs from what it resolves to in `c`, the queue took a command
for that; but a disable may be withheld without an external monitor. -/
def PanelEnforced (all : List MonitorSnapshot) (c : Context) (log : PanelLog) : Prop :=
  let on := Effectors.edpShouldBeOn c
  panelOn all ≠ on → (on, true) ∈ log ∨ on = false ∧ c.extMonCount = 0

/-- What a pass needs to enforce the panel: it is as it resolves, or a disable may be withheld, or,
out of shadow mode and with a queue that takes the command, it is really on, or a move of the
machine turns it on. -/
def Enforceable (all : List MonitorSnapshot) (snap : ReconcileSnapshot) (c : Context)
    (log : PanelLog) : Prop :=
  let on := resolvedAfter fx a snap c
  panelOn all = on ∨ on = false ∧ snap.extMonCount = 0 ∨
    fx.shadow = false ∧ queueTakes log on ∧ (panelOn all = true ∨ EntryLights fx a snap c)

/-- A repair of the inputs leaves the state. -/
theorem repairedInputs_state (snap : ReconcileSnapshot) (c : Context) :
    (repairedInputs fx a snap c).state = c.state := by
  rw [repairedInputs]
  split <;> rfl

/-- No tick lets the machine suspend. -/
theorem tickState_ne_suspending (snap : ReconcileSnapshot) {c : Context}
    (hc : c.state ≠ .suspending) : tickState fx a snap c ≠ .suspending := by
  rw [tickState]
  split
  · rw [settled_eq _ (by simp) (by simp), repairedInputs_state, if_neg hc]
    exact worldState_ne_suspending _
  · exact hc

/-- The command of the machine's move is for the panel of the state it moves to. -/
theorem true_mem_tickMoveCommands_iff {snap : ReconcileSnapshot} {c : Context}
    (hc : c.state ≠ .suspending) :
    true ∈ tickMoveCommands fx a snap c ↔ fx.shadow = false ∧ EntryLights fx a snap c := by
  have hpol : (repairedInputs fx a snap c).edpPolicy = c.edpPolicy := by
    rw [repairedInputs]
    split <;> rfl
  rw [tickMoveCommands, EntryLights]
  by_cases hf : Effectors.fsmDrift snap c a.standing = true
  · rw [if_pos hf, true_mem_moveCommands_iff fx (by simp) (by simp), repairedInputs_state, hpol]
    simp [hf, hc]
  · simp [hf]

/-- A pass that observes the panel enabled commands it off where it resolves to off. -/
theorem enforceCommands_of_on {snap : ReconcileSnapshot} {policy : EdpPolicy} {state : State}
    (hobs : snap.edpDisabled = some false)
    (hoff : policy.resolve (decide (state = .lidOpen)) = false) :
    enforceCommands fx snap policy state =
      if !fx.shadow && decide (0 < snap.extMonCount) then [false] else [] := by
  have hres : policy.resolve false = false := by
    cases policy
    · rfl
    · exact absurd hoff (by simp [EdpPolicy.resolve])
    · rfl
  simp [enforceCommands, hobs, hoff, edpCommands, hres, edpMayDisable]

/-- A pass that observes the panel enabled, or not at all, never commands it on. -/
theorem true_notMem_enforceCommands {snap : ReconcileSnapshot} {policy : EdpPolicy} {state : State}
    (hobs : snap.edpDisabled ≠ some true) : true ∉ enforceCommands fx snap policy state := by
  rw [enforceCommands]
  cases hsnap : snap.edpDisabled with
  | none => simp
  | some disabled =>
    obtain rfl : disabled = false := by
      cases disabled
      · rfl
      · exact absurd hsnap hobs
    cases hon : policy.resolve (decide (state = .lidOpen)) with
    | true => simp
    | false =>
      have hcmd := enforceCommands_of_on fx hsnap hon
      rw [enforceCommands, hsnap, hon] at hcmd
      dsimp only at hcmd ⊢
      rw [hcmd]
      split <;> simp

/-- In shadow mode a pass commands nothing. -/
theorem shadow_eq_false_of_mem {snap : ReconcileSnapshot} {c : Context} {on : Bool}
    (h : on ∈ tickCommands fx a snap c) : fx.shadow = false := by
  have hedp : ∀ policy ext on', on ∈ edpCommands fx policy ext on' → fx.shadow = false := by
    intro policy ext on' h
    rw [edpCommands] at h
    split_ifs at h with hguard
    · simpa using (Bool.and_eq_true_iff.mp hguard).1
    · exact absurd h List.not_mem_nil
  rcases List.mem_append.mp h with h | h
  · rw [tickMoveCommands, moveCommands, entryCommands] at h
    split_ifs at h <;> first | exact hedp _ _ _ h | exact absurd h List.not_mem_nil
  · rw [enforceCommands] at h
    split_ifs at h
    · exact absurd h List.not_mem_nil
    · split at h
      · exact absurd h List.not_mem_nil
      · split_ifs at h <;> first | exact hedp _ _ _ h | exact absurd h List.not_mem_nil

/-- What was sent is what the turn commands. -/
theorem mem_map_fst_of_sent {cmds : List Bool} {log : PanelLog} (h : Sent cmds [] log) (on : Bool) :
    on ∈ log.map Prod.fst ↔ on ∈ cmds := by
  obtain ⟨l, rfl, rfl⟩ := h
  rfl

/-- A pass with a good listing enforces the panel exactly where it is enforceable. -/
theorem panelEnforced_iff {r : Reads} {prev prev' : Nat}
    {tr : List (Obs (Nat × Eff) (stamped Eff.Ans))} {tr' : List DaemonObs}
    {snap : ReconcileSnapshot} {reasons : List ReconcileTrigger} {c c' : Context}
    {all : List MonitorSnapshot} (hc : c.state ≠ .suspending)
    (hgather : Process.Runs (gather fx.session c.lidPresent) prev tr (some snap) prev')
    (hr : r.Of tr) (hmon : r.monitors = some (enabledOutputs all))
    (htick : Process.Runs (fx.dispatch (.reconcileTick { snap with reasons := describe reasons }))
      c tr' () c')
    (ha : a.Of tr') :
    PanelEnforced all c' (tr'.foldl commanded []) ↔
      Enforceable fx a all { snap with reasons := describe reasons } c
        (tr'.foldl commanded []) := by
  -- The plain listing names no disabled panel, so the snapshot knows at most that it is on.
  have hobs : snap.edpDisabled = if panelOn all then some false else none := by
    obtain ⟨lid, -, rfl⟩ :=
      Option.map_eq_some_iff.mp (gather_spec fx.session c.lidPresent hgather hr).symm
    rw [← edpIsDisabledIn_enabledOutputs]
    simp [snapshot, hmon]
  generalize hsnap' : ({ snap with reasons := describe reasons } : ReconcileSnapshot) = snap' at *
  have hobs' : snap'.edpDisabled = if panelOn all then some false else none := by
    rw [← hsnap']
    exact hobs
  obtain ⟨hin, hst, hpol, hsent⟩ := tick_spec fx a htick ha
  generalize tr'.foldl commanded [] = log at hsent ⊢
  have hext : c'.extMonCount = snap'.extMonCount :=
    (congrArg Inputs.extMonCount hin).trans (repairedInputs_fields fx a snap' c).1
  have hon : Effectors.edpShouldBeOn c' = resolvedAfter fx a snap' c := by
    rw [Effectors.edpShouldBeOn, resolvedAfter, hst, hpol]
  -- What was sent is what the tick commands, so the claim turns into one about its commands.
  have hmem : ∀ on, on ∈ log.map Prod.fst ↔ on ∈ tickCommands fx a snap' c :=
    mem_map_fst_of_sent hsent
  have htaken : ∀ {on}, (on, true) ∈ log → on ∈ tickCommands fx a snap' c := fun h =>
    (hmem _).mp (List.mem_map_of_mem (f := Prod.fst) h)
  simp only [PanelEnforced, Enforceable, hon, hext]
  generalize hres : resolvedAfter fx a snap' c = on
  have hshadow : ∀ {on}, (on, true) ∈ log → fx.shadow = false := fun h =>
    shadow_eq_false_of_mem fx a (htaken h)
  have hne := tickState_ne_suspending fx a snap' hc
  rw [resolvedAfter] at hres
  -- By what is resolved and what the panel is: two of the four cases agree already.
  cases on <;> cases hpanel : panelOn all
  · simp
  · -- Really on, and resolved off: enforced with an external monitor on record.
    have hseen : snap'.edpDisabled = some false := by
      rw [hobs', hpanel]
      rfl
    have hoff := enforceCommands_of_on fx hseen hres
    constructor
    · intro h
      rcases h (by simp) with htake | ⟨-, hz⟩
      · exact .inr (.inr ⟨hshadow htake, fun _ => htake, .inl rfl⟩)
      · exact .inr (.inl ⟨rfl, hz⟩)
    · rintro (h | ⟨-, hz⟩ | ⟨hs, htake, -⟩) -
      · exact absurd h (by simp)
      · exact .inr ⟨rfl, hz⟩
      · rcases Nat.eq_zero_or_pos snap'.extMonCount with hz | hpos
        · exact .inr ⟨rfl, hz⟩
        · refine .inl (htake ((hmem false).mpr ?_))
          rw [tickCommands, if_neg hne, hoff, hs]
          simp [hpos]
  · -- Really off, and resolved on: only a move of the machine turns it on.
    have hmove : true ∈ tickCommands fx a snap' c ↔
        fx.shadow = false ∧ EntryLights fx a snap' c := by
      rw [tickCommands, if_neg hne, List.mem_append, true_mem_tickMoveCommands_iff fx a hc]
      refine or_iff_left (true_notMem_enforceCommands fx ?_)
      rw [hobs', hpanel]
      simp
    constructor
    · intro h
      rcases h (by simp) with htake | ⟨habs, -⟩
      · exact .inr (.inr ⟨hshadow htake, fun _ => htake, .inr (hmove.mp (htaken htake)).2⟩)
      · exact absurd habs (by simp)
    · rintro (h | ⟨habs, -⟩ | ⟨hs, htake, h | hentry⟩) -
      · exact absurd h (by simp)
      · exact absurd habs (by simp)
      · exact absurd h (by simp)
      · exact .inl (htake ((hmem true).mpr (hmove.mpr ⟨hs, hentry⟩)))
  · simp

end

/-! ## A dark panel with the lid open -/

/-- The panel is disabled beside an enabled external monitor. -/
def darkPanel : List MonitorSnapshot := [{ name := "eDP-2", disabled := true }, { name := "DP-1" }]

/-- A pass over these outputs, where all else is quiet. -/
def darkPanelReads : Reads where
  lid := some false
  monitors := some (enabledOutputs darkPanel)
  inhibitors := some []
  clients := some []
  lockedHint := some false
  onAc := some true
  cursorPos := none

/-- The lid is open and an external monitor connected. -/
def openBesideMonitor : Context := { extMonCount := 1 }

/-- The rule at the pass over the dark panel. -/
theorem panelEnforced_iff_darkPanel :
    ∃ (tr : List (Obs (Nat × Eff) (stamped Eff.Ans))) (tr' : List DaemonObs) (c' : Context),
      Process.Runs (gather true true) 1 tr (some (snapshot true 1 darkPanelReads false)) 1 ∧
        Process.Runs (Effectors.dispatch ⟨false, true⟩ (.reconcileTick
          { snapshot true 1 darkPanelReads false with reasons := describe [.safetyTick] }))
          openBesideMonitor tr' () c' ∧
        (PanelEnforced darkPanel c' (tr'.foldl commanded []) ↔
          Enforceable ⟨false, true⟩ .quiet darkPanel
            { snapshot true 1 darkPanelReads false with reasons := describe [.safetyTick] }
            openBesideMonitor (tr'.foldl commanded [])) := by
  have hgather := runs_answered (gather true true) darkPanelReads.answers 1
  have htick := runs_answered (Effectors.dispatch ⟨false, true⟩ (.reconcileTick
    { snapshot true 1 darkPanelReads false with reasons := describe [.safetyTick] }))
    Eff.quiet openBesideMonitor
  exact ⟨_, _, _, hgather, htick, panelEnforced_iff ⟨false, true⟩ .quiet (c := openBesideMonitor)
    (by decide) hgather (fun _ => answer_of_mem_answered) rfl htick
    (TickReads.of_answered TickReads.quiet_admits)⟩

/-- A pass over the dark panel of an open laptop sends nothing. -/
theorem not_panelEnforced : ¬∀ (fx : Effectors) (r : Reads) (a : TickReads) (prev prev' : Nat)
    (tr : List (Obs (Nat × Eff) (stamped Eff.Ans))) (tr' : List DaemonObs)
    (snap : ReconcileSnapshot) (reasons : List ReconcileTrigger) (c c' : Context)
    (all : List MonitorSnapshot), c.state ≠ .suspending →
    Process.Runs (gather fx.session c.lidPresent) prev tr (some snap) prev' → r.Of tr →
    r.monitors = some (enabledOutputs all) →
    Process.Runs (fx.dispatch (.reconcileTick { snap with reasons := describe reasons }))
      c tr' () c' → a.Of tr' → PanelEnforced all c' (tr'.foldl commanded []) := by
  intro h
  have henforced := h ⟨false, true⟩ darkPanelReads .quiet 1 1 _ _
    (snapshot true 1 darkPanelReads false) [.safetyTick] openBesideMonitor _ darkPanel (by decide)
    (runs_answered (gather true true) darkPanelReads.answers 1)
    (fun _ => answer_of_mem_answered) rfl
    (runs_answered (Effectors.dispatch ⟨false, true⟩ _) Eff.quiet openBesideMonitor)
    (TickReads.of_answered TickReads.quiet_admits)
  rcases henforced (by decide) with htaken | ⟨hoff, -⟩
  · exact absurd htaken (by decide)
  · exact absurd hoff (by decide)

end Hyprstate
