import Hyprstate.Daemon.Run

/-!
# The reconciler

`daemon/sources/reconciler.rs`: the task that gathers the world for the dispatcher to diff and
repair. Its state is the previous count of external monitors, which is its own and not the
context's.

`Reads` names what one pass was answered, and `gathered` the snapshot as a function of the answers;
`gather_spec` says that every run of the code returns it.
-/

namespace Hyprstate

open Reactive Process

/-- `hyprctl::EDP_MONITOR`. -/
def edpMonitor : String := "eDP-2"

/-- `hyprctl::edp_is_disabled_in`: whether the panel is disabled; `none` where it is not listed. -/
def edpIsDisabledIn (monitors : List MonitorSnapshot) : Option Bool :=
  (monitors.find? fun m => m.name == edpMonitor).map MonitorSnapshot.disabled

/-- `hyprctl::any_enabled_monitor_dpms_off_in`. -/
def anyEnabledMonitorDpmsOffIn (monitors : List MonitorSnapshot) : Bool :=
  monitors.any fun m => !m.disabled && !m.dpmsStatus

/-- `ReconcileTrigger::as_str`. -/
def ReconcileTrigger.asStr : ReconcileTrigger → String
  | .startup => "startup"
  | .monitorHotplug => "monitor hotplug"
  | .configReloaded => "configreloaded"
  | .profileApplied => "profile applied"
  | .lockChanged => "LockedHint changed"
  | .sessionLock => "session Lock"
  | .sessionUnlock => "session Unlock"
  | .resumed => "resumed"
  | .acChanged => "AC changed"
  | .batteryLowChanged => "battery-low changed"
  | .ueventsLost => "uevents lost"
  | .safetyTick => "safety tick"

/-- Join a burst of triggers into one reason string: each name once, where it comes first. -/
def describe (reasons : List ReconcileTrigger) : String :=
  ", ".intercalate <|
    reasons.foldl (fun names r => if r.asStr ∈ names then names else names ++ [r.asStr]) []

example : describe [.monitorHotplug, .profileApplied, .monitorHotplug] =
    "monitor hotplug, profile applied" := by decide

namespace Reconciler

/-- The reconciler's code: its private state is the previous count of external monitors. -/
abbrev Task := Process Nat Eff Eff.Ans

variable (session lidPresent : Bool)

/-- The reads after the lid's. -/
def gatherRest (lid : Bool) : Task ReconcileSnapshot := do
  let monitors ← request .monitors
  let prev ← get
  let ext := extMonitorCountIn monitors prev
  set ext
  let logind ← logindRealInhibitorActive
  let clients ← request .clients
  let locked ← (if session then request .lockedHint else pure none : Task (Option Bool))
  let onAc ← request .onAcSysfs
  let dpmsOff := monitors.map anyEnabledMonitorDpmsOffIn
  let cursorPos ← (if dpmsOff = some true then request .cursorPos else pure none :
    Task (Option (Int × Int)))
  pure
    { lidClosed := lid
      extMonCount := ext
      logindInhibitor := logind.getD false
      waylandInhibitor := clients.map anyClientInhibitingIdleIn
      locked := locked
      onAc := onAc
      edpDisabled := monitors.bind edpIsDisabledIn
      dpmsOff := dpmsOff
      cursorPos := cursorPos }

/-- One world snapshot; `none` when the lid read failed on a machine with a lid. -/
def gather : Task (Option ReconcileSnapshot) := do
  let lid ← (if lidPresent then request .lidClosed else pure (some false) : Task (Option Bool))
  match lid with
  | none => pure none
  | some lid => some <$> gatherRest session lid

/-- A pass, for a settled burst of triggers: gather one snapshot and hand it to the dispatcher. -/
def pass (reasons : List ReconcileTrigger) : Task Unit := do
  let snap ← gather session lidPresent
  match snap with
  | none => pure ()
  | some snap => request (.sendEvent (.reconcileTick { snap with reasons := describe reasons }))

/-! ## What a pass reads -/

/-- The answers to the reads of one pass. -/
structure Reads where
  lid : Option Bool
  monitors : Option (List MonitorSnapshot)
  inhibitors : Option (List InhibitorRow)
  clients : Option (List Client)
  lockedHint : Option Bool
  onAc : Option Bool
  cursorPos : Option (Int × Int)

/-- The answers as named. -/
def Reads.answers (r : Reads) : (e : Eff) → e.Ans
  | .lidClosed => r.lid
  | .monitors => r.monitors
  | .listInhibitors => r.inhibitors
  | .clients => r.clients
  | .lockedHint => r.lockedHint
  | .onAcSysfs => r.onAc
  | .cursorPos => r.cursorPos
  | e => e.quiet

/-- The pass was answered as named. -/
def Reads.Of (r : Reads) (tr : List (Obs (Nat × Eff) (stamped Eff.Ans))) : Prop :=
  ∀ o ∈ tr, o.2 = r.answers o.1.2

/-- The lid as a pass takes it: a machine without one has it open. -/
def Reads.lidOf (r : Reads) : Option Bool := if lidPresent then r.lid else some false

/-- The snapshot that the answers make, with a lid that was read. -/
def snapshot (prev : Nat) (r : Reads) (lid : Bool) : ReconcileSnapshot where
  lidClosed := lid
  extMonCount := extMonitorCountIn r.monitors prev
  logindInhibitor := (r.inhibitors.map logindHasRealIdleBlock).getD false
  waylandInhibitor := r.clients.map anyClientInhibitingIdleIn
  locked := if session then r.lockedHint else none
  onAc := r.onAc
  edpDisabled := r.monitors.bind edpIsDisabledIn
  dpmsOff := r.monitors.map anyEnabledMonitorDpmsOffIn
  cursorPos :=
    if r.monitors.map anyEnabledMonitorDpmsOffIn = some true then r.cursorPos else none

/-- With fixed answers the pass gathers the snapshot that they say. -/
theorem gatherRest_answered (prev : Nat) (r : Reads) (lid : Bool) :
    ((gatherRest session lid).answered r.answers prev).1.1 = snapshot session prev r lid := by
  have hdark : ∀ (p : Prop) [Decidable p] (s : Nat),
      ((if p then request .cursorPos else pure none : Task (Option (Int × Int))).answered
        r.answers s).1 = (if p then r.cursorPos else none, s) := by
    intro p _ s
    rw [answered_ite]
    split <;> rfl
  have hlocked : ∀ s : Nat,
      ((if session then request .lockedHint else pure none : Task (Option Bool)).answered
        r.answers s).1 = (if session then r.lockedHint else none, s) := by
    intro s
    rw [answered_ite]
    split <;> rfl
  simp only [gatherRest, logindRealInhibitorActive, answered_bind, hlocked, hdark]
  rfl

/-- Every run of `gather` returns the snapshot that its answers make, where the lid was read. -/
theorem gather_spec {prev prev' : Nat} {r : Reads} {snap : Option ReconcileSnapshot}
    {tr : List (Obs (Nat × Eff) (stamped Eff.Ans))}
    (h : Process.Runs (gather session lidPresent) prev tr snap prev') (hr : r.Of tr) :
    snap = (r.lidOf lidPresent).map (snapshot session prev r) := by
  have hsnap : snap = ((gather session lidPresent).answered r.answers prev).1.1 :=
    congrArg Prod.fst (h.eq_answered hr)
  have hlid : ((if lidPresent then request .lidClosed else pure (some false) :
      Task (Option Bool)).answered r.answers prev).1 = (r.lidOf lidPresent, prev) := by
    rw [answered_ite, Reads.lidOf]
    split <;> rfl
  rw [hsnap, gather, answered_bind, hlid]
  cases r.lidOf lidPresent with
  | none => rfl
  | some lid =>
    dsimp only
    rw [answered_map, gatherRest_answered]
    rfl

end Reconciler

end Hyprstate
