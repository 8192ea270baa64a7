import Hyprstate.Daemon.Reconciler

/-!
# The effector worker

`effector_worker` of `daemon/effectors.rs`: the task that runs the dispatcher's commands one at a
time, in the order they were queued. It has no state of its own between commands.
-/

namespace Hyprstate

open Reactive Process

namespace EffectorWorker

/-- The worker's code. -/
abbrev Task := Process Unit Eff Eff.Ans

/-- `hyprctl::edp_is_disabled`: unlike the reconciler's, this listing has the disabled outputs
too. -/
def edpIsDisabled : Task (Option Bool) := do
  let monitors ← request .monitorsAll
  pure (monitors.bind edpIsDisabledIn)

/-- Keep the edp-off marker in sync, so that a config reload converges to the commanded state. -/
def syncEdpMarker (on : Bool) : Task Unit :=
  if on then do
    let _ ← request .edpMarkerRemove
  else do
    let _ ← request .edpMarkerWrite

/-- A mutating hyprctl call whose failure is only logged. -/
def hyprctl (call : HyprctlCall) : Task Unit := do
  let _ ← request (.hyprctlOk call)

/-- Bring the panel to the commanded state: read before write, and the marker before the flip. -/
def setEdp (on : Bool) : Task Unit := do
  let state ← edpIsDisabled
  match state with
  -- No panel on this machine.
  | none => pure ()
  | some disabled => do
    syncEdpMarker on
    if on then when disabled (hyprctl .reload)
    else when (!disabled) (hyprctl .disableEdp)

/-- Run the active profile in the compositor, by a reload where that fails. -/
def applyProfile : Task Unit := do
  let ok ← request (.hyprctlOk .applyProfile)
  when (!ok) (hyprctl .reload)
  request (.sendEvent .profileApplied)

/-- `hyprctl::workspaces_on_monitor`. -/
def workspacesOn (monitor : String) (workspaces : List (Option String × Option Int)) : List Int :=
  ((workspaces.filter fun ws => ws.1 == some monitor).filterMap Prod.snd).filter fun id =>
    decide (0 < id)

/-- `hyprctl::first_external_monitor`. -/
def firstExternalIn (monitors : List MonitorSnapshot) : Option String :=
  (monitors.find? fun m => !("eDP".toList.isPrefixOf m.name.toList)).map MonitorSnapshot.name

/-- Move the workspaces stranded on the panel to an external monitor. -/
def rehomeEdpWorkspaces : Task Unit := do
  let workspaces ← request .workspaces
  let stranded := workspacesOn edpMonitor (workspaces.getD [])
  when (!stranded.isEmpty) do
    let monitors ← request .monitors
    match monitors.bind firstExternalIn with
    | none => pure ()
    | some dest => stranded.forM fun ws => hyprctl (.moveWorkspace ws dest)

/-- Run one command. -/
def run : Cmd → Task Unit
  | .setEdp on => setEdp on
  | .applyProfile => applyProfile
  | .dpmsOn => hyprctl .dpmsOn
  | .rehomeEdpWorkspaces => rehomeEdpWorkspaces
  | .pauseMedia => request .playerctlPause
  | .notify summary body tag => request (.notifySend summary body tag)
  | .runHook cmd => request (.spawnHook cmd)

/-- Only a command to turn the panel off runs the disable. -/
theorem run_noDisable {cmd : Cmd} (h : cmd ≠ .setEdp false) :
    Meets (run cmd) () (fun _ e => e ≠ .hyprctlOk .disableEdp) fun _ _ => True := by
  cases cmd with
  | setEdp on =>
    obtain rfl : on = true := by
      cases on
      · exact absurd rfl h
      · rfl
    simp only [run, setEdp, edpIsDisabled]
    rw [meets_bind, meets_bind, meets_ask]
    refine ⟨by simp, fun monitors => ?_⟩
    rw [meets_pure]
    cases monitors.bind edpIsDisabledIn with
    | none => trivial
    | some disabled => simp [syncEdpMarker, hyprctl]
  | applyProfile => simp [run, applyProfile, hyprctl]
  | rehomeEdpWorkspaces =>
    simp only [run, rehomeEdpWorkspaces]
    rw [meets_bind, meets_ask]
    refine ⟨by simp, fun workspaces => ?_⟩
    rw [meets_when]
    refine ⟨fun _ => ?_, fun _ => trivial⟩
    rw [meets_bind, meets_ask]
    refine ⟨by simp, fun monitors => ?_⟩
    cases monitors.bind firstExternalIn with
    | none => trivial
    | some dest =>
      refine meets_forM (fun ws _ _ => ?_) _ _ trivial
      simp [hyprctl]
  | _ => simp [run, hyprctl]

end EffectorWorker

end Hyprstate
