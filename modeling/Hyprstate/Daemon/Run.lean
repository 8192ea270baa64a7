import Hyprstate.Daemon.Dispatcher

/-!
# Startup and runs of the daemon

The context that `daemon::run` of `daemon/mod.rs` builds before it hands over to the dispatcher, the
prologue of `dispatcher::run`, and its loop. A `Run` is any number of turns of the loop after them,
each with the trace of the requests it made.
-/

namespace Hyprstate

open Reactive Process

/-- Whether a logind inhibitor holder counts as a real one. -/
def inhibitBaselineWho : List String :=
  ["ModemManager", "NetworkManager", "UPower", "hypridle", "hyprstate", "hypr-power", "hypr-fsm"]

/-- `sources::logind_has_real_idle_block`. -/
def logindHasRealIdleBlock (rows : List InhibitorRow) : Bool :=
  rows.any fun row =>
    row.mode == "block" &&
      ((row.what.splitOn ":").any fun c => c == "idle" || c == "sleep") &&
      !inhibitBaselineWho.contains row.who

/-- `sources::logind_real_inhibitor_active`; `none` on failure. -/
def logindRealInhibitorActive {S : Type} : Process S Eff Eff.Ans (Option Bool) := do
  let rows ← request .listInhibitors
  pure (rows.map logindHasRealIdleBlock)

namespace Effectors

variable (fx : Effectors)

/-- `power.conf`, into the context. -/
def loadConf : Daemon PowerConf := do
  let conf ← request .loadPowerConf
  modify fun c => { c with
    power := { c.power with powerPolicy := conf.policy }
    batteryLowPct := conf.batteryLowPct
    lidPresent := decide (conf.lid = .present)
    lidGrace := conf.lidGraceSecs * 1000
    lidAc := conf.lidAc }
  pure conf

/-- UPower's first reading of the AC axis and of the battery. -/
def seedPower : Daemon Unit := do
  let connected ← request .upower
  let pct ← (if connected then do
      let onBattery ← request .onBattery
      modify fun c => { c with
        onAc := (onBattery.map not).getD c.onAc
        onAcSettled := (onBattery.map not).getD c.onAcSettled }
      request .batteryInitial
    else pure none : Daemon (Option Rat))
  modify fun c => { c with
    batteryPercent := pct
    lowBattery := (pct.map fun p => decide (p ≤ (c.batteryLowPct : Rat))).getD false }

/-- The keyboard backlight's configuration and files. -/
def seedKbd (conf : PowerConf) : Daemon Unit := do
  let level ← request .kbdLevelWord
  let override ← request .kbdOverrideExists
  modify fun c => { c with kbd := { c.kbd with
    kbdMode := conf.kbd
    kbdIdle := conf.kbdIdleSecs * 1000
    kbdDarkLux := conf.kbdDarkLux
    kbdLevel := (level.map clampLevel).getD defaultKbdLevelPct
    kbdOverride := override } }
  discoverKbd

/-- The initial world snapshot. -/
def seedWorld : Daemon Unit := do
  let c ← get
  let closed ← (if c.lidPresent then request .lidClosed else pure (some false) :
    Daemon (Option Bool))
  modify fun c => { c with lidClosed := closed.getD false }
  let logind ← logindRealInhibitorActive
  modify fun c => { c with logindInhibitor := logind.getD false }
  let wayland ← Hyprctl.waylandIdleInhibited
  modify fun c => { c with waylandInhibitor := wayland.getD false }
  let count ← Hyprctl.extMonitorCount 0
  modify fun c => { c with extMonCount := count }

/-- Seed the active profile from the link. -/
def seedProfile : Daemon Unit := do
  let active ← request .activeProfileName
  match active with
  | none => pure ()
  | some name => do
    let profiles ← request .loadProfiles
    match profiles.find? fun p => p.name == name with
    | none => pure ()
    | some p => modify fun c => { c with edpPolicy := p.edp, activeProfileRev := some p }
    modify fun c => { c with currentProfile := some name }

/-- The context is built once the lid inhibitor is held. -/
def seedContext (conf : PowerConf) : Daemon Unit := do
  seedPower
  discoverBacklight
  seedKbd conf
  let _ ← fx.batteryLowRequestCheck
  seedWorld
  seedProfile
  request (.sendEvent .monitorsChanged)
  let word ← request .powerOverrideWord
  request (.sendEvent (.powerOverrideChanged word))
  let hint ← (if fx.session then request .lockedHint else pure none : Daemon (Option Bool))
  modify fun c => { c with locked := hint.getD false }
  request (.lockedSend (hint.getD false))

/-- `daemon::run` up to the dispatcher; whether the daemon runs. Without the lid inhibitor a machine
with a lid refuses to. -/
def setup : Daemon Bool := do
  let conf ← loadConf
  let _ ← request .suspendRequestRemove
  let c ← get
  let held ← (if fx.shadow || !c.lidPresent then pure true else request .inhibitLidSwitch :
    Daemon Bool)
  when held (fx.seedContext conf)
  pure held

/-- The prologue of `dispatcher::run`: derive and enter the first state, and the first checks. -/
def startup : Daemon Unit := do
  modify fun c => { c with state := worldState c.world }
  let c ← get
  let _ ← fx.onEnter c.state true
  let chosen ← currentMatch
  let mode ← resolveSessionGpuMode ((chosen.map MonitorProfile.gpu).getD .auto)
  fx.syncDgpuPin (dgpuRuntimePmPinned mode.1)
  fx.syncWaybar
  fx.kbdPolicyCheck true
  requestReconcile .startup

/-- The whole dispatcher: setup, and the loop's prologue where it succeeds. -/
def boot : Daemon Unit := do
  let ok ← fx.setup
  when ok fx.startup

/-- One turn of the loop. -/
def handle (ev : Event) : Daemon Unit := do
  fx.dispatch ev
  fx.syncWaybar

end Effectors

/-! ## Runs -/

/-- One turn of the dispatcher's loop: the context it began in, the event, the requests it made with
their answers, and the context it left. -/
structure Turn where
  before : Context
  ev : Event
  trace : List DaemonObs
  after : Context

/-- The daemon started with some trace, took the turns in order, and is in the context now. Every
answer is possible at every request. -/
inductive Run (fx : Effectors) : List DaemonObs → List Turn → Context → Prop
  | start {c c' : Context} {tr tr' : List DaemonObs} :
      Process.Runs fx.setup {} tr true c → Process.Runs fx.startup c tr' () c' →
      Run fx (tr ++ tr') [] c'
  | turn {c c' : Context} {tr₀ tr : List DaemonObs} {ts : List Turn} (ev : Event) :
      Run fx tr₀ ts c → Process.Runs (fx.handle ev) c tr () c' →
      Run fx tr₀ (ts ++ [⟨c, ev, tr, c'⟩]) c'

end Hyprstate
