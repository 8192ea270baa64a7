import Hyprstate.Daemon.Event
import Hyprstate.Fsm.Gpu
import Hyprstate.Reactive.Process

/-!
# What the daemon asks of the world

Every interaction of a daemon task with the world is one request: a hyprctl call, a D-Bus call, a
file operation, a send on a channel, a timer. `Eff` lists them and `Eff.Ans` says what each is
answered by; a fallible call is answered by an option or by whether it succeeded. Nothing is assumed
of the answers here. Log lines, telemetry and tracing spans are left out.
-/

namespace Hyprstate

open Reactive

/-- An output as hyprctl lists it. -/
structure MonitorSnapshot where
  name : String
  description : String := ""
  disabled : Bool := false
  dpmsStatus : Bool := true
  deriving DecidableEq

/-- A client as hyprctl lists it: its `inhibitingIdle`, where that is a boolean. -/
structure Client where
  inhibitingIdle : Option Bool
  deriving DecidableEq

/-- A row of logind's ListInhibitors, without its pid and uid. -/
structure InhibitorRow where
  what : String
  who : String
  mode : String
  deriving DecidableEq

/-- Commands to the effector worker. -/
inductive Cmd
  | setEdp (on : Bool)
  | applyProfile
  | dpmsOn
  | rehomeEdpWorkspaces
  | pauseMedia
  | notify (summary body tag : String)
  | runHook (cmd : String)
  deriving DecidableEq

/-- Why a reconcile pass was asked for. -/
inductive ReconcileTrigger
  | startup
  | monitorHotplug
  | configReloaded
  | profileApplied
  | lockChanged
  | sessionLock
  | sessionUnlock
  | resumed
  | acChanged
  | batteryLowChanged
  | ueventsLost
  | safetyTick
  deriving DecidableEq

/-- The mutating hyprctl calls. -/
inductive HyprctlCall
  | reload
  /-- `eval hl.monitor(…)` that disables the internal panel. -/
  | disableEdp
  /-- `eval dofile(…)` of the active profile link. -/
  | applyProfile
  | dpmsOn
  | moveWorkspace (ws : Int) (monitor : String)
  deriving DecidableEq

/-- The snapshot for `hyprstate kbd status`. -/
structure KbdStatus where
  lit : Bool
  level : Nat
  overrideArmed : Bool
  typing : Bool
  dark : Bool
  lux : Option Rat
  darkLux : Nat
  led : String
  sensor : String
  deriving DecidableEq

/-- A request to the world. -/
inductive Eff
  -- hyprctl
  | monitors
  | monitorsAll
  | clients
  | hyprctlLocked
  | cursorPos
  | workspaces
  | hyprctlOk (call : HyprctlCall)
  -- logind
  | lidClosed
  | listInhibitors
  | inhibitLidSwitch
  | lockedHint
  | lock
  | suspend
  | setBrightness (subsystem name : String) (value : Nat)
  -- UPower and powerd
  | upower
  | onBattery
  | batteryInitial
  | powerdApplyProfile (profile : PowerProfile)
  | powerdSetDgpuAwake (awake : Bool)
  -- the request file, the override files and the markers
  | suspendRequestExists
  | suspendRequestRead
  | suspendRequestWrite (body : String)
  | suspendRequestRemove
  | powerOverrideWord
  | powerOverrideWrite (profile : PowerProfile)
  | powerOverrideRemove
  | kbdOverrideExists
  | kbdOverrideRemove
  | kbdLevelWord
  | kbdStatusWrite (status : KbdStatus)
  | edpMarkerWrite
  | edpMarkerRemove
  -- monitor profiles
  | loadPowerConf
  | loadProfiles
  | selectProfile (signature : List String) (profiles : List MonitorProfile)
  | activeProfileName
  | activeLinkIs (name : String)
  | repointActive (name : String)
  -- GPU selection
  | gpuBreadcrumbExists
  | gpuBreadcrumbRemove
  | gpuBreadcrumbWrite (pref : GpuPref)
  | gpuOverrideWord
  | platformProfileWord
  | hyprlandAqDevices
  | gpuStateReason
  | gpuSnapshot
  -- sysfs devices
  | onAcSysfs
  | findBacklight
  | readBrightness (dev : String)
  | findKbdLed
  | ledBrightness (name : String)
  | findAls
  | readLux (attr : String)
  -- tasks, channels and processes
  | now
  | spawnTimer (delay : Nat) (ev : Event)
  | spawnClaimWatch
  | isFinished (h : Handle)
  | abort (h : Handle)
  | trySend (cmd : Cmd)
  | sendEvent (ev : Event)
  | requestReconcile (trigger : ReconcileTrigger)
  | lockedSend (locked : Bool)
  | waitLocked
  | playerctlPause
  | notifySend (summary body tag : String)
  | spawnHook (cmd : String)
  | signalWaybar
  deriving DecidableEq

/-- What each request is answered by. -/
@[reducible] def Eff.Ans : Eff → Type
  | monitors | monitorsAll => Option (List MonitorSnapshot)
  | clients => Option (List Client)
  | hyprctlLocked => Option String
  | cursorPos => Option (Int × Int)
  | workspaces => Option (List (Option String × Option Int))
  | lidClosed | lockedHint | onBattery | onAcSysfs => Option Bool
  | listInhibitors => Option (List InhibitorRow)
  | batteryInitial => Option Rat
  | suspendRequestRead | powerOverrideWord | activeProfileName | gpuOverrideWord
  | platformProfileWord | gpuStateReason | findAls => Option String
  | kbdLevelWord => Option Int
  | loadPowerConf => PowerConf
  | loadProfiles => List MonitorProfile
  | selectProfile _ _ => Option MonitorProfile
  | hyprlandAqDevices => Option (List String)
  | gpuSnapshot => GpuSnapshot
  | findBacklight | findKbdLed => Option (String × Nat)
  | readBrightness _ | ledBrightness _ => Option Nat
  | readLux _ => Option Rat
  | now => Nat
  | spawnTimer _ _ | spawnClaimWatch => Handle
  | lock | kbdStatusWrite _ | abort _ | sendEvent _ | requestReconcile _ | lockedSend _
  | playerctlPause | notifySend _ _ _ | spawnHook _ | signalWaybar => Unit
  | hyprctlOk _ | inhibitLidSwitch | suspend | setBrightness _ _ _ | powerdApplyProfile _
  | powerdSetDgpuAwake _ | suspendRequestExists | suspendRequestWrite _ | suspendRequestRemove
  | powerOverrideWrite _ | powerOverrideRemove | kbdOverrideExists | kbdOverrideRemove
  | edpMarkerWrite | edpMarkerRemove | activeLinkIs _ | repointActive _ | gpuBreadcrumbExists
  | gpuBreadcrumbRemove | gpuBreadcrumbWrite _ | isFinished _ | trySend _ | waitLocked
  | upower => Bool

/-- The answers of a machine where nothing is found and every operation succeeds. -/
def Eff.quiet : (e : Eff) → e.Ans
  | monitors | monitorsAll | clients | hyprctlLocked | cursorPos | workspaces => none
  | lidClosed | lockedHint | onBattery | onAcSysfs | listInhibitors | batteryInitial => none
  | suspendRequestRead | powerOverrideWord | activeProfileName | gpuOverrideWord => none
  | platformProfileWord | gpuStateReason | findAls | kbdLevelWord | hyprlandAqDevices => none
  | selectProfile _ _ | findBacklight | findKbdLed | readBrightness _ | ledBrightness _ => none
  | readLux _ => none
  | loadPowerConf | gpuSnapshot => {}
  | loadProfiles => []
  | now | spawnTimer _ _ | spawnClaimWatch => (0 : Nat)
  | lock | kbdStatusWrite _ | abort _ | sendEvent _ | requestReconcile _ | lockedSend _ => ()
  | playerctlPause | notifySend _ _ _ | spawnHook _ | signalWaybar => ()
  | suspendRequestExists | kbdOverrideExists | gpuBreadcrumbExists | isFinished _ => false
  | upower => false
  | hyprctlOk _ | inhibitLidSwitch | suspend | setBrightness _ _ _ | powerdApplyProfile _
  | powerdSetDgpuAwake _ | suspendRequestWrite _ | suspendRequestRemove | powerOverrideWrite _
  | powerOverrideRemove | kbdOverrideRemove | edpMarkerWrite | edpMarkerRemove | activeLinkIs _
  | repointActive _ | gpuBreadcrumbRemove | gpuBreadcrumbWrite _ | trySend _ | waitLocked => true

/-- Make a request, in a task with any private state. -/
abbrev request {S : Type} (e : Eff) : Process S Eff Eff.Ans e.Ans := ask e

/-- A request of the dispatcher, with the context it is made in, and its answer. -/
abbrev DaemonObs := Obs (Context × Eff) (stamped Eff.Ans)

/-- A piece of the dispatcher's code. -/
abbrev Daemon := Process Context Eff Eff.Ans

/-! ## Resources -/

/-- What a request touches. A `query` reads, and touches nothing; the override files are kept apart,
read or written. -/
inductive Resource
  | query
  | compositor
  | suspend
  | lock
  | light
  | powerd
  | requestFile
  | powerOverride
  | kbdOverride
  | file
  | graceTimer
  | timer
  | abort
  | panel
  | profile
  | command
  | queue
  deriving DecidableEq

/-- The resource of a command. -/
@[simp] def Cmd.resource : Cmd → Resource
  | setEdp _ => .panel
  | applyProfile => .profile
  | dpmsOn | rehomeEdpWorkspaces | pauseMedia | notify _ _ _ | runHook _ => .command

/-- The resource of a request. -/
@[simp] def Eff.resource : Eff → Resource
  | monitors | monitorsAll | clients | hyprctlLocked | cursorPos | workspaces => .query
  | lidClosed | listInhibitors | inhibitLidSwitch | lockedHint | upower | onBattery => .query
  | batteryInitial | suspendRequestExists | suspendRequestRead | kbdLevelWord => .query
  | loadPowerConf | loadProfiles | selectProfile _ _ => .query
  | activeProfileName | activeLinkIs _ | gpuBreadcrumbExists | gpuOverrideWord => .query
  | platformProfileWord | hyprlandAqDevices | gpuStateReason | gpuSnapshot | onAcSysfs => .query
  | findBacklight | readBrightness _ | findKbdLed | ledBrightness _ | findAls => .query
  | readLux _ | now | isFinished _ | requestReconcile _ | lockedSend _ | waitLocked => .query
  | hyprctlOk _ => .compositor
  | suspend => .suspend
  | lock => .lock
  | setBrightness _ _ _ => .light
  | powerdApplyProfile _ | powerdSetDgpuAwake _ => .powerd
  | suspendRequestWrite _ | suspendRequestRemove => .requestFile
  | powerOverrideWord | powerOverrideWrite _ | powerOverrideRemove => .powerOverride
  | kbdOverrideExists | kbdOverrideRemove => .kbdOverride
  | kbdStatusWrite _ | edpMarkerWrite | edpMarkerRemove | repointActive _ => .file
  | gpuBreadcrumbRemove | gpuBreadcrumbWrite _ => .file
  | spawnTimer _ ev => if ev = .timerExpired then .graceTimer else .timer
  | spawnClaimWatch => .timer
  | abort _ => .abort
  | trySend cmd => cmd.resource
  | playerctlPause | notifySend _ _ _ | spawnHook _ | signalWaybar => .command
  | sendEvent _ => .queue

end Hyprstate
