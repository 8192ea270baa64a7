import Hyprstate.Reactive.Server
import Hyprstate.Gpu.Advice
import Hyprstate.Kbd.RuleTable
import Hyprstate.Power.RoundTrip
import Hyprstate.Power.Expiry
import Hyprstate.Power.Idempotence
import Hyprstate.Safety.Suspend
import Hyprstate.Safety.WorldDriven
import Hyprstate.Safety.Retry
import Hyprstate.Reconcile.FailedReads
import Hyprstate.Reconcile.InSync
import Hyprstate.Panel.Enforcement
import Hyprstate.Panel.LastOutput
import Hyprstate.Panel.SoleOutput
import Hyprstate.Powerd.Startup
import Hyprstate.Powerd.Adoption
import Hyprstate.Powerd.Appearing
import Hyprstate.Powerd.Belief
import Hyprstate.Powerd.SelfWrites
import Hyprstate.Safety.Withdrawn
import Hyprstate.Safety.OwnRequest
import Hyprstate.Safety.ClaimWatch
import Hyprstate.Reconcile.Overrides
import Hyprstate.Panel.Reloads
import Hyprstate.Config.BatteryLow
import Hyprstate.Config.Capture
import Hyprstate.Config.LuaQuote
import Hyprstate.Config.Legacy
import Hyprstate.Powerd.Clamp
import Hyprstate.Profiles.Migration
import Hyprstate.Profiles.Handover
import Hyprstate.Power.AcFallback
import Hyprstate.Power.Uevent
import Hyprstate.Reconcile.Backstop
import Hyprstate.Reconcile.Triggers
import Hyprstate.Reconcile.Watches
import Hyprstate.Kbd.Levels
import Hyprstate.Daemon.Shadow
import Hyprstate.Powerd.Calls
import Hyprstate.Profiles.Recorded
import Hyprstate.Power.Lights
import Hyprstate.Gpu.Notices
import Hyprstate.Safety.SpawnOnce
import Hyprstate.Powerd.Whitelist
import Hyprstate.Sleep.Wake
import Hyprstate.Profiles.Migrate
import Hyprstate.Reconcile.Reports
import Hyprstate.Daemon.Telemetry
