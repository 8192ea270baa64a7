import Hyprstate.Powerd.Matrix
import Hyprstate.Reactive.World

/-!
# The sleep hook

`sleep_hook.rs`: root runs it before a suspend and after a resume. It lets the USB hubs and the
tracked input devices wake the machine, and after a resume it cycles the touchpad through its
driver, whose `bind` may fail while the bus is still resuming.

What a run does to the machine is `Sleep/Wake.lean`'s.
-/

namespace Hyprstate.SleepHook

open Reactive Process

/-- The files that the hook reads and writes of a USB device. -/
inductive UsbFile
  | wakeup
  | product
  | idVendor
  | idProduct
  deriving DecidableEq

/-- The paths that the hook comes to. -/
inductive HookPath
  /-- `WAKE_USB_CONTROLLER`. -/
  | controllerWakeup
  | usb (device : String) (file : UsbFile)
  /-- The touchpad on its bus. -/
  | present
  /-- The touchpad at its driver. -/
  | bound
  | unbind
  | bind
  deriving DecidableEq

/-- The path of a device's file below the device. -/
def UsbFile.display : UsbFile → String
  | wakeup => "power/wakeup"
  | product => "product"
  | idVendor => "idVendor"
  | idProduct => "idProduct"

/-- `TOUCHPAD_I2C_CLIENT`. -/
def touchpadClient : String := "i2c-PIXA3854:00"

/-- `I2C_HID_DRIVER_DIR`. -/
def driverDir : String := "/sys/bus/i2c/drivers/i2c_hid_acpi"

/-- The path as the log shows it. -/
def HookPath.display : HookPath → String
  | controllerWakeup => "/sys/bus/pci/devices/0000:0e:00.3/power/wakeup"
  | usb device file => "/sys/bus/usb/devices/" ++ device ++ "/" ++ file.display
  | present => "/sys/bus/i2c/devices/" ++ touchpadClient
  | bound => driverDir ++ "/" ++ touchpadClient
  | unbind => driverDir ++ "/unbind"
  | bind => driverDir ++ "/bind"

/-- An error of a write, as it is shown and as it is debugged. -/
structure WriteError where
  display : String
  debug : String

/-- What the hook asks of the machine. -/
inductive HookEff
  /-- The names in `/sys/bus/usb/devices`. -/
  | usbDevices
  | pathExists (path : HookPath)
  | readToString (path : HookPath)
  | write (path : HookPath) (content : String)
  /-- A line of the log, without its stamp. -/
  | line (msg : String)
  | sleep (ms : Nat)

/-- What the machine answers. -/
def HookEff.Ans : HookEff → Type
  | usbDevices => List String
  | pathExists _ => Bool
  | readToString _ => Option String
  | write _ _ => Option WriteError
  | line _ | sleep _ => Unit

/-- A program of the hook. -/
abbrev Hook (α : Type) : Type := Process Unit HookEff HookEff.Ans α

/-- The names under `/sys/bus/usb/devices`. -/
def usbDevices : Hook (List String) := ask HookEff.usbDevices

/-- `Path::exists`. -/
def pathExists (path : HookPath) : Hook Bool := ask (HookEff.pathExists path)

/-- `fs::read_to_string`, `none` for an error. -/
def readToString (path : HookPath) : Hook (Option String) := ask (HookEff.readToString path)

/-- `fs::write`, `none` for success. -/
def write (path : HookPath) (content : String) : Hook (Option WriteError) :=
  ask (HookEff.write path content)

/-- One line of the log. -/
def line (msg : String) : Hook Unit := ask (HookEff.line msg)

/-! ## The wakeup files -/

/-- `write_enabled`: the write, and the line of its failure. -/
def writeEnabled (path : HookPath) : Hook Bool := do
  match ← write path "enabled" with
  | none => return true
  | some e =>
    line ("  ! " ++ path.display ++ ": " ++ e.display)
    return false

/-- The paths that exist. -/
def existing : List HookPath → Hook (List HookPath)
  | [] => return []
  | path :: rest => do
    let there ← pathExists path
    let more ← existing rest
    return if there then path :: more else more

/-- Enables the files, and counts those that were. -/
def enableAll : List HookPath → Hook Nat
  | [] => return 0
  | path :: rest => do
    let ok ← writeEnabled path
    let more ← enableAll rest
    return if ok then more + 1 else more

/-- `usb` and more. -/
def isRootHub (device : String) : Bool := "usb".toList.isPrefixOf device.toList

/-- The product's name has `Hub` in it. -/
def isHub (product : String) : Bool := decide ("Hub".toList <:+: product.toList)

/-- `wake.exists() && write_enabled(&wake)`. -/
def enableWakeup (device : String) : Hook Bool := do
  if ← pathExists (.usb device .wakeup) then writeEnabled (.usb device .wakeup) else pure false

/-- The hubs between a root hub and a device. -/
def enableIntermediate : List String → Hook Nat
  | [] => return 0
  | device :: rest => do
    match ← readToString (.usb device .product) with
    | none => enableIntermediate rest
    | some product =>
      if isHub product then
        let ok ← enableWakeup device
        let more ← enableIntermediate rest
        return if ok then more + 1 else more
      else enableIntermediate rest

/-- `WAKE_USB_VENDORS`. -/
def wakeUsbVendors : List ((String × String) × String) :=
  [(("3297", "1977"), "ZSA Voyager (keyboard)"),
    (("046d", "c539"), "Logitech Lightspeed (mouse receiver)")]

/-- `str::trim`. -/
def trimmed (text : String) : String := String.ofList (Text.trim isWhitespace text.toList)

/-- Enables a file that is there, and logs how that ended. -/
def enableNamed (path : HookPath) (name : String) : Hook Unit := do
  when (← pathExists path) do
    let ok ← writeEnabled path
    line ("  " ++ name ++ ": " ++ if ok then "enabled" else "FAILED")

/-- The loop over the table, for one device's numbers. -/
def enableTracked (device vendor product : String) : List ((String × String) × String) → Hook Unit
  | [] => return ()
  | (ids, name) :: rest => do
    when (decide ((vendor, product) = ids)) (enableNamed (.usb device .wakeup) name)
    enableTracked device vendor product rest

/-- The loop over the devices, for the tracked ones. -/
def enableInputs : List String → Hook Unit
  | [] => return ()
  | device :: rest => do
    match ← readToString (.usb device .idVendor) with
    | none => enableInputs rest
    | some vendor =>
      match ← readToString (.usb device .idProduct) with
      | none => enableInputs rest
      | some product =>
        enableTracked device (trimmed vendor) (trimmed product) wakeUsbVendors
        enableInputs rest

/-! ## The touchpad -/

/-- `REBIND_BACKOFF`. -/
def rebindBackoff : Nat := 300

/-- `{res:?}` of a write. -/
def debugResult : Option WriteError → String
  | none => "Ok(())"
  | some e => "Err(" ++ e.debug ++ ")"

/-- The line of a touchpad that is bound again, with the attempt where it is not the first. -/
def reboundLine (attempt : Nat) : String :=
  if attempt = 1 then "  touchpad rebind: ok"
  else "  touchpad rebind: ok (attempt " ++ toString attempt ++ ")"

/-- The line of one that is still bound when the attempts are over. -/
def wedgedLine : String := "  touchpad rebind: FAILED (still bound; may still be wedged)"

/-- The line of one that is left unbound. -/
def unboundLine : String :=
  "  ! touchpad rebind: FAILED — device left UNBOUND; " ++
    "recover with: echo -n i2c-PIXA3854:00 | sudo tee " ++
    "/sys/bus/i2c/drivers/i2c_hid_acpi/bind"

/-- The line of a machine without it. -/
def absentLine : String := "  touchpad rebind: skipped (device absent)"

/-- One attempt's unbind. -/
def unbindTouchpad : Hook Unit := do
  match ← write .unbind touchpadClient with
  | none => pure ()
  | some e => line ("  ! touchpad unbind: " ++ e.display)

/-- `res.is_ok() && bound.exists()`. -/
def isRebound (res : Option WriteError) : Hook Bool :=
  if res.isNone then pathExists .bound else pure false

/-- The attempts that are left. -/
def rebindFrom : List Nat → Hook Unit
  | [] => do
    if ← pathExists .bound then line wedgedLine else line unboundLine
  | attempt :: rest => do
    when (← pathExists .bound) unbindTouchpad
    let res ← write .bind touchpadClient
    if ← isRebound res then line (reboundLine attempt)
    else
      line ("  touchpad rebind: attempt " ++ toString attempt ++ " failed (" ++ debugResult res ++
        "); retrying")
      ask (HookEff.sleep rebindBackoff)
      rebindFrom rest

/-- `REBIND_ATTEMPTS`. -/
def rebindAttempts : List Nat := [1, 2, 3, 4]

/-- `rebind_touchpad`. -/
def rebindTouchpad : Hook Unit := do
  if ← pathExists .present then rebindFrom rebindAttempts else line absentLine

/-! ## The hook -/

/-- The word of the log for an action. -/
def label (action : String) : String := if action = "pre" then "PRE-SUSPEND" else "POST-RESUME"

/-- The wakeup files of the machine. -/
def enableWake : Hook Unit := do
  enableNamed .controllerWakeup "controller"
  let devices ← usbDevices
  let hubs ← existing ((devices.filter isRootHub).map fun device => .usb device .wakeup)
  let enabled ← enableAll hubs
  line ("  root hubs: " ++ toString enabled ++ "/" ++ toString hubs.length ++ " enabled")
  let devices ← usbDevices
  let intermediate ← enableIntermediate devices
  line ("  intermediate hubs: " ++ toString intermediate ++ " enabled")
  let devices ← usbDevices
  enableInputs devices

/-- `run`: the exit code. Other actions are ignored. -/
def run (action : String) : Hook Nat :=
  if action ≠ "pre" ∧ action ≠ "post" then return 0
  else do
    line ("=== " ++ label action ++ ": enabling USB wake ===")
    enableWake
    when (decide (action = "post")) rebindTouchpad
    line ("=== " ++ label action ++ " complete ===")
    return 0

end Hyprstate.SleepHook
