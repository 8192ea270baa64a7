import Hyprstate.Config.Directive
import Hyprstate.Lists.Sorted
import Hyprstate.Text.Decimal
import Mathlib.Algebra.Group.Nat.Defs
import Mathlib.Data.Char
import Mathlib.Data.List.Infix
import Mathlib.Data.List.Lex

/-!
# The lights of the machine

`find_backlight` of `daemon/mod.rs` picks the panel's backlight among the entries of
`/sys/class/backlight`, and `find_kbd_led` and `find_als` of `sysio/kbd.rs` the keyboard's LED and
the light sensor. Each sorts what the directory lists, so its answer does not depend on the order of
the directory, and gives a light only with a maximum above zero (`lightsFound_spec`).
-/

namespace Hyprstate

/-- The value of a hexadecimal digit. -/
def hexDigit (c : Char) : Option Nat :=
  if c.isDigit then some (c.toNat - 48)
  else if 'a' ≤ c ∧ c ≤ 'f' then some (c.toNat - 87)
  else if 'A' ≤ c ∧ c ≤ 'F' then some (c.toNat - 55)
  else none

/-- `char::to_digit(10)`. -/
def decimalDigit (c : Char) : Option Nat := if c.isDigit then some (c.toNat - 48) else none

/-- An unsigned integer of some bits: digits, with a plus before them or not. -/
def parseUnsigned (radix bits : Nat) (digit : Char → Option Nat) (text : Text) : Option Nat :=
  let digits := (Text.stripPrefix ['+'] text).getD text
  if digits = [] then none
  else ((digits.mapM digit).map fun ds => ds.foldl (fun n d => n * radix + d) 0).filter fun n =>
    decide (n < 2 ^ bits)

/-- `read_int`: the `u64` of a file, decimal or hexadecimal. -/
def readInt (file : Option Text) (default : Nat) : Nat :=
  match file with
  | none => default
  | some text =>
    let s := Text.trim isWhitespace text
    let hex := (Text.stripPrefix "0x".toList s).or (Text.stripPrefix "0X".toList s)
    (match hex with
      | some digits => parseUnsigned 16 64 hexDigit digits
      | none => parseUnsigned 10 64 decimalDigit s).getD default

/-- The `u32` of a file, decimal. -/
def readU32 (file : Option Text) : Option Nat :=
  file.bind fun text => parseUnsigned 10 32 decimalDigit (Text.trim isWhitespace text)

/-! ## The panel's backlight -/

/-- An external monitor's. -/
def isDdcci (name : Text) : Bool := "ddcci".toList.isPrefixOf name

/-- A backlight that `find_backlight` prefers, by the prefix of its name. -/
def isPreferredBacklight (name : Text) : Bool :=
  "amdgpu_bl".toList.isPrefixOf name || "intel_backlight".toList.isPrefixOf name ||
    "acpi_video".toList.isPrefixOf name

/-- The device that `find_backlight` looks at. -/
def pickBacklight (entries : List Text) : Option Text :=
  let names := (entries.filter fun n => !isDdcci n).mergeSort (· ≤ ·)
  (names.find? isPreferredBacklight).or names.head?

/-- External monitors apart, the device is the first of the preferred ones, or where there is none
the first. -/
def FirstBacklight (entries : List Text) (dev : Text) : Prop :=
  (dev ∈ entries ∧ isDdcci dev = false) ∧
    ((isPreferredBacklight dev = true ∧
        ∀ d ∈ entries, isDdcci d = false → isPreferredBacklight d = true → dev ≤ d) ∨
      (∀ d ∈ entries, isDdcci d = false → isPreferredBacklight d = false) ∧
        ∀ d ∈ entries, isDdcci d = false → dev ≤ d)

/-- `pickBacklight` picks the first, in the order of the names, of the preferred or of all. -/
theorem pickBacklight_eq_some {entries : List Text} {dev : Text} :
    pickBacklight entries = some dev ↔ FirstBacklight entries dev := by
  have hmem : ∀ d, d ∈ entries.filter (fun n => !isDdcci n) ↔ d ∈ entries ∧
      isDdcci d = false := by simp
  rw [pickBacklight, FirstBacklight]
  -- The least of the preferred ones, and without one the least of them all.
  cases hfind : ((entries.filter fun n => !isDdcci n).mergeSort (· ≤ ·)).find?
    isPreferredBacklight with
  | some first =>
    obtain ⟨hfirst, hpref, hleast⟩ := Sorted.find?_mergeSort.mp hfind
    rw [hmem] at hfirst
    have hleast' : ∀ d ∈ entries, isDdcci d = false → isPreferredBacklight d = true → first ≤ d :=
      fun d hd hext => hleast d ((hmem d).mpr ⟨hd, hext⟩)
    rw [Option.some_or, Option.some_inj]
    constructor
    · rintro rfl
      exact ⟨hfirst, .inl ⟨hpref, hleast'⟩⟩
    · rintro ⟨hdev, ⟨hpref', hbelow⟩ | ⟨hnone, -⟩⟩
      · exact le_antisymm (hleast' dev hdev.1 hdev.2 hpref') (hbelow first hfirst.1 hfirst.2 hpref)
      · exact absurd hpref (by simp [hnone first hfirst.1 hfirst.2])
  | none =>
    have hnone : ∀ d ∈ entries, isDdcci d = false →
        isPreferredBacklight d = false := fun d hd hext => by
      have hnot := List.find?_eq_none.mp hfind d (List.mem_mergeSort.mpr ((hmem d).mpr ⟨hd, hext⟩))
      simpa using hnot
    rw [Option.none_or, Sorted.head?_mergeSort, hmem]
    constructor
    · rintro ⟨hdev, hleast⟩
      exact ⟨hdev, .inr ⟨hnone, fun d hd hext => hleast d ((hmem d).mpr ⟨hd, hext⟩)⟩⟩
    · rintro ⟨hdev, ⟨hpref, -⟩ | ⟨-, hleast⟩⟩
      · exact absurd hpref (by simp [hnone dev hdev.1 hdev.2])
      · exact ⟨hdev, fun d hd => hleast d ((hmem d).mp hd).1 ((hmem d).mp hd).2⟩

/-- The `max_brightness` of a backlight, cast to `u32`. -/
def backlightMax (files : Text → Option Text) (dev : Text) : Nat := readInt (files dev) 0 % 2 ^ 32

/-- `find_backlight`, where the directory can be listed. -/
def findBacklight (entries : Option (List Text)) (files : Text → Option Text) :
    Option (Text × Nat) :=
  (entries.bind pickBacklight).bind fun dev =>
    if 0 < backlightMax files dev then some (dev, backlightMax files dev) else none

/-- `find_backlight`: the device picked, where its `max_brightness` is positive. -/
theorem findBacklight_eq_some {entries : Option (List Text)} {files : Text → Option Text}
    {dev : Text} {max : Nat} :
    findBacklight entries files = some (dev, max) ↔
      ((∃ names, entries = some names ∧ FirstBacklight names dev) ∧ max = backlightMax files dev) ∧
      0 < max := by
  rw [findBacklight, Option.bind_eq_some_iff]
  constructor
  · rintro ⟨d, hpick, hmax⟩
    obtain ⟨names, hnames, hd⟩ := Option.bind_eq_some_iff.mp hpick
    split at hmax
    case isTrue hpos =>
      obtain ⟨rfl, rfl⟩ := Prod.mk.inj (Option.some.inj hmax)
      exact ⟨⟨⟨names, hnames, pickBacklight_eq_some.mp hd⟩, rfl⟩, hpos⟩
    case isFalse => cases hmax
  · rintro ⟨⟨⟨names, rfl, hfirst⟩, rfl⟩, hpos⟩
    exact ⟨dev, pickBacklight_eq_some.mpr hfirst, if_pos hpos⟩

/-! ## The keyboard -/

/-- The LED's name has `kbd_backlight` in it. -/
def isKbdBacklight (name : Text) : Bool := decide ("kbd_backlight".toList <:+: name)

/-- `pick_kbd_led`: the first name of the keys' light. -/
def pickKbdLed (names : List Text) : Option Text := names.find? isKbdBacklight

/-- `find_kbd_led`, where the directory can be listed. -/
def findKbdLed (entries : Option (List Text)) (files : Text → Option Text) : Option (Text × Nat) :=
  (entries.bind fun names => pickKbdLed (names.mergeSort (· ≤ ·))).bind fun name =>
    ((readU32 (files name)).filter fun max => decide (0 < max)).map fun max => (name, max)

/-- `find_kbd_led`: a name of the keys' light, with a positive maximum. -/
theorem findKbdLed_eq_some {entries : Option (List Text)} {files : Text → Option Text}
    {found : Text × Nat} (h : findKbdLed entries files = some found) :
    isKbdBacklight found.1 = true ∧ readU32 (files found.1) = some found.2 ∧ 0 < found.2 := by
  obtain ⟨name, hpick, hmax⟩ := Option.bind_eq_some_iff.mp h
  obtain ⟨names, -, hname⟩ := Option.bind_eq_some_iff.mp hpick
  obtain ⟨max, hread, rfl⟩ := Option.map_eq_some_iff.mp hmax
  obtain ⟨hread, hpos⟩ := Option.filter_eq_some_iff.mp hread
  exact ⟨List.find?_some hname, hread, by simpa using hpos⟩

/-- Illuminance attributes, the most preferred first. -/
def alsAttrs : List Text :=
  ["in_illuminance_input".toList, "in_illuminance0_input".toList, "in_illuminance_raw".toList]

/-- `pick_als_attr`: the first attribute of the list that the device has. -/
def pickAlsAttr (attrs : List Text) : Option Text := alsAttrs.find? fun a => attrs.contains a

/-- The first device with an attribute, up to one that cannot be listed. -/
def findAlsIn (attrsOf : Text → Option (List Text)) : List Text → Option (Text × Text)
  | [] => none
  | dev :: devices =>
    match attrsOf dev with
    | none => none
    | some attrs =>
      match pickAlsAttr attrs with
      | some attr => some (dev, attr)
      | none => findAlsIn attrsOf devices

/-- `find_als`, where the directory can be listed. -/
def findAls (entries : Option (List Text)) (attrsOf : Text → Option (List Text)) :
    Option (Text × Text) :=
  entries.bind fun devices => findAlsIn attrsOf (devices.mergeSort (· ≤ ·))

/-- The attribute of a device does not depend on the order in which they are listed. -/
theorem pickAlsAttr_perm {attrs attrs' : List Text} (h : attrs.Perm attrs') :
    pickAlsAttr attrs = pickAlsAttr attrs' := by
  have hcontains : ∀ a, attrs.contains a = attrs'.contains a := fun a =>
    Bool.eq_iff_iff.mpr (by simp [h.mem_iff])
  simp only [pickAlsAttr, hcontains]

/-- The sensor that is found does not depend on the order in which each device's directory is
listed. -/
theorem findAlsIn_perm {attrsOf attrsOf' : Text → Option (List Text)}
    (h : ∀ dev, Option.Rel List.Perm (attrsOf dev) (attrsOf' dev)) (devices : List Text) :
    findAlsIn attrsOf devices = findAlsIn attrsOf' devices := by
  induction devices with
  | nil => rfl
  | cons dev devices ih =>
    have hdev := h dev
    rw [findAlsIn, findAlsIn]
    generalize attrsOf dev = attrs, attrsOf' dev = attrs' at hdev
    cases hdev with
    | none => rfl
    | some hperm =>
      dsimp only
      rw [pickAlsAttr_perm hperm, ih]

/-- The backlight that is found is the first one with a range or none, and what is found depends
neither on the order in which the directories are listed nor, for the light sensor, on that in
which the directory of each device is. -/
theorem lightsFound_spec (entries : List Text) (files : Text → Option Text)
    (attrsOf : Text → Option (List Text)) :
    (∀ dev max, findBacklight (some entries) files = some (dev, max) ↔
        (FirstBacklight entries dev ∧ max = backlightMax files dev) ∧ 0 < max) ∧
      ∀ entries' attrsOf', entries.Perm entries' →
        (∀ dev, Option.Rel List.Perm (attrsOf dev) (attrsOf' dev)) →
        findBacklight (some entries) files = findBacklight (some entries') files ∧
          findKbdLed (some entries) files = findKbdLed (some entries') files ∧
            findAls (some entries) attrsOf = findAls (some entries') attrsOf' := by
  refine ⟨fun dev max => ?_, fun entries' attrsOf' h hattrs => ?_⟩
  · simp only [findBacklight_eq_some, Option.some_inj, exists_eq_left']
  · simp only [findBacklight, pickBacklight, findKbdLed, findAls, Option.bind_some,
      Sorted.mergeSort_perm_congr h, Sorted.mergeSort_perm_congr (h.filter fun n => !isDdcci n),
      findAlsIn_perm hattrs, and_self]

end Hyprstate
