import Mathlib.Data.Rat.Defs
import Mathlib.Tactic.Common

/-!
# Keyboard backlight policy

`crates/hyprstate-fsm/src/kbd.rs`: the rule table that decides whether the keys are lit, and the
level arithmetic. A sensor reading is a rational.
-/

namespace Hyprstate

/-- Level used before the first manual key press writes one. -/
def defaultKbdLevelPct : Nat := 50

/-- What the daemon knows when it decides whether the keys are lit. -/
structure KbdInputs where
  locked : Bool
  sleeping : Bool
  typing : Bool
  dark : Bool
  overrideArmed : Bool

/-- The four rules, in order. Locked or sleeping: off. Not typing: off. Typing and dark: on. Typing
and not dark: off unless overridden. -/
def kbdLit (w : KbdInputs) : Bool :=
  if w.locked || w.sleeping then
    false
  else if !w.typing then
    false
  else
    w.dark || w.overrideArmed

/-- Whether the room counts as dark for a sensor reading. -/
def isDark (lux : Rat) (darkLux : Nat) : Bool := decide (lux ≤ (darkLux : Rat))

/-- Clamp a requested level to a percent. -/
def clampLevel (pct : Int) : Nat := (min (max pct 0) 100).toNat

/-- Raw LED value for a percent of `max`, rounded to nearest; a percent above zero never rounds down
to an LED that is off. -/
def levelToRaw (pct max : Nat) : Nat :=
  if pct = 0 ∨ max = 0 then 0
  else Nat.min (Nat.max ((max * pct + 50) / 100) 1) max

/-- The raw value stays in the LED's range, and is zero only for a zero percent. -/
theorem levelToRaw_range (pct max : Nat) (hp : 0 < pct) (hm : 0 < max) :
    1 ≤ levelToRaw pct max ∧ levelToRaw pct max ≤ max := by
  have hne : ¬(pct = 0 ∨ max = 0) := by omega
  rw [levelToRaw, if_neg hne]
  generalize (max * pct + 50) / 100 = raw
  have h₁ : 1 ≤ Nat.max raw 1 := Nat.le_max_right _ _
  exact ⟨Nat.le_min.mpr ⟨h₁, hm⟩, Nat.min_le_right _ _⟩

end Hyprstate
