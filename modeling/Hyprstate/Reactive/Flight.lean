import Mathlib.Tactic.Common
import Mathlib.Data.Nat.Notation

/-!
# What a feedback loop has in flight

A controller that re-asserts a target on every echo, and an actuator whose switching on is a reset
that is echoed. A `Flight` counts what is between them, and `potential` is what it can still cost in
resets. In what `Mode` the controller is decides what an item is worth: an echo is worth the command
that answers it, a command to switch on the reset it may run.

In the mode `dark` a reset leaves the actuator off, so the loop would not end if an echo were
answered then. Everything else is paid for: no step of the loop raises the potential, and a reset
lowers it.
-/

namespace Reactive

/-- The items in flight, and whether the actuator is off. The level bounds how often the loop is
stirred by anything else. -/
structure Flight where
  level : Nat
  ons : Nat
  offs : Nat
  echoes : Nat
  disabled : Bool

namespace Flight

/-- The controller: at something else, where it may command anything; or between its turns, with the
target off, with the target on and a reset that leads there, with the target on and one that does
not. -/
inductive Mode
  | busy
  | off
  | lit
  | dark
  deriving DecidableEq

namespace Mode

/-- What a command to switch on is worth, above the level's share. -/
def on : Mode → Nat
  | busy => 2
  | off | dark => 1
  | lit => 0

/-- What a command to switch off is worth, and an actuator that is off. -/
def offs : Mode → Nat
  | busy | lit => 1
  | off | dark => 0

/-- What an echo is worth. -/
def echo (disabled : Bool) : Mode → Nat
  | busy => 1
  | off | lit => 0
  | dark => if disabled then 0 else 1

end Mode

/-- What the stirrings themselves are worth. -/
def levelWorth : Nat → Nat
  | 0 => 0
  | n + 1 => levelWorth n + (10 * n + 11)

/-- What the loop can still cost in resets. -/
def potential (m : Mode) (f : Flight) : Nat :=
  levelWorth f.level + (2 * f.level + m.on) * f.ons +
    (2 * f.level + m.offs) * (f.offs + f.disabled.toNat) +
      (2 * f.level + m.echo f.disabled) * f.echoes

variable {m m' : Mode} {f f' : Flight}

/-- A lower level is worth less. -/
theorem levelWorth_mono {a b : Nat} (h : a ≤ b) : levelWorth a ≤ levelWorth b := by
  induction h with
  | refl => exact Nat.le_refl _
  | step _ ih => exact Nat.le_trans ih (Nat.le_add_right _ _)

/-- A level that is lost is worth more than any item gains by it. -/
theorem levelWorth_lt {a b : Nat} (h : a < b) : levelWorth a + (10 * b + 1) ≤ levelWorth b := by
  obtain ⟨c, rfl⟩ : ∃ c, b = c + 1 := ⟨b - 1, by omega⟩
  have hmono : levelWorth a ≤ levelWorth c := levelWorth_mono (by omega)
  show levelWorth a + (10 * (c + 1) + 1) ≤ levelWorth c + (10 * c + 11)
  omega

/-- No mode puts a command to switch on above two. -/
theorem Mode.on_le (m : Mode) : m.on ≤ 2 := by cases m <;> decide

/-- Nor one to switch off above one. -/
theorem Mode.offs_le (m : Mode) : m.offs ≤ 1 := by cases m <;> decide

/-- Nor an echo. -/
theorem Mode.echo_le (m : Mode) (d : Bool) : m.echo d ≤ 1 := by cases m <;> cases d <;> decide

/-- Between the controller's turns nothing is worth more than while it is at something else. -/
theorem potential_le_busy (m : Mode) (f : Flight) : f.potential m ≤ f.potential .busy := by
  have hons := Nat.mul_le_mul_right f.ons (Nat.add_le_add_left m.on_le (2 * f.level))
  have hoffs := Nat.mul_le_mul_right (f.offs + f.disabled.toNat)
    (Nat.add_le_add_left m.offs_le (2 * f.level))
  have hechoes := Nat.mul_le_mul_right f.echoes
    (Nat.add_le_add_left (m.echo_le f.disabled) (2 * f.level))
  unfold potential
  exact Nat.add_le_add (Nat.add_le_add (Nat.add_le_add_left hons _) hoffs) hechoes

/-- A stirring pays for a reset, for an item of each kind and two echoes, and for any change of
mode. -/
theorem potential_stirred (hlevel : f'.level < f.level) (hons : f'.ons ≤ f.ons + 1)
    (hoffs : f'.offs ≤ f.offs + 1) (hechoes : f'.echoes ≤ f.echoes + 2) :
    f'.potential m' + 1 ≤ f.potential m := by
  have hworth := levelWorth_lt hlevel
  have hdis : f'.disabled.toNat ≤ f.disabled.toNat + 1 := by cases f'.disabled <;> simp
  -- at the lower level an item is worth at most what it was at the higher one
  have hweight : ∀ {k x y z : Nat}, k ≤ 2 → x ≤ y + z →
      (2 * f'.level + k) * x ≤ 2 * f.level * y + 2 * f.level * z := by
    intro k x y z hk hx
    calc (2 * f'.level + k) * x ≤ (2 * f.level) * (y + z) := Nat.mul_le_mul (by omega) hx
      _ = 2 * f.level * y + 2 * f.level * z := Nat.mul_add _ _ _
  have hon := hweight m'.on_le hons
  have hoff := hweight (x := f'.offs + f'.disabled.toNat) (y := f.offs + f.disabled.toNat) (z := 2)
    (Nat.le_trans m'.offs_le (by omega)) (by omega)
  have hecho := hweight (Nat.le_trans (m'.echo_le f'.disabled) (by omega)) hechoes
  have hfloor : ∀ k x : Nat, 2 * f.level * x ≤ (2 * f.level + k) * x := fun k x =>
    Nat.mul_le_mul_right x (Nat.le_add_right _ _)
  have hon' := hfloor m.on f.ons
  have hoff' := hfloor m.offs (f.offs + f.disabled.toNat)
  have hecho' := hfloor (m.echo f.disabled) f.echoes
  unfold potential
  omega

/-- A command to switch on that finds the actuator on is spent. -/
theorem potential_on (hf : f.ons = f'.ons + 1) (hlevel : f'.level = f.level)
    (hoffs : f'.offs = f.offs) (hechoes : f'.echoes = f.echoes) (hdis : f'.disabled = f.disabled) :
    f'.potential m ≤ f.potential m := by
  unfold potential
  rw [hf, hlevel, hoffs, hechoes, hdis, Nat.mul_add _ f'.ons 1]
  omega

/-- One that finds it off runs the reset, and the reset is echoed. -/
theorem potential_reset (hf : f.ons = f'.ons + 1) (hlevel : f'.level = f.level)
    (hoffs : f'.offs = f.offs) (hechoes : f'.echoes = f.echoes + 1) (hdis : f.disabled = true)
    (hlit : m = .lit → f'.disabled = false) (hdark : m = .dark → f'.disabled = true) :
    f'.potential m + 1 ≤ f.potential m := by
  unfold potential
  rw [hf, hlevel, hoffs, hechoes, hdis]
  cases m with
  | busy | off =>
    cases f'.disabled <;> simp only [Mode.on, Mode.offs, Mode.echo, Bool.toNat_true,
      Bool.toNat_false, Nat.mul_add, Nat.add_mul] <;> omega
  | lit =>
    rw [hlit rfl]
    simp only [Mode.on, Mode.offs, Mode.echo, Bool.toNat_true, Bool.toNat_false,
      Nat.mul_add, Nat.add_mul]
    omega
  | dark =>
    rw [hdark rfl]
    simp only [Mode.on, Mode.offs, Mode.echo, Bool.toNat_true, if_true, Nat.mul_add, Nat.add_mul]
    omega

/-- A command to switch off. -/
theorem potential_off (hf : f.offs = f'.offs + 1) (hlevel : f'.level = f.level)
    (hons : f'.ons = f.ons) (hechoes : f'.echoes = f.echoes)
    (hdis : f.disabled = true → f'.disabled = true) : f'.potential m ≤ f.potential m := by
  unfold potential
  rw [hf, hlevel, hons, hechoes]
  have hecho : m.echo f'.disabled ≤ m.echo f.disabled := by
    cases hd : f.disabled with
    | true => exact Nat.le_of_eq (by rw [hdis hd])
    | false => cases m <;> cases f'.disabled <;> decide
  have hechoes' := Nat.mul_le_mul_right f.echoes (Nat.add_le_add_left hecho (2 * f.level))
  have hspent : (2 * f.level + m.offs) * (f'.offs + f'.disabled.toNat) ≤
      (2 * f.level + m.offs) * (f'.offs + 1 + f.disabled.toNat) := by
    refine Nat.mul_le_mul_left _ ?_
    cases f'.disabled <;> simp
    omega
  omega

/-- What the controller has in hand when it takes an echo. -/
def inHand (m : Mode) (f : Flight) : Nat := 2 * f.level + m.echo false

/-- Taking an echo. In the mode `dark` only where the actuator is on. -/
theorem potential_take (hf : f.echoes = f'.echoes + 1) (hlevel : f'.level = f.level)
    (hons : f'.ons = f.ons) (hoffs : f'.offs = f.offs) (hdis : f'.disabled = f.disabled)
    (hdark : m = .dark → f.disabled = false) : f'.potential m + f.inHand m ≤ f.potential m := by
  have hecho : m.echo f.disabled = m.echo false := by
    cases m with
    | dark => rw [hdark rfl]
    | _ => rfl
  unfold potential inHand
  rw [hf, hlevel, hons, hoffs, hdis, hecho, Nat.mul_add _ f'.echoes 1, Nat.mul_one]
  omega

/-- It pays for the command that answers the echo: to switch on in the modes `lit` and `dark`. -/
theorem potential_answer_on (hm : m = .lit ∨ m = .dark) (hf : f'.ons = f.ons + 1)
    (hlevel : f'.level = f.level) (hoffs : f'.offs = f.offs) (hechoes : f'.echoes = f.echoes)
    (hdis : f'.disabled = f.disabled) : f'.potential m ≤ f.potential m + f.inHand m := by
  unfold potential inHand
  rw [hf, hlevel, hoffs, hechoes, hdis, Nat.mul_add _ f.ons 1, Nat.mul_one]
  have hworth : m.on = m.echo false := by rcases hm with rfl | rfl <;> rfl
  omega

/-- And to switch off in the mode `off`. -/
theorem potential_answer_off (hf : f'.offs = f.offs + 1) (hlevel : f'.level = f.level)
    (hons : f'.ons = f.ons) (hechoes : f'.echoes = f.echoes) (hdis : f'.disabled = f.disabled) :
    f'.potential .off ≤ f.potential .off + f.inHand .off := by
  unfold potential inHand
  rw [hf, hlevel, hons, hechoes, hdis]
  simp only [Mode.on, Mode.offs, Mode.echo, Nat.mul_add, Nat.add_mul]
  omega

end Flight

end Reactive
