import Hyprstate.Fsm.Kbd
import Mathlib.Algebra.Order.Field.Rat
import Mathlib.Tactic.Linarith
import Mathlib.Tactic.FieldSimp
import Mathlib.Tactic.Ring

/-!
# The scale of the keyboard's levels

`level_to_raw` on the machine's integers, and the levels that `kbd set`, `up` and `down` store. A
percent is put on the scale of an LED without a wrap or a lossy cast (`Exact`), so the machine
computes the model's `levelToRaw`, and the scale is faithful (`FaithfulScale`).
-/

namespace Hyprstate

/-! ## The scale on numbers -/

/-- What is rounded to nearest, before the clamp. -/
def roundedRaw (pct max : Nat) : Nat := (max * pct + 50) / 100

/-- Rounding does not leave the range. -/
theorem roundedRaw_le {pct : Nat} (hpct : pct ≤ 100) (max : Nat) : roundedRaw pct max ≤ max := by
  have hmul : max * pct ≤ max * 100 := Nat.mul_le_mul_left max hpct
  unfold roundedRaw
  omega

/-- Up to 100 percent only a zero is clamped. -/
theorem levelToRaw_eq {pct max : Nat} (hpct : pct ≤ 100) (hpos : 0 < pct) (hmax : 0 < max) :
    levelToRaw pct max = Nat.max (roundedRaw pct max) 1 := by
  have hne : ¬(pct = 0 ∨ max = 0) := by omega
  have hle : Nat.max (roundedRaw pct max) 1 ≤ max := Nat.max_le.mpr ⟨roundedRaw_le hpct max, hmax⟩
  rw [levelToRaw, if_neg hne]
  exact Nat.min_eq_left hle

/-- Only nothing of anything is nothing. -/
theorem levelToRaw_eq_zero_iff (pct max : Nat) : levelToRaw pct max = 0 ↔ pct = 0 ∨ max = 0 := by
  refine ⟨fun h => ?_, fun h => if_pos h⟩
  by_contra hne
  have hrange := levelToRaw_range pct max (by omega) (by omega)
  omega

/-- A raw value is in the LED's range. -/
theorem levelToRaw_le (pct max : Nat) : levelToRaw pct max ≤ max := by
  by_cases hzero : pct = 0 ∨ max = 0
  · rw [(levelToRaw_eq_zero_iff pct max).mpr hzero]
    exact Nat.zero_le max
  · exact (levelToRaw_range pct max (by omega) (by omega)).2

/-- All of it is the maximum. -/
theorem levelToRaw_hundred (max : Nat) : levelToRaw 100 max = max := by
  rcases Nat.eq_zero_or_pos max with rfl | hmax
  · rfl
  · have hraw : roundedRaw 100 max = max := by
      unfold roundedRaw
      omega
    rw [levelToRaw_eq le_rfl (by decide) hmax, hraw]
    exact Nat.max_eq_left hmax

/-- A larger percent of a larger maximum is no less. -/
theorem levelToRaw_mono {pct pct' max max' : Nat} (hpct : pct ≤ pct') (hpct' : pct' ≤ 100)
    (hmax : max ≤ max') : levelToRaw pct max ≤ levelToRaw pct' max' := by
  by_cases hzero : pct = 0 ∨ max = 0
  · rw [(levelToRaw_eq_zero_iff pct max).mpr hzero]
    exact Nat.zero_le _
  · have hmul : max * pct ≤ max' * pct' := Nat.mul_le_mul hmax hpct
    have hraw : roundedRaw pct max ≤ roundedRaw pct' max' := by
      unfold roundedRaw
      omega
    calc levelToRaw pct max = Nat.max (roundedRaw pct max) 1 :=
          levelToRaw_eq (hpct.trans hpct') (by omega) (by omega)
      _ ≤ Nat.max (roundedRaw pct' max') 1 :=
          Nat.max_le.mpr ⟨hraw.trans (Nat.le_max_left _ _), Nat.le_max_right _ _⟩
      _ = levelToRaw pct' max' := (levelToRaw_eq hpct' (by omega) (by omega)).symm

/-- What is rounded is off by one half at most. -/
theorem roundedRaw_near (pct max : Nat) :
    |(roundedRaw pct max : ℚ) - (max : ℚ) * pct / 100| ≤ 1 / 2 := by
  have hlow : 100 * roundedRaw pct max ≤ max * pct + 50 := by
    unfold roundedRaw
    omega
  have hhigh : max * pct ≤ 100 * roundedRaw pct max + 50 := by
    unfold roundedRaw
    omega
  have hlow' : 100 * (roundedRaw pct max : ℚ) ≤ max * pct + 50 := by exact_mod_cast hlow
  have hhigh' : (max : ℚ) * pct ≤ 100 * roundedRaw pct max + 50 := by exact_mod_cast hhigh
  rw [abs_le]
  constructor
  · linarith
  · linarith

/-! ## The scale on the machine's integers -/

namespace Kbd

/-- The rounded value, in 64 bits. -/
def raw (pct : UInt8) (max : UInt32) : UInt64 := (max.toUInt64 * pct.toUInt64 + 50) / 100

/-- `level_to_raw`. -/
def levelToRaw (pct : UInt8) (max : UInt32) : UInt32 :=
  if pct = 0 ∨ max = 0 then 0
  else
    let raw := (raw pct max).toUInt32
    if raw < 1 then 1 else if max < raw then max else raw

/-- The product and the sum do not wrap, and the cast loses nothing. -/
structure Exact (pct : UInt8) (max : UInt32) : Prop where
  product : (max.toUInt64 * pct.toUInt64).toNat = max.toNat * pct.toNat
  sum : (max.toUInt64 * pct.toUInt64 + 50).toNat = max.toNat * pct.toNat + 50
  cast : (raw pct max).toUInt32.toNat = (raw pct max).toNat

/-- A scale from percents to the values of an LED. -/
structure FaithfulScale (scale : UInt8 → UInt32 → UInt32) : Prop where
  le_max : ∀ pct max, pct ≤ 100 → scale pct max ≤ max
  zero_iff : ∀ pct max, pct ≤ 100 → (scale pct max = 0 ↔ pct = 0 ∨ max = 0)
  hundred : ∀ max, scale 100 max = max
  mono : ∀ pct pct' max max', pct ≤ pct' → pct' ≤ 100 → max ≤ max' → scale pct max ≤ scale pct' max'
  near : ∀ pct max, pct ≤ 100 →
    |((scale pct max).toNat : ℚ) - (max.toNat : ℚ) * pct.toNat / 100| ≤ 1 / 2 ∨
      scale pct max = 1 ∧ raw pct max = 0

/-- In 64 bits the product does not overflow. -/
theorem toNat_raw (pct : UInt8) (max : UInt32) :
    (max.toUInt64 * pct.toUInt64).toNat = max.toNat * pct.toNat ∧
      (max.toUInt64 * pct.toUInt64 + 50).toNat = max.toNat * pct.toNat + 50 ∧
      (raw pct max).toNat = roundedRaw pct.toNat max.toNat := by
  have hmax : max.toNat < 2 ^ 32 := max.toNat_lt
  have hpct : pct.toNat < 2 ^ 8 := pct.toNat_lt
  have hmul : max.toNat * pct.toNat ≤ 2 ^ 32 * 2 ^ 8 := Nat.mul_le_mul hmax.le hpct.le
  have hproduct : (max.toUInt64 * pct.toUInt64).toNat = max.toNat * pct.toNat := by
    rw [UInt64.toNat_mul, UInt32.toNat_toUInt64, UInt8.toNat_toUInt64]
    exact Nat.mod_eq_of_lt (by omega)
  have hsum : (max.toUInt64 * pct.toUInt64 + 50).toNat = max.toNat * pct.toNat + 50 := by
    have hfifty : (50 : UInt64).toNat = 50 := rfl
    rw [UInt64.toNat_add, hproduct, hfifty]
    exact Nat.mod_eq_of_lt (by omega)
  refine ⟨hproduct, hsum, ?_⟩
  have hhundred : (100 : UInt64).toNat = 100 := rfl
  rw [raw, UInt64.toNat_div, hsum, hhundred, roundedRaw]

/-- The code's arithmetic is exact for every percent. -/
theorem exact_of_le {pct : UInt8} (hpct : pct ≤ 100) (max : UInt32) : Exact pct max := by
  obtain ⟨hproduct, hsum, hraw⟩ := toNat_raw pct max
  refine ⟨hproduct, hsum, ?_⟩
  have hle : pct.toNat ≤ 100 := UInt8.le_iff_toNat_le.mp hpct
  have hfits : roundedRaw pct.toNat max.toNat ≤ max.toNat := roundedRaw_le hle max.toNat
  rw [UInt64.toNat_toUInt32, hraw]
  exact Nat.mod_eq_of_lt (hfits.trans_lt max.toNat_lt)

/-- The machine computes the scale on numbers. -/
theorem toNat_levelToRaw {pct : UInt8} (hpct : pct ≤ 100) (max : UInt32) :
    (levelToRaw pct max).toNat = Hyprstate.levelToRaw pct.toNat max.toNat := by
  have hzero : pct = 0 ∨ max = 0 ↔ pct.toNat = 0 ∨ max.toNat = 0 := by
    rw [← UInt8.toNat_inj, ← UInt32.toNat_inj]
    rfl
  by_cases hnone : pct = 0 ∨ max = 0
  · rw [levelToRaw, if_pos hnone, (levelToRaw_eq_zero_iff _ _).mpr (hzero.mp hnone)]
    rfl
  · have hle : pct.toNat ≤ 100 := UInt8.le_iff_toNat_le.mp hpct
    have hcast : (raw pct max).toUInt32.toNat = roundedRaw pct.toNat max.toNat :=
      (exact_of_le hpct max).cast.trans (toNat_raw pct max).2.2
    have hfits : roundedRaw pct.toNat max.toNat ≤ max.toNat := roundedRaw_le hle max.toNat
    have hpos : 0 < pct.toNat ∧ 0 < max.toNat := by
      rw [hzero] at hnone
      omega
    rw [levelToRaw, if_neg hnone, levelToRaw_eq hle hpos.1 hpos.2]
    dsimp only
    have hone : (1 : UInt32).toNat = 1 := rfl
    by_cases hlow : (raw pct max).toUInt32 < 1
    · rw [if_pos hlow]
      rw [UInt32.lt_iff_toNat_lt, hcast, hone] at hlow
      rw [hone]
      exact (Nat.max_eq_right hlow.le).symm
    · have hhigh : ¬max < (raw pct max).toUInt32 := by
        rw [UInt32.lt_iff_toNat_lt, hcast]
        omega
      rw [if_neg hlow, if_neg hhigh, hcast]
      rw [UInt32.lt_iff_toNat_lt, hcast, hone] at hlow
      exact (Nat.max_eq_left (by omega)).symm

/-- The scale is faithful. -/
theorem levelToRaw_scale : FaithfulScale levelToRaw where
  le_max pct max hpct := by
    rw [UInt32.le_iff_toNat_le, toNat_levelToRaw hpct]
    exact levelToRaw_le _ _
  zero_iff pct max hpct := by
    rw [← UInt32.toNat_inj, toNat_levelToRaw hpct, ← UInt8.toNat_inj, ← UInt32.toNat_inj]
    exact levelToRaw_eq_zero_iff _ _
  hundred max := by
    rw [← UInt32.toNat_inj, toNat_levelToRaw (le_refl 100)]
    exact levelToRaw_hundred max.toNat
  mono pct pct' max max' hpct hpct' hmax := by
    rw [UInt32.le_iff_toNat_le, toNat_levelToRaw (UInt8.le_trans hpct hpct'),
      toNat_levelToRaw hpct']
    exact levelToRaw_mono (UInt8.le_iff_toNat_le.mp hpct) (UInt8.le_iff_toNat_le.mp hpct')
      (UInt32.le_iff_toNat_le.mp hmax)
  near pct max hpct := by
    have hle : pct.toNat ≤ 100 := UInt8.le_iff_toNat_le.mp hpct
    have hraw := (toNat_raw pct max).2.2
    rw [toNat_levelToRaw hpct, ← UInt32.toNat_inj, toNat_levelToRaw hpct, ← UInt64.toNat_inj, hraw]
    -- Nothing is asked for or the range is empty, or the level is rounded.
    by_cases hzero : pct.toNat = 0 ∨ max.toNat = 0
    · left
      rw [(levelToRaw_eq_zero_iff _ _).mpr hzero]
      rcases hzero with hzero | hzero <;> rw [hzero] <;> norm_num
    · rw [levelToRaw_eq hle (by omega) (by omega)]
      rcases Nat.eq_zero_or_pos (roundedRaw pct.toNat max.toNat) with hnone | hpos
      · -- Rounded to nothing, and raised.
        exact .inr ⟨by rw [hnone]; rfl, hnone⟩
      · left
        have hkept : Nat.max (roundedRaw pct.toNat max.toNat) 1 = roundedRaw pct.toNat max.toNat :=
          Nat.max_eq_left hpos
        rw [hkept]
        exact roundedRaw_near _ _

/-! ## The levels that are stored -/

/-- `step_level`: one `kbd up` or `kbd down` step. -/
def stepLevel (level : Nat) (up : Bool) : Nat := clampLevel ((level : Int) + if up then 10 else -10)

/-- `stored_level`: the number in the level file, if there is one. -/
def storedLevel (file : Option Int) : Nat := (file.map clampLevel).getD defaultKbdLevelPct

/-- The commands that write a level; `set` without a number writes none. -/
inductive Command
  | set (pct : Option Int)
  | up
  | down

/-- The level that a command writes. -/
def Command.level (file : Option Int) : Command → Option Nat
  | .set pct => pct.map clampLevel
  | .up => some (stepLevel (storedLevel file) true)
  | .down => some (stepLevel (storedLevel file) false)

/-- The level file after a command. -/
def Command.run (file : Option Int) (cmd : Command) : Option Int :=
  match cmd.level file with
  | some level => some level
  | none => file

/-- A clamped level is a percent. -/
theorem clampLevel_le (pct : Int) : clampLevel pct ≤ 100 := by
  unfold clampLevel
  omega

/-- So is a stored one. -/
theorem storedLevel_le (file : Option Int) : storedLevel file ≤ 100 := by
  cases file with
  | none => decide
  | some pct => exact clampLevel_le pct

/-- So is the one that a command sets. -/
theorem Command.level_le {file : Option Int} {cmd : Command} {level : Nat}
    (h : cmd.level file = some level) : level ≤ 100 := by
  cases cmd with
  | set pct =>
    obtain ⟨n, -, rfl⟩ := Option.map_eq_some_iff.mp h
    exact clampLevel_le n
  | up | down =>
    obtain rfl := Option.some.inj h
    exact clampLevel_le _

/-- The scale is exact and faithful up to 100 percent, and no command, on any level file, leaves
that range. -/
theorem levelToRaw_faithful :
    (∀ pct max, pct ≤ 100 → Exact pct max) ∧ FaithfulScale levelToRaw ∧
      ∀ (file : Option Int) (cmds : List Command),
        storedLevel (cmds.foldl Command.run file) ≤ 100 ∧
        ∀ cmd level, Command.level (cmds.foldl Command.run file) cmd = some level → level ≤ 100 :=
  ⟨fun _ max hpct => exact_of_le hpct max, levelToRaw_scale,
    fun _ _ => ⟨storedLevel_le _, fun _ _ h => Command.level_le h⟩⟩

end Kbd

end Hyprstate
