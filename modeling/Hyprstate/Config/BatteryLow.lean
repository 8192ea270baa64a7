import Hyprstate.Config.PowerConf

/-!
# Battery low

The low flag over a sequence of battery percentages, at the threshold of `power.conf`: the entry
rule of `run`, then `battery_low_step` for each `BatteryPercent`. A sample at or below the threshold
sets it, one at the threshold and the exit delta or above clears it, and one between the two leaves
it, so that it says on which side of the band the last sample outside the band was
(`lowAfter_spec`).
-/

namespace Hyprstate

/-! ## The threshold -/

/-- What holds of the default and of every value that is read holds of the last valid one. -/
theorem lastValid_of_forall {α : Type} (p : α → Prop) {read : Text → Option α} {default : α}
    (hread : ∀ val a, read val = some a → p a) (hdefault : p default) (text : Text) (key : String) :
    p (lastValid text key read default) := by
  unfold lastValid
  cases hlast : ((Text.lines text).filterMap (readLine key.toList read)).getLast? with
  | none => exact hdefault
  | some a =>
    obtain ⟨line, -, hline⟩ := List.mem_filterMap.mp (List.mem_of_getLast? hlast)
    obtain ⟨kv, -, hkv⟩ := Option.bind_eq_some_iff.mp hline
    rw [Option.ite_none_right_eq_some] at hkv
    exact hread kv.2 a hkv.2

/-- A clamped number is in its range. -/
theorem clampTo_bounds {lo hi : Nat} (hle : lo ≤ hi) (n : Int) :
    lo ≤ clampTo lo hi n ∧ clampTo lo hi n ≤ hi := by
  unfold clampTo
  omega

/-- The threshold is a percentage of the lower half. -/
theorem batteryLowPct_bounds (debug : Text → Text) (text : Text) :
    1 ≤ (parsePowerConf debug text).1.batteryLowPct ∧
    (parsePowerConf debug text).1.batteryLowPct ≤ 50 := by
  rw [parsePowerConf_eq_lastValidConf]
  refine lastValid_of_forall (fun t => 1 ≤ t ∧ t ≤ 50) (fun val t hread => ?_) (by decide) text _
  obtain ⟨n, -, rfl⟩ := Option.map_eq_some_iff.mp hread
  exact clampTo_bounds (by decide) n

/-! ## The flag -/

/-- What a sample says of the flag; one in the open band says nothing. -/
def sideOfBand (t : Nat) (pct : Rat) : Option Bool :=
  if pct ≤ (t : Rat) then some true
  else if pct ≥ ((t + batteryLowExitDelta : Nat) : Rat) then some false
  else none

/-- The sample is outside the open band between the threshold and the exit level. -/
def outsideBand (t : Nat) (pct : Rat) : Bool :=
  decide (pct ≤ (t : Rat)) || decide (pct ≥ ((t + batteryLowExitDelta : Nat) : Rat))

/-- The flag after the samples: `run` decides it by the first, `battery_low_step` moves it on each
later one. -/
def lowAfter (t : Nat) (first : Rat) (rest : List Rat) : Bool :=
  rest.foldl (fun low pct => batteryLowStep low pct t) (decide (first ≤ (t : Rat)))

/-- A step goes to the side of the band that the reading is on, and stays inside it. -/
theorem batteryLowStep_eq (low : Bool) (pct : Rat) (t : Nat) :
    batteryLowStep low pct t = (sideOfBand t pct).getD low := by
  have hexit : (t : Rat) < ((t + batteryLowExitDelta : Nat) : Rat) := by
    exact_mod_cast Nat.lt_add_of_pos_right (by decide)
  unfold batteryLowStep sideOfBand
  generalize ((t + batteryLowExitDelta : Nat) : Rat) = exit at hexit ⊢
  by_cases hlow : pct ≤ (t : Rat)
  · have hnot : ¬ exit ≤ pct := fun hge => absurd (Rat.le_trans hge hlow) (Rat.not_le.mpr hexit)
    cases low <;> simp [hlow, hnot]
  · by_cases hhigh : exit ≤ pct <;> cases low <;> simp [hlow, hhigh]

/-- The entry rule is the step from a clear flag. -/
theorem lowAfter_eq (t : Nat) (first : Rat) (rest : List Rat) :
    lowAfter t first rest = (first :: rest).foldl
      (fun low pct => batteryLowStep low pct t) false := by
  have hentry : batteryLowStep false first t = decide (first ≤ (t : Rat)) := by
    unfold batteryLowStep
    by_cases hlow : first ≤ (t : Rat) <;> simp [hlow]
  rw [List.foldl_cons, hentry, lowAfter]

/-- A reading has a side exactly outside the band. -/
theorem sideOfBand_eq (t : Nat) (pct : Rat) :
    sideOfBand t pct = if outsideBand t pct then some (decide (pct ≤ (t : Rat))) else none := by
  unfold sideOfBand outsideBand
  generalize ((t + batteryLowExitDelta : Nat) : Rat) = exit
  by_cases hlow : pct ≤ (t : Rat)
  · simp [hlow]
  · by_cases hhigh : exit ≤ pct <;> simp [hlow, hhigh]

/-- The sides of several readings are those of the readings outside the band. -/
theorem filterMap_sideOfBand (t : Nat) (pcts : List Rat) :
    pcts.filterMap (sideOfBand t) =
      (pcts.filter (outsideBand t)).map fun pct => decide (pct ≤ (t : Rat)) := by
  induction pcts with
  | nil => rfl
  | cons pct pcts ih =>
    rw [List.filterMap_cons, List.filter_cons, sideOfBand_eq]
    by_cases houtside : outsideBand t pct <;> simp [houtside, ih]

/-- At the threshold of any `power.conf`, the exit level fits in the `u8` it is added in, and the
flag after any samples is set exactly when there is a last sample outside the band and it is at most
the threshold.
-/
theorem lowAfter_spec (debug : Text → Text) (text : Text) (first : Rat) (rest : List Rat) :
    (parsePowerConf debug text).1.batteryLowPct + batteryLowExitDelta < 2 ^ 8 ∧
      (lowAfter (parsePowerConf debug text).1.batteryLowPct first rest = true ↔
        ∃ pct, ((first :: rest).filter
            (outsideBand (parsePowerConf debug text).1.batteryLowPct)).getLast? = some pct ∧
          pct ≤ ((parsePowerConf debug text).1.batteryLowPct : Rat)) := by
  have hbounds := batteryLowPct_bounds debug text
  generalize (parsePowerConf debug text).1.batteryLowPct = t at hbounds ⊢
  refine ⟨?_, ?_⟩
  · have hdelta : batteryLowExitDelta = 3 := rfl
    omega
  · have hlast : (first :: rest).foldl (fun low pct => batteryLowStep low pct t) false =
        ((first :: rest).filterMap (sideOfBand t)).getLast?.getD false :=
      foldl_eq_last id (fun low pct => batteryLowStep_eq low pct t) (first :: rest) false
    rw [lowAfter_eq, hlast, filterMap_sideOfBand, List.getLast?_map]
    cases ((first :: rest).filter (outsideBand t)).getLast? with
    | none => simp
    | some pct => simp

end Hyprstate
