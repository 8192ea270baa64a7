import Hyprstate.Powerd.Client
import Hyprstate.Powerd.Knobs

/-!
# Adopting an external platform_profile write

The daemon maps a value that someone else wrote to a profile, adopts it as the override and runs the
policy check, and powerd maps the profile back to a value. The two maps do not compose to the
identity: the first offered value of the profile's chain is written, whatever value was adopted.
-/

namespace Hyprstate

open Reactive Process

/-- The firmware's `platform_profile` and powerd behind it. -/
structure Platform where
  choices : List String
  attr : Attr
  /-- How powerd's write of the attribute ends. -/
  writes : WriteResult := .ok
  /-- Whether powerd runs the calls it gets; its reply may be lost all the same. -/
  serves : Bool := true
  now : Nat := 0

namespace Platform

/-- After `powerd_apply` of a profile. -/
def served (w : Platform) (profile : PowerProfile) : Platform :=
  { w with attr := (platformRow w.choices w.attr profile w.writes).1 }

/-- Only powerd writes the attribute meanwhile. -/
def world : World (Context × Eff) (stamped Eff.Ans) Platform where
  drift _ _ := False
  answer
    | (_, .powerdApplyProfile profile), w, ok, w' =>
      if w.serves then w' = w.served profile else ok = false ∧ w' = w
    | (_, .now), w, now, w' => now = w.now ∧ w' = w
    | _, w, _, w' => w' = w

/-- What the external write of `v` stands by: no call is made or none has an effect, or the adopted
profile's value is `v` again. -/
def Stands (fx : Effectors) (c : Context) (w : Platform) (v : String) : Prop :=
  fx.shadow = true ∨ c.power.powerApplied = some (profileFromPlatformValue (some v)) ∨
    c.power.powerdAvailable = false ∨ w.serves = false ∨ w.writes ≠ .ok ∨
    ∀ t, platformTarget w.choices (profileFromPlatformValue (some v)) = some t → t = v

/-- A request that is not to powerd leaves the platform's profile. -/
theorem world_frame (c : Context) (e : Eff) (w : Platform) (b : stamped Eff.Ans (c, e))
    (w' : Platform) (he : e.resource ≠ .powerd) (h : world.answer (c, e) w b w') : w' = w := by
  cases e with
  | powerdApplyProfile profile => exact absurd rfl he
  | now => exact h.2
  | _ => exact h

variable (fx : Effectors) (c : Context)

/-- The arm of an external write of `v`: the policy check calls powerd for the profile that `v` is
adopted as, unless that is applied already. -/
theorem adoption_asks {w : Platform} {v : String}
    (hext : (c.power.selfWrites.isSelfWrite w.now (some v)).1 = false) :
    Wp world (fun _ _ _ => True)
      (fun _ _ w' =>
        if !fx.shadow && c.power.calls (profileFromPlatformValue (some v)) then
          w' = if w.serves then w.served (profileFromPlatformValue (some v)) else w
        else w' = w)
      (fx.dispatchUpdate (.platformProfileChanged (some v))) c w := by
  have hstill : ∀ w w', ¬world.drift w w' := fun _ _ => id
  rw [Effectors.dispatchUpdate]
  refine (wp_ask_bind (e := Eff.now)).mpr fun w₁ hdrift => ⟨trivial, ?_⟩
  obtain rfl := (World.drifts_iff_of_still hstill).mp hdrift
  rintro _ w₂ ⟨rfl, rfl⟩
  rw [wp_get_bind, wp_set_bind]
  simp only [hext, Bool.not_false, when, if_true, bind_assoc]
  refine (unasked _ hstill world_frame (adoptPowerOverride_exact fx _ _) (by simp)).bind ?_
  rintro _ _ w₃ ⟨rfl, rfl⟩
  refine (powerPolicyCheck_asks fx _ hstill world_frame).bind ?_
  rintro _ c₄ w₄ ⟨hw, -, -⟩ w₅ hdrift
  obtain rfl := (World.drifts_iff_of_still hstill).mp hdrift
  -- A fresh adoption is stamped, not expired, so its profile is the desired one.
  change if (!fx.shadow && c.power.calls (profileFromPlatformValue (some v))) = true then
    ∃ c₁ ok, world.answer (c₁, .powerdApplyProfile (profileFromPlatformValue (some v))) w₃ ok w₅
    else w₅ = w₃ at hw
  split at hw
  · next hcalls =>
    rw [if_pos hcalls]
    obtain ⟨c₁, ok, hanswer⟩ := hw
    cases hserves : w₃.serves with
    | true => simpa [world, hserves] using hanswer
    | false =>
      have hlost : ok = false ∧ w₅ = w₃ := by simpa [world, hserves] using hanswer
      exact hlost.2
  · next hcalls =>
    rw [if_neg hcalls]
    exact hw

/-- The arm of an external write leaves `platform_profile` reading the written value exactly when
the write stands. -/
theorem kept_iff_stands {w w' : Platform} {v : String} {tr : List DaemonObs} {falls : Bool}
    {c' : Context} (hattr : w.attr = .text v)
    (hext : (c.power.selfWrites.isSelfWrite w.now (some v)).1 = false)
    (h : Execs world (fx.dispatchUpdate (.platformProfileChanged (some v))) c w tr falls c' w') :
    w'.attr = .text v ↔ Stands fx c w v := by
  have hw : if !fx.shadow && c.power.calls (profileFromPlatformValue (some v)) then
      w' = if w.serves then w.served (profileFromPlatformValue (some v)) else w
      else w' = w := h.of_wp (adoption_asks fx c hext)
  unfold Stands
  split at hw
  · next hcalls =>
    -- The profile is applied: powerd writes its row, which keeps the value or does not.
    obtain ⟨hs, hnew, havail⟩ : fx.shadow = false ∧
        c.power.powerApplied ≠ some (profileFromPlatformValue (some v)) ∧
        c.power.powerdAvailable = true := by
      simpa [PowerContext.calls] using hcalls
    cases hserves : w.serves with
    | false =>
      rw [hserves] at hw
      simpa [hw] using hattr
    | true =>
      have hrow := platformRow_keeps_iff w.choices v (profileFromPlatformValue (some v)) w.writes
      rw [hserves] at hw
      rw [hw, if_pos rfl, served, hattr]
      simpa [hs, hnew, havail] using hrow
  · next hcalls =>
    -- Nothing is applied, so the attribute stays as the user wrote it.
    have hnone : fx.shadow = true ∨
        c.power.powerApplied = some (profileFromPlatformValue (some v)) ∨
        c.power.powerdAvailable = false := by
      by_contra hno
      simp only [not_or, Bool.not_eq_true, Bool.not_eq_false] at hno
      exact hcalls (by simp [PowerContext.calls, hno])
    rw [hw]
    exact iff_of_true hattr (by tauto)

/-- The world in which everything else is quiet. -/
def quietly : (r : Context × Eff) → Platform → stamped Eff.Ans r × Platform
  | (_, .powerdApplyProfile profile), w =>
    (w.serves, if w.serves then w.served profile else w)
  | (_, .now), w => (w.now, w)
  | (_, e), w => (e.quiet, w)

/-- The quiet machine's answers are the platform's. -/
theorem quietly_answer (r : Context × Eff) (w : Platform) (_ : True) :
    world.answer r w (quietly r w).1 (quietly r w).2 ∧ True := by
  refine ⟨?_, trivial⟩
  obtain ⟨c, e⟩ := r
  cases e with
  | powerdApplyProfile profile =>
    show if w.serves = true then _ else _
    cases hserves : w.serves <;> simp [quietly, hserves]
  | now => exact ⟨rfl, rfl⟩
  | _ => rfl

/-- A laptop whose firmware offers both values of the power saver, found in one of them. -/
def laptop (v : String) : Platform where
  choices := ["low-power", "quiet", "balanced", "performance"]
  attr := .text v

/-- The daemon with the balanced profile applied. -/
def balanced : Context := { power := { powerApplied := some .balanced } }

/-- An external `low-power` stands. -/
theorem kept_iff_stands_lowPower : ∃ tr c' w',
    Execs world ((⟨false, true⟩ : Effectors).dispatchUpdate
      (.platformProfileChanged (some "low-power"))) balanced (laptop "low-power") tr true c' w' ∧
    w'.attr = .text "low-power" := by
  have hexec := Process.execs_exec quietly_answer ((⟨false, true⟩ : Effectors).dispatchUpdate
    (.platformProfileChanged (some "low-power"))) balanced (w := laptop "low-power") trivial
  have hstands : Stands ⟨false, true⟩ balanced (laptop "low-power") "low-power" :=
    .inr (.inr (.inr (.inr (.inr fun t ht => (Option.some.inj ht).symm))))
  exact ⟨_, _, _, hexec,
    (kept_iff_stands ⟨false, true⟩ balanced (by rfl) (by decide) hexec).mpr hstands⟩

/-- An external `quiet` is adopted as the power saver and written over with `low-power`. -/
theorem not_kept : ¬∀ (fx : Effectors) (c : Context) (w w' : Platform) (v : String)
    (tr : List DaemonObs) (falls : Bool) (c' : Context), v ∈ w.choices → w.attr = .text v →
    (c.power.selfWrites.isSelfWrite w.now (some v)).1 = false →
    Execs world (fx.dispatchUpdate (.platformProfileChanged (some v))) c w tr falls c' w' →
    w'.attr = .text v := by
  intro h
  have hexec := Process.execs_exec quietly_answer ((⟨false, true⟩ : Effectors).dispatchUpdate
    (.platformProfileChanged (some "quiet"))) balanced (w := laptop "quiet") trivial
  have hattr := h _ _ _ _ "quiet" _ _ _ (by decide) rfl (by decide) hexec
  exact absurd hattr (by decide +kernel)

end Platform

end Hyprstate
