import Mathlib.Data.Int.Notation
import Mathlib.Tactic.Common

/-!
# Decimal numbers

Integers as texts: `showInt` writes them, and `parseInt` reads them, with a sign or none, where they
lie in a range. What is written is read back (`parseInt_showInt`).
-/

namespace Text

/-- The number that some digits spell; there is at least one. -/
def parseNat (text : List Char) : Option Nat :=
  if text ≠ [] ∧ text.all Char.isDigit = true then some (Nat.ofDigitChars 10 text 0) else none

/-- An integer with an optional sign, in the range. -/
def parseInt (lo hi : Int) (text : List Char) : Option Int :=
  let n : Option Int := match text with
    | '-' :: digits => (parseNat digits).map fun n => -(n : Int)
    | '+' :: digits => (parseNat digits).map Int.ofNat
    | digits => (parseNat digits).map Int.ofNat
  n.filter fun n => decide (lo ≤ n ∧ n ≤ hi)

/-- The digits, and a minus before them. -/
def showInt : Int → List Char
  | .ofNat n => Nat.toDigits 10 n
  | .negSucc n => '-' :: Nat.toDigits 10 (n + 1)

/-- A digit lies between the codes of `0` and `9`. -/
theorem toNat_of_isDigit {c : Char} (h : c.isDigit = true) : 48 ≤ c.toNat ∧ c.toNat ≤ 57 := by
  simp only [Char.isDigit, Bool.and_eq_true, decide_eq_true_eq, ge_iff_le] at h
  exact ⟨h.1, h.2⟩

/-- The digits of a number are digits. -/
theorem isDigit_of_mem_toDigits {n : Nat} {c : Char} (hc : c ∈ Nat.toDigits 10 n) :
    c.isDigit = true :=
  Nat.isDigit_of_mem_toDigits (by decide) (by decide) hc

/-- A number is read back from its digits. -/
theorem parseNat_toDigits (n : Nat) : parseNat (Nat.toDigits 10 n) = some n := by
  have hdigits : (Nat.toDigits 10 n).all Char.isDigit = true :=
    List.all_eq_true.mpr fun c hc => isDigit_of_mem_toDigits hc
  unfold parseNat
  rw [if_pos ⟨Nat.toDigits_ne_nil, hdigits⟩, Nat.ofDigitChars_ten_toDigits]

/-- An integer in range is read back from its text. -/
theorem parseInt_showInt {lo hi n : Int} (h : lo ≤ n ∧ n ≤ hi) :
    parseInt lo hi (showInt n) = some n := by
  cases n with
  | ofNat n =>
    obtain ⟨c, rest, hcons⟩ := List.exists_cons_of_ne_nil (Nat.toDigits_ne_nil (n := n) (b := 10))
    have hc : c.isDigit = true := isDigit_of_mem_toDigits (hcons ▸ List.mem_cons_self)
    have hshow : showInt (Int.ofNat n) = c :: rest := hcons
    have hparse : parseNat (c :: rest) = some n := hcons ▸ parseNat_toDigits n
    rw [hshow]
    unfold parseInt
    -- A digit is no sign.
    split
    · next heq =>
      rw [(List.cons.inj heq).1] at hc
      exact absurd hc (by decide)
    · next heq =>
      rw [(List.cons.inj heq).1] at hc
      exact absurd hc (by decide)
    · rw [hparse]
      exact Option.filter_eq_some_iff.mpr ⟨rfl, by simpa using h⟩
  | negSucc n =>
    show Option.filter _ ((parseNat (Nat.toDigits 10 (n + 1))).map fun n => -(n : Int)) = _
    rw [parseNat_toDigits]
    exact Option.filter_eq_some_iff.mpr ⟨rfl, by simpa using h⟩

/-- The text of an integer is not empty. -/
theorem showInt_ne_nil (n : Int) : showInt n ≠ [] := by
  cases n with
  | ofNat n => exact Nat.toDigits_ne_nil
  | negSucc n => exact List.cons_ne_nil _ _

/-- A number is written in digits, and a minus. -/
theorem mem_showInt {n : Int} {c : Char} (hc : c ∈ showInt n) : c.isDigit = true ∨ c = '-' := by
  cases n with
  | ofNat n => exact .inl (isDigit_of_mem_toDigits hc)
  | negSucc n =>
    rcases List.mem_cons.mp hc with rfl | hc
    · exact .inr rfl
    · exact .inl (isDigit_of_mem_toDigits hc)

end Text
