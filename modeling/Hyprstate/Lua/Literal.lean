import Mathlib.Algebra.Group.Nat.Defs
import Mathlib.Data.List.Basic

/-!
# Lua string literals

How Lua reads a string literal between quotes (`readLiteral`), byte by byte. A byte stands for
itself, and a backslash starts an escape: of one letter, of up to three decimal digits, of two
hexadecimal ones, of a code point, of a line break, or of the space to skip. A literal does not go
over a line break that is not escaped.
-/

namespace Lua

/-- A decimal digit. -/
def isDigit (b : UInt8) : Bool := decide (0x30 ≤ b ∧ b ≤ 0x39)

/-- A blank. -/
def isSpace (b : UInt8) : Bool := decide (b = 0x20 ∨ 0x9 ≤ b ∧ b ≤ 0xD)

/-- The value of a hexadecimal digit. -/
def hexDigit (b : UInt8) : Option Nat :=
  if isDigit b then some (b.toNat - 0x30)
  else if 0x41 ≤ b ∧ b ≤ 0x46 then some (b.toNat - 0x41 + 10)
  else if 0x61 ≤ b ∧ b ≤ 0x66 then some (b.toNat - 0x61 + 10)
  else none

/-- The byte of an escape of one letter: `\a`, `\b`, `\f`, `\n`, `\r`, `\t`, `\v`, the backslash and
the two quotes. -/
def letterEscape (b : UInt8) : Option UInt8 :=
  if b = 0x61 then some 0x7
  else if b = 0x62 then some 0x8
  else if b = 0x66 then some 0xC
  else if b = 0x6E then some 0xA
  else if b = 0x72 then some 0xD
  else if b = 0x74 then some 0x9
  else if b = 0x76 then some 0xB
  else if b = 0x5C ∨ b = 0x22 ∨ b = 0x27 then some b
  else none

/-- At most so many decimal digits, after those that gave the value. -/
def readDecimal : Nat → Nat → List UInt8 → Nat × List UInt8
  | n + 1, value, b :: rest =>
    if isDigit b then readDecimal n (10 * value + (b.toNat - 0x30)) rest else (value, b :: rest)
  | 0, value, rest => (value, rest)
  | _ + 1, value, [] => (value, [])

/-- The hexadecimal digits, after those that gave the value. -/
def readHex : Nat → List UInt8 → Nat × List UInt8
  | value, b :: rest =>
    match hexDigit b with
    | some d => readHex (16 * value + d) rest
    | none => (value, b :: rest)
  | value, [] => (value, [])

/-- UTF-8 as Lua extends it to code points up to `2^31`. -/
def utf8esc (n : Nat) : List UInt8 :=
  let last (k : Nat) : List UInt8 := (List.range k).reverse.map fun i =>
    UInt8.ofNat (0x80 + n / 64 ^ i % 64)
  if n < 0x80 then [UInt8.ofNat n]
  else if n < 0x800 then UInt8.ofNat (0xC0 + n / 64) :: last 1
  else if n < 0x10000 then UInt8.ofNat (0xE0 + n / 64 ^ 2) :: last 2
  else if n < 0x200000 then UInt8.ofNat (0xF0 + n / 64 ^ 3) :: last 3
  else if n < 0x4000000 then UInt8.ofNat (0xF8 + n / 64 ^ 4) :: last 4
  else UInt8.ofNat (0xFC + n / 64 ^ 5) :: last 5

/-- What follows `\x`. -/
def hexEscape : List UInt8 → Option (List UInt8 × List UInt8)
  | h :: l :: rest => do
    let high ← hexDigit h
    let low ← hexDigit l
    pure ([UInt8.ofNat (16 * high + low)], rest)
  | _ => none

/-- What follows `\u`. -/
def unicodeEscape : List UInt8 → Option (List UInt8 × List UInt8)
  | brace :: d :: rest =>
    if brace = 0x7B ∧ (hexDigit d).isSome then
      match readHex 0 (d :: rest) with
      | (n, close :: rest) => if close = 0x7D ∧ n < 2 ^ 31 then some (utf8esc n, rest) else none
      | (_, []) => none
    else none
  | _ => none

/-- What follows a backslash: the bytes it stands for, and the rest. -/
def escape : List UInt8 → Option (List UInt8 × List UInt8)
  | [] => none
  | b :: rest =>
    match letterEscape b with
    | some c => some ([c], rest)
    | none =>
      -- A line break of two characters is one.
      if b = 0xA then some ([0xA], if rest.head? = some 0xD then rest.tail else rest)
      else if b = 0xD then some ([0xA], if rest.head? = some 0xA then rest.tail else rest)
      else if b = 0x78 then hexEscape rest
      else if b = 0x7A then some ([], rest.dropWhile isSpace)
      else if b = 0x75 then unicodeEscape rest
      else if isDigit b then
        let (n, rest) := readDecimal 3 0 (b :: rest)
        if n ≤ 255 then some ([UInt8.ofNat n], rest) else none
      else none

/-- The digits that are read are taken from the text. -/
theorem readDecimal_length (n value : Nat) (l : List UInt8) :
    (readDecimal n value l).2.length ≤ l.length := by
  induction n generalizing value l with
  | zero => cases l <;> exact Nat.le_refl _
  | succ n ih =>
    cases l with
    | nil => exact Nat.le_refl _
    | cons b rest =>
      rw [readDecimal]
      split
      · exact Nat.le_succ_of_le (ih _ rest)
      · exact Nat.le_refl _

/-- So are hexadecimal ones. -/
theorem readHex_length (value : Nat) (l : List UInt8) : (readHex value l).2.length ≤ l.length := by
  induction l generalizing value with
  | nil => exact Nat.le_refl _
  | cons b rest ih =>
    rw [readHex]
    split
    · exact Nat.le_succ_of_le (ih _)
    · exact Nat.le_refl _

/-- And the escape with them. -/
theorem hexEscape_length {l out rest : List UInt8} (h : hexEscape l = some (out, rest)) :
    rest.length ≤ l.length := by
  unfold hexEscape at h
  split at h
  · obtain ⟨high, -, h⟩ := Option.bind_eq_some_iff.mp h
    obtain ⟨low, -, h⟩ := Option.bind_eq_some_iff.mp h
    cases h
    simp only [List.length_cons]
    omega
  · cases h

/-- And the escape of a code point. -/
theorem unicodeEscape_length {l out rest : List UInt8} (h : unicodeEscape l = some (out, rest)) :
    rest.length ≤ l.length := by
  unfold unicodeEscape at h
  split at h
  · next brace d more =>
    split at h
    · split at h
      · next n close rest' hread =>
        split at h
        · cases h
          have hlength := readHex_length 0 (d :: more)
          rw [hread] at hlength
          simp only [List.length_cons] at hlength ⊢
          omega
        · cases h
      · cases h
    · cases h
  · cases h

/-- An escape leaves no more than it was given. -/
theorem escape_length {l out rest : List UInt8} (h : escape l = some (out, rest)) :
    rest.length ≤ l.length := by
  -- By the escapes in the reader's order; each takes at least the byte it looks at.
  cases l with
  | nil => cases h
  | cons b l =>
    dsimp only [escape] at h
    split at h
    · cases h
      exact Nat.le_succ _
    split at h
    · cases h
      split
      · simp only [List.length_tail, List.length_cons]
        omega
      · exact Nat.le_succ _
    split at h
    · cases h
      split
      · simp only [List.length_tail, List.length_cons]
        omega
      · exact Nat.le_succ _
    split at h
    · exact Nat.le_succ_of_le (hexEscape_length h)
    split at h
    · cases h
      exact Nat.le_succ_of_le ((List.dropWhile_sublist _).length_le)
    split at h
    · exact Nat.le_succ_of_le (unicodeEscape_length h)
    split at h
    · have hlength := readDecimal_length 3 0 (b :: l)
      split at h
      · cases h
        exact hlength
      · cases h
    · cases h

/-- The body of a literal up to the quote that ends it: the bytes it stands for, and the rest. -/
def readBody (quote : UInt8) : List UInt8 → Option (List UInt8 × List UInt8)
  | [] => none
  | b :: rest =>
    if b = quote then some ([], rest)
    else if b = 0xA ∨ b = 0xD then none
    else if b = 0x5C then
      match _h : escape rest with
      | some (out, rest') => (readBody quote rest').map fun (body, more) => (out ++ body, more)
      | none => none
    else (readBody quote rest).map fun (body, more) => (b :: body, more)
termination_by l => l.length
decreasing_by
  · exact Nat.lt_succ_of_le (escape_length ‹_›)
  · exact Nat.lt_succ_self _

/-- A literal in either quotes: the bytes it stands for, and what follows it. -/
def readLiteral : List UInt8 → Option (List UInt8 × List UInt8)
  | b :: rest => if b = 0x22 ∨ b = 0x27 then readBody b rest else none
  | [] => none

/-! ## Decimal escapes -/

/-- No digit, nothing read. -/
theorem readDecimal_of_not_digit {b : UInt8} (hb : isDigit b = false) (n value : Nat)
    (l : List UInt8) : readDecimal n value (b :: l) = (value, b :: l) := by
  cases n with
  | zero => rfl
  | succ n => rw [readDecimal, if_neg (by simp [hb])]

/-- The digits that are read bound their value. -/
theorem readDecimal_lt (n value : Nat) (l : List UInt8) :
    (readDecimal n value l).1 < 10 ^ n * (value + 1) := by
  induction n generalizing value l with
  | zero => cases l <;> simp [readDecimal]
  | succ n ih =>
    have hkeep : value < 10 ^ (n + 1) * (value + 1) :=
      Nat.lt_of_lt_of_le (Nat.lt_succ_self value)
        (Nat.le_mul_of_pos_left _ (Nat.pow_pos (by decide)))
    cases l with
    | nil => exact hkeep
    | cons b rest =>
      rw [readDecimal]
      split
      · next hb =>
        have hdigit : b.toNat - 0x30 ≤ 9 := by
          simp only [isDigit, decide_eq_true_eq, UInt8.le_iff_toNat_le] at hb
          have hle : b.toNat ≤ 57 := hb.2
          omega
        calc (readDecimal n (10 * value + (b.toNat - 0x30)) rest).1
            < 10 ^ n * (10 * value + (b.toNat - 0x30) + 1) := ih _ rest
          _ ≤ 10 ^ n * (10 * (value + 1)) := Nat.mul_le_mul_left _ (by omega)
          _ = 10 ^ (n + 1) * (value + 1) := by rw [Nat.pow_succ, Nat.mul_assoc]
      · exact hkeep

/-- An escape that starts with a zero takes the two digits after it, where there are any. -/
theorem escape_zero (l : List UInt8) :
    escape (0x30 :: l) = some ([UInt8.ofNat (readDecimal 2 0 l).1], (readDecimal 2 0 l).2) := by
  have hlt := readDecimal_lt 2 0 l
  exact if_pos (by omega : (readDecimal 2 0 l).1 ≤ 255)

/-! ## The pieces of a body -/

section

variable {quote : UInt8}

/-- The quote ends the body. -/
theorem readBody_quote (rest : List UInt8) : readBody quote (quote :: rest) = some ([], rest) := by
  rw [readBody, if_pos rfl]

/-- A byte that stands for itself. -/
def Plain (quote b : UInt8) : Prop := b ≠ quote ∧ b ≠ 0xA ∧ b ≠ 0xD ∧ b ≠ 0x5C

/-- Plain bytes stand for themselves. -/
theorem readBody_plain {bytes : List UInt8} (hbytes : ∀ b ∈ bytes, Plain quote b)
    (rest : List UInt8) :
    readBody quote (bytes ++ rest) =
      (readBody quote rest).map fun (body, more) => (bytes ++ body, more) := by
  induction bytes with
  | nil => simp
  | cons b bytes ih =>
    obtain ⟨hquote, hfeed, hreturn, hslash⟩ := hbytes b List.mem_cons_self
    rw [List.cons_append, readBody, if_neg hquote, if_neg (not_or.mpr ⟨hfeed, hreturn⟩),
      if_neg hslash, ih fun c hc => hbytes c (List.mem_cons_of_mem _ hc), Option.map_map]
    rfl

/-- An escape stands for what it says. -/
theorem readBody_escape (hquote : quote ≠ 0x5C) {l out rest : List UInt8}
    (h : escape l = some (out, rest)) :
    readBody quote (0x5C :: l) = (readBody quote rest).map fun (body, more) =>
      (out ++ body, more) := by
  rw [readBody, if_neg hquote.symm, if_neg (by decide), if_pos rfl]
  split
  · next out' rest' h' =>
    obtain ⟨rfl, rfl⟩ := Prod.mk.inj (Option.some.inj (h.symm.trans h'))
    rfl
  · next h' => cases h.symm.trans h'

end

end Lua
