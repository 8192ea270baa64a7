import Hyprstate.Bytes.Utf8
import Hyprstate.Config.Directive
import Hyprstate.Lua.Literal
import Hyprstate.Text.Decimal

/-!
# Quoting for Lua

`lua_string_literal` and `apply_profile_args` of `crates/hyprstate-fsm/src/profiles.rs`. Lua reads
the literal of every string to its end, but NUL is written as `\0`, which takes the digits after it
with it: the string is read back exactly where no digit follows a NUL
(`luaStringLiteral_reads_iff`).
-/

namespace Hyprstate

open Bytes Lua

/-- What `lua_string_literal` writes for a character. -/
def luaEscape (c : Char) : Text :=
  if c = '\\' then "\\\\".toList
  else if c = '"' then "\\\"".toList
  else if c = '\n' then "\\n".toList
  else if c = '\r' then "\\r".toList
  else if c = '\x00' then "\\0".toList
  else [c]

/-- `lua_string_literal`. -/
def luaStringLiteral (s : Text) : Text := "\"".toList ++ s.flatMap luaEscape ++ "\"".toList

/-- `apply_profile_args`: the arguments of `hyprctl`. -/
def applyProfileArgs (luaPath : Text) : List Text :=
  ["eval".toList, "dofile(".toList ++ luaStringLiteral luaPath ++ ")".toList]

/-- The path of a Lua chunk that is one call of `dofile` on a literal. -/
def dofilePath (chunk : List UInt8) : Option (List UInt8) := do
  let rest ← Text.stripPrefix (utf8Bytes "dofile(".toList) chunk
  let (path, rest) ← readLiteral rest
  if rest = utf8Bytes ")".toList then some path else none

/-- A digit follows a NUL. -/
def NulBeforeDigit (s : Text) : Prop := ∃ d : Char, d.isDigit = true ∧ ['\x00', d] <:+: s

/-! ## Characters -/

/-- A character that is not escaped stands for itself. -/
theorem plain_of_mem {c : Char} (hslash : c ≠ '\\') (hquote : c ≠ '"') (hfeed : c ≠ '\n')
    (hreturn : c ≠ '\r') : ∀ b ∈ String.utf8EncodeChar c, Plain 0x22 b := by
  intro b hb
  -- A byte that means something is ASCII, and so the character itself.
  have hne : ∀ d : Char, d.toNat < 128 → c ≠ d → b ≠ UInt8.ofNat d.toNat := by
    rintro d hd hcd rfl
    have hbyte := (utf8EncodeChar_of_lt hd).2
    obtain ⟨-, hc⟩ :=
      utf8EncodeChar_of_ascii hb (UInt8.lt_iff_toNat_lt.mpr (by rw [hbyte]; exact hd))
    exact hcd (Char.ext (UInt32.toNat_inj.mp (hc.trans hbyte)))
  exact ⟨hne '"' (by decide) hquote, hne '\n' (by decide) hfeed, hne '\r' (by decide) hreturn,
    hne '\\' (by decide) hslash⟩

/-- Every character but NUL is read back, whatever follows it. -/
theorem readBody_luaEscape {c : Char} (hc : c ≠ '\x00') (rest : List UInt8) :
    readBody 0x22 (utf8Bytes (luaEscape c) ++ rest) =
      (readBody 0x22 rest).map fun (body, more) => (String.utf8EncodeChar c ++ body, more) := by
  unfold luaEscape
  split
  · next h =>
    subst h
    exact readBody_escape (by decide) rfl
  split
  · next h =>
    subst h
    exact readBody_escape (by decide) rfl
  split
  · next h =>
    subst h
    exact readBody_escape (by decide) rfl
  split
  · next h =>
    subst h
    exact readBody_escape (by decide) rfl
  · next hslash hquote hfeed hreturn =>
    rw [utf8Bytes_cons, show utf8Bytes [] = [] from rfl, List.append_nil]
    exact readBody_plain (plain_of_mem hslash hquote hfeed hreturn) rest

/-- The body of a literal with its quote, and what follows. -/
def encoded (s : Text) (more : List UInt8) : List UInt8 :=
  utf8Bytes (s.flatMap luaEscape) ++ 0x22 :: more

/-- The encoding begins with the escape of the first character. -/
theorem encoded_cons (c : Char) (s : Text) (more : List UInt8) :
    encoded (c :: s) more = utf8Bytes (luaEscape c) ++ encoded s more := by
  rw [encoded, List.flatMap_cons, utf8Bytes_append, List.append_assoc, encoded]

/-- A character is written with a digit first exactly where it is one. -/
theorem luaEscape_head (c : Char) :
    ∃ b l, utf8Bytes (luaEscape c) = b :: l ∧ Lua.isDigit b = c.isDigit ∧
    (c.isDigit = true → l = []) := by
  by_cases hspecial : c = '\\' ∨ c = '"' ∨ c = '\n' ∨ c = '\r' ∨ c = '\x00'
  · rcases hspecial with rfl | rfl | rfl | rfl | rfl <;> exact ⟨_, _, rfl, by decide, by decide⟩
  · simp only [not_or] at hspecial
    obtain ⟨hslash, hquote, hfeed, hreturn, hnul⟩ := hspecial
    have hself : utf8Bytes (luaEscape c) = String.utf8EncodeChar c := by
      rw [luaEscape, if_neg hslash, if_neg hquote, if_neg hfeed, if_neg hreturn, if_neg hnul]
      exact List.append_nil _
    by_cases hascii : c.toNat < 128
    · obtain ⟨hone, hbyte⟩ := utf8EncodeChar_of_lt hascii
      refine ⟨_, [], hself.trans hone, ?_, fun _ => rfl⟩
      simp only [Lua.isDigit, UInt8.le_iff_toNat_le, hbyte]
      exact Bool.decide_and _ _
    · obtain ⟨b, l, hbytes⟩ := List.exists_cons_of_ne_nil (utf8EncodeChar_ne_nil c)
      have hb : ¬ b < 0x80 := fun hb => by
        obtain ⟨-, hc⟩ := utf8EncodeChar_of_ascii (hbytes ▸ List.mem_cons_self) hb
        exact hascii (hc ▸ UInt8.lt_iff_toNat_lt.mp hb)
      have hbDigit : Lua.isDigit b = false := by
        simp only [Lua.isDigit, UInt8.le_iff_toNat_le, UInt8.lt_iff_toNat_lt,
          decide_eq_false_iff_not] at hb ⊢
        exact fun h => hb (Nat.lt_of_le_of_lt h.2 (by decide))
      have hcDigit : c.isDigit = false := by
        refine Bool.eq_false_iff.mpr fun h => hascii ?_
        exact Nat.lt_of_le_of_lt (Text.toNat_of_isDigit h).2 (by decide)
      refine ⟨b, l, hself.trans hbytes, hbDigit.trans hcDigit.symm, ?_⟩
      rw [hcDigit]
      exact fun h => absurd h Bool.false_ne_true

/-! ## The digits after a NUL -/

/-- The digits that Lua takes are those of the string. -/
theorem readDecimal_encoded (n value : Nat) (s : Text) (more : List UInt8) :
    ∃ k, (readDecimal n value (encoded s more)).2 = encoded (s.drop k) more ∧
      (0 < n → (∃ d ∈ s.head?, d.isDigit = true) → 0 < k) := by
  induction n generalizing value s with
  | zero =>
    exact ⟨0, by rw [readDecimal, List.drop_zero], fun h => absurd h (by decide)⟩
  | succ n ih =>
    cases s with
    | nil => exact ⟨0, rfl, fun _ h => by simp at h⟩
    | cons c rest =>
      obtain ⟨b, l, hbytes, hdigit, hone⟩ := luaEscape_head c
      have henc : encoded (c :: rest) more = b :: (l ++ encoded rest more) := by
        rw [encoded_cons, hbytes, List.cons_append]
      rw [henc]
      by_cases hc : c.isDigit = true
      · obtain ⟨k, hk, -⟩ := ih (10 * value + (b.toNat - 0x30)) rest
        refine ⟨k + 1, ?_, fun _ _ => Nat.succ_pos k⟩
        rw [readDecimal, if_pos (hdigit.trans hc), hone hc, List.nil_append, hk]
        rfl
      · rw [Bool.not_eq_true] at hc
        refine ⟨0, ?_, ?_⟩
        · rw [readDecimal_of_not_digit (hdigit.trans hc), List.drop_zero, henc]
        · rintro - ⟨d, hd, hdigit⟩
          obtain rfl : c = d := by simpa using hd
          exact absurd hdigit (by simp [hc])

/-- Where no digit follows, Lua takes none. -/
theorem readDecimal_encoded_of_not_digit {s : Text} (hs : ∀ d ∈ s.head?, d.isDigit = false)
    (n value : Nat) (more : List UInt8) :
    readDecimal n value (encoded s more) = (value, encoded s more) := by
  cases s with
  | nil => exact readDecimal_of_not_digit rfl n value more
  | cons c rest =>
    obtain ⟨b, l, hbytes, hdigit, -⟩ := luaEscape_head c
    rw [encoded_cons, hbytes, List.cons_append]
    exact readDecimal_of_not_digit (hdigit.trans (hs c rfl)) n value _

/-- A NUL stands before a digit at the head or further on. -/
theorem nulBeforeDigit_cons (c : Char) (s : Text) :
    NulBeforeDigit (c :: s) ↔ (c = '\x00' ∧ ∃ d ∈ s.head?, d.isDigit = true) ∨
    NulBeforeDigit s := by
  have hhead : ∀ d : Char, ['\x00', d] <+: c :: s ↔ c = '\x00' ∧ d ∈ s.head? := by
    intro d
    rw [List.cons_prefix_cons, eq_comm]
    cases s with
    | nil => simp
    | cons e s => simp [List.cons_prefix_cons, eq_comm]
  unfold NulBeforeDigit
  simp only [List.infix_cons_iff, hhead]
  constructor
  · rintro ⟨d, hd, ⟨hc, hmem⟩ | hinfix⟩
    · exact .inl ⟨hc, d, hmem, hd⟩
    · exact .inr ⟨d, hd, hinfix⟩
  · rintro (⟨hc, d, hmem, hd⟩ | ⟨d, hd, hinfix⟩)
    · exact ⟨d, hd, .inl ⟨hc, hmem⟩⟩
    · exact ⟨d, hd, .inr hinfix⟩

/-! ## Literals -/

/-- A suffix has no more bytes. -/
theorem length_utf8Bytes_drop_le (s : Text) (k : Nat) :
    (utf8Bytes (s.drop k)).length ≤ (utf8Bytes s).length := by
  conv_rhs => rw [← List.take_append_drop k s, utf8Bytes_append, List.length_append]
  exact Nat.le_add_left _ _

/-- Every character has its bytes. -/
theorem length_utf8Bytes_drop_lt {s : Text} (hs : s ≠ []) {k : Nat} (hk : 0 < k) :
    (utf8Bytes (s.drop k)).length < (utf8Bytes s).length := by
  obtain ⟨c, rest, rfl⟩ := List.exists_cons_of_ne_nil hs
  obtain ⟨j, rfl⟩ := Nat.exists_eq_succ_of_ne_zero hk.ne'
  have hle := length_utf8Bytes_drop_le rest j
  have hpos := List.length_pos_of_ne_nil (utf8EncodeChar_ne_nil c)
  rw [Nat.succ_eq_add_one, List.drop_succ_cons, utf8Bytes_cons, List.length_append]
  omega

/-- Lua reads the body to its quote. It reads the string, or fewer bytes where a digit follows a
NUL. -/
theorem readBody_encoded (s : Text) (more : List UInt8) :
    ∃ out, readBody 0x22 (encoded s more) = some (out, more) ∧
    (¬ NulBeforeDigit s → out = utf8Bytes s) ∧
      (NulBeforeDigit s → out.length < (utf8Bytes s).length) := by
  -- A NUL takes digits of the rest with it, and the induction goes on after them.
  induction hn : s.length using Nat.strong_induction_on generalizing s with
  | h n ih =>
    cases s with
    | nil =>
      refine ⟨[], readBody_quote more, fun _ => rfl, ?_⟩
      rintro ⟨d, -, hinfix⟩
      simp at hinfix
    | cons c rest =>
      have hlength : rest.length < n := by
        rw [← hn]
        exact Nat.lt_succ_self _
      rw [encoded_cons, nulBeforeDigit_cons, utf8Bytes_cons]
      by_cases hc : c = '\x00'
      · subst hc
        by_cases hdigit : ∃ d ∈ rest.head?, d.isDigit = true
        · -- Digits are lost.
          obtain ⟨k, hk, hpos⟩ := readDecimal_encoded 2 0 rest more
          have hk₀ := hpos (by decide) hdigit
          have hescape := escape_zero (encoded rest more)
          rw [hk] at hescape
          have hread := readBody_escape (by decide : (0x22 : UInt8) ≠ 0x5C) hescape
          obtain ⟨out, hout, hsame, hless⟩ := ih (rest.drop k).length
            (Nat.lt_of_le_of_lt (by simp) hlength) (rest.drop k) rfl
          rw [hout] at hread
          refine ⟨_, hread, fun hnot => absurd (.inl ⟨rfl, hdigit⟩) hnot, fun _ => ?_⟩
          have hdrop : (utf8Bytes (rest.drop k)).length < (utf8Bytes rest).length := by
            refine length_utf8Bytes_drop_lt ?_ hk₀
            rintro rfl
            simp at hdigit
          have hout : out.length ≤ (utf8Bytes (rest.drop k)).length := by
            by_cases hlater : NulBeforeDigit (rest.drop k)
            · exact (hless hlater).le
            · rw [hsame hlater]
          simp only [List.length_append, List.length_singleton]
          have hnul : (String.utf8EncodeChar '\x00').length = 1 := rfl
          omega
        · obtain ⟨out, hout, hsame, hless⟩ := ih _ hlength rest rfl
          have hread := readBody_escape (by decide : (0x22 : UInt8) ≠ 0x5C)
            (escape_zero (encoded rest more))
          have hnone : ∀ d ∈ rest.head?, d.isDigit = false := fun d hd =>
            Bool.eq_false_iff.mpr fun h => hdigit ⟨d, hd, h⟩
          rw [readDecimal_encoded_of_not_digit hnone, hout] at hread
          refine ⟨_, hread, fun hnot => ?_, ?_⟩
          · rw [hsame (not_or.mp hnot).2]
            rfl
          · rintro (⟨-, h⟩ | hrest)
            · exact absurd h hdigit
            · have hlt := hless hrest
              have hnul : (String.utf8EncodeChar '\x00').length = 1 := rfl
              simp only [List.length_append, List.length_singleton]
              omega
      · obtain ⟨out, hout, hsame, hless⟩ := ih _ hlength rest rfl
        rw [readBody_luaEscape hc, hout]
        refine ⟨_, rfl, fun hnot => ?_, ?_⟩
        · rw [hsame (not_or.mp hnot).2]
        · rintro (⟨hnul, -⟩ | hrest)
          · exact absurd hnul hc
          · have hlt := hless hrest
            simp only [List.length_append]
            omega

/-- The body is read as the string exactly where no digit follows a NUL. -/
theorem readBody_encoded_iff (s : Text) (more : List UInt8) :
    (readBody 0x22 (encoded s more)).map Prod.fst = some (utf8Bytes s) ↔ ¬ NulBeforeDigit s := by
  obtain ⟨out, hout, hsame, hless⟩ := readBody_encoded s more
  rw [hout, Option.map_some, Option.some_inj]
  constructor
  · rintro rfl hnul
    exact absurd (hless hnul) (Nat.lt_irrefl _)
  · exact hsame

/-- What Lua reads of the literal. -/
theorem readLiteral_luaStringLiteral (s : Text) (more : List UInt8) :
    readLiteral (utf8Bytes (luaStringLiteral s) ++ more) = readBody 0x22 (encoded s more) := by
  have hquote : utf8Bytes "\"".toList = [0x22] := rfl
  rw [luaStringLiteral, utf8Bytes_append, utf8Bytes_append, hquote, List.append_assoc,
    List.append_assoc]
  rfl

/-- What `dofile` is run on. -/
theorem dofilePath_applyProfileArgs {s : Text} {chunk : Text}
    (hchunk : applyProfileArgs s = ["eval".toList, chunk]) :
    dofilePath (utf8Bytes chunk) =
      (readBody 0x22 (encoded s (utf8Bytes ")".toList))).map Prod.fst := by
  obtain rfl : "dofile(".toList ++ luaStringLiteral s ++ ")".toList = chunk :=
    (List.cons.inj (List.cons.inj hchunk).2).1
  have hstrip : Text.stripPrefix (utf8Bytes "dofile(".toList)
      (utf8Bytes ("dofile(".toList ++ luaStringLiteral s ++ ")".toList)) =
        some (utf8Bytes (luaStringLiteral s) ++ utf8Bytes ")".toList) := by
    rw [Text.stripPrefix_eq_some, utf8Bytes_append, utf8Bytes_append, List.append_assoc]
  obtain ⟨out, hout, -⟩ := readBody_encoded s (utf8Bytes ")".toList)
  unfold dofilePath
  rw [hstrip, Option.bind_eq_bind, Option.bind_some, readLiteral_luaStringLiteral, hout]
  simp

/--
When the quoting is correct: Lua reads the literal of a string to its end and has the string, and
`apply_profile_args` runs `dofile` on the path it was given, exactly where no digit follows a NUL.
-/
theorem luaStringLiteral_reads_iff (s : Text) :
    (readLiteral (utf8Bytes (luaStringLiteral s)) = some (utf8Bytes s, []) ↔
        ∀ d : Char, d.isDigit = true → ¬ ['\x00', d] <:+: s) ∧
      ((∃ chunk, applyProfileArgs s = ["eval".toList, chunk] ∧
          dofilePath (utf8Bytes chunk) = some (utf8Bytes s)) ↔
        ∀ d : Char, d.isDigit = true → ¬ ['\x00', d] <:+: s) := by
  have hcond : (∀ d : Char, d.isDigit = true → ¬ ['\x00', d] <:+: s) ↔ ¬ NulBeforeDigit s := by
    unfold NulBeforeDigit
    simp
  rw [hcond]
  refine ⟨?_, ?_⟩
  · have hliteral := readLiteral_luaStringLiteral s []
    obtain ⟨out, hout, -⟩ := readBody_encoded s []
    rw [List.append_nil, hout] at hliteral
    rw [hliteral, ← readBody_encoded_iff s [], hout]
    simp
  · rw [← readBody_encoded_iff s (utf8Bytes ")".toList)]
    constructor
    · rintro ⟨chunk, hchunk, hpath⟩
      rw [← dofilePath_applyProfileArgs hchunk, hpath]
    · exact fun h => ⟨_, rfl, (dofilePath_applyProfileArgs rfl).trans h⟩

/-- A NUL and a digit are read as one byte. -/
theorem luaStringLiteral_misread :
    ¬ ∀ s : Text, readLiteral (utf8Bytes (luaStringLiteral s)) = some (utf8Bytes s, []) := by
  intro h
  have hbytes : utf8Bytes (luaStringLiteral "\x001".toList) = [0x22, 0x5C, 0x30, 0x31, 0x22] := by
    decide
  have hread : readLiteral [0x22, 0x5C, 0x30, 0x31, 0x22] = some ([1], []) := by
    show readBody 0x22 (0x5C :: 0x30 :: [0x31, 0x22]) = _
    rw [readBody_escape (by decide) (escape_zero _)]
    show (readBody 0x22 [0x22]).map _ = _
    rw [readBody_quote]
    rfl
  have hboth := h "\x001".toList
  rw [hbytes, hread] at hboth
  exact absurd hboth (by decide)

end Hyprstate
