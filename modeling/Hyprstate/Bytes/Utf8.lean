import Mathlib.Data.List.Basic

/-!
# UTF-8 decoding

`fromUtf8Lossy` reads any bytes as text: a byte sequence that encodes a character is that character,
and of anything else the longest start of a character, or one byte where there is none, is replaced
by U+FFFD. Text that was encoded is read back as it was (`fromUtf8Lossy_utf8Bytes`). `fromUtf8`
accepts nothing else (`fromUtf8_eq_some`).
-/

namespace Bytes

/-- The UTF-8 encoding of a text. -/
def utf8Bytes (text : List Char) : List UInt8 := text.flatMap String.utf8EncodeChar

/-- Whether the second byte of a sequence of three or four can follow the first. -/
def secondByte (first second : UInt8) : Bool :=
  if first = 0xE0 then decide (0xA0 ≤ second ∧ second ≤ 0xBF)
  else if first = 0xED then decide (0x80 ≤ second ∧ second ≤ 0x9F)
  else if first = 0xF0 then decide (0x90 ≤ second ∧ second ≤ 0xBF)
  else if first = 0xF4 then decide (0x80 ≤ second ∧ second ≤ 0x8F)
  else decide (0xE0 ≤ first ∧ first ≤ 0xF4 ∧ 0x80 ≤ second ∧ second ≤ 0xBF)

/-- How many bytes of a sequence that encodes no character are replaced together. -/
def replacedLength : List UInt8 → Nat
  | first :: second :: rest =>
    if secondByte first second then
      match rest with
      | third :: _ => if 0xF0 ≤ first ∧ 0x80 ≤ third ∧ third ≤ 0xBF then 3 else 2
      | [] => 2
    else 1
  | _ => 1

/-- A replacement character takes up a byte at least. -/
theorem replacedLength_pos (bytes : List UInt8) : 0 < replacedLength bytes := by
  unfold replacedLength
  (repeat' split) <;> omega

/-- The text of some bytes, with U+FFFD in place of what encodes no character. -/
def fromUtf8Lossy : List UInt8 → List Char
  | [] => []
  | byte :: rest =>
    match (byte :: rest).toByteArray.utf8DecodeChar? 0 with
    | some c => c :: fromUtf8Lossy ((byte :: rest).drop c.utf8Size)
    | none => '\uFFFD' :: fromUtf8Lossy ((byte :: rest).drop (replacedLength (byte :: rest)))
termination_by bytes => bytes.length
decreasing_by
  · have hpos := c.utf8Size_pos
    simp only [List.length_drop, List.length_cons]
    omega
  · have hpos := replacedLength_pos (byte :: rest)
    simp only [List.length_drop, List.length_cons]
    omega

/-- A character takes up a byte at least. -/
theorem utf8EncodeChar_ne_nil (c : Char) : String.utf8EncodeChar c ≠ [] := by
  intro h
  have hlength := String.length_utf8EncodeChar c
  have hpos := c.utf8Size_pos
  rw [h, List.length_nil] at hlength
  omega

/-- The bytes of a character are read as that character, whatever follows, and the rest is left. -/
theorem exists_cons_of_utf8EncodeChar (c : Char) (rest : List UInt8) :
    ∃ byte bytes, String.utf8EncodeChar c ++ rest = byte :: bytes ∧
      (byte :: bytes).toByteArray.utf8DecodeChar? 0 = some c ∧
      (byte :: bytes).drop c.utf8Size = rest := by
  have hdecode : (String.utf8EncodeChar c ++ rest).toByteArray.utf8DecodeChar? 0 = some c := by
    rw [List.toByteArray_append]
    exact ByteArray.utf8DecodeChar?_utf8EncodeChar_append
  have hdrop : (String.utf8EncodeChar c ++ rest).drop c.utf8Size = rest := by
    rw [← String.length_utf8EncodeChar, List.drop_left]
  obtain ⟨byte, bytes, hbytes⟩ :=
    List.exists_cons_of_ne_nil (List.append_ne_nil_of_left_ne_nil (utf8EncodeChar_ne_nil c) rest)
  rw [hbytes] at hdecode hdrop
  exact ⟨byte, bytes, hbytes, hdecode, hdrop⟩

/-- An encoded character is read first. -/
theorem fromUtf8Lossy_utf8EncodeChar (c : Char) (rest : List UInt8) :
    fromUtf8Lossy (String.utf8EncodeChar c ++ rest) = c :: fromUtf8Lossy rest := by
  obtain ⟨byte, bytes, hbytes, hdecode, hdrop⟩ := exists_cons_of_utf8EncodeChar c rest
  rw [hbytes, fromUtf8Lossy, hdecode]
  simp only [hdrop]

/-- Text that was encoded is read back. -/
theorem fromUtf8Lossy_utf8Bytes (text : List Char) : fromUtf8Lossy (utf8Bytes text) = text := by
  induction text with
  | nil => simp [utf8Bytes, fromUtf8Lossy]
  | cons c rest ih =>
    unfold utf8Bytes at ih ⊢
    rw [List.flatMap_cons, fromUtf8Lossy_utf8EncodeChar, ih]

/-- The bytes of a text in two parts. -/
theorem utf8Bytes_append (s t : List Char) : utf8Bytes (s ++ t) = utf8Bytes s ++ utf8Bytes t :=
  List.flatMap_append

/-- The bytes of a text begin with those of its first character. -/
theorem utf8Bytes_cons (c : Char) (s : List Char) :
    utf8Bytes (c :: s) = String.utf8EncodeChar c ++ utf8Bytes s := List.flatMap_cons

/-- A text that is not empty has bytes. -/
theorem utf8Bytes_ne_nil {text : List Char} (h : text ≠ []) : utf8Bytes text ≠ [] := by
  obtain ⟨c, rest, rfl⟩ := List.exists_cons_of_ne_nil h
  rw [utf8Bytes_cons]
  exact List.append_ne_nil_of_left_ne_nil (utf8EncodeChar_ne_nil c) _

/-- The text of some bytes, where they encode one. -/
def fromUtf8 : List UInt8 → Option (List Char)
  | [] => some []
  | byte :: rest =>
    match (byte :: rest).toByteArray.utf8DecodeChar? 0 with
    | some c => (fromUtf8 ((byte :: rest).drop c.utf8Size)).map (c :: ·)
    | none => none
termination_by bytes => bytes.length
decreasing_by
  have hpos := c.utf8Size_pos
  simp only [List.length_drop, List.length_cons]
  omega

/-- The bytes of a character are read back as that character. -/
theorem fromUtf8_utf8EncodeChar (c : Char) (rest : List UInt8) :
    fromUtf8 (String.utf8EncodeChar c ++ rest) = (fromUtf8 rest).map (c :: ·) := by
  obtain ⟨byte, bytes, hbytes, hdecode, hdrop⟩ := exists_cons_of_utf8EncodeChar c rest
  rw [hbytes, fromUtf8, hdecode]
  simp only [hdrop]

/-- The bytes that start with a character start with its encoding. -/
theorem eq_append_drop_of_decode {bytes : List UInt8} {c : Char}
    (h : bytes.toByteArray.utf8DecodeChar? 0 = some c) :
    bytes = String.utf8EncodeChar c ++ bytes.drop c.utf8Size := by
  obtain ⟨more, hmore⟩ := ByteArray.exists_of_utf8DecodeChar?_eq_some h
  have hlist : bytes = String.utf8EncodeChar c ++ more.data.toList := by
    have hdata := congrArg (fun array : ByteArray => array.data.toList) hmore
    simpa only [ByteArray.data_append, Array.toList_append, List.toList_data_toByteArray]
      using hdata
  conv_rhs => rw [hlist, ← String.length_utf8EncodeChar, List.drop_left]
  exact hlist

/-- Exactly the encoded texts are accepted. -/
theorem fromUtf8_eq_some {bytes : List UInt8} {text : List Char} :
    fromUtf8 bytes = some text ↔ bytes = utf8Bytes text := by
  constructor
  · intro h
    fun_induction fromUtf8 bytes generalizing text with
    | case1 =>
      obtain rfl := Option.some.inj h
      rfl
    | case2 byte rest c hdecode ih =>
      obtain ⟨tail, htail, rfl⟩ := Option.map_eq_some_iff.mp h
      rw [utf8Bytes_cons, ← ih htail]
      exact eq_append_drop_of_decode hdecode
    | case3 => cases h
  · rintro rfl
    induction text with
    | nil => rw [utf8Bytes, List.flatMap_nil, fromUtf8]
    | cons c rest ih => rw [utf8Bytes_cons, fromUtf8_utf8EncodeChar, ih, Option.map_some]

/-- A byte from 128 on is no ASCII character. -/
theorem not_ofNat_lt {n : Nat} (hge : 128 ≤ n) (hlt : n < 256) : ¬ UInt8.ofNat n < 0x80 := by
  intro h
  have hnat : (UInt8.ofNat n).toNat < 128 := h
  rw [UInt8.toNat_ofNat_of_lt' hlt] at hnat
  omega

/-- A byte of the ASCII range stands for itself only. -/
theorem utf8EncodeChar_of_ascii {c : Char} {b : UInt8} (hb : b ∈ String.utf8EncodeChar c)
    (hascii : b < 0x80) : String.utf8EncodeChar c = [b] ∧ c.toNat = b.toNat := by
  unfold String.utf8EncodeChar at hb ⊢
  simp only at hb ⊢
  split at hb
  · next hle =>
    rw [List.mem_singleton] at hb
    refine ⟨by rw [if_pos hle, hb], ?_⟩
    rw [hb, UInt8.toNat_ofNat_of_lt' (Nat.lt_of_le_of_lt hle (by decide))]
    rfl
  -- The bytes of a longer sequence are all above.
  split at hb
  · simp only [List.mem_cons, List.not_mem_nil, or_false] at hb
    rcases hb with rfl | rfl <;> exact absurd hascii (not_ofNat_lt (by omega) (by omega))
  split at hb
  · simp only [List.mem_cons, List.not_mem_nil, or_false] at hb
    rcases hb with rfl | rfl | rfl <;> exact absurd hascii (not_ofNat_lt (by omega) (by omega))
  · simp only [List.mem_cons, List.not_mem_nil, or_false] at hb
    rcases hb with rfl | rfl | rfl | rfl <;> exact absurd hascii
      (not_ofNat_lt (by omega) (by omega))

/-- A character of the ASCII range is one byte. -/
theorem utf8EncodeChar_of_lt {c : Char} (hc : c.toNat < 128) :
    String.utf8EncodeChar c = [UInt8.ofNat c.toNat] ∧ (UInt8.ofNat c.toNat).toNat = c.toNat := by
  refine ⟨?_, UInt8.toNat_ofNat_of_lt' (Nat.lt_trans hc (by decide))⟩
  unfold String.utf8EncodeChar
  exact if_pos (Nat.le_of_lt_succ hc)

/-- Only NUL is encoded with a zero byte. -/
theorem zero_not_mem_utf8EncodeChar {c : Char} (h : c ≠ '\x00') :
    0 ∉ String.utf8EncodeChar c := by
  intro hmem
  obtain ⟨-, hc⟩ := utf8EncodeChar_of_ascii hmem (by decide)
  exact h (Char.ext (UInt32.toNat_inj.mp hc))

/-- A text without a NUL has no zero byte. -/
theorem zero_not_mem_utf8Bytes {text : List Char} (h : '\x00' ∉ text) : 0 ∉ utf8Bytes text := by
  intro hmem
  obtain ⟨c, hc, hbyte⟩ := List.mem_flatMap.mp hmem
  refine zero_not_mem_utf8EncodeChar ?_ hbyte
  rintro rfl
  exact h hc

end Bytes
