import Hyprstate.Text.Lines

/-!
# Directives

`parse_directive` of `crates/hyprstate-fsm/src/profiles.rs`: one `#@ key = value` line of a
configuration file or a profile, or its Lua form `--@ key = value`. It accepts exactly the grammar
`Directive` (`parseDirective_spec`). Texts are lists of characters.
-/

namespace Hyprstate

/-- A `&str`, as its characters. -/
abbrev Text := List Char

/-- `char::is_whitespace`. -/
def isWhitespace (c : Char) : Bool :=
  (0x9 ≤ c.toNat && c.toNat ≤ 0xd) || c.toNat == 0x20 || c.toNat == 0x85 || c.toNat == 0xa0 ||
    c.toNat == 0x1680 || (0x2000 ≤ c.toNat && c.toNat ≤ 0x200a) || c.toNat == 0x2028 ||
    c.toNat == 0x2029 || c.toNat == 0x202f || c.toNat == 0x205f || c.toNat == 0x3000

/-- Whether a character may stand at that place of a key. -/
def keyChar (allowHyphen : Bool) (c : Char) (i : Nat) : Bool :=
  c.isLower || (allowHyphen && decide (i > 0) && c == '-')

/-- `parse_directive`: the key and the value of a line. The keys of profiles have no hyphens. -/
def parseDirective (line : Text) (allowHyphen : Bool) : Option (Text × Text) := do
  let rest ← (Text.stripPrefix "#@".toList line).or (Text.stripPrefix "--@".toList line)
  let rest := rest.dropWhile isWhitespace
  let eq ← rest.findIdx? (· == '=')
  let key := (rest.take eq).rdropWhile isWhitespace
  let val := Text.trim isWhitespace (rest.drop (eq + 1))
  if key = [] ∨ val = [] then none
  else if key.zipIdx.all fun (c, i) => keyChar allowHyphen c i then some (key, val)
  else none

/-! ## The grammar -/

/-- `[a-z]+`, or `[a-z][a-z-]*` where hyphens are allowed. -/
def IsKey (allowHyphen : Bool) (key : Text) : Prop :=
  ∃ c rest, key = c :: rest ∧ c.isLower = true ∧
    ∀ d ∈ rest, d.isLower = true ∨ allowHyphen = true ∧ d = '-'

/-- Not empty, and without whitespace at its ends. -/
def IsValue (val : Text) : Prop :=
  val ≠ [] ∧ Text.TrimmedStart isWhitespace val ∧ Text.TrimmedEnd isWhitespace val

/-- Nothing but whitespace. -/
def Blank (text : Text) : Prop := ∀ c ∈ text, isWhitespace c = true

/-- A leader, the key, `=` and the value, with whitespace around them. -/
def Directive (allowHyphen : Bool) (line key val : Text) : Prop :=
  ∃ leader b₁ b₂ b₃ b₄, (leader = "#@".toList ∨ leader = "--@".toList) ∧
    line = leader ++ b₁ ++ key ++ b₂ ++ ['='] ++ b₃ ++ val ++ b₄ ∧
    (Blank b₁ ∧ Blank b₂ ∧ Blank b₃ ∧ Blank b₄) ∧ IsKey allowHyphen key ∧ IsValue val

/-! ## Keys -/

/-- A lower-case letter is no blank. -/
theorem isWhitespace_of_isLower {c : Char} (hc : c.isLower = true) : isWhitespace c = false := by
  have hbounds : 97 ≤ c.toNat ∧ c.toNat ≤ 122 := by
    change (decide (97 ≤ c.val) && decide (c.val ≤ 122)) = true at hc
    simp only [Bool.and_eq_true, decide_eq_true_eq] at hc
    exact ⟨hc.1, hc.2⟩
  unfold isWhitespace
  simp only [Bool.or_eq_false_iff, Bool.and_eq_false_iff, decide_eq_false_iff_not,
    beq_eq_false_iff_ne]
  omega

/-- A key is a text of key characters, the first of them by its own rule. -/
theorem isKey_iff {allowHyphen : Bool} {key : Text} :
    IsKey allowHyphen key ↔
      key ≠ [] ∧ (key.zipIdx.all fun (c, i) => keyChar allowHyphen c i) = true := by
  cases key with
  | nil => simp [IsKey]
  | cons c rest =>
    have hrest : ∀ n, 0 < n → ((rest.zipIdx n).all fun (c, i) => keyChar allowHyphen c i) =
        rest.all fun d => d.isLower || (allowHyphen && d == '-') := by
      intro n hn
      induction rest generalizing n with
      | nil => rfl
      | cons d rest ih =>
        rw [List.zipIdx_cons, List.all_cons, List.all_cons, ih _ (by omega)]
        simp [keyChar, hn]
    rw [List.zipIdx_cons, List.all_cons, hrest _ (by omega)]
    simp [IsKey, keyChar]

/-- A key has no whitespace in it, and no `=`. -/
theorem IsKey.chars {allowHyphen : Bool} {key : Text} (h : IsKey allowHyphen key) :
    ∀ c ∈ key, isWhitespace c = false ∧ (c == '=') = false := by
  obtain ⟨c, rest, rfl, hc, hrest⟩ := h
  have hlower : ∀ d : Char, d.isLower = true → isWhitespace d = false ∧ (d == '=') = false := by
    intro d hd
    refine ⟨isWhitespace_of_isLower hd, beq_eq_false_iff_ne.mpr ?_⟩
    rintro rfl
    exact absurd hd (by decide)
  intro d hd
  rcases List.mem_cons.mp hd with rfl | hd
  · exact hlower _ hc
  · rcases hrest d hd with hd | ⟨-, rfl⟩
    · exact hlower d hd
    · decide

/-! ## What is accepted -/

/-- A leader is stripped exactly where the line begins with one of the two. -/
theorem stripLeader_eq_some {line rest : Text} :
    (Text.stripPrefix "#@".toList line).or (Text.stripPrefix "--@".toList line) = some rest ↔
      ∃ leader, (leader = "#@".toList ∨ leader = "--@".toList) ∧ line = leader ++ rest := by
  rw [Option.or_eq_some_iff]
  constructor
  · rintro (h | ⟨-, h⟩)
    · exact ⟨_, .inl rfl, Text.stripPrefix_eq_some.mp h⟩
    · exact ⟨_, .inr rfl, Text.stripPrefix_eq_some.mp h⟩
  · rintro ⟨leader, rfl | rfl, hline⟩
    · exact .inl (Text.stripPrefix_eq_some.mpr hline)
    · exact .inr ⟨by subst hline; rfl, Text.stripPrefix_eq_some.mpr hline⟩

/-- What is parsed is a directive. -/
theorem directive_of_parseDirective {allowHyphen : Bool} {line key val : Text}
    (h : parseDirective line allowHyphen = some (key, val)) :
    Directive allowHyphen line key val := by
  unfold parseDirective at h
  obtain ⟨rest, hleader, h⟩ := Option.bind_eq_some_iff.mp h
  obtain ⟨eq, heq, h⟩ := Option.bind_eq_some_iff.mp h
  dsimp only at h
  split at h
  · cases h
  rename_i hne
  split at h
  · rename_i hchars
    cases h
    obtain ⟨hkey, hval⟩ := not_or.mp hne
    obtain ⟨leader, hwhich, hline⟩ := stripLeader_eq_some.mp hleader
    obtain ⟨-, b₁, hrest, hb₁⟩ := Text.dropWhile_eq_iff.mp (rfl : rest.dropWhile isWhitespace = _)
    obtain ⟨a, ha, hsplit, -⟩ := Text.findIdx?_split heq
    obtain rfl : a = '=' := by simpa using ha
    obtain ⟨-, b₂, htake, hb₂⟩ := Text.rdropWhile_eq_iff.mp
      (rfl : ((rest.dropWhile isWhitespace).take eq).rdropWhile isWhitespace = _)
    obtain ⟨⟨hstart, hend⟩, b₃, b₄, hdrop, hb₃, hb₄⟩ := Text.trim_eq_iff.mp
      (rfl : Text.trim isWhitespace ((rest.dropWhile isWhitespace).drop (eq + 1)) = _)
    refine ⟨leader, b₁, b₂, b₃, b₄, hwhich, ?_, ⟨hb₁, hb₂, hb₃, hb₄⟩, isKey_iff.mpr ⟨hkey, hchars⟩,
      hval, hstart, hend⟩
    conv_lhs => rw [hline, hrest, hsplit, htake, hdrop]
    simp only [List.append_assoc, List.cons_append, List.nil_append]
  · cases h

/-- Every directive is parsed. -/
theorem parseDirective_of_directive {allowHyphen : Bool} {line key val : Text}
    (h : Directive allowHyphen line key val) :
    parseDirective line allowHyphen = some (key, val) := by
  obtain ⟨leader, b₁, b₂, b₃, b₄, hwhich, hline, ⟨hb₁, hb₂, hb₃, hb₄⟩, hkey, hval, hstart, hend⟩ :=
    h
  obtain ⟨hne, hchars⟩ := isKey_iff.mp hkey
  -- The parser takes the line apart as it was put together: the leader, the key, the sign and the
  -- value.
  have hleader : (Text.stripPrefix "#@".toList line).or (Text.stripPrefix "--@".toList line) =
      some (b₁ ++ (key ++ b₂ ++ '=' :: (b₃ ++ val ++ b₄))) :=
    stripLeader_eq_some.mpr ⟨leader, hwhich, by rw [hline]; simp⟩
  have hkeyStart : Text.TrimmedStart isWhitespace (key ++ b₂ ++ '=' :: (b₃ ++ val ++ b₄)) := by
    obtain ⟨c, rest, rfl, hc, -⟩ := hkey
    intro a ha
    obtain rfl : c = a := by simpa using ha
    exact isWhitespace_of_isLower hc
  have hrest : (b₁ ++ (key ++ b₂ ++ '=' :: (b₃ ++ val ++ b₄))).dropWhile isWhitespace =
      key ++ b₂ ++ '=' :: (b₃ ++ val ++ b₄) := Text.dropWhile_append_of_trimmed hb₁ hkeyStart
  have heq : (key ++ b₂ ++ '=' :: (b₃ ++ val ++ b₄)).findIdx? (· == '=') =
      some (key ++ b₂).length := by
    refine Text.findIdx?_append_cons (fun c hc => ?_) (by decide) _
    rcases List.mem_append.mp hc with hc | hc
    · exact (hkey.chars c hc).2
    · -- Whitespace is no `=`.
      refine beq_eq_false_iff_ne.mpr ?_
      rintro rfl
      exact absurd (hb₂ _ hc) (by decide)
  have hkeyEnd : Text.TrimmedEnd isWhitespace key := fun c hc =>
    (hkey.chars c (List.mem_of_getLast? hc)).1
  have htrimKey : (key ++ b₂).rdropWhile isWhitespace = key :=
    Text.rdropWhile_eq_iff.mpr ⟨hkeyEnd, b₂, rfl, hb₂⟩
  have htrimVal : Text.trim isWhitespace (b₃ ++ val ++ b₄) = val :=
    Text.trim_eq_iff.mpr ⟨⟨hstart, hend⟩, b₃, b₄, rfl, hb₃, hb₄⟩
  have hdrop : (key ++ b₂ ++ '=' :: (b₃ ++ val ++ b₄)).drop ((key ++ b₂).length + 1) =
      b₃ ++ val ++ b₄ := by
    rw [List.drop_append, List.drop_of_length_le (by omega)]
    simp
  unfold parseDirective
  rw [hleader, Option.bind_eq_bind, Option.bind_some, hrest]
  dsimp only
  rw [heq, Option.bind_eq_bind, Option.bind_some]
  rw [List.take_left, hdrop, htrimKey, htrimVal, if_neg (not_or.mpr ⟨hne, hval⟩), if_pos hchars]

/-- A line is accepted exactly where it is a directive, and it is one for one key and one value
only. -/
theorem parseDirective_spec (line : Text) (allowHyphen : Bool) (key val : Text) :
    (parseDirective line allowHyphen = some (key, val) ↔ Directive allowHyphen line key val) ∧
      ∀ key' val', Directive allowHyphen line key val → Directive allowHyphen line key' val' →
        key' = key ∧ val' = val := by
  refine ⟨⟨directive_of_parseDirective, parseDirective_of_directive⟩, fun key' val' h h' => ?_⟩
  have hsame := (parseDirective_of_directive h').symm.trans (parseDirective_of_directive h)
  exact Prod.mk.inj (Option.some.inj hsame)

/-- The value may have a `=` in it. -/
example : parseDirective "--@ match = desc:a=b ".toList false =
    some ("match".toList, "desc:a=b".toList) := by
  decide +kernel

end Hyprstate
