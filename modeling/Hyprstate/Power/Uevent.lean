import Hyprstate.Bytes.Utf8
import Hyprstate.Config.Profile
import Hyprstate.Text.Lines

/-!
# Kernel uevents

`parse_uevent` of `daemon/sources/uevent.rs`. What it accepts is described part by part
(`KernelUevent`), and exactly that is accepted (`parseUevent_eq_some`). A message that the kernel
writes is read back (`parseUevent_spec`) unless its action is empty, which the parser refuses.
-/

namespace Hyprstate

open Bytes

/-- The `Uevent` of `uevent.rs`. -/
structure Uevent where
  action : Text
  devpath : Text
  subsystem : Text
  deriving DecidableEq

/-- The parts of a datagram between its NUL bytes, without the empty ones. -/
def ueventParts (buf : List UInt8) : List (List UInt8) := (buf.splitOn 0).filter (· ≠ [])

/-- What the loop of `parse_uevent` makes of one part: the value replaces one that was found
before. -/
def scanSubsystem (subsystem : Option Text) (part : List UInt8) : Option Text :=
  match fromUtf8 part with
  | none => subsystem
  | some kv =>
    match Text.stripPrefix "SUBSYSTEM=".toList kv with
    | some v => some v
    | none => subsystem

/-- `parse_uevent`. -/
def parseUevent (buf : List UInt8) : Option Uevent :=
  match ueventParts buf with
  | [] => none
  | first :: parts => do
    let header ← fromUtf8 first
    let (action, devpath) ← Text.splitOnce '@' header
    if action = [] ∨ devpath.head? ≠ some '/' then none
    else
      let subsystem ← parts.foldl scanSubsystem none
      some ⟨action, devpath, subsystem⟩

/-- The part that names a subsystem. -/
def subsystemPart (subsystem : Text) : List UInt8 := utf8Bytes ("SUBSYSTEM=".toList ++ subsystem)

/-- The first part is `action@devpath`. -/
structure UeventHeader (first : List UInt8) (action devpath : Text) : Prop where
  first_eq : first = utf8Bytes (action ++ '@' :: devpath)
  no_at : '@' ∉ action
  action_ne_nil : action ≠ []
  absolute : devpath.head? = some '/'

/-- The last part that names a subsystem names this one. -/
def LastSubsystem (parts : List (List UInt8)) (subsystem : Text) : Prop :=
  ∃ before after, parts = before ++ subsystemPart subsystem :: after ∧
    ∀ part ∈ after, ∀ other, part ≠ subsystemPart other

/-- A datagram of the kernel, and what it says. -/
def KernelUevent (buf : List UInt8) (u : Uevent) : Prop :=
  ∃ first parts, ueventParts buf = first :: parts ∧ UeventHeader first u.action u.devpath ∧
    LastSubsystem parts u.subsystem

/-- What the kernel sends: `action@devpath` and the other parts, each with a NUL after it. -/
def encodeUevent (action devpath : Text) (parts : List (List UInt8)) : List UInt8 :=
  (utf8Bytes (action ++ '@' :: devpath) :: parts).flatMap (· ++ [0])

/-! ## Parts -/

/-- The parts begin with what stands before the first NUL. -/
theorem ueventParts_append {part : List UInt8} (hne : part ≠ []) (hnul : 0 ∉ part)
    (rest : List UInt8) : ueventParts (part ++ 0 :: rest) = part :: ueventParts rest := by
  unfold ueventParts
  rw [List.splitOn_append_cons_self_of_not_mem hnul, List.filter_cons_of_pos (by simpa using hne)]

/-- The parts of an encoded datagram are its parts. -/
theorem ueventParts_flatMap {parts : List (List UInt8)} (hparts : ∀ part ∈ parts, 0 ∉ part) :
    ueventParts (parts.flatMap (· ++ [0])) = parts.filter (· ≠ []) := by
  induction parts with
  | nil => rfl
  | cons part parts ih =>
    have ih := ih fun p hp => hparts p (List.mem_cons_of_mem _ hp)
    have hcut : (part :: parts).flatMap (· ++ [0]) =
        part ++ 0 :: parts.flatMap (· ++ [0]) := by simp
    rw [hcut]
    by_cases hne : part = []
    · subst hne
      unfold ueventParts at ih ⊢
      rw [List.nil_append, List.splitOn_cons_eq_if_modifyHead, if_pos (beq_self_eq_true _),
        List.filter_cons_of_neg (by simp), List.filter_cons_of_neg (by simp), ih]
    · rw [ueventParts_append hne (hparts part List.mem_cons_self), ih,
        List.filter_cons_of_pos (by simpa using hne)]

/-! ## The loop over the parts -/

/-- The part of the subsystem is read as it. -/
theorem scanSubsystem_subsystemPart (found : Option Text) (subsystem : Text) :
    scanSubsystem found (subsystemPart subsystem) = some subsystem := by
  unfold scanSubsystem
  rw [fromUtf8_eq_some.mpr (show subsystemPart subsystem = _ from rfl)]
  simp only [Text.stripPrefix_eq_some.mpr (rfl : "SUBSYSTEM=".toList ++ subsystem = _)]

/-- A part that names no subsystem is passed over: another key, or no text at all. -/
theorem scanSubsystem_of_ne {part : List UInt8} (h : ∀ other, part ≠ subsystemPart other)
    (found : Option Text) : scanSubsystem found part = found := by
  unfold scanSubsystem
  split
  · rfl
  · next kv hkv =>
    split
    · next v hv =>
      refine absurd ?_ (h v)
      rw [fromUtf8_eq_some.mp hkv, Text.stripPrefix_eq_some.mp hv]
      rfl
    · rfl

/-- Where no part is one of the subsystem, nothing is found. -/
theorem foldl_scanSubsystem_of_ne {parts : List (List UInt8)}
    (h : ∀ part ∈ parts, ∀ other, part ≠ subsystemPart other) (found : Option Text) :
    parts.foldl scanSubsystem found = found := by
  induction parts with
  | nil => rfl
  | cons part parts ih =>
    rw [List.foldl_cons, scanSubsystem_of_ne (h part List.mem_cons_self)]
    exact ih fun p hp => h p (List.mem_cons_of_mem _ hp)

/-- The last subsystem wins. -/
theorem foldl_scanSubsystem_eq_some {parts : List (List UInt8)} {subsystem : Text} :
    parts.foldl scanSubsystem none = some subsystem ↔ LastSubsystem parts subsystem := by
  constructor
  · intro h
    induction parts using List.reverseRecOn with
    | nil => cases h
    | append_singleton parts part ih =>
      rw [List.foldl_append, List.foldl_cons, List.foldl_nil] at h
      by_cases hpart : ∃ other, part = subsystemPart other
      · obtain ⟨other, rfl⟩ := hpart
        rw [scanSubsystem_subsystemPart] at h
        obtain rfl := Option.some.inj h
        exact ⟨parts, [], rfl, fun _ hmem => absurd hmem List.not_mem_nil⟩
      · have hne : ∀ other, part ≠ subsystemPart other := fun other heq => hpart ⟨other, heq⟩
        rw [scanSubsystem_of_ne hne] at h
        obtain ⟨before, after, rfl, hafter⟩ := ih h
        refine ⟨before, after ++ [part], by simp, fun p hp => ?_⟩
        rcases List.mem_append.mp hp with hp | hp
        · exact hafter p hp
        · rwa [List.mem_singleton.mp hp]
  · rintro ⟨before, after, rfl, hafter⟩
    rw [List.foldl_append, List.foldl_cons, scanSubsystem_subsystemPart,
      foldl_scanSubsystem_of_ne hafter]

/-- Where a part names a subsystem, one is the last. -/
theorem lastSubsystem_of_mem {parts : List (List UInt8)}
    (h : ∃ part ∈ parts, ∃ subsystem, part = subsystemPart subsystem) :
    ∃ subsystem, LastSubsystem parts subsystem := by
  induction parts with
  | nil =>
    obtain ⟨part, hmem, -⟩ := h
    cases hmem
  | cons part parts ih =>
    by_cases hlater : ∃ part ∈ parts, ∃ subsystem, part = subsystemPart subsystem
    · obtain ⟨subsystem, before, after, rfl, hafter⟩ := ih hlater
      exact ⟨subsystem, part :: before, after, rfl, hafter⟩
    · obtain ⟨found, hfound, subsystem, rfl⟩ := h
      rcases List.mem_cons.mp hfound with rfl | hmem
      · exact ⟨subsystem, [], parts, rfl, fun p hp other heq => hlater ⟨p, hp, other, heq⟩⟩
      · exact absurd ⟨_, hmem, subsystem, rfl⟩ hlater

/-! ## The parser -/

/-- Exactly the kernel's datagrams are accepted, and read as what they say. -/
theorem parseUevent_eq_some {buf : List UInt8} {u : Uevent} :
    parseUevent buf = some u ↔ KernelUevent buf u := by
  unfold parseUevent
  constructor
  · intro h
    split at h
    · cases h
    · next first parts hparts =>
      obtain ⟨header, hheader, h⟩ := Option.bind_eq_some_iff.mp h
      obtain ⟨⟨action, devpath⟩, hcut, h⟩ := Option.bind_eq_some_iff.mp h
      by_cases hok : action = [] ∨ devpath.head? ≠ some '/'
      · simp only [if_pos hok, reduceCtorEq] at h
      · simp only [if_neg hok] at h
        obtain ⟨subsystem, hsubsystem, h⟩ := Option.bind_eq_some_iff.mp h
        obtain rfl := Option.some.inj h
        obtain ⟨hne, habsolute⟩ := not_or.mp hok
        obtain ⟨rfl, hat⟩ := Text.splitOnce_eq_some.mp hcut
        exact ⟨first, parts, hparts, ⟨fromUtf8_eq_some.mp hheader, hat, hne, not_not.mp habsolute⟩,
          foldl_scanSubsystem_eq_some.mp hsubsystem⟩
  · rintro ⟨first, parts, hparts, hheader, hsubsystem⟩
    have hok : ¬ (u.action = [] ∨ u.devpath.head? ≠ some '/') :=
      not_or.mpr ⟨hheader.action_ne_nil, not_not.mpr hheader.absolute⟩
    rw [hparts]
    simp only [fromUtf8_eq_some.mpr hheader.first_eq, Text.splitOnce_eq_some.mpr
      ⟨rfl, hheader.no_at⟩, foldl_scanSubsystem_eq_some.mpr hsubsystem, Option.bind_eq_bind,
        Option.bind_some, if_neg hok]

/-- A datagram of the kernel has the parts it was made of. -/
theorem kernelUevent_encode {action devpath subsystem : Text} {before after : List (List UInt8)}
    (hat : '@' ∉ action) (hnul : '\x00' ∉ action) (hne : action ≠ [])
    (habsolute : devpath.head? = some '/') (hdevpath : '\x00' ∉ devpath)
    (hsubsystem : '\x00' ∉ subsystem) (hparts : ∀ part ∈ before ++ after, 0 ∉ part)
    (hone : ∀ part ∈ before ++ after, ∀ other, part ≠ subsystemPart other) :
    KernelUevent (encodeUevent action devpath (before ++ subsystemPart subsystem :: after))
      ⟨action, devpath, subsystem⟩ := by
  have hkey : '\x00' ∉ "SUBSYSTEM=".toList ++ subsystem := by
    intro hmem
    rcases List.mem_append.mp hmem with hmem | hmem
    · exact absurd hmem (by decide)
    · exact hsubsystem hmem
  have hheader : '\x00' ∉ action ++ '@' :: devpath := by
    intro hmem
    rcases List.mem_append.mp hmem with hmem | hmem
    · exact hnul hmem
    · rcases List.mem_cons.mp hmem with hmem | hmem
      · exact absurd hmem (by decide)
      · exact hdevpath hmem
  -- No part carries a zero byte, so the split finds the parts that were joined.
  have hall : ∀ part ∈ utf8Bytes (action ++ '@' :: devpath) ::
      (before ++ subsystemPart subsystem :: after), 0 ∉ part := by
    intro part hpart
    rcases List.mem_cons.mp hpart with rfl | hpart
    · exact zero_not_mem_utf8Bytes hheader
    · rcases List.mem_append.mp hpart with hpart | hpart
      · exact hparts part (List.mem_append_left _ hpart)
      · rcases List.mem_cons.mp hpart with rfl | hpart
        · exact zero_not_mem_utf8Bytes hkey
        · exact hparts part (List.mem_append_right _ hpart)
  have hheaderNe : utf8Bytes (action ++ '@' :: devpath) ≠ [] := utf8Bytes_ne_nil (by simp)
  have hsubsystemNe : subsystemPart subsystem ≠ [] := utf8Bytes_ne_nil (by simp)
  -- The kernel's own key is the only one of its kind, so reading the last one finds it.
  refine ⟨utf8Bytes (action ++ '@' :: devpath),
    before.filter (· ≠ []) ++ subsystemPart subsystem :: after.filter (· ≠ []), ?_,
    ⟨rfl, hat, hne, habsolute⟩, before.filter (· ≠ []), after.filter (· ≠ []), rfl,
      fun part hpart => ?_⟩
  · unfold encodeUevent
    rw [ueventParts_flatMap hall, List.filter_cons_of_pos (by simpa using hheaderNe),
      List.filter_append, List.filter_cons_of_pos (by simpa using hsubsystemNe)]
  · exact hone part (List.mem_append_right _ (List.mem_of_mem_filter hpart))

/-- Every byte string is accepted exactly where its parts are those of a kernel uevent, with the
value of the last part that names a subsystem, and what the kernel sends is read back. -/
theorem parseUevent_spec :
    (∀ buf, (parseUevent buf).isSome = true ↔ ∃ first parts, ueventParts buf = first :: parts ∧
      (∃ action devpath, UeventHeader first action devpath) ∧
        ∃ part ∈ parts, ∃ subsystem, part = subsystemPart subsystem) ∧
    (∀ buf u, parseUevent buf = some u ↔ KernelUevent buf u) ∧
    ∀ (action devpath subsystem : Text) (before after : List (List UInt8)), action ≠ [] →
    '@' ∉ action →
      '\x00' ∉ action → devpath.head? = some '/' → '\x00' ∉ devpath → '\x00' ∉ subsystem →
      (∀ part ∈ before ++ after, 0 ∉ part) →
      (∀ part ∈ before ++ after, ∀ other, part ≠ subsystemPart other) →
      parseUevent (encodeUevent action devpath (before ++ subsystemPart subsystem :: after)) =
        some ⟨action, devpath, subsystem⟩ := by
  refine ⟨fun buf => ⟨fun h => ?_, ?_⟩, fun buf u => parseUevent_eq_some, ?_⟩
  · obtain ⟨u, hu⟩ := Option.isSome_iff_exists.mp h
    obtain ⟨first, parts, hparts, hheader, before, after, rfl, -⟩ := parseUevent_eq_some.mp hu
    exact ⟨first, _, hparts, ⟨_, _, hheader⟩, _, List.mem_append_right _ List.mem_cons_self, _, rfl⟩
  · rintro ⟨first, parts, hparts, ⟨action, devpath, hheader⟩, hsome⟩
    obtain ⟨subsystem, hsubsystem⟩ := lastSubsystem_of_mem hsome
    exact Option.isSome_iff_exists.mpr ⟨⟨action, devpath, subsystem⟩,
      parseUevent_eq_some.mpr ⟨first, parts, hparts, hheader, hsubsystem⟩⟩
  · intro action devpath subsystem before after hne hat hnul habsolute hdevpath
      hsubsystem hparts hone
    exact parseUevent_eq_some.mpr
      (kernelUevent_encode hat hnul hne habsolute hdevpath hsubsystem hparts hone)

/-- Without an action nothing is read back. -/
theorem not_parseUevent_encode_noAction :
    ¬ ∀ (action devpath subsystem : Text) (before after : List (List UInt8)), '@' ∉ action →
      '\x00' ∉ action → devpath.head? = some '/' → '\x00' ∉ devpath → '\x00' ∉ subsystem →
      (∀ part ∈ before ++ after, 0 ∉ part) →
      (∀ part ∈ before ++ after, ∀ other, part ≠ subsystemPart other) →
      parseUevent (encodeUevent action devpath (before ++ subsystemPart subsystem :: after)) =
        some ⟨action, devpath, subsystem⟩ := by
  intro h
  have hread := h [] "/devices/x".toList "usb".toList [] [] (by decide) (by decide) rfl (by decide)
    (by decide) (by simp) (by simp)
  obtain ⟨first, parts, -, hheader, -⟩ := parseUevent_eq_some.mp hread
  exact hheader.action_ne_nil rfl

end Hyprstate
