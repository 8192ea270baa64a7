import Hyprstate.Bytes.Utf8
import Hyprstate.Config.Legacy
import Mathlib.Data.List.AList

/-!
# Writing a file of a directory

`write_if_changed_atomic` of `sysio/profiles.rs`: it writes a temporary file beside the file, and
renames it. The file has the content unless the write failed (`writeIfChangedAtomic_name`), and
nothing but the file and the temporary file is touched (`writeIfChangedAtomic_other`).
-/

namespace Hyprstate

/-- An entry of a directory: a file with its bytes, or what cannot be read as a file. -/
inductive Entry
  | file (bytes : List UInt8)
  | other
  deriving DecidableEq

/-- A directory: its entries by name. -/
abbrev Directory := AList fun _ : Text => Entry

/-- The text of an entry. -/
def Entry.text : Entry → Option Text
  | .file bytes => Bytes.fromUtf8 bytes
  | .other => none

/-- `fs::read_to_string`. -/
def Directory.readToString (dir : Directory) (name : Text) : Option Text :=
  (dir.lookup name).bind Entry.text

/-- The file of a text. -/
def Entry.ofText (text : Text) : Entry := .file (Bytes.utf8Bytes text)

/-- What a write fails at: the directory, the temporary file before or after some bytes, or the
rename. -/
inductive WriteFailure
  | createDir
  | create
  | write (written : List UInt8)
  | rename

/-- What is left of the temporary file. -/
def WriteFailure.left (content : Text) : WriteFailure → Option Entry
  | .createDir | .create => none
  | .write written => some (.file written)
  | .rename => some (.ofText content)

/-- The name of the temporary file. -/
def temporary (pid : Nat) (name : Text) : Text :=
  fileStem name ++ '.' :: ((extension name).getD [] ++ ".tmp-".toList ++ Nat.toDigits 10 pid)

/-- `write_if_changed_atomic`. -/
def writeIfChangedAtomic (pid : Nat) (failure : Option WriteFailure) (dir : Directory)
    (name content : Text) : Directory × Except WriteFailure Unit :=
  if dir.readToString name = some content then (dir, .ok ())
  else
    let tmp := temporary pid name
    match failure with
    | some failure =>
      match failure.left content with
      | some written => (dir.insert tmp written, .error failure)
      | none => (dir, .error failure)
    | none => (((dir.insert tmp (.ofText content)).erase tmp).insert name (.ofText content), .ok ())

/-! ## Names -/

/-- The extension of a temporary file has no dot in it. -/
theorem not_dot_mem_tmp (pid : Nat) : '.' ∉ "tmp-".toList ++ Nat.toDigits 10 pid := by
  rw [List.mem_append, not_or]
  refine ⟨by decide, fun hmem => ?_⟩
  exact absurd (Nat.isDigit_of_mem_toDigits (by decide) (by decide) hmem) (by decide)

/-- A temporary file is of no dialect. -/
theorem extension_temporary (pid : Nat) (name : Text) :
    extension (temporary pid name) = some ("tmp-".toList ++ Nat.toDigits 10 pid) := by
  have hsplit : temporary pid name =
      (fileStem name ++ '.' :: (extension name).getD []) ++ '.' ::
        ("tmp-".toList ++ Nat.toDigits 10 pid) := by
    simp [temporary]
  rw [hsplit, extension, rsplitDot_append (by simp) (by simp) (not_dot_mem_tmp pid)]

/-! ## What is written -/

section

variable {pid : Nat} {failure : Option WriteFailure} {dir : Directory} {name content k : Text}

/-- The text of a file made of a text is the text. -/
theorem text_ofText (text : Text) : (Entry.ofText text).text = some text :=
  Bytes.fromUtf8_eq_some.mpr rfl

/-- What reads as a text is the file of it. -/
theorem lookup_of_readToString (h : dir.readToString name = some content) :
    dir.lookup name = some (.ofText content) := by
  obtain ⟨entry, hentry, htext⟩ := Option.bind_eq_some_iff.mp h
  cases entry with
  | file bytes => rw [hentry, Bytes.fromUtf8_eq_some.mp htext, Entry.ofText]
  | other => cases htext

/-- The other files stay. -/
theorem writeIfChangedAtomic_other (hname : k ≠ name) (htmp : k ≠ temporary pid name) :
    (writeIfChangedAtomic pid failure dir name content).1.lookup k = dir.lookup k := by
  unfold writeIfChangedAtomic
  split
  · rfl
  dsimp only
  split
  · split
    · exact AList.lookup_insert_ne htmp
    · rfl
  · rw [AList.lookup_insert_ne hname, AList.lookup_erase_ne htmp, AList.lookup_insert_ne htmp]

/-- Nothing is written where the content is in place. -/
theorem writeIfChangedAtomic_inPlace (h : dir.readToString name = some content) :
    (writeIfChangedAtomic pid failure dir name content).1 = dir := by
  rw [writeIfChangedAtomic, if_pos h]

/-- The file has the content, unless the write failed. -/
theorem writeIfChangedAtomic_name (htmp : name ≠ temporary pid name) :
    (writeIfChangedAtomic pid failure dir name content).1.lookup name =
      if failure = none ∨ dir.readToString name = some content then some (.ofText content)
      else dir.lookup name := by
  by_cases hplace : dir.readToString name = some content
  · rw [writeIfChangedAtomic_inPlace hplace, if_pos (.inr hplace), lookup_of_readToString hplace]
  unfold writeIfChangedAtomic
  rw [if_neg hplace]
  cases failure with
  | none => rw [if_pos (.inl rfl), AList.lookup_insert]
  | some failure =>
    rw [if_neg (by simp [hplace])]
    dsimp only
    split
    · exact AList.lookup_insert_ne htmp
    · rfl

/-- A write that was begun leaves of the temporary file what the failure left of it, or nothing. -/
theorem writeIfChangedAtomic_temporary (htmp : name ≠ temporary pid name)
    (hplace : dir.readToString name ≠ some content) :
    (writeIfChangedAtomic pid failure dir name content).1.lookup (temporary pid name) =
      match failure with
      | some failure => (failure.left content).or (dir.lookup (temporary pid name))
      | none => none := by
  unfold writeIfChangedAtomic
  rw [if_neg hplace]
  cases failure with
  | none =>
    dsimp only
    rw [AList.lookup_insert_ne htmp.symm, AList.lookup_erase]
  | some failure =>
    dsimp only
    split
    · next written heq => rw [AList.lookup_insert, heq, Option.some_or]
    · next heq => rw [heq, Option.none_or]

end

end Hyprstate
