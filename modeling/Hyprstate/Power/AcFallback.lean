import Hyprstate.Config.Directive
import Hyprstate.Lists.Sorted
import Mathlib.Data.Char
import Mathlib.Data.List.Lex
import Mathlib.Data.Prod.Lex

/-!
# The AC state from sysfs

`on_ac_sysfs` of `sysio/sysfs.rs`, which stands in for UPower: it sorts the supplies by the contents
of their files, and answers for the first one of type `Mains` (`onAcSysfs_spec`). An adapter that is
offline is sorted before one that is online.
-/

namespace Hyprstate

/-- The files of one entry of `/sys/class/power_supply`; `none` for one that cannot be read. -/
structure SupplyFiles where
  kind : Option Text
  online : Option Text

/-- `(type, online)`, in the order of pairs of strings. -/
abbrev Supply := Text ×ₗ Text

/-- An entry without a type is none; without a reading the adapter is not known to be online. -/
def SupplyFiles.supply (files : SupplyFiles) : Option Supply :=
  files.kind.map fun kind => toLex (kind, files.online.getD [])

/-- The supplies of the directory. -/
def supplies (entries : List SupplyFiles) : List Supply := entries.filterMap SupplyFiles.supply

namespace Supply

/-- The supply's `type` reads `Mains`. -/
def isMains (s : Supply) : Bool := decide (Text.trim isWhitespace (ofLex s).1 = "Mains".toList)

/-- Its `online` reads `1`. -/
def isOnline (s : Supply) : Bool := decide (Text.trim isWhitespace (ofLex s).2 = "1".toList)

end Supply

/-- `on_ac_from_supplies`. -/
def onAcFromSupplies (supplies : List Supply) : Option Bool :=
  (supplies.find? Supply.isMains).map Supply.isOnline

/-- `on_ac_sysfs`. -/
def onAcSysfs (entries : List SupplyFiles) : Option Bool :=
  onAcFromSupplies ((supplies entries).mergeSort (· ≤ ·))

/-- The first supply of the mains, in the order of the names, answers. -/
theorem onAcSysfs_eq_some {entries : List SupplyFiles} {on : Bool} :
    onAcSysfs entries = some on ↔ ∃ s ∈ supplies entries, s.isMains = true ∧ s.isOnline = on ∧
      ∀ s' ∈ supplies entries, s'.isMains = true → s ≤ s' := by
  unfold onAcSysfs onAcFromSupplies
  rw [Option.map_eq_some_iff]
  constructor
  · rintro ⟨s, hfound, honline⟩
    obtain ⟨hmem, hmains, hleast⟩ := Sorted.find?_mergeSort.mp hfound
    exact ⟨s, hmem, hmains, honline, hleast⟩
  · rintro ⟨s, hmem, hmains, honline, hleast⟩
    exact ⟨s, Sorted.find?_mergeSort.mpr ⟨hmem, hmains, hleast⟩, honline⟩

/-- The answer is that of the `Mains` supply whose contents are sorted first, in any order of the
directory. -/
theorem onAcSysfs_spec (entries : List SupplyFiles) :
    (onAcSysfs entries = none ↔ ∀ s ∈ supplies entries, s.isMains = false) ∧
      (onAcSysfs entries = some true ↔ ∃ s ∈ supplies entries, s.isMains = true ∧
        s.isOnline = true ∧
        ∀ s' ∈ supplies entries, s'.isMains = true → s ≤ s') ∧
      ∀ entries', entries.Perm entries' → onAcSysfs entries' = onAcSysfs entries := by
  refine ⟨?_, onAcSysfs_eq_some, fun entries' hperm => ?_⟩
  · unfold onAcSysfs onAcFromSupplies
    simp only [Option.map_eq_none_iff, List.find?_eq_none, List.mem_mergeSort, Bool.not_eq_true]
  · unfold onAcSysfs supplies
    rw [Sorted.mergeSort_perm_congr (hperm.filterMap SupplyFiles.supply)]

/-- One adapter online and one offline: not on AC. -/
theorem not_onAcSysfs_anyOnline :
    ¬∀ entries : List SupplyFiles,
      (onAcSysfs entries = none ↔ ∀ s ∈ supplies entries, s.isMains = false) ∧
        (onAcSysfs entries = some true ↔ ∃ s ∈ supplies entries, s.isMains = true ∧
          s.isOnline = true) := by
  intro h
  let online : Supply := toLex ("Mains\n".toList, "1\n".toList)
  let offline : Supply := toLex ("Mains\n".toList, "0\n".toList)
  have hpair : supplies [⟨some "Mains\n".toList, some "1\n".toList⟩,
      ⟨some "Mains\n".toList, some "0\n".toList⟩] = [online, offline] := rfl
  have hlt : offline < online := Prod.Lex.toLex_lt_toLex.mpr (.inr ⟨rfl, by decide⟩)
  have hon : onAcSysfs [⟨some "Mains\n".toList, some "1\n".toList⟩,
      ⟨some "Mains\n".toList, some "0\n".toList⟩] = some true := by
    refine (h _).2.mpr ⟨online, ?_, by decide, by decide⟩
    rw [hpair]
    exact List.mem_cons_self
  obtain ⟨s, hmem, -, honline, hleast⟩ := onAcSysfs_eq_some.mp hon
  rw [hpair] at hmem hleast
  have hoff : s ≤ offline := hleast offline (by simp) (by decide)
  rcases List.mem_cons.mp hmem with rfl | hmem
  · exact absurd hlt (not_lt.mpr hoff)
  · rw [List.mem_singleton.mp hmem] at honline
    exact absurd honline (by decide)

end Hyprstate
