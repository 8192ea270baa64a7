import Hyprstate.Config.Directive
import Hyprstate.Lists.Adjacent
import Mathlib.Data.Char
import Mathlib.Data.List.Lex

/-!
# Legacy profile files

`legacy_files` of `cli/profile.rs`: the files that `profile migrate` reads. It sorts the names and
lets a Lua file displace the conf of its stem where the two stand next to each other. A name between
the two keeps both, so that there is one file for each stem exactly where no other name is between a
pair (`legacyFiles_iff`). A directory is the list of its file names.
-/

namespace Hyprstate

/-- A name at its last dot; a dot that it starts with is none. -/
def rsplitDot (name : Text) : Text × Option Text :=
  let before := (name.rdropWhile (· != '.')).dropLast
  if name = "..".toList ∨ before = [] then (name, none)
    else (before, some (name.rtakeWhile (· != '.')))

/-- `Path::file_stem`. -/
def fileStem (name : Text) : Text := (rsplitDot name).1

/-- `Path::extension`. -/
def extension (name : Text) : Option Text := (rsplitDot name).2

/-- The files that `legacy_files` takes of a directory. -/
def isLegacy (only : Option Text) (name : Text) : Bool :=
  (decide (extension name = some "conf".toList) || decide (extension name = some "lua".toList)) &&
    !".".toList.isPrefixOf name && !".active.".toList.isPrefixOf name &&
    only.all fun wanted => decide (fileStem name = wanted)

/-- The callback of `dedup_by`: the later file of a stem goes, and takes the place of the earlier
one where it is Lua. -/
def displace (a b : Text) : Option Text :=
  if fileStem a = fileStem b then some (if extension a = some "lua".toList then a else b) else none

/-- `legacy_files`. -/
def legacyFiles (dir : List Text) (only : Option Text) : List Text :=
  Adjacent.dedupBy displace ((dir.filter (isLegacy only)).mergeSort fun a b => decide (a ≤ b))

/-! ## Names -/

/-- A name with an extension is its stem and its extension. -/
theorem eq_of_extension {name ext : Text} (h : extension name = some ext) :
    name = fileStem name ++ '.' :: ext := by
  unfold extension at h
  unfold fileStem
  unfold rsplitDot at h ⊢
  dsimp only at h ⊢
  split at h
  · cases h
  · next hcond =>
    rw [if_neg hcond]
    obtain rfl := Option.some.inj h
    have hne : name.rdropWhile (· != '.') ≠ [] := by
      intro hnil
      exact hcond (.inr (by rw [hnil]; rfl))
    have hlast := List.rdropWhile_last_not (· != '.') name hne
    have hdot : (name.rdropWhile (· != '.')).getLast hne = '.' := by simpa using hlast
    have hbefore := List.dropLast_append_getLast hne
    rw [hdot] at hbefore
    calc name = name.rdropWhile (· != '.') ++ name.rtakeWhile (· != '.') :=
          List.rdropWhile_append_rtakeWhile.symm
      _ = (name.rdropWhile (· != '.')).dropLast ++ ['.'] ++ name.rtakeWhile (· != '.') := by
          rw [hbefore]
      _ = (name.rdropWhile (· != '.')).dropLast ++ '.' :: name.rtakeWhile (· != '.') := by
          rw [List.append_assoc, List.singleton_append]

/-- A name that is put together is taken apart at its last dot. -/
theorem rsplitDot_append {before ext : Text} (hbefore : before ≠ []) (hext : ext ≠ [])
    (hdot : '.' ∉ ext) : rsplitDot (before ++ '.' :: ext) = (before, some ext) := by
  have hall : ∀ c ∈ ext.reverse, (c != '.') = true := by
    intro c hc
    rw [bne_iff_ne]
    rintro rfl
    exact hdot (List.mem_reverse.mp hc)
  have hrev : (before ++ '.' :: ext).reverse = ext.reverse ++ '.' :: before.reverse := by simp
  have htake : (before ++ '.' :: ext).rtakeWhile (· != '.') = ext := by
    rw [List.rtakeWhile, hrev, List.takeWhile_append_of_pos hall]
    simp
  have hdrop : (before ++ '.' :: ext).rdropWhile (· != '.') = before ++ ['.'] := by
    rw [List.rdropWhile, hrev, List.dropWhile_append_of_pos hall]
    simp
  have hdots : before ++ '.' :: ext ≠ "..".toList := by
    intro h
    have hlength := congrArg List.length h
    have hbefore := List.length_pos_of_ne_nil hbefore
    have hext := List.length_pos_of_ne_nil hext
    rw [List.length_append, List.length_cons] at hlength
    have htwo : "..".toList.length = 2 := rfl
    omega
  rw [rsplitDot, hdrop, htake, List.dropLast_concat]
  exact if_neg (not_or.mpr ⟨hdots, hbefore⟩)

/-- A name with an extension has a stem. -/
theorem fileStem_ne_nil {name ext : Text} (h : extension name = some ext) : fileStem name ≠ [] := by
  unfold extension rsplitDot at h
  unfold fileStem rsplitDot
  dsimp only at h ⊢
  split at h
  · cases h
  · next hcond =>
    rw [if_neg hcond]
    exact fun hnil => hcond (.inr hnil)

/-- A file that is taken is of one of the two dialects. -/
theorem isLegacy_extension {only : Option Text} {name : Text} (h : isLegacy only name = true) :
    extension name = some "conf".toList ∨ extension name = some "lua".toList := by
  simp only [isLegacy, Bool.and_eq_true, Bool.or_eq_true, decide_eq_true_eq] at h
  exact h.1.1.1

/-- One stem and one extension are one name. -/
theorem eq_of_stem {a b ext : Text} (hstem : fileStem a = fileStem b) (ha : extension a = some ext)
    (hb : extension b = some ext) : a = b := by
  rw [eq_of_extension ha, eq_of_extension hb, hstem]

/-- The conf of a stem is sorted before its Lua file. -/
theorem conf_lt_lua {a b : Text} (hstem : fileStem a = fileStem b)
    (ha : extension a = some "conf".toList) (hb : extension b = some "lua".toList) : a < b := by
  rw [eq_of_extension ha, eq_of_extension hb, hstem]
  exact List.append_left_lt (by decide)

/-- To displace a legacy file is a merge by the stem. -/
theorem displace_mergesBy : Adjacent.MergesBy fileStem displace where
  same a kept hkey := by
    unfold displace
    rw [if_pos hkey]
    split
    · exact .inl rfl
    · exact .inr rfl
  other a kept hkey := if_neg hkey

/-- A Lua file is kept of any two of its stem. -/
theorem displace_lua {x : Text} (hx : extension x = some "lua".toList) (a : Text)
    (hkey : fileStem a = fileStem x) :
    displace x a = some x ∧ displace a x = some x := by
  unfold displace
  rw [if_pos hkey.symm, if_pos hkey, if_pos hx]
  refine ⟨rfl, ?_⟩
  split
  · next ha => rw [eq_of_stem hkey ha hx]
  · rfl

/-! ## Sorted names -/

/-- No other name is between a conf and the Lua file of its stem. -/
def NothingBetween (names : List Text) : Prop :=
  ∀ a ∈ names, ∀ b ∈ names, ∀ n ∈ names, fileStem a = fileStem b →
    extension a = some "conf".toList →
    extension b = some "lua".toList → ¬ (a < n ∧ n < b)

/-- In sorted names the files of a stem stand together exactly where nothing is between them. -/
theorem together_iff {names : List Text} (hsorted : names.Pairwise (· ≤ ·))
    (hext : ∀ n ∈ names, extension n = some "conf".toList ∨ extension n = some "lua".toList) :
    Adjacent.Together (names.map fileStem) ↔ NothingBetween names := by
  induction names with
  | nil =>
    refine ⟨fun _ a ha => ?_, fun _ => trivial⟩
    cases ha
  | cons x rest ih =>
    obtain ⟨hx, hrest⟩ := List.pairwise_cons.mp hsorted
    have ih := ih hrest fun n hn => hext n (List.mem_cons_of_mem _ hn)
    have hle : ∀ m ∈ x :: rest, x ≤ m := by
      intro m hm
      rcases List.mem_cons.mp hm with rfl | hm
      · exact le_refl m
      · exact hx m hm
    rw [List.map_cons, Adjacent.Together, ih]
    constructor
    · rintro ⟨hhead, hnothing⟩ a ha b hb n hn hstem hconf hlua ⟨han, hnb⟩
      -- The first name is none but the conf.
      have hbRest : b ∈ rest := (List.mem_cons.mp hb).resolve_left (by
        rintro rfl
        exact absurd hnb (not_lt.mpr (hle n hn)))
      have hnRest : n ∈ rest := (List.mem_cons.mp hn).resolve_left (by
        rintro rfl
        exact absurd han (not_lt.mpr (hle a ha)))
      rcases List.mem_cons.mp ha with rfl | ha
      · obtain ⟨next, more, rfl⟩ := List.exists_cons_of_ne_nil (List.ne_nil_of_mem hbRest)
        have hnext : fileStem next = fileStem a := by
          simpa using hhead (List.mem_map.mpr ⟨b, hbRest, hstem.symm⟩)
        rcases hext next (List.mem_cons_of_mem _ List.mem_cons_self) with hnextConf | hnextLua
        · obtain rfl := eq_of_stem hnext hnextConf hconf
          exact hnothing next List.mem_cons_self b hbRest n hnRest hstem hconf hlua ⟨han, hnb⟩
        · obtain rfl := eq_of_stem (hnext.trans hstem) hnextLua hlua
          rcases List.mem_cons.mp hnRest with rfl | hn
          · exact absurd hnb (lt_irrefl n)
          · exact absurd hnb (not_lt.mpr ((List.pairwise_cons.mp hrest).1 n hn))
      · exact hnothing a ha b hbRest n hnRest hstem hconf hlua ⟨han, hnb⟩
    · intro hnothing
      refine ⟨fun hmem => ?_, fun a ha b hb n hn => hnothing a (List.mem_cons_of_mem _ ha) b
        (List.mem_cons_of_mem _ hb) n (List.mem_cons_of_mem _ hn)⟩
      obtain ⟨y, hy, hstem⟩ := List.mem_map.mp hmem
      obtain ⟨next, more, rfl⟩ := List.exists_cons_of_ne_nil (List.ne_nil_of_mem hy)
      by_contra hnext
      have hnext : fileStem next ≠ fileStem x := by simpa using hnext
      have hy' : y ∈ more := (List.mem_cons.mp hy).resolve_left fun h => hnext (h ▸ hstem)
      have hxn : x < next := lt_of_le_of_ne (hx next List.mem_cons_self) fun h => hnext (h ▸ rfl)
      have hny : next < y := lt_of_le_of_ne ((List.pairwise_cons.mp hrest).1 y hy') fun h =>
        hnext (h ▸ hstem)
      have hxy : x < y := hxn.trans hny
      -- The two files of the stem are its conf and its Lua file, in this order.
      rcases hext x List.mem_cons_self with hxConf | hxLua <;>
        rcases hext y (List.mem_cons_of_mem _ hy) with hyConf | hyLua
      · exact absurd hxy (eq_of_stem hstem hyConf hxConf ▸ lt_irrefl _)
      · exact hnothing x List.mem_cons_self y (List.mem_cons_of_mem _ hy) next
          (List.mem_cons_of_mem _ List.mem_cons_self) hstem.symm hxConf hyLua ⟨hxn, hny⟩
      · exact absurd hxy (not_lt.mpr (conf_lt_lua hstem hyConf hxLua).le)
      · exact absurd hxy (eq_of_stem hstem hyLua hxLua ▸ lt_irrefl _)

/-- The Lua file of a conf's stem is there, with no name between. -/
def Displaced (names : List Text) (x : Text) : Prop :=
  extension x = some "conf".toList ∧ ∃ b ∈ names, fileStem b = fileStem x ∧
    extension b = some "lua".toList ∧
    ∀ n ∈ names, ¬(x < n ∧ n < b)

/-- A name is displaced by the names that are not before it. -/
theorem displaced_cons {kept x : Text} {rest : List Text} (hx : extension x = some "conf".toList)
    (hkept : ∀ n ∈ rest, kept ≤ n) (hmem : x ∈ rest) :
    Displaced (kept :: rest) x ↔ Displaced rest x := by
  have hnot : ¬x < kept := not_lt.mpr (hkept x hmem)
  constructor
  · rintro ⟨-, b, hb, hstem, hlua, hnone⟩
    refine ⟨hx, b, (List.mem_cons.mp hb).resolve_left ?_, hstem, hlua, fun n hn =>
      hnone n (List.mem_cons_of_mem _ hn)⟩
    rintro rfl
    exact hnot (conf_lt_lua hstem.symm hx hlua)
  · rintro ⟨-, b, hb, hstem, hlua, hnone⟩
    refine ⟨hx, b, List.mem_cons_of_mem _ hb, hstem, hlua, fun n hn => ?_⟩
    rcases List.mem_cons.mp hn with rfl | hn
    · exact fun h => hnot h.1
    · exact hnone n hn

/-- In sorted names the later one of a stem is kept. -/
theorem displace_of_le {kept a : Text} (hle : kept ≤ a)
    (hkept : extension kept = some "conf".toList ∨ extension kept = some "lua".toList)
    (ha : extension a = some "conf".toList ∨ extension a = some "lua".toList) :
    displace a kept = if fileStem a = fileStem kept then some a else none := by
  unfold displace
  by_cases hkey : fileStem a = fileStem kept
  · rw [if_pos hkey, if_pos hkey]
    rcases ha with hconf | hlua
    · -- The name is there twice.
      have hsame : kept = a := by
        rcases hkept with hkeptConf | hkeptLua
        · exact eq_of_stem hkey.symm hkeptConf hconf
        · exact absurd (conf_lt_lua hkey hconf hkeptLua) (not_lt.mpr hle)
      rw [hsame, ite_self]
    · rw [if_pos hlua]
  · rw [if_neg hkey, if_neg hkey]

/-- The first of sorted names is displaced exactly by a next one of its stem. -/
theorem displaced_head {kept a : Text} {rest : List Text}
    (hsorted : (kept :: a :: rest).Pairwise (· ≤ ·))
    (ha : extension a = some "conf".toList ∨ extension a = some "lua".toList)
    (hconf : extension kept = some "conf".toList) (hne : kept ≠ a) :
    Displaced (kept :: a :: rest) kept ↔ fileStem a = fileStem kept := by
  obtain ⟨hkept, hrest⟩ := List.pairwise_cons.mp hsorted
  have hlater := (List.pairwise_cons.mp hrest).1
  constructor
  · rintro ⟨-, b, hb, hstem, hlua, hnone⟩
    rcases List.mem_cons.mp hb with rfl | hb
    · rw [hconf] at hlua
      exact absurd (Option.some.inj hlua) (by decide)
    rcases List.mem_cons.mp hb with rfl | hb
    · exact hstem
    · by_contra hkey
      have hka : kept < a := lt_of_le_of_ne (hkept a List.mem_cons_self) hne
      have hab : a < b := lt_of_le_of_ne (hlater b hb) fun h => hkey (h ▸ hstem)
      exact hnone a (List.mem_cons_of_mem _ List.mem_cons_self) ⟨hka, hab⟩
  · intro hkey
    have hlua : extension a = some "lua".toList :=
      ha.resolve_left fun haConf => hne (eq_of_stem hkey.symm hconf haConf)
    refine ⟨hconf, a, List.mem_cons_of_mem _ List.mem_cons_self, hkey, hlua, fun n hn => ?_⟩
    rintro ⟨hxn, hna⟩
    rcases List.mem_cons.mp hn with rfl | hn
    · exact lt_irrefl n hxn
    rcases List.mem_cons.mp hn with rfl | hn
    · exact lt_irrefl n hna
    · exact absurd hna (not_lt.mpr (hlater n hn))

/-- In sorted names a conf is kept exactly where nothing displaces it. -/
theorem conf_mem_dedupFrom {kept x : Text} {rest : List Text}
    (hsorted : (kept :: rest).Pairwise (· ≤ ·))
    (hext : ∀ n ∈ kept :: rest, extension n = some "conf".toList ∨ extension n = some "lua".toList)
    (hx : extension x = some "conf".toList) :
    x ∈ Adjacent.dedupFrom displace kept rest ↔ x ∈ kept :: rest ∧ ¬Displaced (kept :: rest) x := by
  -- On the names after the first, which stands for the last entry kept.
  induction rest generalizing kept with
  | nil =>
    refine ⟨fun h => ⟨h, ?_⟩, fun h => h.1⟩
    rintro ⟨-, b, hb, -, hlua, -⟩
    rw [List.mem_singleton.mp h] at hx
    rw [List.mem_singleton.mp hb, hx] at hlua
    exact absurd (Option.some.inj hlua) (by decide)
  | cons a rest ih =>
    obtain ⟨hkept, hrest⟩ := List.pairwise_cons.mp hsorted
    have hka := hkept a List.mem_cons_self
    have hextA := hext a (List.mem_cons_of_mem _ List.mem_cons_self)
    have ih := ih hrest fun n hn => hext n (List.mem_cons_of_mem _ hn)
    have hmem_of : x ∈ Adjacent.dedupFrom displace a rest → x ∈ a :: rest :=
      Adjacent.mem_of_mem_dedupFrom displace_mergesBy
    unfold Adjacent.dedupFrom
    rw [displace_of_le hka (hext kept List.mem_cons_self) hextA]
    by_cases hmem : x ∈ a :: rest
    · -- The names after the first decide.
      have hiff : x ∈ Adjacent.dedupFrom displace a rest ↔
          x ∈ kept :: a :: rest ∧ ¬Displaced (kept :: a :: rest) x := by
        rw [ih, displaced_cons hx hkept hmem]
        exact and_congr_left fun _ => iff_of_true hmem (List.mem_cons_of_mem _ hmem)
      by_cases hkey : fileStem a = fileStem kept
      · rw [if_pos hkey]
        exact hiff
      · have hxk : x ≠ kept := by
          rintro rfl
          rcases List.mem_cons.mp hmem with rfl | hmem
          · exact hkey rfl
          · exact hkey
              (congrArg fileStem (le_antisymm ((List.pairwise_cons.mp hrest).1 x hmem) hka))
        rw [if_neg hkey]
        exact List.mem_cons.trans ((or_iff_right hxk).trans hiff)
    · have hfirst : x ∈ kept :: a :: rest ↔ x = kept := List.mem_cons.trans (or_iff_left hmem)
      rw [hfirst]
      by_cases hkey : fileStem a = fileStem kept
      · rw [if_pos hkey]
        refine ⟨fun h => absurd (hmem_of h) hmem, ?_⟩
        rintro ⟨rfl, hkeeps⟩
        have hne : x ≠ a := fun h => hmem (h ▸ List.mem_cons_self)
        exact absurd ((displaced_head hsorted hextA hx hne).mpr hkey) hkeeps
      · rw [if_neg hkey]
        refine ⟨fun h => ?_, fun h => List.mem_cons.mpr (.inl h.1)⟩
        obtain rfl : x = kept := (List.mem_cons.mp h).resolve_right fun h => hmem (hmem_of h)
        have hne : x ≠ a := fun h => hmem (h ▸ List.mem_cons_self)
        exact ⟨rfl, fun h => hkey ((displaced_head hsorted hextA hx hne).mp h)⟩

/-! ## What is migrated -/

/-- What migration needs of the files: one of each stem, for every stem, and the Lua file where it
has one. -/
structure OneOfEach (dir : List Text) : Prop where
  once : ((legacyFiles dir none).map fileStem).Nodup
  every : ∀ name ∈ dir, isLegacy none name = true →
    fileStem name ∈ (legacyFiles dir none).map fileStem
  lua : ∀ name ∈ dir, isLegacy none name = true → extension name = some "lua".toList →
    name ∈ legacyFiles dir none

/-- The sorted names. -/
theorem pairwise_sorted (names : List Text) :
    (names.mergeSort fun a b => decide (a ≤ b)).Pairwise (· ≤ ·) := by
  have htrans : ∀ a b c : Text, decide (a ≤ b) = true → decide (b ≤ c) = true →
      decide (a ≤ c) = true := by
    intro a b c hab hbc
    exact decide_eq_true ((of_decide_eq_true hab).trans (of_decide_eq_true hbc))
  have htotal : ∀ a b : Text, (decide (a ≤ b) || decide (b ≤ a)) = true := by
    intro a b
    rw [Bool.or_eq_true, decide_eq_true_eq, decide_eq_true_eq]
    exact le_total a b
  exact (List.pairwise_mergeSort htrans htotal names).imp of_decide_eq_true

/-- `legacy_files` leaves out what is displaced, and nothing else. -/
theorem mem_legacyFiles {dir : List Text} {name : Text} :
    name ∈ legacyFiles dir none ↔
      name ∈ dir.filter (isLegacy none) ∧ ¬Displaced (dir.filter (isLegacy none)) name := by
  have hpairwise := pairwise_sorted (dir.filter (isLegacy none))
  have hmem : ∀ {n}, n ∈ (dir.filter (isLegacy none)).mergeSort (fun a b => decide (a ≤ b)) ↔
      n ∈ dir.filter (isLegacy none) := List.mem_mergeSort
  have hdisplaced : Displaced (dir.filter (isLegacy none)) name ↔
      Displaced ((dir.filter (isLegacy none)).mergeSort fun a b => decide (a ≤ b)) name := by
    simp only [Displaced, hmem]
  rw [legacyFiles, hdisplaced, ← hmem]
  generalize (dir.filter (isLegacy none)).mergeSort (fun a b => decide (a ≤ b)) =
    names at hpairwise hmem ⊢
  have hext : ∀ n ∈ names, extension n = some "conf".toList ∨
      extension n = some "lua".toList := fun n hn =>
    isLegacy_extension (List.mem_filter.mp (hmem.mp hn)).2
  cases names with
  | nil => exact ⟨fun h => absurd h List.not_mem_nil, fun h => absurd h.1 List.not_mem_nil⟩
  | cons kept rest =>
    by_cases hlua : extension name = some "lua".toList
    · have hnot : ¬Displaced (kept :: rest) name := by
        rintro ⟨hconf, -⟩
        rw [hlua] at hconf
        exact absurd (Option.some.inj hconf) (by decide)
      rw [and_iff_left hnot]
      exact ⟨Adjacent.mem_of_mem_dedupFrom displace_mergesBy,
        Adjacent.mem_dedupFrom displace_mergesBy (displace_lua hlua)⟩
    · by_cases hconf : extension name = some "conf".toList
      · exact conf_mem_dedupFrom hpairwise hext hconf
      · have hnot : name ∉ kept :: rest := fun hn => (hext name hn).elim hconf hlua
        exact ⟨fun h => absurd (Adjacent.mem_of_mem_dedupFrom displace_mergesBy h) hnot, fun h =>
          absurd h.1 hnot⟩

/-- There is something to migrate exactly where there is a legacy file. -/
theorem legacyFiles_ne_nil {dir : List Text} :
    legacyFiles dir none ≠ [] ↔ ∃ name ∈ dir, isLegacy none name = true := by
  constructor
  · intro hne
    obtain ⟨name, hname⟩ := List.exists_mem_of_ne_nil _ hne
    exact ⟨name, List.mem_filter.mp (mem_legacyFiles.mp hname).1⟩
  · rintro ⟨name, hname, hlegacy⟩
    have hkey : fileStem name ∈ (legacyFiles dir none).map fileStem := by
      rw [legacyFiles, Adjacent.mem_keys_dedupBy displace_mergesBy]
      exact List.mem_map.mpr
        ⟨name, List.mem_mergeSort.mpr (List.mem_filter.mpr ⟨hname, hlegacy⟩), rfl⟩
    obtain ⟨kept, hkept, -⟩ := List.mem_map.mp hkey
    exact List.ne_nil_of_mem hkept

/-- `profile migrate` reads one file of each stem, and the Lua file where there is one, exactly
where no other legacy name is sorted between the conf and the Lua file of a stem.
-/
theorem legacyFiles_iff (dir : List Text) :
    OneOfEach dir ↔ NothingBetween (dir.filter (isLegacy none)) := by
  have hpairwise := pairwise_sorted (dir.filter (isLegacy none))
  have hmem : ∀ {name}, name ∈ (dir.filter (isLegacy none)).mergeSort (fun a b => decide (a ≤ b)) ↔
      name ∈ dir.filter (isLegacy none) := List.mem_mergeSort
  have hlegacy : ∀ n ∈ dir.filter (isLegacy none),
      extension n = some "conf".toList ∨ extension n = some "lua".toList := fun n hn =>
    isLegacy_extension (List.mem_filter.mp hn).2
  have htogether := together_iff hpairwise fun n hn => hlegacy n (hmem.mp hn)
  have honce : ((legacyFiles dir none).map fileStem).Nodup ↔
      NothingBetween (dir.filter (isLegacy none)) := by
    rw [legacyFiles, Adjacent.nodup_dedupBy_iff displace_mergesBy, htogether]
    simp only [NothingBetween, hmem]
  -- No stem goes, and no Lua file does, whatever stands between.
  refine ⟨fun h => honce.mp h.once, fun h => ⟨honce.mpr h, ?_, ?_⟩⟩
  · intro name hname hlegacy
    rw [legacyFiles, Adjacent.mem_keys_dedupBy displace_mergesBy]
    exact List.mem_map.mpr ⟨name, hmem.mpr (List.mem_filter.mpr ⟨hname, hlegacy⟩), rfl⟩
  · intro name hname hlegacy hlua
    exact Adjacent.mem_dedupBy displace_mergesBy (displace_lua hlua)
      (hmem.mpr (List.mem_filter.mpr ⟨hname, hlegacy⟩))

/-- A name between the conf and the Lua file of a stem keeps both. -/
theorem not_oneOfEach_twins :
    ¬ OneOfEach ["desk.conf".toList, "desk.home.conf".toList, "desk.lua".toList] := by
  have hfilter : ["desk.conf".toList, "desk.home.conf".toList, "desk.lua".toList].filter
      (isLegacy none) =
      ["desk.conf".toList, "desk.home.conf".toList, "desk.lua".toList] := by decide
  have hsorted : ["desk.conf".toList, "desk.home.conf".toList, "desk.lua".toList].mergeSort
      (fun a b => decide (a ≤ b)) = ["desk.conf".toList, "desk.home.conf".toList,
        "desk.lua".toList] :=
    List.mergeSort_of_pairwise (by decide)
  intro h
  have honce := h.once
  rw [legacyFiles, hfilter, hsorted] at honce
  exact absurd honce (by decide)

end Hyprstate
