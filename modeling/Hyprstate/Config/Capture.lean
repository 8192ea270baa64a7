import Hyprstate.Config.Profile

/-!
# Captured profiles

`profile save` writes the live layout as a Lua profile (`render_profile_lua` of
`crates/hyprstate-fsm/src/profiles.rs`), and `parse_profile` reads the directives of it back
(`parseProfile_renderProfileLua`). The floating-point type of a monitor is `F`, and `fixed2` is how
Rust prints one of its numbers to two decimals.
-/

namespace Hyprstate

/-- One monitor of `hyprctl monitors all -j`, as the capture of a profile needs it. -/
structure Profiles.MonitorSnapshot (F : Type) where
  name : Text
  description : Text
  width : Nat
  height : Nat
  refresh : F
  x : Int
  y : Int
  scale : F
  transform : Nat
  disabled : Bool

/-- `as_str` of the two policies, which are types of `monitor_profiles`: the words `parse_profile`
reads. -/
structure PolicyWords where
  edp : EdpPolicy → Text
  gpu : GpuPref → Text
  parse_edp : ∀ p, EdpPolicy.parse (edp p) = some p
  parse_gpu : ∀ p, GpuPref.parse (gpu p) = some p

/-- The internal panel, by its name. -/
def Profiles.MonitorSnapshot.isEdp {F : Type} (m : Profiles.MonitorSnapshot F) : Bool :=
  "eDP".toList.isPrefixOf m.name

/-- The order from left to right. -/
def Profiles.MonitorSnapshot.le {F : Type} (m n : Profiles.MonitorSnapshot F) : Bool :=
  decide (m.x < n.x) || decide (m.x = n.x) && decide (m.y ≤ n.y)

/-- What both renderers capture of the layout. -/
structure CaptureLayout (F : Type) where
  enabled : List (Profiles.MonitorSnapshot F)
  disabled : List (Profiles.MonitorSnapshot F)
  matchDescs : List Text

section

variable {F : Type} (fixed2 : F → Text) (debug : Text → Text)

/-- A number without the zeros at its end, nor the point they leave there. -/
def fmtNum (v : F) : Text := ((fixed2 v).rdropWhile (· == '0')).rdropWhile (· == '.')

/-- Hyprland's selector of a monitor, and the warnings. -/
def selector (m : Profiles.MonitorSnapshot F) (warnings : List Text) : Text × List Text :=
  if m.isEdp then (m.name, warnings)
  else if m.description.contains ',' then
    (m.name, warnings ++ [m.name ++
      (": description contains a comma — using the connector name " ++
        "(NOT stable across replugs): ").toList ++
      debug m.description])
  else ("desc:".toList ++ m.description, warnings)

/-- `capture_layout`. The match descriptions are those of the externals, and of all where there is
none. -/
def captureLayout (monitors : List (Profiles.MonitorSnapshot F)) : Except Text (CaptureLayout F) :=
  let enabled := monitors.filter fun m => !m.disabled
  if enabled.isEmpty then .error "no enabled monitors to capture".toList
  else
    let enabled := enabled.mergeSort Profiles.MonitorSnapshot.le
    let externals := enabled.filter fun m => !m.isEdp
    .ok
      { enabled := enabled
        disabled := monitors.filter fun m => m.disabled
        matchDescs := (if externals.isEmpty then enabled else externals).map fun m =>
          m.description }

/-- `render_directives`: the header, with the leader of the dialect. -/
def renderDirectives (words : PolicyWords) (leader : Text) (matchDescs : List Text)
    (edp : EdpPolicy) (gpu : GpuPref) (priority : Option Int) : Text :=
  matchDescs.flatMap (fun desc => leader ++ "@ match = desc:".toList ++ desc ++ ['\n']) ++
    (leader ++ "@ edp = ".toList ++ words.edp edp ++ ['\n']) ++
    (if gpu ≠ .auto then leader ++ "@ gpu = ".toList ++ words.gpu gpu ++ ['\n'] else []) ++
    match priority with
    | some p => leader ++ "@ priority = ".toList ++ Text.showInt p ++ ['\n']
    | none => []

/-- The line of an enabled monitor, on the text and the warnings. -/
def enabledLine (acc : Text × List Text) (m : Profiles.MonitorSnapshot F) : Text × List Text :=
  let (output, warnings) := selector debug m acc.2
  (acc.1 ++ "hl.monitor(\x7b output = \"".toList ++ output ++ "\", mode = \"".toList ++
    Text.showInt m.width ++ "x".toList ++ Text.showInt m.height ++ "@".toList ++
    fmtNum fixed2 m.refresh ++ "\", position = \"".toList ++ Text.showInt m.x ++ "x".toList ++
    Text.showInt m.y ++ "\", scale = \"".toList ++ fmtNum fixed2 m.scale ++
      "\", transform = ".toList ++
    Text.showInt m.transform ++ ", disabled = false \x7d)\n".toList, warnings)

/-- The line of a disabled monitor. -/
def disabledLine (acc : Text × List Text) (m : Profiles.MonitorSnapshot F) : Text × List Text :=
  let (output, warnings) := selector debug m acc.2
  (acc.1 ++ "hl.monitor(\x7b output = \"".toList ++ output ++
    "\", disabled = true \x7d)\n".toList, warnings)

/-- `render_profile_lua`: the text and the warnings. -/
def renderProfileLua (words : PolicyWords) (name date : Text)
    (monitors : List (Profiles.MonitorSnapshot F)) (edp : EdpPolicy) (gpu : GpuPref)
    (priority : Option Int) : Except Text (Text × List Text) :=
  match captureLayout monitors with
  | .error err => .error err
  | .ok layout =>
    let out :=
      "-- Profile: ".toList ++ name ++ " — captured from the live layout (".toList ++ date ++
      ").\n--\n".toList
    let out := out ++ renderDirectives words "--".toList layout.matchDescs edp gpu priority
    let out := out ++ ['\n']
    let acc := layout.enabled.foldl (enabledLine fixed2 debug) (out, [])
    let acc := layout.disabled.foldl (disabledLine debug) acc
    .ok (acc.1 ++ ("\n-- Add workspace pinning if desired, e.g.:\n" ++
      "-- hl.workspace_rule(\x7b workspace = \"1\", monitor = \"desc:...\", " ++
      "default = true \x7d)\n").toList,
      acc.2)

end

/-! ## The header -/

/-- One directive of the header. -/
def directiveLine (kv : Text × Text) : Text := "--@ ".toList ++ kv.1 ++ " = ".toList ++ kv.2

/-- The line of a key and its value. -/
theorem directiveLine_mk (key val : Text) :
    directiveLine (key, val) = "--@ ".toList ++ key ++ " = ".toList ++ val := rfl

/-- The directives of the header. -/
def headerPairs (words : PolicyWords) (matchDescs : List Text) (edp : EdpPolicy) (gpu : GpuPref)
    (priority : Option Int) : List (Text × Text) :=
  matchDescs.map (fun desc => ("match".toList, "desc:".toList ++ desc)) ++
    [("edp".toList, words.edp edp)] ++
    (if gpu ≠ .auto then [("gpu".toList, words.gpu gpu)] else []) ++
    priority.toList.map fun p => ("priority".toList, Text.showInt p)

/-- The header is one line for each of its pairs. -/
theorem renderDirectives_eq (words : PolicyWords) (matchDescs : List Text) (edp : EdpPolicy)
    (gpu : GpuPref)
    (priority : Option Int) :
    renderDirectives words "--".toList matchDescs edp gpu priority =
      ((headerPairs words matchDescs edp gpu priority).map directiveLine).flatMap fun line =>
        line ++ ['\n'] := by
  have hmatches : matchDescs.flatMap (fun desc =>
        "--".toList ++ "@ match = desc:".toList ++ desc ++ ['\n']) =
      (matchDescs.map fun desc =>
        directiveLine ("match".toList, "desc:".toList ++ desc)).flatMap fun line =>
          line ++ ['\n'] := by
    rw [List.flatMap_map]
    rfl
  unfold renderDirectives headerPairs
  rw [hmatches]
  cases gpu <;> cases priority <;> simp [directiveLine_mk, List.map_map, Function.comp_def]

/-! ## The values -/

/-- A value of the header: it stands on one line, and the parser takes it whole. -/
def HeaderValue (val : Text) : Prop := IsValue val ∧ '\n' ∉ val

/-- A value without blanks may stand in a header. -/
theorem headerValue_of_forall {val : Text} (hne : val ≠ [])
    (hchars : ∀ c ∈ val, isWhitespace c = false) : HeaderValue val :=
  ⟨⟨hne, fun c hc => hchars c (List.mem_of_head? hc), fun c hc =>
    hchars c (List.mem_of_getLast? hc)⟩, fun hline => absurd (hchars _ hline) (by decide)⟩

/-- So may a word. -/
theorem headerValue_of_word {val : Text} (hne : val ≠ []) (hword : val.any isWhitespace = false) :
    HeaderValue val :=
  headerValue_of_forall hne fun c hc => Bool.eq_false_iff.mpr (List.any_eq_false.mp hword c hc)

/-- What is read as one of three words is one of them. -/
theorem eq_of_three_words {α : Type} {val a b c : Text} {x y z p : α}
    (h : (if val = a then some x else if val = b then some y else if val = c then some z
      else none) = some p) :
    val = a ∨ val = b ∨ val = c := by
  split at h
  · exact .inl ‹_›
  split at h
  · exact .inr (.inl ‹_›)
  split at h
  · exact .inr (.inr ‹_›)
  · cases h

/-- Three words are panel policies. -/
theorem EdpPolicy.parse_eq_some {val : Text} {p : EdpPolicy} (h : EdpPolicy.parse val = some p) :
    val = "auto".toList ∨ val = "enable".toList ∨ val = "disable".toList :=
  eq_of_three_words h

/-- Three words are GPU preferences. -/
theorem GpuPref.parse_eq_some {val : Text} {p : GpuPref} (h : GpuPref.parse val = some p) :
    val = "auto".toList ∨ val = "igpu".toList ∨ val = "dgpu".toList :=
  eq_of_three_words h

/-- The word of a panel policy may stand in a header. -/
theorem PolicyWords.headerValue_edp (words : PolicyWords) (p : EdpPolicy) :
    HeaderValue (words.edp p) := by
  obtain h | h | h := EdpPolicy.parse_eq_some (words.parse_edp p) <;> rw [h] <;>
    exact headerValue_of_word (by decide) (by decide)

/-- So may that of a GPU preference. -/
theorem PolicyWords.headerValue_gpu (words : PolicyWords) (p : GpuPref) :
    HeaderValue (words.gpu p) := by
  obtain h | h | h := GpuPref.parse_eq_some (words.parse_gpu p) <;> rw [h] <;>
    exact headerValue_of_word (by decide) (by decide)

/-- So may a priority. -/
theorem headerValue_showInt (n : Int) : HeaderValue (Text.showInt n) := by
  refine headerValue_of_forall (Text.showInt_ne_nil n) fun c hc => ?_
  rcases Text.mem_showInt hc with hdigit | rfl
  · have hbounds := Text.toNat_of_isDigit hdigit
    unfold isWhitespace
    simp only [Bool.or_eq_false_iff, Bool.and_eq_false_iff, decide_eq_false_iff_not,
      beq_eq_false_iff_ne]
    omega
  · decide

/-- A description without a line feed and whitespace at its end, after `desc:`. -/
theorem headerValue_desc {desc : Text} (hline : '\n' ∉ desc)
    (hend : Text.TrimmedEnd isWhitespace desc) : HeaderValue ("desc:".toList ++ desc) := by
  refine ⟨⟨by simp, ?_, ?_⟩, ?_⟩
  · intro c hc
    obtain rfl : 'd' = c := by simpa using hc
    decide
  · intro c hc
    rw [Option.mem_def, List.getLast?_append, Option.or_eq_some_iff] at hc
    rcases hc with hc | ⟨-, hc⟩
    · exact hend c hc
    · obtain rfl : ':' = c := by simpa using hc
      decide
  · rw [List.mem_append, not_or]
    exact ⟨by decide, hline⟩

/-- The directives have keys and values of the header. -/
theorem headerPairs_forall (words : PolicyWords) {matchDescs : List Text}
    (hdescs : ∀ desc ∈ matchDescs, '\n' ∉ desc ∧ Text.TrimmedEnd isWhitespace desc)
    (edp : EdpPolicy) (gpu : GpuPref) (priority : Option Int) :
    ∀ kv ∈ headerPairs words matchDescs edp gpu priority, IsKey false kv.1 ∧ HeaderValue kv.2 := by
  have hmatch : IsKey false "match".toList := isKey_iff.mpr (by decide)
  have hedp : IsKey false "edp".toList := isKey_iff.mpr (by decide)
  have hgpuKey : IsKey false "gpu".toList := isKey_iff.mpr (by decide)
  have hpriority : IsKey false "priority".toList := isKey_iff.mpr (by decide)
  intro kv hkv
  simp only [headerPairs, List.mem_append, List.mem_map, List.mem_singleton,
    Option.mem_toList] at hkv
  rcases hkv with ((⟨desc, hdesc, rfl⟩ | rfl) | hgpu) | ⟨n, -, rfl⟩
  · exact ⟨hmatch, headerValue_desc (hdescs desc hdesc).1 (hdescs desc hdesc).2⟩
  · exact ⟨hedp, words.headerValue_edp edp⟩
  · split at hgpu
    · obtain rfl := List.mem_singleton.mp hgpu
      exact ⟨hgpuKey, words.headerValue_gpu gpu⟩
    · cases hgpu
  · exact ⟨hpriority, headerValue_showInt n⟩

/-! ## Reading the header -/

section

variable {key val : Text}

/-- A header line is read back as its pair. -/
theorem parseDirective_directiveLine (hkey : IsKey false key) (hval : IsValue val) :
    parseDirective (directiveLine (key, val)) false = some (key, val) := by
  have hblank : Blank " ".toList := List.all_eq_true.mp (by decide)
  refine parseDirective_of_directive
    ⟨"--@".toList, " ".toList, " ".toList, " ".toList, [], .inr rfl, ?_,
      ⟨hblank, hblank, hblank, fun _ hc => absurd hc List.not_mem_nil⟩, hkey, hval⟩
  have hleader : "--@ ".toList = "--@".toList ++ " ".toList := rfl
  have hequals : " = ".toList = " ".toList ++ ['='] ++ " ".toList := rfl
  simp only [directiveLine_mk, hleader, hequals, List.append_assoc, List.append_nil]

/-- A header line is one line. -/
theorem cleanLine_directiveLine (hkey : IsKey false key) (hval : HeaderValue val) :
    Text.CleanLine (directiveLine (key, val)) := by
  obtain ⟨⟨hne, -, hend⟩, hline⟩ := hval
  refine ⟨?_, ?_⟩
  · have hkeyLine : '\n' ∉ key := fun h => absurd (hkey.chars _ h).1 (by decide)
    simp only [directiveLine_mk, List.mem_append, not_or]
    exact ⟨⟨⟨by decide, hkeyLine⟩, by decide⟩, hline⟩
  · -- The line ends as its value does.
    obtain ⟨c, hc⟩ := Option.ne_none_iff_exists'.mp (mt List.getLast?_eq_none_iff.mp hne)
    rw [directiveLine_mk, List.getLast?_append, hc, Option.some_or]
    rintro ⟨⟩
    exact absurd (hend _ hc) (by decide)

/-- It begins as a directive does. -/
theorem startsDirective_directiveLine (kv : Text × Text) :
    startsDirective (directiveLine kv) = true :=
  rfl

end

/-- The settings of the directives one after another. -/
def ProfileHeader.setAll (debug : Text → Text) (pairs : List (Text × Text)) (h : ProfileHeader) :
    Except Text ProfileHeader :=
  pairs.foldlM (fun h kv => h.set debug kv.1 kv.2) h

section

variable {debug : Text → Text}

/-- The loop sets the directives of the header. -/
theorem parseLines_pairs {pairs : List (Text × Text)}
    (hpairs : ∀ kv ∈ pairs, IsKey false kv.1 ∧ HeaderValue kv.2)
    {h h' : ProfileHeader} (hset : h.setAll debug pairs = .ok h')
    (rest : List Text) :
    parseLines debug h (pairs.map directiveLine ++ rest) = parseLines debug h' rest := by
  induction pairs generalizing h with
  | nil =>
    obtain rfl := Except.ok.inj hset
    rfl
  | cons kv pairs ih =>
    obtain ⟨hkey, hval⟩ := hpairs kv List.mem_cons_self
    rw [ProfileHeader.setAll, List.foldlM_cons] at hset
    cases hkv : h.set debug kv.1 kv.2 with
    | error err => rw [hkv] at hset; cases hset
    | ok h₁ =>
      rw [hkv] at hset
      rw [List.map_cons, List.cons_append, parseLines_directive (startsDirective_directiveLine kv)
        (parseDirective_directiveLine hkey hval.1) hkv]
      exact ih (fun kv hkv => hpairs kv (List.mem_cons_of_mem _ hkv)) hset

/-- The match rules of a header are added one after the other. -/
theorem setAll_matches (debug : Text → Text) (matchDescs : List Text) (h : ProfileHeader) :
    h.setAll debug (matchDescs.map fun desc => ("match".toList, "desc:".toList ++ desc)) =
      .ok { h with matchRules := h.matchRules ++ matchDescs.map fun desc =>
        "desc:".toList ++ desc } := by
  induction matchDescs generalizing h with
  | nil => simp [ProfileHeader.setAll, pure, Except.pure]
  | cons desc matchDescs ih =>
    have hset : h.set debug "match".toList ("desc:".toList ++ desc) =
        .ok { h with matchRules := h.matchRules ++ ["desc:".toList ++ desc] } := by
      unfold ProfileHeader.set
      rw [if_pos rfl]
    rw [List.map_cons, ProfileHeader.setAll, List.foldlM_cons, hset]
    refine (ih _).trans ?_
    rw [List.map_cons, List.append_assoc, List.singleton_append]

/-- The directives of the header set what the profile was captured with. -/
theorem setAll_headerPairs (words : PolicyWords) (matchDescs : List Text) (edp : EdpPolicy)
    (gpu : GpuPref) {priority : Option Int}
    (hpriority : ∀ p ∈ priority, -2 ^ 63 ≤ p ∧ p ≤ 2 ^ 63 - 1) :
    ProfileHeader.setAll debug (headerPairs words matchDescs edp gpu priority) {} =
      .ok
        { matchRules := matchDescs.map fun desc => "desc:".toList ++ desc
          edp := edp
          gpu := gpu
          priority := priority } := by
  have hedp : ∀ h : ProfileHeader, h.set debug "edp".toList (words.edp edp) = .ok
      { h with edp := edp } := by
    intro h
    unfold ProfileHeader.set
    simp +decide only [if_true, if_false, words.parse_edp]
  have hgpu : ∀ h : ProfileHeader, h.set debug "gpu".toList (words.gpu gpu) = .ok
      { h with gpu := gpu } := by
    intro h
    unfold ProfileHeader.set
    simp +decide only [if_true, if_false, words.parse_gpu]
  have hnumber : ∀ (h : ProfileHeader), ∀ p ∈ priority,
      h.set debug "priority".toList (Text.showInt p) = .ok { h with priority := some p } := by
    intro h p hp
    unfold ProfileHeader.set parseI64
    simp +decide only [if_true, if_false, Text.parseInt_showInt (hpriority p hp)]
  -- No directive is written for the policy a profile has by itself.
  have hgpus : ∀ h : ProfileHeader, h.gpu = .auto →
      (if gpu ≠ .auto then [("gpu".toList, words.gpu gpu)] else []).foldlM
        (fun h kv => h.set debug kv.1 kv.2) h = .ok { h with gpu := gpu } := by
    intro h hauto
    by_cases hne : gpu = .auto
    · rw [if_neg (not_not.mpr hne), hne, ← hauto]
      rfl
    · rw [if_pos hne, List.foldlM_cons, hgpu]
      rfl
  have hmatches := setAll_matches debug matchDescs {}
  rw [ProfileHeader.setAll] at hmatches
  unfold ProfileHeader.setAll headerPairs
  rw [List.foldlM_append, List.foldlM_append, List.foldlM_append, hmatches]
  simp only [bind, Except.bind, List.foldlM_cons, List.foldlM_nil, hedp, pure, Except.pure]
  rw [hgpus _ rfl]
  dsimp only
  cases hp : priority with
  | none => rfl
  | some p =>
    simp only [Option.toList_some, List.map_cons, List.map_nil, List.foldlM_cons,
      List.foldlM_nil, bind, Except.bind, hnumber _ p hp, pure, Except.pure, List.nil_append]

end

/-! ## The text -/

section

variable {F : Type} {fixed2 : F → Text} {debug : Text → Text}

/-- The line of an enabled monitor goes behind what is there. -/
theorem enabledLine_extends (acc : Text × List Text) (m : Profiles.MonitorSnapshot F) :
    acc.1 ++ "hl.monitor(".toList <+: (enabledLine fixed2 debug acc m).1 := by
  unfold enabledLine
  simp only [List.append_assoc]
  rw [List.prefix_append_right_inj]
  have hcall : "hl.monitor(".toList <+: "hl.monitor(\x7b output = \"".toList := by decide
  exact hcall.trans (List.prefix_append _ _)

/-- So does that of a disabled one. -/
theorem disabledLine_extends (acc : Text × List Text) (m : Profiles.MonitorSnapshot F) :
    acc.1 <+: (disabledLine debug acc m).1 := by
  unfold disabledLine
  simp only [List.append_assoc]
  exact List.prefix_append _ _

/-- A loop whose steps add to a text adds to it. -/
theorem foldl_extends {α : Type} {step : Text × List Text → α → Text × List Text}
    (hstep : ∀ acc a, acc.1 <+: (step acc a).1) (items : List α) (acc : Text × List Text) :
    acc.1 <+: (items.foldl step acc).1 := by
  induction items generalizing acc with
  | nil => exact List.prefix_refl _
  | cons a items ih => exact (hstep acc a).trans (ih _)

/-- The lines before the body. -/
def headLines (words : PolicyWords) (name date : Text) (matchDescs : List Text) (edp : EdpPolicy)
    (gpu : GpuPref) (priority : Option Int) : List Text :=
  ("-- Profile: ".toList ++ name ++ " — captured from the live layout (".toList ++ date ++
    ").".toList) ::
    "--".toList :: (headerPairs words matchDescs edp gpu priority).map directiveLine ++ [[]]

/-- The text is the lines of the header, and a body that starts with a monitor. -/
theorem renderProfileLua_eq (fixed2 : F → Text) (debug : Text → Text) (words : PolicyWords)
    (name date : Text) {monitors : List (Profiles.MonitorSnapshot F)} {layout : CaptureLayout F}
    (hlayout : captureLayout monitors = .ok layout) (hne : layout.enabled ≠ [])
    (edp : EdpPolicy) (gpu : GpuPref) (priority : Option Int) :
    ∃ more warnings, renderProfileLua fixed2 debug words name date monitors edp gpu priority =
      .ok ((headLines words name date layout.matchDescs edp gpu priority).flatMap
        (fun line => line ++ ['\n']) ++ ("hl.monitor(".toList ++ more), warnings) := by
  obtain ⟨m, enabled, henabled⟩ := List.exists_cons_of_ne_nil hne
  unfold renderProfileLua
  rw [hlayout]
  dsimp only
  rw [henabled, List.foldl_cons, renderDirectives_eq]
  generalize hout : "-- Profile: ".toList ++ name ++
    " — captured from the live layout (".toList ++ date ++
      ").\n--\n".toList ++ ((headerPairs words layout.matchDescs edp gpu priority).map
        directiveLine).flatMap (fun line => line ++ ['\n']) ++ ['\n'] = out
  have hhead : (headLines words name date layout.matchDescs edp gpu priority).flatMap
      (fun line => line ++ ['\n']) = out := by
    rw [← hout]
    simp [headLines]
  rw [hhead]
  have hbody : out ++ "hl.monitor(".toList <+:
      (layout.disabled.foldl (disabledLine debug) (enabled.foldl (enabledLine fixed2 debug)
        (enabledLine fixed2 debug (out, []) m))).1 :=
    (enabledLine_extends (out, []) m).trans <|
      (foldl_extends (fun acc a => (List.prefix_append _ _).trans (enabledLine_extends acc a))
        enabled _).trans <|
        foldl_extends disabledLine_extends layout.disabled _
  obtain ⟨more, hmore⟩ := hbody
  rw [← hmore, List.append_assoc, List.append_assoc]
  exact ⟨_, _, rfl⟩

/-- The lines before the body stand as they are. -/
theorem cleanLine_headLines (words : PolicyWords) {name date : Text} (hname : '\n' ∉ name)
    (hdate : '\n' ∉ date) {matchDescs : List Text}
    (hdescs : ∀ desc ∈ matchDescs, '\n' ∉ desc ∧ Text.TrimmedEnd isWhitespace desc)
    (edp : EdpPolicy) (gpu : GpuPref) (priority : Option Int) :
    ∀ line ∈ headLines words name date matchDescs edp gpu priority, Text.CleanLine line := by
  intro line hline
  simp only [headLines, List.cons_append, List.mem_cons, List.mem_append, List.mem_map,
    List.not_mem_nil, or_false] at hline
  rcases hline with rfl | rfl | ⟨kv, hkv, rfl⟩ | rfl
  · refine ⟨?_, ?_⟩
    · simp only [List.mem_append, not_or]
      exact ⟨⟨⟨⟨by decide, hname⟩, by decide⟩, hdate⟩, by decide⟩
    · -- It ends with a full stop.
      rw [List.getLast?_append, show ").".toList.getLast? = some '.' from rfl, Option.some_or]
      decide
  · exact ⟨by decide, by decide⟩
  · obtain ⟨hkey, hval⟩ := headerPairs_forall words hdescs edp gpu priority kv hkv
    exact cleanLine_directiveLine hkey hval
  · exact ⟨by decide, by decide⟩

/-- The parser reads the header, and stops at the body. -/
theorem parseLines_headLines (debug : Text → Text) (words : PolicyWords) (name date : Text)
    {matchDescs : List Text}
    (hdescs : ∀ desc ∈ matchDescs, '\n' ∉ desc ∧ Text.TrimmedEnd isWhitespace desc)
    (edp : EdpPolicy) (gpu : GpuPref) {priority : Option Int}
    (hpriority : ∀ p ∈ priority, -2 ^ 63 ≤ p ∧ p ≤ 2 ^ 63 - 1) (more : Text) (rest : List Text) :
    parseLines debug {} (headLines words name date matchDescs edp gpu priority ++
        ("hl.monitor(".toList ++ more) :: rest) =
      .ok
        { matchRules := matchDescs.map fun desc => "desc:".toList ++ desc
          edp := edp
          gpu := gpu
          priority := priority } := by
  rw [headLines, List.cons_append, List.cons_append, List.cons_append, List.cons_append,
    parseLines_comment rfl rfl, parseLines_comment rfl rfl, List.append_assoc,
    parseLines_pairs (headerPairs_forall words hdescs edp gpu priority)
      (setAll_headerPairs words matchDescs edp gpu hpriority), List.singleton_append,
    parseLines_comment rfl rfl, parseLines_body rfl rfl]

end

/-! ## The captured monitors -/

section

variable {F : Type}

/-- The monitor is enabled, and stays when the internal panels leave where any enabled monitor
does. -/
def Profiles.MonitorSnapshot.stays (monitors : List (Profiles.MonitorSnapshot F))
    (m : Profiles.MonitorSnapshot F) : Bool :=
  !m.disabled && (!m.isEdp || monitors.all fun n => n.disabled || n.isEdp)

/-- The order of the monitors is transitive. -/
theorem Profiles.MonitorSnapshot.le_trans (a b c : Profiles.MonitorSnapshot F) (hab : a.le b = true)
    (hbc : b.le c = true) :
    a.le c = true := by
  simp only [Profiles.MonitorSnapshot.le, Bool.or_eq_true, Bool.and_eq_true, decide_eq_true_eq] at *
  omega

/-- And it is total. -/
theorem Profiles.MonitorSnapshot.le_total (a b : Profiles.MonitorSnapshot F) :
    (a.le b || b.le a) = true := by
  simp only [Profiles.MonitorSnapshot.le, Bool.or_eq_true, Bool.and_eq_true, decide_eq_true_eq]
  omega

/-- The layout of monitors with an enabled one: what it matches on are the monitors that stay, from
left to right. -/
theorem captureLayout_spec {monitors : List (Profiles.MonitorSnapshot F)}
    (henabled : ∃ m ∈ monitors, m.disabled = false) :
    ∃ layout, captureLayout monitors = .ok layout ∧ layout.enabled ≠ [] ∧
      ∃ shown : List (Profiles.MonitorSnapshot F),
        shown.Perm (monitors.filter (Profiles.MonitorSnapshot.stays monitors)) ∧
        shown.Pairwise (fun m n => m.le n = true) ∧ layout.matchDescs = shown.map fun m =>
          m.description := by
  have hne : monitors.filter (fun m => !m.disabled) ≠ [] := by
    obtain ⟨m, hm, hdisabled⟩ := henabled
    exact List.ne_nil_of_mem (List.mem_filter.mpr ⟨hm, by simp [hdisabled]⟩)
  unfold captureLayout
  rw [if_neg (by simpa using hne)]
  generalize hsorted : (monitors.filter fun m => !m.disabled).mergeSort
    Profiles.MonitorSnapshot.le = sorted
  -- Sorting only permutes the enabled monitors.
  have hperm : sorted.Perm (monitors.filter fun m => !m.disabled) :=
    hsorted ▸ List.mergeSort_perm _ _
  have hpairwise : sorted.Pairwise fun m n => m.le n = true :=
    hsorted ▸ List.pairwise_mergeSort Profiles.MonitorSnapshot.le_trans
      Profiles.MonitorSnapshot.le_total _
  refine ⟨_, rfl, fun hnil => hne (List.nil_perm.mp (hnil ▸ hperm)), ?_⟩
  have hstays : (monitors.filter fun m => !m.disabled).filter (fun m =>
      !m.isEdp || monitors.all fun n => n.disabled || n.isEdp) =
        monitors.filter (Profiles.MonitorSnapshot.stays monitors) := by
    rw [List.filter_filter]
    exact List.filter_congr fun m _ => Bool.and_comm _ _
  by_cases hexternals : (sorted.filter fun m => !m.isEdp) = []
  · -- No external is enabled: all the enabled ones are matched.
    have hall : (monitors.all fun n => n.disabled || n.isEdp) = true := by
      refine List.all_eq_true.mpr fun n hn => ?_
      by_contra hnot
      rw [Bool.not_eq_true, Bool.or_eq_false_iff] at hnot
      have hmem : n ∈ sorted := hperm.mem_iff.mpr (List.mem_filter.mpr ⟨hn, by simp [hnot.1]⟩)
      have hedp := List.filter_eq_nil_iff.mp hexternals n hmem
      simp [hnot.2] at hedp
    refine ⟨sorted, ?_, hpairwise, by simp [hexternals]⟩
    rw [← hstays]
    simpa [hall] using hperm
  · -- The externals are, whatever the enabled panels.
    have hnotAll : (monitors.all fun n => n.disabled || n.isEdp) = false := by
      obtain ⟨n, hn⟩ := List.exists_mem_of_ne_nil _ hexternals
      obtain ⟨hmem, hedp⟩ := List.mem_filter.mp hn
      obtain ⟨hmonitor, henabled⟩ := List.mem_filter.mp (hperm.mem_iff.mp hmem)
      refine List.all_eq_false.mpr ⟨n, hmonitor, ?_⟩
      simp only [Bool.not_eq_true'] at hedp henabled
      simp [hedp, henabled]
    refine ⟨sorted.filter fun m => !m.isEdp, ?_, hpairwise.filter _, by simp [hexternals]⟩
    rw [← hstays]
    simpa [hnotAll] using hperm.filter fun m => !m.isEdp

end

/-! ## The round trip -/

/-- A captured profile parses back. With an enabled monitor, and a name, a date and descriptions on
one line, the descriptions without whitespace at their ends, the rendered text is a profile without
warnings or hooks. It has the policies and the priority it was captured with, or the number of its
matches, and matches on the descriptions of the enabled externals from left to right, or of all
enabled monitors where none is external.
-/
theorem parseProfile_renderProfileLua {F : Type} (fixed2 : F → Text) (debug : Text → Text)
    (words : PolicyWords) {name date : Text} (hname : '\n' ∉ name) (hdate : '\n' ∉ date)
    {monitors : List (Profiles.MonitorSnapshot F)} (henabled : ∃ m ∈ monitors, m.disabled = false)
    (hdescs : ∀ m ∈ monitors, '\n' ∉ m.description ∧ Text.TrimmedEnd isWhitespace m.description)
    (edp : EdpPolicy) (gpu : GpuPref) {priority : Option Int}
    (hpriority : ∀ p ∈ priority, -2 ^ 63 ≤ p ∧ p ≤ 2 ^ 63 - 1) :
    ∃ text warnings profile,
      renderProfileLua fixed2 debug words name date monitors edp gpu priority =
        .ok (text, warnings) ∧
      parseProfile debug name .lua text = .ok (profile, []) ∧
      profile.edp = edp ∧ profile.gpu = gpu ∧ profile.hooks = [] ∧
      profile.priority = priority.getD profile.matchRules.length ∧
      (∃ shown : List (Profiles.MonitorSnapshot F),
        shown.Perm (monitors.filter (Profiles.MonitorSnapshot.stays monitors)) ∧
        shown.Pairwise (fun m n => m.le n = true) ∧
        profile.matchRules = shown.map fun m => "desc:".toList ++ m.description) ∧
      ∀ rule ∈ profile.matchRules, ∃ m ∈ monitors, m.disabled = false ∧
        rule = "desc:".toList ++ m.description ∧
        ((∃ n ∈ monitors, n.disabled = false ∧ n.isEdp = false) → m.isEdp = false) := by
  obtain ⟨layout, hlayout, hne, shown, hperm, hpairwise, hmatch⟩ := captureLayout_spec henabled
  obtain ⟨more, warnings, hrender⟩ :=
    renderProfileLua_eq fixed2 debug words name date hlayout hne edp gpu
    priority
  have hstays : ∀ m ∈ shown,
      m ∈ monitors ∧ Profiles.MonitorSnapshot.stays monitors m = true := fun m hm =>
    List.mem_filter.mp (hperm.mem_iff.mp hm)
  have hlayoutDescs : ∀ desc ∈ layout.matchDescs, '\n' ∉ desc ∧
      Text.TrimmedEnd isWhitespace desc := by
    intro desc hdesc
    rw [hmatch] at hdesc
    obtain ⟨m, hm, rfl⟩ := List.mem_map.mp hdesc
    exact hdescs m (hstays m hm).1
  have hshown : shown ≠ [] := by
    rintro rfl
    have hnone := List.filter_eq_nil_iff.mp (List.nil_perm.mp hperm)
    obtain ⟨m, hm, hdisabled⟩ := henabled
    -- The enabled monitor stays, or an external one does.
    by_cases hall : (monitors.all fun n => n.disabled || n.isEdp) = true
    · exact hnone m hm (by simp [Profiles.MonitorSnapshot.stays, hdisabled, hall])
    · obtain ⟨n, hn, hexternal⟩ := List.all_eq_false.mp (Bool.not_eq_true _ ▸ hall)
      rw [Bool.not_eq_true, Bool.or_eq_false_iff] at hexternal
      exact hnone n hn (by simp [Profiles.MonitorSnapshot.stays, hexternal.1, hexternal.2])
  obtain ⟨more', rest, hlines⟩ := Text.lines_cons_of_start (by decide : "hl.monitor(".toList ≠ [])
    (by decide) (by decide) more
  have hparse :=
    parseLines_headLines debug words name date hlayoutDescs edp gpu hpriority more' rest
  have hrules : layout.matchDescs.map (fun desc => "desc:".toList ++ desc) =
      shown.map fun m => "desc:".toList ++ m.description := by
    rw [hmatch, List.map_map]
    rfl
  rw [hrules] at hparse
  refine ⟨_, warnings,
    { name := name
      format := .lua
      matchRules := shown.map fun m => "desc:".toList ++ m.description
      edp := edp
      gpu := gpu
      hooks := []
      priority := priority.getD (shown.map fun m => "desc:".toList ++ m.description).length },
    hrender, ?_, rfl, rfl, rfl, rfl, ⟨shown, hperm, hpairwise, rfl⟩, ?_⟩
  · unfold parseProfile
    rw [Text.lines_unlines (cleanLine_headLines words hname hdate hlayoutDescs edp gpu priority),
      hlines, hparse]
    dsimp only
    rw [if_neg (by simpa using hshown)]
  · intro rule hrule
    obtain ⟨m, hm, rfl⟩ := List.mem_map.mp hrule
    obtain ⟨hmem, hstay⟩ := hstays m hm
    simp only [Profiles.MonitorSnapshot.stays, Bool.and_eq_true, Bool.not_eq_true', Bool.or_eq_true,
      List.all_eq_true]
      at hstay
    refine ⟨m, hmem, hstay.1, rfl, ?_⟩
    rintro ⟨n, hn, hdisabled, hedp⟩
    rcases hstay.2 with hm | hall
    · exact hm
    · have hn := hall n hn
      simp [hdisabled, hedp] at hn

/-- The words of the policies as hand-written profiles have them. -/
def policyWords : PolicyWords where
  edp
    | .auto => "auto".toList
    | .enable => "enable".toList
    | .disable => "disable".toList
  gpu p := p.asStr.toList
  parse_edp p := by cases p <;> decide
  parse_gpu p := by cases p <;> decide

/-- A panel and a monitor left of it, with rates in whole numbers. -/
def deskMonitors : List (Profiles.MonitorSnapshot Nat) :=
  [{ name := "eDP-2".toList, description := "BOE 0x0BC9".toList, width := 2560, height := 1600,
     refresh := 165, x := 3440, y := 0, scale := 1, transform := 0, disabled := false },
    { name := "DP-1".toList, description := "Dell A = #1".toList, width := 3440, height := 1440,
      refresh := 60, x := 0, y := 0, scale := 1, transform := 3, disabled := false }]

/-- The rule on a desk with two monitors. -/
theorem parseProfile_renderProfileLua_desk :
    ∃ text warnings profile,
      renderProfileLua (fun v : Nat => Text.showInt v ++ ".00".toList)
        (fun val => ['"'] ++ val ++ ['"'])
        policyWords "desk".toList "2026-07-07".toList deskMonitors .auto .dgpu none =
          .ok (text, warnings) ∧
      parseProfile (fun val => ['"'] ++ val ++ ['"']) "desk".toList .lua text = .ok (profile, []) ∧
      profile.gpu = .dgpu ∧ profile.hooks = [] := by
  have hname : '\n' ∉ "desk".toList := by decide
  have hdate : '\n' ∉ "2026-07-07".toList := by decide
  have henabled : ∃ m ∈ deskMonitors, m.disabled = false := ⟨_, List.mem_cons_self, rfl⟩
  have hdescs : ∀ m ∈ deskMonitors, '\n' ∉ m.description ∧
      Text.TrimmedEnd isWhitespace m.description := by
    simp only [deskMonitors, List.forall_mem_cons]
    refine ⟨⟨by decide, fun c hc => ?_⟩, ⟨by decide, fun c hc => ?_⟩, by simp⟩
    · obtain rfl : '9' = c := by simpa using hc
      decide
    · obtain rfl : '1' = c := by simpa using hc
      decide
  have hpriority : ∀ p ∈ (none : Option Int), -2 ^ 63 ≤ p ∧ p ≤ 2 ^ 63 - 1 := by simp
  obtain ⟨text, warnings, profile, hrender, hparse, -, hgpu, hhooks, -⟩ :=
    parseProfile_renderProfileLua (fun v : Nat => Text.showInt v ++ ".00".toList)
      (fun val => ['"'] ++ val ++ ['"']) policyWords hname hdate henabled hdescs
      .auto .dgpu hpriority
  exact ⟨text, warnings, profile, hrender, hparse, hgpu, hhooks⟩

end Hyprstate
