import Hyprstate.Config.Directive
import Hyprstate.Fsm.Power
import Hyprstate.Text.Decimal
import Mathlib.Algebra.Group.Int.Defs
import Mathlib.Algebra.Group.Nat.Defs

/-!
# power.conf

`parse_power_conf` of `crates/hyprstate-fsm/src/power.rs`. Each of the eleven settings is the last
valid value of its key (`lastValidConf`), and there is a warning for each line that is not used
(`parsePowerConf_spec`). How Rust prints a text in quotes is the parameter `debug`.
-/

namespace Hyprstate

/-- `str::parse::<i64>`. -/
def parseI64 (val : Text) : Option Int := Text.parseInt (-2 ^ 63) (2 ^ 63 - 1) val

/-- `clamp`, and the cast to an unsigned type that holds both bounds. -/
def clampTo (lo hi : Nat) (n : Int) : Nat := (max (lo : Int) (min n hi)).toNat

/-- `FromStr` of a profile on a text. -/
def PowerProfile.parseText (val : Text) : Option PowerProfile :=
  PowerProfile.parse (String.ofList val)

namespace LidMode

/-- The word of a lid mode. -/
def asStr : LidMode → String
  | present => "present"
  | absent => "absent"

/-- The lid mode of a word. -/
def parse (val : Text) : Option LidMode :=
  if val = "present".toList then some present
  else if val = "absent".toList then some absent
  else none

end LidMode

namespace LidAcPolicy

/-- The word of a lid-ac policy. -/
def asStr : LidAcPolicy → String
  | suspend => "suspend"
  | defer => "defer"

/-- The lid-ac policy of a word. -/
def parse (val : Text) : Option LidAcPolicy :=
  if val = "suspend".toList then some suspend
  else if val = "defer".toList then some defer
  else none

end LidAcPolicy

namespace KbdMode

/-- The word of a keyboard mode. -/
def asStr : KbdMode → String
  | auto => "auto"
  | off => "off"

/-- The keyboard mode of a word. -/
def parse (val : Text) : Option KbdMode :=
  if val = "auto".toList then some auto
  else if val = "off".toList then some off
  else none

end KbdMode

/-- Upper bound of `lid-grace`. -/
def maxLidGraceSecs : Nat := 600

/-- Upper bound of `kbd-idle`. -/
def maxKbdIdleSecs : Nat := 600

section

variable (debug : Text → Text)

/-- A value that was read is stored; another one is warned of. -/
def assign {α : Type} (value : Option α) (store : α → PowerConf) (warning : Text) :
    Except Text PowerConf :=
  match value with
  | some a => .ok (store a)
  | none => .error warning

/-- A value of the policy map. -/
def assignProfile (key val : Text) (old : PowerProfile) (store : PowerProfile → PowerConf) :
    Except Text PowerConf :=
  assign (PowerProfile.parseText val) store
    (key ++ " must be one of power-saver|balanced|performance, got ".toList ++ debug val ++
      " — using ".toList ++ old.asStr.toList)

/-- What the loop of `parse_power_conf` does with a directive: the new settings, or a warning. -/
def PowerConf.set (conf : PowerConf) (key val : Text) : Except Text PowerConf :=
  if key = "lid".toList then
    assign (LidMode.parse val) (fun m => { conf with lid := m })
      ("lid must be present|absent, got ".toList ++ debug val ++ " — using ".toList ++
        conf.lid.asStr.toList)
  else if key = "battery-low-percent".toList then
    assign (parseI64 val) (fun n => { conf with batteryLowPct := clampTo 1 50 n })
      ("bad battery-low-percent ".toList ++ debug val)
  else if key = "lid-grace".toList then
    assign (parseI64 val) (fun n => { conf with lidGraceSecs := clampTo 0 maxLidGraceSecs n })
      ("lid-grace must be seconds (0 = suspend at once), got ".toList ++ debug val ++
        "; using ".toList ++ Text.showInt conf.lidGraceSecs)
  else if key = "lid-ac".toList then
    assign (LidAcPolicy.parse val) (fun p => { conf with lidAc := p })
      ("lid-ac must be suspend|defer, got ".toList ++ debug val ++ "; using ".toList ++
        conf.lidAc.asStr.toList)
  else if key = "kbd".toList then
    assign (KbdMode.parse val) (fun m => { conf with kbd := m })
      ("kbd must be auto|off, got ".toList ++ debug val ++ "; using ".toList ++
        conf.kbd.asStr.toList)
  else if key = "kbd-idle".toList then
    assign (parseI64 val) (fun n => { conf with kbdIdleSecs := clampTo 1 maxKbdIdleSecs n })
      ("kbd-idle must be seconds, got ".toList ++ debug val ++ "; using ".toList ++
        Text.showInt conf.kbdIdleSecs)
  else if key = "kbd-dark-lux".toList then
    assign (parseI64 val) (fun n => { conf with kbdDarkLux := clampTo 0 1000000 n })
      ("kbd-dark-lux must be a sensor reading, got ".toList ++ debug val ++ "; using ".toList ++
        Text.showInt conf.kbdDarkLux)
  else if key = "docked-ac".toList then
    assignProfile debug key val conf.policy.dockedAc fun p =>
      { conf with policy := { conf.policy with dockedAc := p } }
  else if key = "ac".toList then
    assignProfile debug key val conf.policy.ac fun p =>
      { conf with policy := { conf.policy with ac := p } }
  else if key = "battery".toList then
    assignProfile debug key val conf.policy.battery fun p =>
      { conf with policy := { conf.policy with battery := p } }
  else if key = "battery-low".toList then
    assignProfile debug key val conf.policy.batteryLow fun p =>
      { conf with policy := { conf.policy with batteryLow := p } }
  else .error ("unknown directive ".toList ++ debug key)

/-- One line of the loop, on the settings and the warnings. -/
def confLine (acc : PowerConf × List Text) (line : Text) : PowerConf × List Text :=
  if "#@".toList.isPrefixOf line then
    match parseDirective line true with
    | none => (acc.1, acc.2 ++ ["ignoring malformed directive: ".toList ++ debug line])
    | some (key, val) =>
      match acc.1.set debug key val with
      | .ok conf => (conf, acc.2)
      | .error warning => (acc.1, acc.2 ++ [warning])
  else acc

/-- `parse_power_conf`: the settings, and the warnings. -/
def parsePowerConf (text : Text) : PowerConf × List Text :=
  (Text.lines text).foldl (confLine debug) ({}, [])

end

/-! ## The last valid value of a key -/

/-- The directive on a line. -/
def confDirective (line : Text) : Option (Text × Text) :=
  if "#@".toList.isPrefixOf line then parseDirective line true else none

/-- What a line has of a key: a value that is read as one of its type. -/
def readLine {α : Type} (key : Text) (read : Text → Option α) (line : Text) : Option α :=
  (confDirective line).bind fun kv => if kv.1 = key then read kv.2 else none

/-- The last value of a key that is of its type, and the default where there is none. -/
def lastValid {α : Type} (text : Text) (key : String) (read : Text → Option α) (default : α) : α :=
  (((Text.lines text).filterMap (readLine key.toList read)).getLast?).getD default

/-- Every setting by its last valid value. -/
def lastValidConf (text : Text) : PowerConf where
  policy :=
    { dockedAc := lastValid text "docked-ac" PowerProfile.parseText .balanced
      ac := lastValid text "ac" PowerProfile.parseText .balanced
      battery := lastValid text "battery" PowerProfile.parseText .powerSaver
      batteryLow := lastValid text "battery-low" PowerProfile.parseText .powerSaver }
  batteryLowPct :=
    lastValid text "battery-low-percent" (fun val => (parseI64 val).map (clampTo 1 50)) 15
  lid := lastValid text "lid" LidMode.parse .present
  lidGraceSecs := lastValid text "lid-grace" (fun val => (parseI64 val).map (clampTo 0 600)) 30
  lidAc := lastValid text "lid-ac" LidAcPolicy.parse .suspend
  kbd := lastValid text "kbd" KbdMode.parse .auto
  kbdIdleSecs := lastValid text "kbd-idle" (fun val => (parseI64 val).map (clampTo 1 600)) 10
  kbdDarkLux := lastValid text "kbd-dark-lux" (fun val => (parseI64 val).map (clampTo 0 1000000)) 10

/-- The keys, and whether a text is a value of their type. -/
def confKeys : List (String × (Text → Bool)) :=
  [("docked-ac", fun val => (PowerProfile.parseText val).isSome),
    ("ac", fun val => (PowerProfile.parseText val).isSome),
    ("battery", fun val => (PowerProfile.parseText val).isSome),
    ("battery-low", fun val => (PowerProfile.parseText val).isSome),
    ("battery-low-percent", fun val => (parseI64 val).isSome),
    ("lid", fun val => (LidMode.parse val).isSome),
    ("lid-grace", fun val => (parseI64 val).isSome),
    ("lid-ac", fun val => (LidAcPolicy.parse val).isSome),
    ("kbd", fun val => (KbdMode.parse val).isSome),
    ("kbd-idle", fun val => (parseI64 val).isSome),
    ("kbd-dark-lux", fun val => (parseI64 val).isSome)]

/-- The value is of its key's type. -/
def ofKeyType (key val : Text) : Bool := confKeys.any fun k => decide (key = k.1.toList) && k.2 val

/-- A line that is no directive though it starts as one, or has an unknown key or a value of another
type. -/
def unusable (line : Text) : Bool :=
  "#@".toList.isPrefixOf line &&
    match parseDirective line true with
    | none => true
    | some (key, val) => !ofKeyType key val

/-- The lines with a directive of the key. -/
def keyLines (text key : Text) : List Text :=
  (Text.lines text).filter fun line => decide ((confDirective line).map Prod.fst = some key)

/-! ## One directive -/

/-- A setting after a directive: the value of its key, where it is read. -/
def keyed {α : Type} (key : String) (read : Text → Option α) (k val : Text) (old : α) : α :=
  if k = key.toList then (read val).getD old else old

/-- The settings after a directive: it sets that of its key, and no other one. -/
def PowerConf.updated (conf : PowerConf) (k val : Text) : PowerConf where
  policy :=
    { dockedAc := keyed "docked-ac" PowerProfile.parseText k val conf.policy.dockedAc
      ac := keyed "ac" PowerProfile.parseText k val conf.policy.ac
      battery := keyed "battery" PowerProfile.parseText k val conf.policy.battery
      batteryLow := keyed "battery-low" PowerProfile.parseText k val conf.policy.batteryLow }
  batteryLowPct :=
    keyed "battery-low-percent" (fun val => (parseI64 val).map (clampTo 1 50)) k val
      conf.batteryLowPct
  lid := keyed "lid" LidMode.parse k val conf.lid
  lidGraceSecs := keyed "lid-grace" (fun val => (parseI64 val).map (clampTo 0 600)) k val
    conf.lidGraceSecs
  lidAc := keyed "lid-ac" LidAcPolicy.parse k val conf.lidAc
  kbd := keyed "kbd" KbdMode.parse k val conf.kbd
  kbdIdleSecs := keyed "kbd-idle" (fun val => (parseI64 val).map (clampTo 1 600)) k val
    conf.kbdIdleSecs
  kbdDarkLux :=
    keyed "kbd-dark-lux" (fun val => (parseI64 val).map (clampTo 0 1000000)) k val conf.kbdDarkLux

/-- A value of its key's type is stored; anything else is warned of, and changes nothing. -/
def PowerConf.Sets (conf : PowerConf) (k val : Text) (result : Except Text PowerConf) : Prop :=
  match result with
  | .ok conf' => conf' = conf.updated k val ∧ ofKeyType k val = true
  | .error _ => conf.updated k val = conf ∧ ofKeyType k val = false

/-- A key that is not the field's own leaves the field. -/
theorem keyed_toList {α : Type} (key key' : String) (read : Text → Option α) (val : Text)
    (old : α) :
    keyed key read key'.toList val old = if key' = key then (read val).getD old else old := by
  simp only [keyed, String.toList_inj]

/-- A value is of its key's type where some key says so. -/
theorem ofKeyType_toList (key : String) (val : Text) :
    ofKeyType key.toList val = confKeys.any fun k => decide (key = k.1) && k.2 val := by
  simp only [ofKeyType, String.toList_inj]

/-- One key of the chain: its value is stored or warned of, and another key goes on. -/
theorem ite_assign_sets {α : Type} {conf : PowerConf} {k val : Text} {key : String}
    {value : Option α} {store : α → PowerConf} {warning : Text} {rest : Except Text PowerConf}
    (hupdated : conf.updated key.toList val = (value.map store).getD conf)
    (htype : (confKeys.any fun kind => decide (key = kind.1) && kind.2 val) = value.isSome)
    (hrest : k ≠ key.toList → conf.Sets k val rest) :
    conf.Sets k val (if k = key.toList then assign value store warning else rest) := by
  by_cases hk : k = key.toList
  · subst hk
    rw [if_pos rfl]
    rw [← ofKeyType_toList] at htype
    cases value with
    | none => exact ⟨hupdated, htype⟩
    | some a => exact ⟨hupdated.symm, htype⟩
  · rw [if_neg hk]
    exact hrest hk

/-- To set a key sets what the key names. -/
theorem PowerConf.set_sets (debug : Text → Text) (conf : PowerConf) (k val : Text) :
    conf.Sets k val (conf.set debug k val) := by
  unfold PowerConf.set assignProfile
  refine ite_assign_sets ?_ (by simp [confKeys]) fun hLid => ?_
  · simp only [PowerConf.updated, keyed_toList, String.reduceEq, if_true, if_false]
    cases LidMode.parse val <;> rfl
  refine ite_assign_sets ?_ (by simp [confKeys]) fun hPercent => ?_
  · simp only [PowerConf.updated, keyed_toList, String.reduceEq, if_true, if_false]
    cases parseI64 val <;> rfl
  refine ite_assign_sets ?_ (by simp [confKeys]) fun hGrace => ?_
  · simp only [PowerConf.updated, keyed_toList, String.reduceEq, if_true, if_false]
    cases parseI64 val <;> rfl
  refine ite_assign_sets ?_ (by simp [confKeys]) fun hLidAc => ?_
  · simp only [PowerConf.updated, keyed_toList, String.reduceEq, if_true, if_false]
    cases LidAcPolicy.parse val <;> rfl
  refine ite_assign_sets ?_ (by simp [confKeys]) fun hKbd => ?_
  · simp only [PowerConf.updated, keyed_toList, String.reduceEq, if_true, if_false]
    cases KbdMode.parse val <;> rfl
  refine ite_assign_sets ?_ (by simp [confKeys]) fun hIdle => ?_
  · simp only [PowerConf.updated, keyed_toList, String.reduceEq, if_true, if_false]
    cases parseI64 val <;> rfl
  refine ite_assign_sets ?_ (by simp [confKeys]) fun hLux => ?_
  · simp only [PowerConf.updated, keyed_toList, String.reduceEq, if_true, if_false]
    cases parseI64 val <;> rfl
  refine ite_assign_sets ?_ (by simp [confKeys]) fun hDockedAc => ?_
  · simp only [PowerConf.updated, keyed_toList, String.reduceEq, if_true, if_false]
    cases PowerProfile.parseText val <;> rfl
  refine ite_assign_sets ?_ (by simp [confKeys]) fun hAc => ?_
  · simp only [PowerConf.updated, keyed_toList, String.reduceEq, if_true, if_false]
    cases PowerProfile.parseText val <;> rfl
  refine ite_assign_sets ?_ (by simp [confKeys]) fun hBattery => ?_
  · simp only [PowerConf.updated, keyed_toList, String.reduceEq, if_true, if_false]
    cases PowerProfile.parseText val <;> rfl
  refine ite_assign_sets ?_ (by simp [confKeys]) fun hLow => ?_
  · simp only [PowerConf.updated, keyed_toList, String.reduceEq, if_true, if_false]
    cases PowerProfile.parseText val <;> rfl
  -- No key of the file: nothing is set, and no type has the value.
  constructor
  · simp only [PowerConf.updated, keyed, if_neg hLid, if_neg hPercent, if_neg hGrace, if_neg hLidAc,
      if_neg hKbd, if_neg hIdle, if_neg hLux, if_neg hDockedAc, if_neg hAc,
        if_neg hBattery, if_neg hLow]
  · simp only [ofKeyType, confKeys, List.any_cons, List.any_nil, decide_eq_false hLid,
      decide_eq_false hPercent, decide_eq_false hGrace, decide_eq_false hLidAc,
        decide_eq_false hKbd,
      decide_eq_false hIdle, decide_eq_false hLux, decide_eq_false hDockedAc, decide_eq_false hAc,
      decide_eq_false hBattery, decide_eq_false hLow, Bool.false_and, Bool.or_false]

/-! ## The loop -/

/-- Where each step sets a part of the state or leaves it, the fold ends with what was set last. -/
theorem foldl_eq_last {σ ι α : Type} {step : σ → ι → σ} (get : σ → α) {read : ι → Option α}
    (hstep : ∀ s a, get (step s a) = (read a).getD (get s)) (items : List ι) (s : σ) :
    get (items.foldl step s) = (items.filterMap read).getLast?.getD (get s) := by
  induction items using List.reverseRecOn with
  | nil => rfl
  | append_singleton items a ih =>
    rw [List.foldl_append, List.foldl_cons, List.foldl_nil, hstep, List.filterMap_append]
    cases ha : read a with
    | none => simpa [List.filterMap_cons, ha] using ih
    | some b => simp [ha]

/-- One line: its directive, where there is one, and a warning where it is not usable. -/
theorem confLine_spec (debug : Text → Text) (acc : PowerConf × List Text) (line : Text) :
    (confLine debug acc line).1 =
        ((confDirective line).map fun kv => acc.1.updated kv.1 kv.2).getD acc.1 ∧
      (confLine debug acc line).2.length = acc.2.length + if unusable line then 1 else 0 := by
  unfold confLine confDirective unusable
  by_cases hsigil : "#@".toList.isPrefixOf line
  · simp only [hsigil, if_true, Bool.true_and]
    cases hparse : parseDirective line true with
    | none =>
      simp only [Option.map_none, Option.getD_none, List.length_append, List.length_singleton,
        if_true, and_self]
    | some kv =>
      obtain ⟨k, val⟩ := kv
      have hsets := acc.1.set_sets debug k val
      cases hset : acc.1.set debug k val with
      | ok conf =>
        rw [hset] at hsets
        simp only [hset, hsets.1, hsets.2, Option.map_some, Option.getD_some, Bool.not_true,
          Bool.false_eq_true, if_false, Nat.add_zero, and_self]
      | error warning =>
        rw [hset] at hsets
        simp only [hset, hsets.1, hsets.2, Option.map_some, Option.getD_some,
          Bool.not_false, if_true, List.length_append, List.length_singleton, and_self]
  · simp only [hsigil, if_false, Bool.false_and, Bool.false_eq_true, Option.map_none,
      Option.getD_none, Nat.add_zero, and_self]

section

variable {α : Type} {key : String} {read : Text → Option α} (get : PowerConf → α)

/-- A setting that follows the directives of one key is set by the lines that have a value of it. -/
theorem confLine_get (debug : Text → Text)
    (hget : ∀ conf k val, get (conf.updated k val) = keyed key read k val (get conf))
    (acc : PowerConf × List Text) (line : Text) :
    get (confLine debug acc line).1 = (readLine key.toList read line).getD (get acc.1) := by
  rw [(confLine_spec debug acc line).1, readLine]
  cases confDirective line with
  | none => rfl
  | some kv =>
    simp only [Option.map_some, Option.getD_some, Option.bind_some, hget, keyed]
    split <;> rfl

/-- Each field has its last valid value, or its default. -/
theorem parsePowerConf_get (debug : Text → Text) (text : Text)
    (hget : ∀ conf k val, get (conf.updated k val) = keyed key read k val (get conf)) :
    get (parsePowerConf debug text).1 = lastValid text key read (get {}) :=
  foldl_eq_last (fun acc => get acc.1) (confLine_get get debug hget) (Text.lines text) ({}, [])

end

attribute [ext] PowerPolicy PowerConf

/-- So the whole config does. -/
theorem parsePowerConf_eq_lastValidConf (debug : Text → Text) (text : Text) :
    (parsePowerConf debug text).1 = lastValidConf text := by
  refine PowerConf.ext (PowerPolicy.ext ?_ ?_ ?_ ?_) ?_ ?_ ?_ ?_ ?_ ?_ ?_
  · exact parsePowerConf_get (fun conf => conf.policy.dockedAc) debug text fun _ _ _ => rfl
  · exact parsePowerConf_get (fun conf => conf.policy.ac) debug text fun _ _ _ => rfl
  · exact parsePowerConf_get (fun conf => conf.policy.battery) debug text fun _ _ _ => rfl
  · exact parsePowerConf_get (fun conf => conf.policy.batteryLow) debug text fun _ _ _ => rfl
  · exact parsePowerConf_get (fun conf => conf.batteryLowPct) debug text fun _ _ _ => rfl
  · exact parsePowerConf_get (fun conf => conf.lid) debug text fun _ _ _ => rfl
  · exact parsePowerConf_get (fun conf => conf.lidGraceSecs) debug text fun _ _ _ => rfl
  · exact parsePowerConf_get (fun conf => conf.lidAc) debug text fun _ _ _ => rfl
  · exact parsePowerConf_get (fun conf => conf.kbd) debug text fun _ _ _ => rfl
  · exact parsePowerConf_get (fun conf => conf.kbdIdleSecs) debug text fun _ _ _ => rfl
  · exact parsePowerConf_get (fun conf => conf.kbdDarkLux) debug text fun _ _ _ => rfl

/-- Each line that is of no use is warned of once. -/
theorem warnings_length (debug : Text → Text) (lines : List Text) (acc : PowerConf × List Text) :
    (lines.foldl (confLine debug) acc).2.length = acc.2.length + lines.countP unusable := by
  induction lines generalizing acc with
  | nil => rfl
  | cons line lines ih =>
    rw [List.foldl_cons, ih, (confLine_spec debug acc line).2, List.countP_cons]
    omega

/-- The value of a key is read from the lines of that key. -/
theorem lastValid_eq_of_keyLines {α : Type} {text text' : Text} {key : String}
    (hkey : keyLines text' key.toList = keyLines text key.toList) (read : Text → Option α)
    (default : α) : lastValid text' key read default = lastValid text key read default := by
  have hlines : ∀ text, ((keyLines text key.toList).filterMap (readLine key.toList read)) =
      (Text.lines text).filterMap (readLine key.toList read) := by
    intro text
    rw [keyLines, List.filterMap_filter]
    refine List.filterMap_congr fun line _ => ?_
    unfold readLine
    cases confDirective line with
    | none => rfl
    | some kv => by_cases hkv : kv.1 = key.toList <;> simp [hkv]
  unfold lastValid
  rw [← hlines, ← hlines, hkey]

/-- The order of lines of different keys does not matter. -/
theorem lastValidConf_eq_of_keyLines {text text' : Text}
    (hkey : ∀ key, keyLines text' key = keyLines text key) :
    lastValidConf text' = lastValidConf text := by
  simp only [lastValidConf, lastValid_eq_of_keyLines (hkey _)]

/-- Last valid wins, key by key: every setting is the value of the last line of its key that has one
of its type, and its default where no line has; there is one warning for each line that starts as a
directive and is none, or has an unknown key or a value of another type. Texts with the same lines
of each key, in whatever order the keys stand and whatever else is between them, have the same
settings.
-/
theorem parsePowerConf_spec (debug : Text → Text) (text : Text) :
    (parsePowerConf debug text).1 = lastValidConf text ∧
      (parsePowerConf debug text).2.length = (Text.lines text).countP unusable ∧
      ∀ text', (∀ key, keyLines text' key = keyLines text key) →
        (parsePowerConf debug text').1 = (parsePowerConf debug text).1 := by
  refine ⟨parsePowerConf_eq_lastValidConf debug text, ?_, fun text' hkey => ?_⟩
  · exact (warnings_length debug (Text.lines text) ({}, [])).trans (Nat.zero_add _)
  · rw [parsePowerConf_eq_lastValidConf, parsePowerConf_eq_lastValidConf]
    exact lastValidConf_eq_of_keyLines hkey

end Hyprstate
