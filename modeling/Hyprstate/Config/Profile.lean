import Hyprstate.Config.PowerConf
import Hyprstate.Fsm.Profiles

/-!
# Profile files

`parse_profile` of `crates/hyprstate-fsm/src/profiles.rs`: it reads the directives of the leading
comment block of a profile, and stops at the first line of the body. How Rust prints a text in
quotes is the parameter `debug`.
-/

namespace Hyprstate

/-- The dialect of a profile file. -/
inductive ProfileFormat
  | conf
  | lua
  deriving DecidableEq

/-- `ProfileFormat::ext`. -/
def ProfileFormat.ext : ProfileFormat → String
  | conf => "conf"
  | lua => "lua"

/-- A profile as its file declares it. -/
structure Profile where
  name : Text
  format : ProfileFormat
  matchRules : List Text
  edp : EdpPolicy
  gpu : GpuPref
  hooks : List Text
  priority : Int

/-- The panel policy of a word. -/
def EdpPolicy.parse (val : Text) : Option EdpPolicy :=
  if val = "auto".toList then some auto
  else if val = "enable".toList then some enable
  else if val = "disable".toList then some disable
  else none

/-- The GPU preference of a word. -/
def GpuPref.parse (val : Text) : Option GpuPref :=
  if val = "auto".toList then some auto
  else if val = "igpu".toList then some igpu
  else if val = "dgpu".toList then some dgpu
  else none

/-- What the loop of `parse_profile` has read. -/
structure ProfileHeader where
  matchRules : List Text := []
  hooks : List Text := []
  edp : EdpPolicy := .auto
  gpu : GpuPref := .auto
  priority : Option Int := none
  warnings : List Text := []

section

variable (debug : Text → Text)

/-- What the loop does with a directive. -/
def ProfileHeader.set (h : ProfileHeader) (key val : Text) : Except Text ProfileHeader :=
  if key = "match".toList then .ok { h with matchRules := h.matchRules ++ [val] }
  else if key = "hook".toList then .ok { h with hooks := h.hooks ++ [val] }
  else if key = "edp".toList then
    match EdpPolicy.parse val with
    | some edp => .ok { h with edp := edp }
    | none => .error ("edp must be auto|enable|disable, got ".toList ++ debug val)
  else if key = "gpu".toList then
    match GpuPref.parse val with
    | some gpu => .ok { h with gpu := gpu }
    | none => .error ("gpu must be auto|igpu|dgpu, got ".toList ++ debug val)
  else if key = "priority".toList then
    match parseI64 val with
    | some n => .ok { h with priority := some n }
    | none => .error ("priority must be an integer, got ".toList ++ debug val)
  else .ok { h with warnings := h.warnings ++ ["unknown directive ".toList ++ debug key] }

/-- The line starts as a directive, in either dialect. -/
def startsDirective (line : Text) : Bool :=
  "#@".toList.isPrefixOf line || "--@".toList.isPrefixOf line

/-- The line is a comment of either dialect, or blank. -/
def isComment (line : Text) : Bool :=
  let t := line.dropWhile isWhitespace
  "#".toList.isPrefixOf t || "--".toList.isPrefixOf t || t.isEmpty

/-- The loop of `parse_profile`, up to the body. -/
def parseLines (h : ProfileHeader) : List Text → Except Text ProfileHeader
  | [] => .ok h
  | line :: rest =>
    if startsDirective line then
      match parseDirective line false with
      | none =>
        parseLines { h with warnings := h.warnings ++
          ["ignoring malformed directive: ".toList ++ debug line] }
          rest
      | some (key, val) =>
        match h.set debug key val with
        | .ok h => parseLines h rest
        | .error err => .error err
    else if isComment line then parseLines h rest
    else .ok h

/-- `parse_profile`: the profile and the warnings, or why it is no profile. -/
def parseProfile (name : Text) (format : ProfileFormat) (text : Text) :
    Except Text (Profile × List Text) :=
  match parseLines debug {} (Text.lines text) with
  | .error err => .error err
  | .ok h =>
    if h.matchRules.isEmpty then .error "profile has no `#@ match = ...` directives".toList
    else .ok
      ({ name := name
         format := format
         matchRules := h.matchRules
         edp := h.edp
         gpu := h.gpu
         hooks := h.hooks
         priority := h.priority.getD h.matchRules.length }, h.warnings)

end

/-! ## One line -/

section

variable {debug : Text → Text} {h : ProfileHeader} {line : Text}

/-- A directive that is set is read, and the loop goes on. -/
theorem parseLines_directive {h' : ProfileHeader} {key val : Text}
    (hstart : startsDirective line = true) (hparse : parseDirective line false = some (key, val))
    (hset : h.set debug key val = .ok h') (rest : List Text) :
    parseLines debug h (line :: rest) = parseLines debug h' rest := by
  rw [parseLines, if_pos hstart, hparse]
  dsimp only
  rw [hset]

/-- A comment is passed over. -/
theorem parseLines_comment (hstart : startsDirective line = false)
    (hcomment : isComment line = true) (rest : List Text) :
    parseLines debug h (line :: rest) = parseLines debug h rest := by
  rw [parseLines, if_neg (by simp [hstart]), if_pos hcomment]

/-- The body ends the header. -/
theorem parseLines_body (hstart : startsDirective line = false) (hcomment : isComment line = false)
    (rest : List Text) : parseLines debug h (line :: rest) = .ok h := by
  rw [parseLines, if_neg (by simp [hstart]), if_neg (by simp [hcomment])]

end

end Hyprstate
