import Hyprstate.Gpu.Advice
import Hyprstate.Reconcile.Watches
import Hyprstate.Text.Decimal
import Mathlib.Algebra.Group.Int.Defs
import Mathlib.Data.List.Chain

/-!
# What the state files are reported to be

`file_state_task` of `sources/files.rs` with what its seven inputs are read from. Entries of the
watched directories are opened, written and closed, removed, and put in place as a whole; the kernel
reports all of it to the queue but the writes, and what it reports twice in a row once.
`platform_profile` is stored, and the watch on it notified. The task takes an event or the tick,
reads one after the other the inputs that it is to check, and reports those that changed; anything
may happen before each of its steps.

Every change of a value is reported once, and no change waits for the tick (`Run.reports`). The
kernel's queue is the exception: where it overflows the event has no directory, so it says nothing,
and the tick is what is left. The directories are watched, and stay where they are.
-/

namespace Hyprstate

open FileState

namespace FileTask

/-- The inputs, in the order of the checks. -/
inductive Input
  | platform
  | gpu
  | power
  | suspend
  | profiles
  | kbdLevel
  | kbdOverride
  deriving DecidableEq

/-- Every input of the task. -/
def Input.all : List Input :=
  [.platform, .gpu, .power, .suspend, .profiles, .kbdLevel, .kbdOverride]

/-- What an input is read as. -/
abbrev Input.Value : Input → Type
  | .platform | .gpu | .power => Option String
  | .suspend | .kbdOverride => Bool
  | .profiles => Nat
  | .kbdLevel => Option Nat

/-- The values of an input can be compared. -/
instance : (i : Input) → DecidableEq i.Value
  | .platform | .gpu | .power => inferInstanceAs (DecidableEq (Option String))
  | .suspend | .kbdOverride => inferInstanceAs (DecidableEq Bool)
  | .profiles => inferInstanceAs (DecidableEq Nat)
  | .kbdLevel => inferInstanceAs (DecidableEq (Option Nat))

/-- The check asks for the input. -/
def asks (check : Check) : Input → Bool
  | .platform => check.platform
  | .gpu => check.gpu
  | .power => check.power
  | .suspend => check.suspend
  | .profiles => check.profiles
  | .kbdLevel => check.kbdLevel
  | .kbdOverride => check.kbdOverride

/-! ## What the inputs are read from -/

/-- An entry: its text where it can be read, its length and time, and how many have it open for
writing. -/
structure Node where
  text : Option String
  stamp : Option (Nat × Nat)
  writers : Nat

/-- The files that the task reads, and the platform's profile. -/
structure Sources where
  node : Dir → Text → Option Node
  platform : Option String

/-- The stamps of the TOML files. -/
abbrev Stamps : Type := Dir → Text → Option (Option (Nat × Nat))

namespace Sources

variable (fingerprint : Stamps → Nat) (s : Sources)

/-- The text of a file. -/
def text (dir : Dir) (name : Text) : Option String := (s.node dir name).bind Node.text

/-- The stamps of the profiles' files. -/
def stamps : Stamps := fun dir name =>
  if (dir = .userProfiles ∨ dir = .systemProfiles) ∧ extension name = some "toml".toList then
    (s.node dir name).map Node.stamp
  else none

/-- `Last::read_now`, and each single read of a check. `fingerprint` is the hash that
`profiles_source_fingerprint` makes. -/
def read : (i : Input) → i.Value
  | .platform => readFirstWord s.platform
  | .gpu => readFirstWord (s.text .hyprConfig gpuOverrideName)
  | .power => readFirstWord (s.text .hyprConfig powerOverrideName)
  | .suspend => (s.node .runtime suspendRequestName).isSome
  | .profiles => fingerprint s.stamps
  | .kbdLevel =>
    ((readFirstWord (s.text .hyprConfig kbdLevelName)).bind fun word =>
      Text.parseInt (-2 ^ 63) (2 ^ 63 - 1) word.toList).map clampLevel
  | .kbdOverride => (s.node .runtime kbdOverrideName).isSome

/-- The entry becomes this. -/
def put (dir : Dir) (name : Text) (node : Option Node) : Sources :=
  { s with node := Function.update s.node dir (Function.update (s.node dir) name node) }

end Sources

/-- The event of a changed value. -/
def event : (i : Input) → i.Value → Event
  | .platform, value => .platformProfileChanged value
  | .gpu, word => .gpuOverrideChanged word
  | .power, word => .powerOverrideChanged word
  | .suspend, standing => .suspendRequestChanged (if standing then some "idle" else none)
  | .profiles, _ => .profilesChanged
  | .kbdLevel, level => .kbdLevelChanged level
  | .kbdOverride, armed => .kbdOverrideChanged armed

/-! ## The task -/

/-- An event of inotify, with the role of its watch in the table. -/
structure DirEvent where
  dir : Option Dir
  mask : List Flag
  name : Option Text
  deriving DecidableEq

/-- An overflow of the queue has no watch. -/
def DirEvent.overflow : DirEvent := ⟨none, [.qOverflow], none⟩

/-- What an event has the task check. -/
def DirEvent.check (ev : DirEvent) : Check :=
  match ev.dir with
  | some dir => route dir ev.mask ev.name
  | none => {}

/-- `PlatformWatch`, and the readiness of its descriptor. -/
structure PlatformWatch where
  /-- The attribute changed since it was read by the watch. -/
  stale : Bool
  ready : Bool

/-- What the task has still to do of a check. `poll` is the end of the loop of `send_platform`. -/
inductive Todo
  | read (i : Input)
  | poll
  deriving DecidableEq

/-- What a check asks to be read. -/
def todo (check : Check) : List Todo := (Input.all.filter (asks check)).map .read

/-- The task between its waits: what is there, what is queued and what it sent. -/
structure State where
  sources : Sources
  queue : List DirEvent
  watch : Option PlatformWatch
  last : (i : Input) → i.Value
  pending : List Todo := []
  /-- The changed values, in the order in which they were sent. -/
  reports : List ((i : Input) × i.Value) := []

namespace State

variable (s : State)

/-- The events that were sent. -/
def sent : List Event := s.reports.map fun r => event r.1 r.2

/-- The kernel reports an event, unless it is the one that it reported last. -/
def emit (ev : DirEvent) : State :=
  { s with queue := if s.queue.getLast? = some ev then s.queue else s.queue ++ [ev] }

/-- A file changes. -/
def put (dir : Dir) (name : Text) (node : Option Node) : State :=
  { s with sources := s.sources.put dir name node }

/-- A file changes, and the watch reports it. -/
def puts (dir : Dir) (name : Text) (node : Option Node) (flag : Flag) : State :=
  (s.put dir name node).emit ⟨some dir, [flag], some name⟩

/-- The reading of an input, with the report of a change. -/
def check (fingerprint : Stamps → Nat) (i : Input) (rest : List Todo) : State :=
  let cur := s.sources.read fingerprint i
  { s with
    last := Function.update s.last i cur
    watch := if i = .platform then s.watch.map (fun w => { w with stale := false }) else s.watch
    pending := if i = .platform ∧ s.watch.isSome then .poll :: rest else rest
    reports := if cur = s.last i then s.reports else s.reports ++ [⟨i, cur⟩] }

end State

/-- What can happen to the files and the task. -/
inductive Act
  | create (dir : Dir) (name : Text)
  | opened (dir : Dir) (name : Text)
  | write (dir : Dir) (name : Text)
  | close (dir : Dir) (name : Text)
  | place (dir : Dir) (name : Text)
  | remove (dir : Dir) (name : Text)
  | other
  | overflow
  | store
  | receive
  | ready
  | failed
  | tick
  | read (i : Input)
  | poll
  deriving DecidableEq

section

variable (fingerprint : Stamps → Nat)

/-- One such step. -/
inductive Step : State → Act → State → Prop
  | create (s : State) (dir : Dir) (name : Text) (stamp : Option (Nat × Nat)) :
      s.sources.node dir name = none →
      Step s (.create dir name) (s.puts dir name (some ⟨some "", stamp, 1⟩) .create)
  /-- The entry may be truncated. -/
  | opened (s : State) {dir : Dir} {name : Text} {node : Node} (text : Option String)
      (stamp : Option (Nat × Nat)) :
      s.sources.node dir name = some node →
      Step s (.opened dir name) (s.put dir name (some ⟨text, stamp, node.writers + 1⟩))
  | write (s : State) {dir : Dir} {name : Text} {node : Node} (text : Option String)
      (stamp : Option (Nat × Nat)) :
      s.sources.node dir name = some node → 0 < node.writers →
      Step s (.write dir name) (s.put dir name (some ⟨text, stamp, node.writers⟩))
  | close (s : State) {dir : Dir} {name : Text} {node : Node} :
      s.sources.node dir name = some node → 0 < node.writers →
      Step s (.close dir name)
        (s.puts dir name (some { node with writers := node.writers - 1 }) .closeWrite)
  /-- The entry is linked or moved here, where there may be one. -/
  | place (s : State) (dir : Dir) (name : Text) (node : Node) {flag : Flag} :
      flag ∈ [.create, .movedTo] →
      Step s (.place dir name) (s.puts dir name (some node) flag)
  /-- The entry is removed, or moved away. -/
  | remove (s : State) (dir : Dir) (name : Text) {flag : Flag} : flag ∈ [.delete, .movedFrom] →
      Step s (.remove dir name) (s.puts dir name none flag)
  /-- The kernel reports something else. -/
  | other (s : State) (ev : DirEvent) : Step s .other (s.emit ev)
  /-- The kernel's queue is full, so an event is lost. -/
  | overflow (s : State) {queue : List DirEvent} {ev : DirEvent} : s.queue = queue ++ [ev] →
      Step s .overflow ({ s with queue }.emit .overflow)
  | store (s : State) (text : Option String) :
      Step s .store
        { s with
          sources := { s.sources with platform := text }
          watch := s.watch.map fun _ => ⟨true, true⟩ }
  | receive (s : State) {ev : DirEvent} {queue : List DirEvent} : s.pending = [] →
      s.queue = ev :: queue →
      Step s .receive { s with queue, pending := todo ev.check }
  /-- `platform_ready`. -/
  | ready (s : State) {w : PlatformWatch} : s.pending = [] → s.watch = some w → w.ready = true →
      Step s .ready { s with watch := some { w with ready := false }, pending := [.read .platform] }
  /-- It fails, and the watch is given up. -/
  | failed (s : State) : s.pending = [] →
      Step s .failed { s with watch := none, pending := [.read .platform] }
  | tick (s : State) : s.pending = [] → Step s .tick { s with pending := todo .all }
  | read (s : State) {i : Input} {rest : List Todo} : s.pending = .read i :: rest →
      Step s (.read i) (s.check fingerprint i rest)
  /-- `changed_again`. -/
  | poll (s : State) {w : PlatformWatch} {rest : List Todo} : s.pending = .poll :: rest →
      s.watch = some w →
      Step s .poll { s with pending := if w.stale then .read .platform :: rest else rest }

/-- A run, with its steps. -/
inductive Run (s₀ : State) : List Act → State → Prop
  | start : Run s₀ [] s₀
  | step {acts : List Act} {a : Act} {s s' : State} : Run s₀ acts s → Step fingerprint s a s' →
      Run s₀ (acts ++ [a]) s'

end

/-- The task at the start of its loop. It read the inputs before it had its watches, and a watch
that was just opened is ready. -/
structure State.Begun (s : State) : Prop where
  pending : s.pending = []
  reports : s.reports = []
  watch : ∀ w, s.watch = some w → w.stale = true ∧ w.ready = true

/-! ## What every step keeps -/

/-- The input is read from the entry. -/
def Input.Reads : Input → Dir → Text → Prop
  | .platform, _, _ => False
  | .gpu, dir, name => dir = .hyprConfig ∧ name = gpuOverrideName
  | .power, dir, name => dir = .hyprConfig ∧ name = powerOverrideName
  | .suspend, dir, name => dir = .runtime ∧ name = suspendRequestName
  | .profiles, dir, name => (dir = .userProfiles ∨ dir = .systemProfiles) ∧
      extension name = some "toml".toList
  | .kbdLevel, dir, name => dir = .hyprConfig ∧ name = kbdLevelName
  | .kbdOverride, dir, name => dir = .runtime ∧ name = kbdOverrideName

/-- The input will be read: by an event, in this check, when its entry is closed, or by the notified
watch. -/
inductive Due (s : State) (i : Input) : Prop
  | queued {ev : DirEvent} : ev ∈ s.queue → asks ev.check i = true → Due s i
  | pending : .read i ∈ s.pending → Due s i
  | written {dir : Dir} {name : Text} {node : Node} : i.Reads dir name →
      s.sources.node dir name = some node →
      0 < node.writers → Due s i
  | stale {w : PlatformWatch} : i = .platform → s.watch = some w → w.stale = true → Due s i

/-- The input is watched; that of the directories always is. -/
def State.Watches (s : State) (i : Input) : Prop := i = .platform → s.watch.isSome = true

/-- A watched input was reported as it is, or will be read. -/
def Noticed (fingerprint : Stamps → Nat) (s : State) (i : Input) : Prop :=
  s.Watches i → s.last i = s.sources.read fingerprint i ∨ Due s i

/-- A watch that was notified is ready, unless its attribute is read in this check. -/
def State.Armed (s : State) : Prop :=
  ∀ w, s.watch = some w → w.stale = true → w.ready = true ∨ .read .platform ∈ s.pending ∨
    .poll ∈ s.pending

section

variable {fingerprint : Stamps → Nat} {s s' : State} {i : Input} {dir : Dir} {name : Text}

/-- An event of a file that an input reads asks for it. -/
theorem asks_of_reads {flag : Flag} (hreads : i.Reads dir name) (hflag : flag ∈ dirMask) :
    asks (DirEvent.check ⟨some dir, [flag], some name⟩) i = true := by
  have hplain : .qOverflow ∉ [flag] ∧ .ignored ∉ [flag] := by
    constructor <;> (intro h; obtain rfl := List.mem_singleton.mp h; exact absurd hflag (by decide))
  simp only [DirEvent.check, route, if_neg hplain.1, if_neg hplain.2]
  cases i with
  | platform => exact hreads.elim
  | profiles =>
    obtain ⟨rfl | rfl, htoml⟩ := hreads
    all_goals simp [htoml, asks]
  | _ =>
    obtain ⟨rfl, rfl⟩ := hreads
    clear hplain hflag
    cases flag <;> decide

/-- What is asked for is to be read. -/
theorem mem_asked (h : asks check i = true) : .read i ∈ todo check :=
  List.mem_map_of_mem (List.mem_filter.mpr ⟨by cases i <;> decide, h⟩)

/-- What was queued stays queued. -/
theorem mem_emit_of_mem {ev ev' : DirEvent} (h : ev ∈ s.queue) : ev ∈ (s.emit ev').queue := by
  rw [State.emit]
  split
  · exact h
  · exact List.mem_append_left _ h

/-- What is emitted is queued. -/
theorem mem_emit (ev : DirEvent) : ev ∈ (s.emit ev).queue := by
  rw [State.emit]
  split
  · next hlast => exact List.mem_of_getLast? hlast
  · exact List.mem_append_right _ List.mem_cons_self

/-- A file that was put is there. -/
theorem put_node {node : Option Node} : (s.sources.put dir name node).node dir name = node := by
  dsimp only [Sources.put]
  rw [Function.update_self, Function.update_self]

/-- The entries that are read stay where another one is put. -/
theorem put_node_of_reads {node : Option Node} (h : ¬i.Reads dir name) {dir' : Dir} {name' : Text}
    (hreads : i.Reads dir' name') :
    (s.sources.put dir name node).node dir' name' = s.sources.node dir' name' := by
  dsimp only [Sources.put]
  by_cases hdir : dir' = dir
  · subst hdir
    rw [Function.update_self]
    refine Function.update_of_ne ?_ _ _
    rintro rfl
    exact h hreads
  · rw [Function.update_of_ne hdir]

/-- An entry that is not read does not matter. -/
theorem read_put {node : Option Node} (h : ¬i.Reads dir name) :
    (s.sources.put dir name node).read fingerprint i = s.sources.read fingerprint i := by
  cases i with
  | platform => rfl
  | profiles =>
    refine congrArg fingerprint (funext fun dir' => funext fun name' => ?_)
    rw [Sources.stamps, Sources.stamps]
    split
    · next hreads => rw [put_node_of_reads (i := .profiles) h hreads]
    · rfl
  | _ => simp only [Sources.read, Sources.text, put_node_of_reads h ⟨rfl, rfl⟩]

/-- An input stays noticed where an entry becomes another one, and is open for writing or
reported. -/
theorem Noticed.put {node : Option Node} (h : Noticed fingerprint s i)
    (hsources : s'.sources = s.sources.put dir name node) (hqueue : ∀ ev ∈ s.queue, ev ∈ s'.queue)
    (hrest : s'.watch = s.watch ∧ s'.last = s.last ∧ s'.pending = s.pending)
    (hdue : i.Reads dir name → Due s' i) : Noticed fingerprint s' i := by
  obtain ⟨hwatch, hlast, hpending⟩ := hrest
  intro hwatches
  rw [State.Watches, hwatch] at hwatches
  by_cases hreads : i.Reads dir name
  · exact .inr (hdue hreads)
  rw [hlast, hsources, read_put hreads]
  refine (h hwatches).imp_right fun hold => ?_
  cases hold with
  | queued hev hasks => exact .queued (hqueue _ hev) hasks
  | pending hmem => exact .pending (hpending ▸ hmem)
  | @written dir' name' node' hreads' hnode hwriters =>
    refine .written hreads' ?_ hwriters
    rw [hsources, put_node_of_reads hreads hreads', hnode]
  | stale hplatform hw hstale => exact .stale hplatform (hwatch ▸ hw) hstale

/-- An event reports the entry. -/
theorem Noticed.puts {node : Option Node} {flag : Flag} (h : Noticed fingerprint s i)
    (hflag : flag ∈ dirMask) : Noticed fingerprint (s.puts dir name node flag) i :=
  h.put rfl (fun _ => mem_emit_of_mem) ⟨rfl, rfl, rfl⟩ fun hreads =>
    .queued (mem_emit _) (asks_of_reads hreads hflag)

/-- The full check asks for every input. -/
theorem asks_all (i : Input) : asks .all i = true := by cases i <;> rfl

/-- Where neither the input nor its report changed, it stays noticed if it will still be read. -/
theorem Noticed.of_due (h : Noticed fingerprint s i) (hwatches : s'.Watches i → s.Watches i)
    (hread : s'.sources.read fingerprint i = s.sources.read fingerprint i)
    (hlast : s'.last i = s.last i) (hdue : Due s i → s'.Watches i → Due s' i) :
    Noticed fingerprint s' i := by
  intro hw
  rw [hread, hlast]
  exact (h (hwatches hw)).imp_right fun hold => hdue hold hw

/-- A step that is no overflow keeps an input noticed. -/
theorem Noticed.step {a : Act} (h : Noticed fingerprint s i) (hstep : Step fingerprint s a s')
    (hkept : a ≠ .overflow) : Noticed fingerprint s' i := by
  cases hstep with
  | create dir name stamp _ => exact h.puts (by decide)
  | opened text stamp _ =>
    exact h.put rfl (fun _ => id) ⟨rfl, rfl, rfl⟩ fun hreads =>
      .written hreads put_node (Nat.succ_pos _)
  | write text stamp _ hwriters =>
    exact h.put rfl (fun _ => id) ⟨rfl, rfl, rfl⟩ fun hreads => .written hreads put_node hwriters
  | close _ _ => exact h.puts (by decide)
  | place dir name node hflag =>
    have hmask : ∀ flag ∈ [Flag.create, .movedTo], flag ∈ dirMask := by decide
    exact h.puts (hmask _ hflag)
  | remove dir name hflag =>
    have hmask : ∀ flag ∈ [Flag.delete, .movedFrom], flag ∈ dirMask := by decide
    exact h.puts (hmask _ hflag)
  -- A step that changes no file leaves what is due where it was.
  | other ev =>
    refine h.of_due id rfl rfl fun hdue _ => ?_
    cases hdue with
    | queued hev hasks => exact .queued (mem_emit_of_mem hev) hasks
    | pending hmem => exact .pending hmem
    | written hreads hnode hwriters => exact .written hreads hnode hwriters
    | stale hplatform hwatch hstale => exact .stale hplatform hwatch hstale
  | overflow _ => exact absurd rfl hkept
  -- A store makes the platform's watch ready, and the other inputs do not see it.
  | store text =>
    by_cases hplatform : i = .platform
    · intro hwatches
      obtain ⟨w, hw⟩ := Option.isSome_iff_exists.mp (hwatches hplatform)
      obtain ⟨_, -, rfl⟩ := Option.map_eq_some_iff.mp hw
      exact .inr (.stale hplatform hw rfl)
    refine h.of_due (fun _ hi => absurd hi hplatform) ?_ rfl fun hdue _ => ?_
    · cases i with
      | platform => exact absurd rfl hplatform
      | _ => rfl
    cases hdue with
    | queued hev hasks => exact .queued hev hasks
    | pending hmem => exact .pending hmem
    | written hreads hnode hwriters => exact .written hreads hnode hwriters
    | stale hi => exact absurd hi hplatform
  -- What was queued is asked for, and what was pending would have been read before.
  | receive hpending hqueue =>
    refine h.of_due id rfl rfl fun hdue _ => ?_
    cases hdue with
    | queued hev hasks =>
      rw [hqueue] at hev
      rcases List.mem_cons.mp hev with rfl | hev
      · exact .pending (mem_asked hasks)
      · exact .queued hev hasks
    | pending hmem =>
      rw [hpending] at hmem
      cases hmem
    | written hreads hnode hwriters => exact .written hreads hnode hwriters
    | stale hplatform hwatch hstale => exact .stale hplatform hwatch hstale
  | ready hpending hwatch _ =>
    refine h.of_due (fun _ _ => hwatch ▸ rfl) rfl rfl fun hdue _ => ?_
    cases hdue with
    | queued hev hasks => exact .queued hev hasks
    | pending hmem =>
      rw [hpending] at hmem
      cases hmem
    | written hreads hnode hwriters => exact .written hreads hnode hwriters
    | stale hplatform => exact .pending (hplatform ▸ List.mem_cons_self)
  | failed hpending =>
    intro hwatches
    by_cases hplatform : i = .platform
    · cases hwatches hplatform
    refine h.of_due (fun _ hi => absurd hi hplatform) rfl rfl (fun hdue _ => ?_) hwatches
    cases hdue with
    | queued hev hasks => exact .queued hev hasks
    | pending hmem =>
      rw [hpending] at hmem
      cases hmem
    | written hreads hnode hwriters => exact .written hreads hnode hwriters
    | stale hi => exact absurd hi hplatform
  -- The safety tick asks for every input.
  | tick hpending => exact fun _ => .inr (.pending (mem_asked (asks_all i)))
  -- The read takes its own input off the list and no other.
  | @read j rest hpending =>
    by_cases hij : i = j
    · subst hij
      exact fun _ => .inl (Function.update_self _ _ _)
    refine h.of_due ?_ rfl (Function.update_of_ne hij _ _) fun hdue _ => ?_
    · intro hwatches hi
      have := hwatches hi
      rwa [State.check, if_neg (fun hj => hij (hi.trans hj.symm))] at this
    cases hdue with
    | queued hev hasks => exact .queued hev hasks
    | pending hmem =>
      rw [hpending] at hmem
      rcases List.mem_cons.mp hmem with heq | hmem
      · exact absurd (Todo.read.inj heq) hij
      · refine .pending ?_
        dsimp only [State.check]
        split
        · exact List.mem_cons_of_mem _ hmem
        · exact hmem
    | written hreads hnode hwriters => exact .written hreads hnode hwriters
    | stale hplatform hwatch hstale =>
      refine .stale hplatform ?_ hstale
      dsimp only [State.check]
      rw [if_neg (fun hj => hij (hplatform.trans hj.symm)), hwatch]
  | poll hpending hwatch =>
    refine h.of_due id rfl rfl fun hdue _ => ?_
    cases hdue with
    | queued hev hasks => exact .queued hev hasks
    | pending hmem =>
      rw [hpending] at hmem
      have hrest := (List.mem_cons.mp hmem).resolve_left (by simp)
      refine .pending ?_
      dsimp only
      split
      · exact List.mem_cons_of_mem _ hrest
      · exact hrest
    | written hreads hnode hwriters => exact .written hreads hnode hwriters
    | stale hplatform hw hstale => exact .stale hplatform hw hstale

/-- One step keeps the watches armed. -/
theorem State.Armed.step {a : Act} (h : s.Armed) (hstep : Step fingerprint s a s') : s'.Armed := by
  -- With nothing left to read, a stale watch can only be one that is ready.
  have hready : s.pending = [] → ∀ w, s.watch = some w → w.stale = true → w.ready = true := by
    intro hpending w hwatch hstale
    have hw := h w hwatch hstale
    rw [hpending] at hw
    exact hw.resolve_right (by simp)
  -- The file changes leave the watch; what is read or asked is looked at case by case.
  cases hstep with
  | create | opened | write | close | place | remove | other | overflow => exact h
  | store text =>
    intro w hw hstale
    obtain ⟨_, -, rfl⟩ := Option.map_eq_some_iff.mp hw
    exact .inl rfl
  | receive hpending _ => exact fun w hw hstale => .inl (hready hpending w hw hstale)
  | ready _ _ _ => exact fun _ _ _ => .inr (.inl List.mem_cons_self)
  | failed _ =>
    rintro w hw -
    cases hw
  | tick _ => exact fun _ _ _ => .inr (.inl (mem_asked (asks_all .platform)))
  | @read j rest hpending =>
    intro w hw hstale
    by_cases hj : j = .platform
    · rw [State.check, if_pos hj] at hw
      obtain ⟨_, -, rfl⟩ := Option.map_eq_some_iff.mp hw
      cases hstale
    · rw [State.check, if_neg hj] at hw
      have hrest : (s.check fingerprint j rest).pending = rest := if_neg fun hplatform =>
        hj hplatform.1
      have hold := h w hw hstale
      rw [hpending] at hold
      rw [hrest]
      simpa [Ne.symm hj] using hold
  | @poll w rest hpending hwatch =>
    intro w' hw hstale
    obtain rfl := Option.some.inj (hwatch.symm.trans hw)
    exact .inr (.inl (by simp [hstale]))

/-! ## Runs -/

/-- There is nothing to be read: no event, no entry that is open for writing, and no ready watch. -/
structure State.Settled (s : State) : Prop where
  queue : s.queue = []
  pending : s.pending = []
  written : ∀ dir name node, s.sources.node dir name = some node → node.writers = 0
  watch : ∀ w, s.watch = some w → w.ready = false

/-- Then every input that was noticed was reported as it is. -/
theorem Noticed.settled (h : Noticed fingerprint s i) (harmed : s.Armed) (hsettled : s.Settled)
    (hwatches : s.Watches i) : s.last i = s.sources.read fingerprint i := by
  refine (h hwatches).resolve_right fun hdue => ?_
  obtain ⟨hqueue, hpending, hwritten, hwatch⟩ := hsettled
  cases hdue with
  | queued hev =>
    rw [hqueue] at hev
    cases hev
  | pending hmem =>
    rw [hpending] at hmem
    cases hmem
  | written _ hnode hwriters => exact absurd (hwritten _ _ _ hnode) hwriters.ne'
  | @stale w _ hw hstale =>
    have hready := harmed w hw hstale
    rw [hpending, hwatch w hw] at hready
    simp at hready

/-- The values that an input was reported with. -/
def reported (i : Input) (reports : List ((i : Input) × i.Value)) : List i.Value :=
  reports.filterMap fun r => if h : r.1 = i then some (h ▸ r.2) else none

/-- From the first value to the last, each one was reported once, when it was another than the one
before. -/
def Changes {α : Type} (first : α) (values : List α) (last : α) : Prop :=
  (first :: values).IsChain (· ≠ ·) ∧ (first :: values).getLast? = some last

/-- One changed value more. -/
theorem Changes.snoc {α : Type} {first last cur : α} {values : List α}
    (h : Changes first values last) (hcur : cur ≠ last) : Changes first (values ++ [cur]) cur := by
  obtain ⟨hchain, hlast⟩ := h
  refine ⟨?_, ?_⟩
  · rw [← List.cons_append]
    refine List.isChain_append.mpr ⟨hchain, .singleton _, fun x hx y hy => ?_⟩
    obtain rfl := Option.some.inj (hlast.symm.trans hx)
    obtain rfl := Option.some.inj hy
    exact hcur.symm
  · rw [← List.cons_append, List.getLast?_concat]

/-- One step reports a change or nothing. -/
theorem Changes.step {a : Act} {first : i.Value}
    (h : Changes first (reported i s.reports) (s.last i)) (hstep : Step fingerprint s a s') :
    Changes first (reported i s'.reports) (s'.last i) := by
  cases hstep with
  | @read j rest hpending =>
    dsimp only [State.check]
    by_cases hij : i = j
    · subst hij
      rw [Function.update_self]
      split
      · next heq => rwa [heq]
      · next hne =>
        rw [reported, List.filterMap_append]
        have hone : [(⟨i, s.sources.read fingerprint i⟩ : (i : Input) × i.Value)].filterMap
            (fun r => if h : r.1 = i then some (h ▸ r.2) else none) =
              [s.sources.read fingerprint i] := by
          simp
        rw [hone]
        exact h.snoc hne
    · rw [Function.update_of_ne hij]
      split
      · exact h
      · rw [reported, List.filterMap_append]
        simpa [reported, Ne.symm hij] using h
  | _ => exact h

end

/-- What is reported along a run. -/
structure Faithful (fingerprint : Stamps → Nat) (s₀ : State) (acts : List Act) (s : State) :
    Prop where
  /-- Each change that was read was reported once. -/
  changes : ∀ i, Changes (s₀.last i) (reported i s.reports) (s.last i)
  /-- What was not missed before the watches were there is never missed. -/
  current : .overflow ∉ acts → s.Settled → ∀ i, s.Watches i →
    s₀.last i = s₀.sources.read fingerprint i ∨ i = .platform →
      s.last i = s.sources.read fingerprint i
  /-- A tick makes up for what was missed until then. -/
  ticked : ∀ before after, acts = before ++ .tick :: after → .overflow ∉ after → s.Settled →
    ∀ i, s.Watches i →
    s.last i = s.sources.read fingerprint i

section

variable {fingerprint : Stamps → Nat} {s₀ s : State} {acts : List Act}

/-- A run keeps the watches armed. -/
theorem Run.armed (h : Run fingerprint s₀ acts s) (harmed : s₀.Armed) : s.Armed := by
  induction h with
  | start => exact harmed
  | step _ hstep ih => exact ih.step hstep

/-- And reports changes only. -/
theorem Run.changes (h : Run fingerprint s₀ acts s) (hreports : s₀.reports = []) (i : Input) :
    Changes (s₀.last i) (reported i s.reports) (s.last i) := by
  induction h with
  | start =>
    rw [hreports]
    exact ⟨.singleton _, rfl⟩
  | step _ hstep ih => exact ih.step hstep

/-- What was noticed stays noticed, where nothing overflows. -/
theorem Run.noticed {i : Input} (h : Run fingerprint s₀ acts s) (hkept : .overflow ∉ acts)
    (hnoticed : Noticed fingerprint s₀ i) : Noticed fingerprint s i := by
  induction h with
  | start => exact hnoticed
  | step _ hstep ih =>
    rw [List.mem_append, not_or] at hkept
    refine (ih hkept.1).step hstep fun heq => hkept.2 ?_
    exact heq ▸ List.mem_cons_self

/-- A run up to one of its steps, and on from there. -/
theorem Run.split {before after : List Act} {a : Act} (h : Run fingerprint s₀ acts s)
    (hacts : acts = before ++ a :: after) :
    ∃ s₁ s₂, Step fingerprint s₁ a s₂ ∧ Run fingerprint s₂ after s := by
  induction h generalizing after with
  | start => simp at hacts
  | @step acts b s s' hrun hstep ih =>
    rcases List.eq_nil_or_concat after with rfl | ⟨after, c, rfl⟩
    · obtain ⟨rfl, hb⟩ := List.append_inj' hacts rfl
      obtain rfl := List.singleton_inj.mp hb
      exact ⟨s, s', hstep, .start⟩
    · have hacts' : acts ++ [b] = (before ++ a :: after) ++ [c] := by simpa using hacts
      obtain ⟨hbefore, hb⟩ := List.append_inj' hacts' rfl
      obtain rfl := List.singleton_inj.mp hb
      obtain ⟨s₁, s₂, htick, hafter⟩ := ih hbefore
      exact ⟨s₁, s₂, htick, by simpa using hafter.step hstep⟩

end

/-- In every run of the task, what is reported is faithful. -/
theorem Run.reports {fingerprint : Stamps → Nat} {s₀ s : State} {acts : List Act}
    (hbegun : s₀.Begun) (h : Run fingerprint s₀ acts s) : Faithful fingerprint s₀ acts s := by
  have harmed : s.Armed := h.armed fun w hw _ => .inl (hbegun.watch w hw).2
  refine ⟨h.changes hbegun.reports, fun hkept hsettled i hwatches hfirst => ?_, ?_⟩
  · refine (h.noticed hkept fun hw => ?_).settled harmed hsettled hwatches
    rcases hfirst with hread | hplatform
    · exact .inl hread
    · obtain ⟨w, hwatch⟩ := Option.isSome_iff_exists.mp (hw hplatform)
      exact .inr (.stale hplatform hwatch (hbegun.watch w hwatch).1)
  · intro before after hacts hkept hsettled i hwatches
    obtain ⟨s₁, s₂, htick, hafter⟩ := h.split hacts
    refine (hafter.noticed hkept fun _ => .inr ?_).settled harmed hsettled hwatches
    cases htick
    exact .pending (mem_asked (asks_all i))

/-- The task with a watch on `platform_profile`, and no state file there. -/
def bare : State :=
  let sources : Sources := ⟨fun _ _ => none, some "balanced\n"⟩
  { sources, queue := [], watch := some ⟨true, true⟩, last := sources.read fun _ => 0 }

/-- The bare machine is at its start. -/
theorem bare_begun : bare.Begun := ⟨rfl, rfl, fun _ hw => Option.some.inj hw ▸ ⟨rfl, rfl⟩⟩

/-- The user writes the override, and the task reads it before the file is closed, and after. -/
theorem Run.reports_override : ∃ acts s, Run (fun _ => 0) bare acts s ∧
    s.sent = [.powerOverrideChanged (some "performance")] ∧ s.queue = [] ∧
    Faithful (fun _ => 0) bare acts s := by
  have hstart : Run (fun _ => 0) bare [] bare := .start
  have hready := ((hstart.step (.ready bare rfl rfl rfl)).step (.read _ rfl)).step (.poll _ rfl rfl)
  have hopened := (hready.step (.create _ .hyprConfig powerOverrideName none rfl)).step
    (.write _ (some "performance\n") none put_node Nat.one_pos)
  have hearly := (hopened.step (.receive _ rfl rfl)).step (.read _ rfl)
  have hrun :=
    ((hearly.step (.close _ put_node Nat.one_pos)).step (.receive _ rfl rfl)).step (.read _ rfl)
  exact ⟨_, _, hrun, by decide +kernel, by decide +kernel, hrun.reports bare_begun⟩

end FileTask

end Hyprstate
