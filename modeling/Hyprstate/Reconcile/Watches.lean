import Hyprstate.Config.Legacy
import Hyprstate.Store.DirTree
import Mathlib.Data.Finset.Basic
import Mathlib.Data.List.AList
import Mathlib.Logic.Relation

/-!
# Directory watches

`DirWatches` and `route` of `sources/files.rs`, and the loop of `file_state_task` around them. The
kernel marks an inode, and reports to the queue what `DIR_MASK` asks for, and that a marked inode is
gone (`IGNORED`). The table has the role that each mark was made for. The task takes an event at a
time, or the safety tick, and goes through the directories whose role is not held where the check
says so; the tree may change before any of it. The queue loses nothing, an inode goes with its
entry, and an add fails for a missing directory only.

A rename that moves away a directory the table holds at its path is not noticed: the role stays held
(`not_follows_movedAway`). Where there is none, the watches follow the paths (`follows_of_handled`).
-/

namespace Hyprstate

open Store

namespace FileState

/-- A path below the home directory. -/
abbrev Path := List Text

/-- `Dir`: what a directory watch stands for. -/
inductive Dir
  | hyprConfig
  | runtime
  | userProfiles
  | systemProfiles
  deriving DecidableEq

/-- The flags of inotify that matter to a directory. -/
inductive Flag
  | create
  | delete
  | closeWrite
  | movedTo
  | movedFrom
  | moveSelf
  | deleteSelf
  | ignored
  | qOverflow
  deriving DecidableEq

/-- `DIR_MASK`. -/
def dirMask : List Flag := [.create, .delete, .closeWrite, .movedTo, .movedFrom]

/-- The file of the GPU's override. -/
def gpuOverrideName : Text := "gpu-select".toList

/-- That of the power profile's. -/
def powerOverrideName : Text := "power-override".toList

/-- That of a request for a suspend. -/
def suspendRequestName : Text := "hyprstate-suspend-request".toList

/-- That of the keys' level. -/
def kbdLevelName : Text := "kbd-level".toList

/-- That of the keys' override. -/
def kbdOverrideName : Text := "hyprstate-kbd-override".toList

/-- The directory of the profiles. -/
def profilesDirName : Text := "profiles".toList

/-- `Check`: which inputs to read again. -/
structure Check where
  gpu : Bool := false
  power : Bool := false
  suspend : Bool := false
  profiles : Bool := false
  platform : Bool := false
  kbdLevel : Bool := false
  kbdOverride : Bool := false
  rewatch : Bool := false
  deriving DecidableEq

/-- `Check::ALL`. -/
def Check.all : Check := ⟨true, true, true, true, true, true, true, true⟩

/-- `route`. -/
def route (dir : Dir) (mask : List Flag) (name : Option Text) : Check :=
  if .qOverflow ∈ mask then .all
  else if .ignored ∈ mask then
    { profiles := decide (dir = .userProfiles ∨ dir = .systemProfiles), rewatch := true }
  else
    match name with
    | none => {}
    | some name =>
      match dir with
      | .hyprConfig =>
        if name = gpuOverrideName then { gpu := true }
        else if name = powerOverrideName then { power := true }
        else if name = kbdLevelName then { kbdLevel := true }
        else if name = profilesDirName ∧ (.create ∈ mask ∨ .movedTo ∈ mask) then
          { profiles := true, rewatch := true }
        else {}
      | .runtime =>
        if name = suspendRequestName then { suspend := true }
        else if name = kbdOverrideName then { kbdOverride := true }
        else {}
      | .userProfiles | .systemProfiles =>
        if extension name = some "toml".toList then { profiles := true } else {}

/-- The directories that the watched paths are in: the user's configuration, and the runtime
directory where there is one. -/
structure Places where
  config : Path
  runtimeDir : Option Path

/-- `DirWatches::targets`. -/
def Places.targets (w : Places) : List (Dir × Path) :=
  (.hyprConfig, w.config ++ ["hypr".toList]) :: w.runtimeDir.toList.map
    (fun dir => (.runtime, dir)) ++
    [(.userProfiles, w.config ++ ["hypr".toList, profilesDirName]),
      (.systemProfiles, ["etc".toList, "monitor-profiles".toList])]

/-- An event of inotify. An inode has one watch descriptor, and goes by its number. -/
structure WatchEvent where
  wd : Nat
  mask : List Flag
  name : Option Text

/-- The tree with the kernel's marks and its queue, and the task: its table, and the directories
that `ensure` has still to go through. -/
structure State where
  tree : DirTree Text
  marks : Finset Nat
  queue : List WatchEvent
  wds : AList fun _ : Nat => Dir
  pending : List (Dir × Path)

/-- The task goes through all directories first. -/
def State.start (w : Places) (tree : DirTree Text) : State := ⟨tree, ∅, [], ∅, w.targets⟩

/-! ## The task -/

/-- One turn of the loop of `DirWatches::ensure`. -/
def State.watch (s : State) (target : Dir × Path) : State :=
  if s.wds.entries.any fun held => decide (held.2 = target.1) then s
  else
    match s.tree.node target.2 with
    | some i => { s with marks := insert i s.marks, wds := s.wds.insert i target.1 }
    | none => s

/-- `DirWatches::ensure`, with nothing happening meanwhile. -/
def State.ensure : List (Dir × Path) → State → State
  | [], s => s
  | target :: pending, s => ({ s with pending }.watch target).ensure pending

/-- What a check has `ensure` go through. -/
def State.check (w : Places) (s : State) (check : Check) : State :=
  { s with pending := if check.rewatch then w.targets else [] }

/-- What `file_state_task` does with an event. -/
def State.receive (w : Places) (s : State) (ev : WatchEvent) : State :=
  let dir := s.wds.lookup ev.wd
  let wds := if .ignored ∈ ev.mask then s.wds.erase ev.wd else s.wds
  let check :=
    match dir with
    | some dir => route dir ev.mask ev.name
    | none => {}
  { s with wds }.check w check

/-! ## The tree -/

/-- What is reported of an inode. -/
def State.reports (s : State) (inode : Option Nat) (flag : Flag) (name : Option Text) :
    List WatchEvent :=
  match inode with
  | some i => if i ∈ s.marks ∧ flag ∈ dirMask then [⟨i, [flag], name⟩] else []
  | none => []

/-- What is reported of an inode that is gone. -/
def State.ignores (s : State) (inode : Option Nat) : List WatchEvent :=
  match inode with
  | some i => if i ∈ s.marks then [⟨i, [.ignored], none⟩] else []
  | none => []

/-- The marks without that of an inode that is gone. -/
def State.marksWithout (s : State) (inode : Option Nat) : Finset Nat :=
  match inode with
  | some i => s.marks.erase i
  | none => s.marks

/-- A directory or file is made, and its directory's watch reports it. -/
def State.create (s : State) (p : Path) (n : Text) (hdir : (s.tree.node p).isSome)
    (hnone : s.tree.node (p ++ [n]) = none) : State :=
  { s with
    tree := s.tree.create p n hdir hnone
    queue := s.queue ++ s.reports (s.tree.node p) .create (some n) }

/-- A file is written. -/
def State.write (s : State) (p : Path) (n : Text) : State :=
  { s with queue := s.queue ++ s.reports (s.tree.node p) .closeWrite (some n) }

/-- A bare entry is removed: its own watch ends, and its directory's reports it. -/
def State.remove (s : State) (p : Path) (n : Text) (hbare : s.tree.Bare (p ++ [n])) : State :=
  let inode := s.tree.node (p ++ [n])
  { s with
    tree := s.tree.remove (p ++ [n]) (by simp) hbare
    marks := s.marksWithout inode
    queue := s.queue ++ s.reports inode .deleteSelf none ++ s.ignores inode ++
      s.reports (s.tree.node p) .delete (some n) }

/-- An entry is renamed: what it replaces is removed, and its own watch goes with it. -/
def State.rename (s : State) (p : Path) (n : Text) (q : Path) (m : Text)
    (hdir : (s.tree.node q).isSome) (hout : ¬p ++ [n] <+: q ++ [m]) : State :=
  let replaced := s.tree.node (q ++ [m])
  { s with
    tree := s.tree.rename (p ++ [n]) (q ++ [m]) (by simp) (by simp) (by simpa using hdir) hout
    marks := s.marksWithout replaced
    queue := s.queue ++ s.reports (s.tree.node p) .movedFrom (some n) ++
      s.reports (s.tree.node q) .movedTo (some m) ++ s.reports (s.tree.node (p ++ [n]))
        .moveSelf none ++
      s.ignores replaced }

/-! ## Runs -/

/-- What can happen to the tree and the task. -/
inductive Act
  | create (p : Path) (n : Text)
  | write (p : Path) (n : Text)
  | remove (p : Path) (n : Text)
  | rename (p : Path) (n : Text) (q : Path) (m : Text)
  | receive
  | tick
  | watch

/-- One such step. -/
inductive Step (w : Places) : State → Act → State → Prop
  | create (s : State) (p : Path) (n : Text) (hdir : (s.tree.node p).isSome)
      (hnone : s.tree.node (p ++ [n]) = none) : Step w s (.create p n) (s.create p n hdir hnone)
  | write (s : State) (p : Path) (n : Text) : (s.tree.node (p ++ [n])).isSome →
      Step w s (.write p n) (s.write p n)
  | remove (s : State) (p : Path) (n : Text) (hbare : s.tree.Bare (p ++ [n])) :
      (s.tree.node (p ++ [n])).isSome → Step w s (.remove p n) (s.remove p n hbare)
  | rename (s : State) (p : Path) (n : Text) (q : Path) (m : Text) (hdir : (s.tree.node q).isSome)
      (hout : ¬p ++ [n] <+: q ++ [m]) : (s.tree.node (p ++ [n])).isSome → s.tree.Bare (q ++ [m]) →
      Step w s (.rename p n q m) (s.rename p n q m hdir hout)
  | receive (s : State) {ev : WatchEvent} {queue : List WatchEvent} : s.pending = [] →
      s.queue = ev :: queue →
      Step w s .receive ({ s with queue }.receive w ev)
  | tick (s : State) : s.pending = [] → Step w s .tick (s.check w .all)
  | watch (s : State) {target : Dir × Path} {pending : List (Dir × Path)} :
      s.pending = target :: pending →
      Step w s .watch ({ s with pending }.watch target)

/-- What the tree and the task can come to. -/
def Reaches (w : Places) (tree : DirTree Text) : State → Prop :=
  Relation.ReflTransGen (fun s s' => ∃ a, Step w s a s') (State.start w tree)

/-- A safety tick, and the pass of `ensure` that it makes to its end. -/
def Served (w : Places) (s s' : State) : Prop :=
  ∃ s₁, Step w s .tick s₁ ∧ Relation.ReflTransGen (fun s s' => Step w s .watch s') s₁ s' ∧
    s'.pending = []

/-- What is at the path, if anything is, is watched: its inode is marked, and the table has it for
the path. -/
def Watched (w : Places) (s : State) (path : Path) : Prop :=
  ∀ i, s.tree.node path = some i → i ∈ s.marks ∧ ∃ dir, s.wds.lookup i = some dir ∧
    (dir, path) ∈ w.targets

/-- The watches follow the paths. -/
def Follows (w : Places) (s : State) : Prop := ∀ target ∈ w.targets, Watched w s target.2

/-- No rename moves away a directory that the table holds at its path, or one above it. -/
def StaysPut (w : Places) (s : State) (a : Act) : Prop :=
  ∀ p n q m, a = .rename p n q m → ∀ dir path i, (dir, path) ∈ w.targets →
    s.wds.lookup i = some dir →
    s.tree.node path = some i → ¬p ++ [n] <+: path

/-- What they can come to by steps that move no such directory. -/
def ReachesPut (w : Places) (tree : DirTree Text) : State → Prop :=
  Relation.ReflTransGen (fun s s' => ∃ a, Step w s a s' ∧ StaysPut w s a) (State.start w tree)

/-! ## What every step keeps -/

/-- The inode is reported gone. -/
def Gone (queue : List WatchEvent) (i : Nat) : Prop := ∃ ev ∈ queue, ev.wd = i ∧ .ignored ∈ ev.mask

/-- The table's directory is at its path, and marked. -/
def AtPath (w : Places) (s : State) (i : Nat) (dir : Dir) : Prop :=
  i ∈ s.marks ∧ ∃ path, (dir, path) ∈ w.targets ∧ s.tree.node path = some i

/-- What every state keeps: a watch that is held is at its path, or its end is queued. -/
structure Kept (w : Places) (s : State) : Prop where
  held : ∀ i dir, s.wds.lookup i = some dir → AtPath w s i dir ∨ Gone s.queue i
  pending : ∀ target ∈ s.pending, target ∈ w.targets

section

variable {w : Places} {s s' : State} {i : Nat} {dir : Dir}

/-- A watch whose end is queued stays so. -/
theorem Gone.append {queue : List WatchEvent} (h : Gone queue i) (more : List WatchEvent) :
    Gone (queue ++ more) i :=
  h.imp fun _ hev => ⟨List.mem_append_left _ hev.1, hev.2⟩

/-- A marked inode that goes is reported. -/
theorem gone_ignores {inode : Option Nat} (h : inode = some i) (hmark : i ∈ s.marks) :
    Gone (s.ignores inode) i := by
  subst h
  refine ⟨⟨i, [.ignored], none⟩, ?_, rfl, List.mem_cons_self⟩
  rw [State.ignores, if_pos hmark]
  exact List.mem_cons_self

/-- The other marks stay. -/
theorem mem_marksWithout {inode : Option Nat} (h : inode ≠ some i) (hmark : i ∈ s.marks) :
    i ∈ s.marksWithout inode := by
  cases inode with
  | none => exact hmark
  | some j =>
    refine Finset.mem_erase.mpr ⟨?_, hmark⟩
    rintro rfl
    exact h rfl

/-- A role is held by a watch. -/
theorem any_held_iff : (s.wds.entries.any fun held => decide (held.2 = dir)) = true ↔
    ∃ i, s.wds.lookup i = some dir := by
  rw [List.any_eq_true]
  constructor
  · rintro ⟨⟨i, d⟩, hmem, hdir⟩
    obtain rfl : d = dir := of_decide_eq_true hdir
    exact ⟨i, AList.mem_lookup_iff.mpr hmem⟩
  · rintro ⟨i, hlookup⟩
    exact ⟨⟨i, dir⟩, AList.mem_lookup_iff.mp hlookup, decide_eq_true rfl⟩

/-- A turn of `ensure` does nothing where the role is held or the directory is missing; it watches
the directory else. -/
theorem watch_cases (s : State) (target : Dir × Path) :
    s.watch target = s ∧ ((∃ i, s.wds.lookup i = some target.1) ∨ s.tree.node target.2 = none) ∨
      ∃ i, s.tree.node target.2 = some i ∧
        s.watch target = { s with marks := insert i s.marks, wds := s.wds.insert i target.1 } := by
  unfold State.watch
  split
  · next hheld => exact .inl ⟨rfl, .inl (any_held_iff.mp hheld)⟩
  · split
    · next i hnode => exact .inr ⟨i, hnode, rfl⟩
    · next hnode => exact .inl ⟨rfl, .inr hnode⟩

/-- To add a watch keeps it. -/
theorem Kept.watch (h : Kept w s) {target : Dir × Path} (htarget : target ∈ w.targets) :
    Kept w (s.watch target) := by
  rcases watch_cases s target with ⟨heq, -⟩ | ⟨i, hnode, heq⟩
  · rwa [heq]
  rw [heq]
  refine ⟨fun j dir hj => ?_, h.pending⟩
  by_cases hij : j = i
  · subst hij
    rw [AList.lookup_insert] at hj
    obtain rfl := Option.some.inj hj
    exact .inl ⟨Finset.mem_insert_self _ _, target.2, htarget, hnode⟩
  · rw [AList.lookup_insert_ne hij] at hj
    exact (h.held j dir hj).imp_left (And.imp_left Finset.mem_insert_of_mem)

/-- An ended watch is dropped when its event is received. -/
theorem receive_wds (s : State) (ev : WatchEvent) :
    (s.receive w ev).wds = if .ignored ∈ ev.mask then s.wds.erase ev.wd else s.wds :=
  rfl

/-- To receive an event keeps it. -/
theorem Kept.receive {ev : WatchEvent} {queue : List WatchEvent} (h : Kept w s)
    (hqueue : s.queue = ev :: queue) : Kept w ({ s with queue }.receive w ev) where
  held i dir hi := by
    have hne : .ignored ∈ ev.mask → i ≠ ev.wd := by
      rintro hignored rfl
      rw [receive_wds, if_pos hignored, AList.lookup_erase] at hi
      cases hi
    have hold : s.wds.lookup i = some dir := by
      by_cases hignored : .ignored ∈ ev.mask
      · rwa [receive_wds, if_pos hignored, AList.lookup_erase_ne (hne hignored)] at hi
      · rwa [receive_wds, if_neg hignored] at hi
    refine (h.held i dir hold).imp_right ?_
    rintro ⟨ev', hmem, rfl, hignored⟩
    rw [hqueue] at hmem
    rcases List.mem_cons.mp hmem with rfl | hmem
    · exact absurd rfl (hne hignored)
    · exact ⟨ev', hmem, rfl, hignored⟩
  pending _ htarget := (List.mem_ite_nil_right.mp htarget).2

/-- One step keeps it, where the directories stay put. -/
theorem Kept.step {a : Act} (h : Kept w s) (hstep : Step w s a s') (hput : StaysPut w s a) :
    Kept w s' := by
  cases hstep with
  | create p n hdir hnone =>
    refine ⟨fun i dir hi => ?_, h.pending⟩
    rcases h.held i dir hi with ⟨hmark, path, hpath, hnode⟩ | hgone
    · exact .inl ⟨hmark, path, hpath, s.tree.create_node hdir hnone hnode⟩
    · exact .inr (hgone.append _)
  | write p n hsome =>
    exact ⟨fun i dir hi => (h.held i dir hi).imp_right fun hgone => hgone.append _, h.pending⟩
  -- A watch that is removed has its end in the queue; the others stay at their paths.
  | remove p n hbare hsome =>
    refine ⟨fun i dir hi => ?_, h.pending⟩
    rcases h.held i dir hi with ⟨hmark, path, hpath, hnode⟩ | hgone
    · by_cases hremoved : path = p ++ [n]
      · have hignores := gone_ignores (hremoved ▸ hnode) hmark
        obtain ⟨ev, hev, hwd⟩ := hignores
        exact .inr ⟨ev, List.mem_append_left _ (List.mem_append_right _ hev), hwd⟩
      · have hother : s.tree.node (p ++ [n]) ≠ some i := fun h => hremoved (s.tree.unique hnode h)
        exact .inl ⟨mem_marksWithout hother hmark, path, hpath,
          (s.tree.remove_node (by simp) hbare hremoved).trans hnode⟩
    · exact .inr (((hgone.append _).append _).append _)
  -- So has one that is replaced; and what moves is no watch's directory, as they stay put.
  | rename p n q m hdir hout hsome hbare =>
    refine ⟨fun i dir hi => ?_, h.pending⟩
    rcases h.held i dir hi with ⟨hmark, path, hpath, hnode⟩ | hgone
    · by_cases hreplaced : path = q ++ [m]
      · obtain ⟨ev, hev, hwd⟩ := gone_ignores (hreplaced ▸ hnode) hmark
        exact .inr ⟨ev, List.mem_append_right _ hev, hwd⟩
      · have hother : s.tree.node (q ++ [m]) ≠ some i := fun h => hreplaced (s.tree.unique hnode h)
        have hstays := hput p n q m rfl dir path i hpath hi hnode
        exact .inl ⟨mem_marksWithout hother hmark, path, hpath,
          s.tree.rename_node (by simp) (by simp) (by simpa using hdir) hout hbare hnode
            hstays hreplaced⟩
    · exact .inr ((((hgone.append _).append _).append _).append _)
  | receive hpending hqueue => exact h.receive hqueue
  | tick hpending => exact ⟨h.held, fun _ => id⟩
  | @watch target pending hpending =>
    have hkept : Kept w { s with pending } :=
      ⟨h.held, fun t ht => h.pending t (hpending ▸ List.mem_cons_of_mem _ ht)⟩
    exact hkept.watch (h.pending target (hpending ▸ List.mem_cons_self))

/-- The start keeps it. -/
theorem kept_start (w : Places) (tree : DirTree Text) : Kept w (State.start w tree) :=
  ⟨fun i dir hi => (by cases hi), fun _ => id⟩

/-- So does a run whose directories stay put. -/
theorem ReachesPut.kept {tree : DirTree Text} (h : ReachesPut w tree s) : Kept w s := by
  induction h with
  | refl => exact kept_start w tree
  | tail _ hstep ih =>
    obtain ⟨a, hstep, hput⟩ := hstep
    exact ih.step hstep hput

/-! ## A safety tick -/

/-- A turn leaves a watched path so. -/
theorem Watched.watch {path : Path} (h : Watched w s path) {target : Dir × Path}
    (htarget : target ∈ w.targets) : Watched w (s.watch target) path := by
  rcases watch_cases s target with ⟨heq, -⟩ | ⟨j, hnode, heq⟩
  · rwa [heq]
  rw [heq]
  intro i hi
  obtain ⟨hmark, dir, hdir, hmem⟩ := h i hi
  refine ⟨Finset.mem_insert_of_mem hmark, ?_⟩
  by_cases hij : i = j
  · -- The path is the target's own.
    subst hij
    exact ⟨target.1, AList.lookup_insert _, s.tree.unique hi hnode ▸ htarget⟩
  · exact ⟨dir, (AList.lookup_insert_ne hij).trans hdir, hmem⟩

/-- A turn leaves the queue, and what is still to do. -/
theorem watch_queue (s : State) (target : Dir × Path) :
    (s.watch target).queue = s.queue ∧ (s.watch target).pending = s.pending := by
  rcases watch_cases s target with ⟨heq, -⟩ | ⟨i, -, heq⟩
  · rw [heq]
    exact ⟨rfl, rfl⟩
  · rw [heq]
    exact ⟨rfl, rfl⟩

/-- The path of a role. -/
def Places.path (w : Places) : Dir → Option Path
  | .hyprConfig => some (w.config ++ ["hypr".toList])
  | .runtime => w.runtimeDir
  | .userProfiles => some (w.config ++ ["hypr".toList, profilesDirName])
  | .systemProfiles => some ["etc".toList, "monitor-profiles".toList]

/-- The targets of the watches are the places. -/
theorem mem_targets {path : Path} : (dir, path) ∈ w.targets ↔ w.path dir = some path := by
  cases dir <;> simp [Places.targets, Places.path, eq_comm]

/-- With nothing to be reported, the table's directories are at their paths, so a turn has its path
watched. -/
theorem Kept.watched (h : Kept w s) (hqueue : s.queue = []) {target : Dir × Path}
    (htarget : target ∈ w.targets) : Watched w (s.watch target) target.2 := by
  rcases watch_cases s target with ⟨heq, ⟨i, hi⟩ | hnone⟩ | ⟨i, hnode, heq⟩
  · rw [heq]
    rcases h.held i target.1 hi with ⟨hmark, path, hpath, hnode⟩ | ⟨ev, hev, -⟩
    · obtain rfl : path = target.2 :=
        Option.some.inj ((mem_targets.mp hpath).symm.trans (mem_targets.mp htarget))
      intro j hj
      obtain rfl := Option.some.inj (hnode.symm.trans hj)
      exact ⟨hmark, target.1, hi, htarget⟩
    · rw [hqueue] at hev
      cases hev
  · rw [heq]
    intro i hi
    rw [hnone] at hi
    cases hi
  · rw [heq]
    intro j hj
    obtain rfl := Option.some.inj (hnode.symm.trans hj)
    exact ⟨Finset.mem_insert_self _ _, target.1, AList.lookup_insert _, htarget⟩

/-- In a pass of `ensure`: nothing is to be reported, and what is not still to do is watched. -/
structure Passing (w : Places) (s : State) : Prop where
  kept : Kept w s
  queue : s.queue = []
  done : ∀ target ∈ w.targets, target ∈ s.pending ∨ Watched w s target.2

/-- A pass over the targets goes on. -/
theorem Passing.step (h : Passing w s) (hstep : Step w s .watch s') : Passing w s' := by
  cases hstep with
  | @watch target pending hpending =>
    have htarget := h.kept.pending target (hpending ▸ List.mem_cons_self)
    have hkept : Kept w { s with pending } :=
      ⟨h.kept.held, fun t ht => h.kept.pending t (hpending ▸ List.mem_cons_of_mem _ ht)⟩
    obtain ⟨hqueue, hsame⟩ := watch_queue { s with pending } target
    refine ⟨hkept.watch htarget, hqueue.trans h.queue, fun t ht => ?_⟩
    rcases h.done t ht with hmem | hwatched
    · rw [hpending] at hmem
      rcases List.mem_cons.mp hmem with rfl | hmem
      · exact .inr (hkept.watched h.queue htarget)
      · exact .inl (hsame ▸ hmem)
    · exact .inr (Watched.watch (s := { s with pending }) hwatched htarget)

/-- And comes to its end. -/
theorem Passing.steps (h : Passing w s)
    (hsteps : Relation.ReflTransGen (fun s s' => Step w s .watch s') s s') : Passing w s' := by
  induction hsteps with
  | refl => exact h
  | tail _ hstep ih => exact ih.step hstep

end

/-- Where no rename moved away a directory that the table held at its path, or one above it: once
the events are handled and a safety tick is served, the watches follow the paths. -/
theorem follows_of_handled {w : Places} {tree : DirTree Text} {s s' : State}
    (h : ReachesPut w tree s) (hqueue : s.queue = []) (hserved : Served w s s') : Follows w s' := by
  obtain ⟨s₁, htick, hwatches, hpending⟩ := hserved
  have hpassing : Passing w s₁ := by
    cases htick
    exact ⟨⟨h.kept.held, fun _ => id⟩, hqueue, fun _ => .inl⟩
  intro target htarget
  refine ((hpassing.steps hwatches).done target htarget).resolve_left ?_
  rw [hpending]
  exact List.not_mem_nil

/-! ## Two runs -/

section

variable {w : Places} {s : State}

/-- A pass to its end. -/
theorem steps_ensure {pending : List (Dir × Path)} (h : s.pending = pending) :
    Relation.ReflTransGen (fun s s' => Step w s .watch s') s (s.ensure pending) ∧
      (s.ensure pending).pending = [] := by
  induction pending generalizing s with
  | nil => exact ⟨.refl, h⟩
  | cons target pending ih =>
    obtain ⟨hsteps, hdone⟩ := ih (s := { s with pending }.watch target) (watch_queue _ target).2
    exact ⟨.head (.watch s h) hsteps, hdone⟩

/-- A tick that is served at once. -/
theorem served_ensure (h : s.pending = []) : Served w s ((s.check w .all).ensure w.targets) :=
  ⟨_, .tick s h, steps_ensure rfl⟩

end

/-- Only the user's configuration is there, and no runtime directory. -/
def Places.bare : Places := ⟨[], none⟩

/-- A home directory with `~/.config/hypr` alone. -/
def bareTree : DirTree Text := DirTree.empty.create [] "hypr".toList rfl (by decide)

/-- The watches that the task begins with. -/
def bareStart : State := (State.start Places.bare bareTree).ensure Places.bare.targets

/-- The task's first pass over it. -/
theorem steps_bareStart :
    Relation.ReflTransGen (fun s s' => Step Places.bare s .watch s')
      (State.start Places.bare bareTree)
      bareStart ∧ bareStart.pending = [] :=
  steps_ensure rfl

/-- The old name is free. -/
theorem bareStart_node : bareStart.tree.node ["old".toList] = none := by decide +kernel

/-- The configuration was moved away, and made again. -/
def movedAway : State :=
  (bareStart.rename [] "hypr".toList [] "old".toList bareStart.tree.root (by decide)).create
    [] "hypr".toList
    (by decide +kernel) (by decide +kernel)

/-- A directory that is moved away keeps its role, and the one that is made in its place is not
watched. -/
theorem not_follows_movedAway :
    ¬∀ (w : Places) (tree : DirTree Text) (s s' : State), Reaches w tree s → s.queue = [] →
    Served w s s' →
      Follows w s' := by
  intro h
  have hreaches : Reaches Places.bare bareTree movedAway := by
    have hstart : Reaches Places.bare bareTree bareStart :=
      Relation.ReflTransGen.mono (fun _ _ hstep => ⟨_, hstep⟩) _ _ steps_bareStart.1
    refine (hstart.tail ⟨_, .rename _ _ _ _ _ _ _ ?_ ?_⟩).tail ⟨_, .create _ _ _ _ _⟩
    · decide +kernel
    · exact bareStart.tree.bare_of_none bareStart_node
  have hfollows := h _ _ _ _ hreaches (by decide +kernel) (served_ensure (by decide +kernel))
  obtain ⟨hmark, -⟩ := hfollows (.hyprConfig, ["hypr".toList]) (by decide) 2 (by decide +kernel)
  exact absurd hmark (by decide +kernel)

/-- The directory is bare. -/
theorem bareStart_bare : bareStart.tree.Bare ([] ++ ["hypr".toList]) :=
  DirTree.create_bare _ rfl (by decide)

/-- The configuration was removed, and made again. -/
def madeAgain : State :=
  (bareStart.remove [] "hypr".toList bareStart_bare).create [] "hypr".toList (by decide +kernel)
    (by decide +kernel)

/-- The task was told so, and went through the directories. -/
def toldGone : State :=
  ({ madeAgain with queue := [] }.receive Places.bare ⟨1, [.ignored], none⟩).ensure
    Places.bare.targets

/-- A directory that is made again is watched. -/
theorem follows_of_handled_madeAgain : ∃ s', Served Places.bare toldGone s' ∧
    s'.tree.node ["hypr".toList] = some 2 ∧ 2 ∈ s'.marks := by
  have hwatches : ∀ {s s'}, Relation.ReflTransGen (fun s s' => Step Places.bare s .watch s') s s' →
      Relation.ReflTransGen (fun s s' => ∃ a, Step Places.bare s a s' ∧
        StaysPut Places.bare s a) s s' :=
    fun hsteps =>
      Relation.ReflTransGen.mono
        (fun _ _ hstep => ⟨_, hstep, fun _ _ _ _ h => by cases h⟩) _ _ hsteps
  have hreaches : ReachesPut Places.bare bareTree toldGone := by
    have hstart : ReachesPut Places.bare bareTree bareStart := hwatches steps_bareStart.1
    have hremove : Step Places.bare bareStart (.remove [] "hypr".toList) _ :=
      .remove _ _ _ bareStart_bare (by decide +kernel)
    have hmade := (hstart.tail ⟨_, hremove, fun _ _ _ _ h => by cases h⟩).tail
      ⟨_, .create _ [] "hypr".toList (by decide +kernel) (by decide +kernel),
        fun _ _ _ _ h => by cases h⟩
    have htold : Step Places.bare madeAgain .receive _ := .receive _ (by decide +kernel) rfl
    exact (hmade.tail ⟨_, htold, fun _ _ _ _ h => by cases h⟩).trans (hwatches (steps_ensure rfl).1)
  have hserved := served_ensure (w := Places.bare) (s := toldGone) (by decide +kernel)
  have hfollows := follows_of_handled hreaches (by decide +kernel) hserved
  have hnode : ((toldGone.check Places.bare .all).ensure Places.bare.targets).tree.node
      ["hypr".toList] =
      some 2 := by
    decide +kernel
  exact ⟨_, hserved, hnode, (hfollows (.hyprConfig, ["hypr".toList]) (by decide) 2 hnode).1⟩

end FileState

end Hyprstate
