import Hyprstate.Daemon.Context
import Hyprstate.Fsm.Power
import Mathlib.Data.List.Induction
import Mathlib.Data.List.Nodup

/-!
# Telemetry

`daemon/telemetry.rs`: observers connect to a socket of the daemon's, and each change of its state
is written to one of them as a line. The emitter remembers a hash of what it wrote last, and forgets
it where a write fails. It takes the clients that wait only when there is something to write, and
serves the last of them.

A client is served without a gap until another one is, each line tells something else than the line
before, a line that was cut off is the last one, and whoever is served has the present state as its
last line (`Emitter.run_orderly`). Serialization does not fail, and no two clients are the same.
-/

namespace Hyprstate

/-- `State::as_str`: the name of a state in a frame. -/
def State.asStr : State → String
  | .lidOpen => "LID_OPEN"
  | .docked => "DOCKED"
  | .deferred => "DEFERRED"
  | .countdown => "COUNTDOWN"
  | .suspending => "SUSPENDING"

namespace Telemetry

/-- `FrameCtx`. -/
structure FrameCtx where
  lidClosed : Bool
  extMonCount : Nat
  inhibitor : Bool
  locked : Bool
  onAc : Bool
  lowBattery : Bool
  powerBase : String
  desiredProfile : String
  appliedProfile : String
  activeProfile : String
  deriving DecidableEq

/-- `FrameCtx::from_context`. -/
def FrameCtx.fromContext (c : Context) : FrameCtx :=
  let base := powerBaseState c.onAcSettled c.extMonCount c.lowBattery
  let desired := c.power.powerOverride.getD (c.power.powerPolicy.forBase base)
  { lidClosed := c.lidClosed
    extMonCount := c.extMonCount
    inhibitor := c.inhibitor
    locked := c.locked
    onAc := c.onAcSettled
    lowBattery := c.lowBattery
    powerBase := base.asStr
    desiredProfile := desired.asStr
    appliedProfile := (c.power.powerApplied.map PowerProfile.asStr).getD ""
    activeProfile := c.currentProfile.getD "" }

/-- `TelemetryFrame`. -/
structure Frame where
  version : Nat
  ts : Nat
  kind : String
  source : String
  event : String
  target : String
  ctx : FrameCtx
  effectors : List String
  deriving DecidableEq

/-- The two hashes of `std`: that of a context, and that of the rest of a frame but its time. -/
structure Hashes where
  ctx : FrameCtx → Nat
  rest : (kind source event target : String) → (effectors : List String) → Nat

/-- What tells two frames apart. -/
def Hashes.fingerprint (h : Hashes) (f : Frame) : Nat :=
  h.ctx f.ctx ^^^ h.rest f.kind f.source f.event f.target f.effectors

/-- A client that connected, by its number. -/
abbrev Client : Type := Nat

/-- A line as it was written to a client: whole, or cut off. -/
inductive Delivery
  | whole (f : Frame)
  | part (f : Frame)
  deriving DecidableEq

/-- The frame that a delivery is of. -/
def Delivery.frame : Delivery → Frame
  | whole f | part f => f

/-- How a write to the client ends; one that fails may have written a part. -/
inductive Written
  | whole
  | part
  | nothing

/-- `TelemetryEmitter`, with the clients that wait for `accept`, and all that was written. -/
structure Emitter where
  listening : Bool
  backlog : List Client := []
  stream : Option Client := none
  lastFp : Option Nat := none
  sent : List (Client × Delivery) := []

namespace Emitter

variable (s : Emitter)

/-- `accept_clients`: some of the clients are accepted, and a client is kept if it can be made
nonblocking. -/
def acceptClients (accepts : List Bool) : Emitter :=
  if s.listening then
    { s with
      backlog := s.backlog.drop accepts.length
      stream := (((s.backlog.zip accepts).filter fun p => p.2).map Prod.fst).getLast?.or s.stream }
  else s

/-- `emit`: the emitter afterwards, and whether the frame was written. -/
def emit (f : Frame) (accepts : List Bool) (written : Written) : Emitter × Bool :=
  let s := s.acceptClients accepts
  match s.stream with
  | none => (s, false)
  | some c =>
    match written with
    | .whole => ({ s with sent := s.sent ++ [(c, .whole f)] }, true)
    | .part => ({ s with sent := s.sent ++ [(c, .part f)], stream := none, lastFp := none }, false)
    | .nothing => ({ s with stream := none, lastFp := none }, false)

variable (h : Hashes)

/-- `emit_if_changed`. -/
def emitIfChanged (f : Frame) (accepts : List Bool) (written : Written) : Emitter :=
  if s.lastFp = some (h.fingerprint f) then s
  else
    let r := s.emit f accepts written
    if r.2 then { r.1 with lastFp := some (h.fingerprint f) } else r.1

/-- What happens to an emitter. -/
inductive Call
  | connect (c : Client)
  /-- `emit_help` at a time, with what becomes of it. -/
  | emitHelp (c : Context) (kind event : String) (source target : State)
      (effectors : List String) (ts : Nat)
      (accepts : List Bool) (written : Written)

/-- The frame of a call. -/
def frame (c : Context) (kind event : String) (source target : State) (effectors : List String)
    (ts : Nat) : Frame where
  version := 2
  ts := ts
  kind := kind
  source := source.asStr
  event := event
  target := target.asStr
  ctx := .fromContext c
  effectors := effectors

/-- One call on the emitter. -/
def step : Call → Emitter
  | .connect c => { s with backlog := s.backlog ++ [c] }
  | .emitHelp c kind event source target effectors ts accepts written =>
    s.emitIfChanged h (frame c kind event source target effectors ts) accepts written

/-- The emitter after a sequence of calls. -/
def run (calls : List Call) : Emitter := calls.foldl (fun s call => s.step h call) s

end Emitter

open Emitter

/-- The clients that connect. -/
def connects : Call → Option Client
  | .connect c => some c
  | .emitHelp .. => none

/-- Each line is the first one to its client, or comes right after a whole one to it that tells
something else. -/
def Orderly (h : Hashes) (sent : List (Client × Delivery)) : Prop :=
  ∀ pre c d post, sent = pre ++ (c, d) :: post → (∀ p ∈ pre, p.1 ≠ c) ∨
    ∃ g, pre.getLast? = some (c, .whole g) ∧ h.fingerprint g ≠ h.fingerprint d.frame

/-! ## What every call keeps -/

/-- The client that is served has had its last line whole, and it is what the emitter remembers. -/
def Shown (h : Hashes) (s : Emitter) : Prop :=
  (s.stream = none ∧ s.lastFp = none) ∨ ∃ c g, s.stream = some c ∧
    s.lastFp = some (h.fingerprint g) ∧
    s.sent.getLast? = some (c, .whole g)

/-- An emitter whose clients are among these. -/
structure Kept (h : Hashes) (clients : List Client) (s : Emitter) : Prop where
  orderly : Orderly h s.sent
  shown : Shown h s
  /-- Who waits was not served yet. -/
  fresh : ∀ c ∈ s.backlog, ∀ p ∈ s.sent, p.1 ≠ c
  nodup : s.backlog.Nodup
  waiting : ∀ c ∈ s.backlog, c ∈ clients
  served : ∀ p ∈ s.sent, p.1 ∈ clients

section

variable {h : Hashes} {s : Emitter} {clients : List Client} {f : Frame}

/-- A delivery more keeps the order, where its client is new or saw another print last. -/
theorem Orderly.append {sent : List (Client × Delivery)} (hsent : Orderly h sent) {c : Client}
    {d : Delivery}
    (hnew : (∀ p ∈ sent, p.1 ≠ c) ∨ ∃ g, sent.getLast? = some (c, .whole g) ∧
      h.fingerprint g ≠ h.fingerprint d.frame) :
    Orderly h (sent ++ [(c, d)]) := by
  intro pre c' d' post heq
  rcases List.eq_nil_or_concat post with rfl | ⟨post, x, rfl⟩
  · obtain ⟨rfl, hx⟩ := List.append_inj' heq rfl
    obtain ⟨rfl, rfl⟩ := Prod.mk.inj (List.singleton_inj.mp hx)
    exact hnew
  · have heq' : sent ++ [(c, d)] = (pre ++ (c', d') :: post) ++ [x] := by simpa using heq
    exact hsent pre c' d' post (List.append_inj' heq' rfl).1

/-- The clients that get an answer are among the first. -/
theorem mem_take_of_mem_zip {l : List Client} {accepts : List Bool} {p : Client × Bool}
    (hp : p ∈ l.zip accepts) : p.1 ∈ l.take accepts.length := by
  induction l generalizing accepts with
  | nil => cases hp
  | cons c l ih =>
    cases accepts with
    | nil => cases hp
    | cons b accepts =>
      rcases List.mem_cons.mp hp with rfl | hp
      · exact List.mem_cons_self
      · exact List.mem_cons_of_mem _ (ih hp)

/-- After some were accepted the client that is served is the one from before, or waited and waits
no more. -/
theorem acceptClients_cases (hnodup : s.backlog.Nodup) (accepts : List Bool) :
    (s.acceptClients accepts).stream = s.stream ∨
      ∃ c ∈ s.backlog, c ∉ (s.acceptClients accepts).backlog ∧
      (s.acceptClients accepts).stream = some c := by
  unfold acceptClients
  split
  · cases hlast : (((s.backlog.zip accepts).filter fun p => p.2).map Prod.fst).getLast? with
    | none => exact .inl rfl
    | some c =>
      obtain ⟨p, hp, rfl⟩ := List.mem_map.mp (List.mem_of_getLast? hlast)
      have htake := mem_take_of_mem_zip (List.mem_filter.mp hp).1
      exact .inr ⟨p.1, List.mem_of_mem_take htake, List.disjoint_take_drop hnodup
        (le_refl _) htake, rfl⟩
  · exact .inl rfl

/-- To accept clients sends nothing and takes from the front of the backlog. -/
theorem acceptClients_rest (accepts : List Bool) : (s.acceptClients accepts).sent = s.sent ∧
    (s.acceptClients accepts).lastFp = s.lastFp ∧
    (s.acceptClients accepts).backlog <:+ s.backlog := by
  unfold acceptClients
  split
  · exact ⟨rfl, rfl, List.drop_suffix _ _⟩
  · exact ⟨rfl, rfl, List.suffix_refl _⟩

/-- Whoever is served was shown the frame, or one that tells the same. -/
def Tells (h : Hashes) (s : Emitter) (f : Frame) : Prop :=
  ∀ c, s.stream = some c → ∃ g, s.sent.getLast? = some (c, .whole g) ∧
    h.fingerprint g = h.fingerprint f

/-- An emission keeps the invariant and tells the clients the frame. -/
theorem Kept.emitIfChanged (hkept : Kept h clients s) (f : Frame) (accepts : List Bool)
    (written : Written) :
    Kept h clients (s.emitIfChanged h f accepts written) ∧
    Tells h (s.emitIfChanged h f accepts written) f := by
  unfold Emitter.emitIfChanged
  split
  · next hsame =>
    -- The print is the last one, so nothing is sent and the client has it.
    refine ⟨hkept, fun c hc => ?_⟩
    rcases hkept.shown with ⟨hnone, -⟩ | ⟨c', g, hstream, hlast, hsent⟩
    · rw [hnone] at hc
      cases hc
    · obtain rfl := Option.some.inj (hstream.symm.trans hc)
      exact ⟨g, hsent, Option.some.inj (hlast.symm.trans hsame)⟩
  next hchanged =>
  obtain ⟨hsent, hlastFp, hbacklog⟩ := acceptClients_rest (s := s) accepts
  have hcases := acceptClients_cases hkept.nodup accepts
  unfold Emitter.emit
  dsimp only
  generalize s.acceptClients accepts = s' at hsent hlastFp hbacklog hcases ⊢
  -- Accepting clients moves them out of the backlog, and nothing was sent to one who waits.
  have hfresh : ∀ c ∈ s'.backlog, ∀ p ∈ s'.sent, p.1 ≠ c := fun c hc =>
    hsent ▸ hkept.fresh c (hbacklog.mem hc)
  have hnodup : s'.backlog.Nodup := hkept.nodup.sublist hbacklog.sublist
  have hwaiting : ∀ c ∈ s'.backlog, c ∈ clients := fun c hc => hkept.waiting c (hbacklog.mem hc)
  have hserved : ∀ p ∈ s'.sent, p.1 ∈ clients := hsent ▸ hkept.served
  -- Without a stream nothing goes out; with one, its client is new or saw another print last.
  cases hstream : s'.stream with
  | none =>
    refine ⟨⟨hsent ▸ hkept.orderly, .inl ⟨hstream, ?_⟩, hfresh, hnodup, hwaiting, hserved⟩,
      fun c hc => ?_⟩
    · rcases hcases with hsame | ⟨c, -, -, hc⟩
      · rcases hkept.shown with ⟨-, hnone⟩ | ⟨c, g, hsome, -⟩
        · exact hlastFp.trans hnone
        · rw [← hsame, hstream] at hsome
          cases hsome
      · rw [hstream] at hc
        cases hc
    · have hnone : s'.stream = some c := hc
      rw [hstream] at hnone
      cases hnone
  | some c =>
    obtain ⟨hknown, hgone, hnew⟩ : c ∈ clients ∧ c ∉ s'.backlog ∧ ((∀ p ∈ s'.sent, p.1 ≠ c) ∨
        ∃ g, s'.sent.getLast? = some (c, .whole g) ∧ h.fingerprint g ≠ h.fingerprint f) := by
      rcases hcases with hsame | ⟨c', hwaits, hgone, hc⟩
      · rcases hkept.shown with ⟨hnone, -⟩ | ⟨c', g, hsome, hlast, hshown⟩
        · rw [← hsame, hstream] at hnone
          cases hnone
        obtain rfl : c' = c := Option.some.inj (hsome.symm.trans (hsame.symm.trans hstream))
        have hmem : (c', Delivery.whole g) ∈ s.sent := List.mem_of_getLast? hshown
        refine ⟨hkept.served _ hmem, fun hwaits => ?_,
          .inr ⟨g, hsent ▸ hshown, fun heq => hchanged ?_⟩⟩
        · exact hkept.fresh c' (hbacklog.mem hwaits) _ hmem rfl
        · rw [hlast, heq]
      · obtain rfl := Option.some.inj (hc.symm.trans hstream)
        exact ⟨hkept.waiting c' hwaits, hgone, .inl (hsent ▸ hkept.fresh c' hwaits)⟩
    have horderly : ∀ d : Delivery, d.frame = f → Orderly h (s'.sent ++ [(c, d)]) := by
      rintro d rfl
      have hbefore : Orderly h s'.sent := hsent ▸ hkept.orderly
      exact hbefore.append hnew
    have hfresh' : ∀ d : Delivery, ∀ c' ∈ s'.backlog, ∀ p ∈ s'.sent ++ [(c, d)], p.1 ≠ c' := by
      intro d c' hc' p hp
      rcases List.mem_append.mp hp with hp | hp
      · exact hfresh c' hc' p hp
      · rw [List.mem_singleton.mp hp]
        rintro rfl
        exact hgone hc'
    have hserved' : ∀ d : Delivery, ∀ p ∈ s'.sent ++ [(c, d)], p.1 ∈ clients := by
      intro d p hp
      rcases List.mem_append.mp hp with hp | hp
      · exact hserved p hp
      · rw [List.mem_singleton.mp hp]
        exact hknown
    cases written with
    | whole =>
      have hlast : (s'.sent ++ [(c, Delivery.whole f)]).getLast? = some (c, .whole f) :=
        List.getLast?_concat
      dsimp only
      rw [if_pos rfl]
      refine ⟨⟨horderly _ rfl, .inr ⟨c, f, rfl, rfl, hlast⟩, hfresh' _, hnodup, hwaiting,
        hserved' _⟩, ?_⟩
      intro c' hc'
      obtain rfl : c = c' := Option.some.inj hc'
      exact ⟨f, hlast, rfl⟩
    | part =>
      dsimp only
      rw [if_neg Bool.false_ne_true]
      refine ⟨⟨horderly _ rfl, .inl ⟨rfl, rfl⟩, hfresh' _, hnodup, hwaiting, hserved' _⟩, ?_⟩
      intro c' hc'
      cases hc'
    | nothing =>
      dsimp only
      rw [if_neg Bool.false_ne_true]
      refine ⟨⟨hsent ▸ hkept.orderly, .inl ⟨rfl, rfl⟩, hfresh, hnodup, hwaiting, hserved⟩, ?_⟩
      intro c' hc'
      cases hc'

/-- So does a client that connects. -/
theorem Kept.connect (hkept : Kept h clients s) {c : Client} (hc : c ∉ clients) :
    Kept h (clients ++ [c]) { s with backlog := s.backlog ++ [c] } where
  orderly := hkept.orderly
  shown := hkept.shown
  fresh c' hc' p hp := by
    rcases List.mem_append.mp hc' with hc' | hc'
    · exact hkept.fresh c' hc' p hp
    · rw [List.mem_singleton.mp hc']
      exact fun heq => hc (heq ▸ hkept.served p hp)
  nodup := by
    refine List.nodup_append.mpr ⟨hkept.nodup, List.nodup_singleton c, fun a ha b hb hab => ?_⟩
    rw [List.mem_singleton.mp hb] at hab
    exact hc (hab ▸ hkept.waiting a ha)
  waiting c' hc' := by
    rcases List.mem_append.mp hc' with hc' | hc'
    · exact List.mem_append_left _ (hkept.waiting c' hc')
    · exact List.mem_append_right _ hc'
  served p hp := List.mem_append_left _ (hkept.served p hp)

/-! ## Runs -/

/-- `TelemetryEmitter::new`, with the socket or without. -/
def Emitter.new (listening : Bool) : Emitter := { listening }

/-- And every sequence of calls. -/
theorem kept_run (listening : Bool) {calls : List Call}
    (hclients : (calls.filterMap connects).Nodup) :
    Kept h (calls.filterMap connects) ((Emitter.new listening).run h calls) := by
  induction calls using List.reverseRecOn with
  | nil =>
    refine ⟨fun pre c d post heq => ?_, .inl ⟨rfl, rfl⟩, ?_, List.nodup_nil, ?_, ?_⟩
    · exact absurd heq (by simp [Emitter.run, Emitter.new])
    all_goals simp [Emitter.run, Emitter.new]
  | append_singleton calls call ih =>
    rw [List.filterMap_append] at hclients ⊢
    have hbefore := ih (List.nodup_append.mp hclients).1
    rw [Emitter.run, List.foldl_append, List.foldl_cons, List.foldl_nil]
    cases call with
    | connect c =>
      refine hbefore.connect fun hmem => ?_
      exact (List.nodup_append.mp hclients).2.2 c hmem c List.mem_cons_self rfl
    | emitHelp c kind event source target effectors ts accepts written =>
      have hnone :
          [Call.emitHelp c kind event source target effectors ts accepts
            written].filterMap connects = [] := rfl
      rw [hnone, List.append_nil]
      exact (hbefore.emitIfChanged _ accepts written).1

end

/-- Whatever clients connect and however their writes end, the lines are orderly, and after each
change that is emitted whoever is served was shown the context as it is, or one that hashes
alike. -/
theorem Emitter.run_orderly (h : Hashes) (listening : Bool) (calls : List Call)
    (hclients : (calls.filterMap connects).Nodup) :
    Orderly h ((Emitter.new listening).run h calls).sent ∧
      ∀ before c kind event source target effectors ts accepts written,
        calls = before ++ [.emitHelp c kind event source target effectors ts accepts written] →
        Tells h ((Emitter.new listening).run h calls)
          (frame c kind event source target effectors ts) := by
  refine ⟨(kept_run listening hclients).orderly, ?_⟩
  rintro before c kind event source target effectors ts accepts written rfl
  rw [List.filterMap_append] at hclients
  rw [Emitter.run, List.foldl_append, List.foldl_cons, List.foldl_nil]
  exact ((kept_run listening (List.nodup_append.mp hclients).1).emitIfChanged _ accepts written).2

/-- Two clients: the first is cut off, and nobody is served until the second waits and something
changed. -/
def twoClients : List Call :=
  [.connect 1, .emitHelp {} "boot" "startup" .lidOpen .lidOpen [] 0 [true] .whole,
    .emitHelp { extMonCount := 1 } "ctx" "monitors" .lidOpen .lidOpen [] 1 [] .part,
    .connect 2, .emitHelp { extMonCount := 1 } "ctx" "monitors" .lidOpen .lidOpen [] 2
      [true] .whole]

/-- One client hears the first frame, and a later one the second alone. -/
theorem Emitter.run_orderly_twoClients : let h : Hashes :=
  ⟨fun c => c.extMonCount, fun _ _ _ _ _ => 0⟩
    let s := (Emitter.new true).run h twoClients
    s.stream = some 2 ∧ s.sent.length = 3 ∧ Orderly h s.sent ∧
      Tells h s (frame { extMonCount := 1 } "ctx" "monitors" .lidOpen .lidOpen [] 2) := by
  have hruns := run_orderly ⟨fun c => c.extMonCount, fun _ _ _ _ _ => 0⟩ true twoClients (by decide)
  refine ⟨by decide +kernel, by decide +kernel, hruns.1, ?_⟩
  exact hruns.2 (twoClients.take 4) { extMonCount := 1 } "ctx" "monitors" .lidOpen .lidOpen [] 2
    [true] .whole rfl

end Telemetry

end Hyprstate
