import Hyprstate.Panel.EventCost

/-!
# How an echo is answered

The dispatcher answers the report of a reload with one panel command at most, and has in hand what
pays for it (`Answering`): the report that it took. What it re-asserts is what it was in the mode
of, so the turn leaves the mode as it was (`turn_reassert`).
-/

namespace Hyprstate

open Reactive Process

namespace Loop

variable {ok : DaemonObs → Prop} {bound n r : Nat} {m : Flight.Mode} {c c' : Context}
  {w w' w₀ : Loop} {e : Eff}

/-! ## The dispatcher's requests -/

/-- What costs something is a panel command, an apply or a timer. -/
theorem eq_of_cost (h : cost e ≠ 0) : (∃ on, e = .trySend (.setEdp on)) ∨
    e = .trySend .applyProfile ∨ ∃ delay ev, e = .spawnTimer delay ev := by
  cases e with
  | trySend cmd =>
    cases cmd with
    | setEdp on => exact .inl ⟨on, rfl⟩
    | applyProfile => exact .inr (.inl rfl)
    | _ => exact absurd rfl h
  | spawnTimer delay ev => exact .inr (.inr ⟨delay, ev, rfl⟩)
  | _ => exact absurd rfl h

/-- A request that costs nothing moves nothing that is counted. -/
theorem answer_flight {b : stamped Eff.Ans (c, e)} (he : cost e = 0) (hq : e.resource ≠ .queue)
    (h : world.answer (c, e) w b w') : w'.flight n = w.flight n ∧ w'.reloads = w.reloads := by
  cases e with
  -- A queued command counts only if it flips the panel or applies a profile.
  | trySend cmd =>
    have hother : cmd ≠ .setEdp true → cmd ≠ .setEdp false → cmd ≠ .applyProfile →
        w' = (if b = true then { w with cmds := w.cmds ++ [cmd] } else w) →
        w'.flight n = w.flight n ∧ w'.reloads = w.reloads := by
      rintro hon hoff happly rfl
      split_ifs
      · exact ⟨by simp [flight, hon, hoff, happly], rfl⟩
      · exact ⟨rfl, rfl⟩
    cases cmd with
    | setEdp on => exact absurd he (by simp [cost])
    | applyProfile => exact absurd he (by decide)
    | _ => exact hother (by simp) (by simp) (by simp) h
  -- A timer counts by what its event may cost.
  | spawnTimer delay ev =>
    have htimer : w' = { w with timers := w.timers ++ [ev] } := h
    rw [cost] at he
    split_ifs at he with hev
    subst htimer
    exact ⟨by simp [flight, he, hev], rfl⟩
  | activeProfileName | loadProfiles | activeLinkIs _ =>
    obtain ⟨-, rfl⟩ := h
    exact ⟨rfl, rfl⟩
  | repointActive name =>
    have hlink : w' = if b = true then
        { w with
          active := some name
          direct := true }
      else w := h
    subst hlink
    split_ifs
    · exact ⟨rfl, rfl⟩
    · exact ⟨rfl, rfl⟩
  | sendEvent ev => exact absurd rfl hq
  | _ =>
    obtain rfl : w' = w := h
    exact ⟨rfl, rfl⟩

/-- Only the repoint of the link moves the config. -/
theorem answer_config {b : stamped Eff.Ans (c, e)} (he : ∀ name, e ≠ .repointActive name)
    (h : world.answer (c, e) w b w') : w'.config = w.config := by
  cases e with
  | trySend cmd =>
    have htaken : w' = if b = true then { w with cmds := w.cmds ++ [cmd] } else w := h
    subst htaken
    split_ifs
    · rfl
    · rfl
  | spawnTimer delay ev =>
    obtain rfl : w' = { w with timers := w.timers ++ [ev] } := h
    rfl
  | sendEvent ev =>
    obtain rfl : w' = { w with events := w.events ++ [ev] } := h
    rfl
  | activeProfileName | loadProfiles | activeLinkIs _ =>
    obtain ⟨-, rfl⟩ := h
    rfl
  | repointActive name => exact absurd rfl (he name)
  | _ =>
    obtain rfl : w' = w := h
    rfl

/-- The queue takes a panel command or an apply, or refuses it. -/
theorem answer_trySend {cmd : Cmd} {b : stamped Eff.Ans (c, Eff.trySend cmd)}
    (h : world.answer (c, .trySend cmd) w b w') :
    w' = w ∨ w' = { w with cmds := w.cmds ++ [cmd] } := by
  have htaken : w' = if b = true then { w with cmds := w.cmds ++ [cmd] } else w := h
  subst htaken
  split_ifs
  · exact .inr rfl
  · exact .inl rfl

/-- A request that sends no event itself and moves no config. -/
def Calm (e : Eff) : Prop := e.resource ≠ .queue ∧ ∀ name, e ≠ .repointActive name

/-- A request of another resource is calm. -/
theorem calm_of_resource {rs : List Resource} (hqueue : Resource.queue ∉ rs)
    (hfile : Resource.file ∉ rs) (he : e.resource ∈ rs) : Calm e := by
  refine ⟨fun h => hqueue (h ▸ he), ?_⟩
  rintro name rfl
  exact hfile he

/-- A calm request that costs nothing. -/
def Free (_ : Context) (e : Eff) : Prop := cost e = 0 ∧ Calm e

/-- What the free requests do not touch, as far as their resources tell. -/
def counted : List Resource := [.panel, .profile, .timer, .queue, .file]

/-- A request of another resource is free. -/
theorem free_of_resource (rs : List Resource) (hrs : ∀ r ∈ counted, r ∉ rs)
    (he : e.resource ∈ rs) : Free c e := by
  have hne : ∀ r ∈ counted, e.resource ≠ r := fun r hr heq => hrs r hr (heq ▸ he)
  exact ⟨cost_eq_zero (hne _ (by decide)) (hne _ (by decide)) (hne _ (by decide)),
    calm_of_resource (hrs _ (by decide)) (hrs _ (by decide)) he⟩

/-- A query is free. -/
theorem free_of_query (h : e.resource = .query) : Free c e :=
  free_of_resource [.query] (by decide) (List.mem_singleton.mpr h)

/-- A piece that touches nothing else makes free requests only. -/
theorem meets_free {α : Type} {x : Daemon α} {rs : List Resource} {Q : α → Context → Prop}
    (hx : Meets x c (only rs) Q) (hrs : ∀ r ∈ counted, r ∉ rs) : Meets x c Free Q :=
  hx.mono (fun _ _ he => free_of_resource rs hrs he) fun _ _ => id

/-- A piece that costs nothing makes free requests only, where they are calm. -/
theorem meets_free_of_costs {α : Type} {x : Daemon α} {rs : List Resource} {Q : α → Context → Prop}
    (hx : Costs cost 0 x) (hm : Meets x c (only rs) Q) (hqueue : Resource.queue ∉ rs)
    (hfile : Resource.file ∉ rs) : Meets x c Free Q :=
  ((hx.meets c).and hm).mono (fun _ _ he => ⟨he.1, calm_of_resource hqueue hfile he.2⟩)
    fun _ _ h => h.2

/-! ## The mode -/

/-- The panel policy after the active link was read. -/
def policyAfter (w : Loop) (c : Context) : EdpPolicy :=
  match w.active with
  | none => c.edpPolicy
  | some name =>
    if c.currentProfile = some name then c.edpPolicy
    else ((w.profiles.find? fun p => p.name == name).map MonitorProfile.edp).getD .auto

/-- The panel state that a re-assert commands. -/
def wants (w : Loop) (c : Context) : Bool := (w.policyAfter c).resolve (decide (c.state = .lidOpen))

/-- What the dispatcher is at between its turns: in shadow mode and on its way into suspend it
re-asserts nothing. -/
def mode (w : Loop) (fx : Effectors) (c : Context) : Flight.Mode :=
  if fx.shadow = true ∨ c.state = .suspending ∨ w.wants c = false then .off
  else if w.dark then .dark else .lit

/-- What decides the mode besides the context does not move while an echo is answered. -/
theorem mode_of_config {fx : Effectors} (h : w'.config = w.config) (c : Context) :
    w'.mode fx c = w.mode fx c := by
  have hactive : w'.active = w.active := congrArg Prod.fst h
  have hprofiles : w'.profiles = w.profiles := congrArg (fun p => p.2.2.1) h
  have hdark : w'.dark = w.dark := congrArg (fun p => p.2.2.2) h
  have hpolicy : w'.policyAfter c = w.policyAfter c := by
    unfold policyAfter
    rw [hactive, hprofiles]
  rw [mode, mode, wants, wants, hpolicy, hdark]

/-- Of the context it is the state and the policy that decide it. -/
theorem mode_of_policy {fx : Effectors} (hstate : c'.state = c.state)
    (hpolicy : w.policyAfter c' = w.policyAfter c) :
    w.mode fx c' = w.mode fx c := by
  rw [mode, mode, wants, wants, hstate, hpolicy]

/-- The mode is that of the panel state which a re-assert commands. -/
theorem mode_wants {fx : Effectors} (hfx : fx.shadow = false) (hs : c.state ≠ .suspending) :
    if w.wants c then w.mode fx c = .lit ∨ w.mode fx c = .dark else w.mode fx c = .off := by
  cases h : w.wants c with
  | true =>
    rw [if_pos rfl, mode, if_neg (by simp [hfx, hs, h])]
    cases w.dark
    · exact .inl rfl
    · exact .inr rfl
  | false => rw [if_neg (by simp), mode, if_pos (.inr (.inr h))]

/-- The modes `lit` and `dark` are what the config says. -/
theorem fits_mode (w : Loop) (fx : Effectors) (c : Context) : Fits (w.mode fx c) w := by
  unfold Fits mode
  split_ifs with _ hdark
  · exact ⟨by simp, by simp⟩
  · exact ⟨by simp, fun _ => hdark⟩
  · exact ⟨fun _ => by simpa using hdark, by simp⟩

/-! ## What the dispatcher keeps back -/

section

variable (fx : Effectors) (ext : Nat) (chosen : Option MonitorProfile)

/-- The active link and the context are at the profile that is chosen, or the dispatcher does not
move the link. -/
def linked (c : Context) (w : Loop) : Bool :=
  match chosen with
  | none => true
  | some p => fx.shadow || decide (w.active = some p.name ∧ w.direct = true ∧
      c.currentProfile = some p.name ∧ c.activeProfileRev = some p)

/-- The machine is not where the world has it. -/
def unsettled (c : Context) : Bool :=
  decide (c.state ≠ .suspending ∧ worldState c.world ≠ c.state)

/-- What the loop's own events may still have the dispatcher do: count the monitors, move the link
and settle the machine. A request that is withdrawn unsettles it once more, and it may suspend. -/
def reserve (c : Context) (w : Loop) : Nat :=
  4 * ((decide (c.extMonCount ≠ ext)).toNat + (!linked fx chosen c w).toNat +
    2 * c.suspendRequested.toNat + (decide (c.state ≠ .suspending)).toNat + (unsettled c).toNat)

/-- The reserve is bounded. -/
theorem reserve_le (c : Context) (w : Loop) : reserve fx ext chosen c w ≤ 24 := by
  unfold reserve
  have hle : ∀ b : Bool, b.toNat ≤ 1 := Bool.toNat_le
  have hstale := hle (decide (c.extMonCount ≠ ext))
  have hlinked := hle (!linked fx chosen c w)
  have hrequested := hle c.suspendRequested
  have hawake := hle (decide (c.state ≠ .suspending))
  have hunsettled := hle (unsettled c)
  omega

/-- What the mode and the reserve read of the context. -/
def seen (c : Context) : WorldInputs × State × EdpPolicy × Option String × Option MonitorProfile :=
  (c.world, c.state, c.edpPolicy, c.currentProfile, c.activeProfileRev)

variable {fx ext chosen}

/-- Of the loop the link is all that is read. -/
theorem linked_of_config (h : w'.config = w.config) :
    linked fx chosen c w' = linked fx chosen c w := by
  have hactive : w'.active = w.active := congrArg Prod.fst h
  have hdirect : w'.direct = w.direct := congrArg (fun p => p.2.1) h
  unfold linked
  rw [hactive, hdirect]

/-- So the reserve reads the config alone. -/
theorem reserve_of_config (h : w'.config = w.config) :
    reserve fx ext chosen c w' = reserve fx ext chosen c w := by
  rw [reserve, reserve, linked_of_config h]

/-- Of the context it reads what is seen. -/
theorem reserve_of_seen (h : seen c' = seen c) :
    reserve fx ext chosen c' w = reserve fx ext chosen c w := by
  have hworld : c'.world = c.world := congrArg Prod.fst h
  have hstate : c'.state = c.state := congrArg (fun p => p.2.1) h
  have hname : c'.currentProfile = c.currentProfile := congrArg (fun p => p.2.2.2.1) h
  have hrev : c'.activeProfileRev = c.activeProfileRev := congrArg (fun p => p.2.2.2.2) h
  have hext : c'.extMonCount = c.extMonCount := congrArg WorldInputs.extMonCount hworld
  have hrequest : c'.suspendRequested = c.suspendRequested :=
    congrArg WorldInputs.suspendRequested hworld
  unfold reserve linked unsettled
  rw [hworld, hstate, hname, hrev, hext, hrequest]

/-- And so does the mode. -/
theorem mode_of_seen (h : seen c' = seen c) : w.mode fx c' = w.mode fx c := by
  have hstate : c'.state = c.state := congrArg (fun p => p.2.1) h
  have hpolicy : c'.edpPolicy = c.edpPolicy := congrArg (fun p => p.2.2.1) h
  have hname : c'.currentProfile = c.currentProfile := congrArg (fun p => p.2.2.2.1) h
  refine mode_of_policy hstate ?_
  unfold policyAfter
  rw [hpolicy, hname]

/-- To read another active profile from the link leaves the reserve where it was, or lowers it. -/
theorem reserve_ingested (hc : onlyProfile c c')
    (hread : c' = c ∨ ∃ name, w.active = some name ∧ c.currentProfile ≠ some name) :
    reserve fx ext chosen c' w ≤ reserve fx ext chosen c w := by
  rcases hread with rfl | ⟨name, hactive, hother⟩
  · exact Nat.le_refl _
  obtain ⟨n, r, e, rfl⟩ := hc
  have hlinked : linked fx chosen c w = true →
      linked fx chosen { c with currentProfile := n, activeProfileRev := r, edpPolicy := e } w =
        true := by
    unfold linked
    cases chosen with
    | none => exact id
    | some p =>
      intro h
      -- a link that is read anew was not at the profile
      have hshadow : fx.shadow = true := by
        rcases Bool.or_eq_true_iff.mp h with h | h
        · exact h
        · obtain ⟨hname, -, hcurrent, -⟩ := of_decide_eq_true h
          exact absurd (hcurrent.trans (hname.symm.trans hactive)) hother
      simp [hshadow]
  have hle :
      (!linked fx chosen
        { c with currentProfile := n, activeProfileRev := r, edpPolicy := e } w).toNat ≤
        (!linked fx chosen c w).toNat := by
    cases h : linked fx chosen c w with
    | true => simp [hlinked h]
    | false => exact Bool.toNat_le _
  -- nothing else of the reserve is read from the link
  refine Nat.mul_le_mul_left 4 ?_
  exact Nat.add_le_add_right (Nat.add_le_add_right (Nat.add_le_add_right
    (Nat.add_le_add_left hle _) _) _) _

/-- The dispatcher is between two requests: what the loop can still cost, with what the dispatcher
keeps back. -/
def Rested (fx : Effectors) (ext : Nat) (chosen : Option MonitorProfile) (bound : Nat) (c : Context)
    (w : Loop) : Prop :=
  Bounded bound (w.mode fx c) (reserve fx ext chosen c w) w

end

/-! ## A re-assert -/

/-- While the dispatcher answers an echo: what it has in hand pays for the `n` commands it may make,
above a reserve of `r`. -/
structure Answering (bound : Nat) (m : Flight.Mode) (r : Nat) (w₀ : Loop) (n : Nat)
    (w : Loop) : Prop where
  paid : (w.flight r).potential m + n * (w.flight r).inHand m + w.reloads ≤ bound
  config : w.config = w₀.config
  fits : Fits m w

namespace Answering

/-- The other parties act. -/
theorem drift (hw : Answering bound m r w₀ n w) (h : Drift w w') :
    Answering bound m r w₀ n w' := by
  have hpaid : Paid r m w w' := h.paid hw.fits
  refine ⟨?_, hpaid.config.trans hw.config, hw.fits.of_config hpaid.config⟩
  have hhand : n * (w'.flight r).inHand m ≤ n * (w.flight r).inHand m := by
    refine Nat.mul_le_mul_left n ?_
    have hlevel := hpaid.level
    unfold Flight.inHand
    omega
  have hbefore := hw.paid
  have hafter := hpaid.paid
  omega

/-- However long they do. -/
theorem drifts (hw : Answering bound m r w₀ n w) (h : (world.admitting ok).Drifts w w') :
    Answering bound m r w₀ n w' := h.keeps (fun _ _ hstep hw => hw.drift hstep) hw

/-- A free request. -/
theorem answer_free {b : stamped Eff.Ans (c, e)} (hw : Answering bound m r w₀ n w) (he : Free c e)
    (ha : world.answer (c, e) w b w') : Answering bound m r w₀ n w' := by
  obtain ⟨hflight, hreloads⟩ := answer_flight (n := r) he.1 he.2.1 ha
  have hc := answer_config he.2.2 ha
  exact ⟨by rw [hflight, hreloads]; exact hw.paid, hc.trans hw.config, hw.fits.of_config hc⟩

/-- A request that is free, or a panel command of the state that the mode is for. -/
theorem answer {b : stamped Eff.Ans (c, e)} (hw : Answering bound m r w₀ n w) (hle : cost e ≤ n)
    (hn : n ≤ 1) (hres : e.resource ∈ entryResources)
    (hon : ∀ on, e = .trySend (.setEdp on) → if on then m = .lit ∨ m = .dark else m = .off)
    (ha : world.answer (c, e) w b w') : Answering bound m r w₀ (n - cost e) w' := by
  have hne : ∀ r, r ∉ entryResources → e.resource ≠ r := fun r hr heq => hr (heq ▸ hres)
  -- A request that costs nothing keeps the balance; one that costs is a panel command.
  by_cases hfree : cost e = 0
  · rw [hfree, Nat.sub_zero]
    exact hw.answer_free ⟨hfree, calm_of_resource (by simp [entryResources])
      (by simp [entryResources]) hres⟩ ha
  · rcases eq_of_cost hfree with ⟨on, rfl⟩ | rfl | ⟨delay, ev, rfl⟩
    · have hmode := hon on rfl
      obtain ⟨k, rfl⟩ : ∃ k, n = k + 1 := ⟨n - 1, (Nat.sub_add_cancel hle).symm⟩
      show Answering bound m r w₀ k w'
      have hbefore := hw.paid
      rw [Nat.add_mul, Nat.one_mul] at hbefore
      rcases answer_trySend ha with rfl | rfl
      · exact ⟨by omega, hw.config, hw.fits⟩
      · have hhand : (flight r { w with cmds := w.cmds ++ [.setEdp on] }).inHand m =
            (w.flight r).inHand m := by
          simp [flight, Flight.inHand]
        have hpot : (flight r { w with cmds := w.cmds ++ [.setEdp on] }).potential m ≤
            (w.flight r).potential m + (w.flight r).inHand m := by
          cases on with
          | true =>
            refine Flight.potential_answer_on (by simpa using hmode) ?_ ?_ ?_ rfl rfl
            · simp [flight]
            · simp [flight]
            · simp [flight]
          | false =>
            obtain rfl : m = .off := by simpa using hmode
            refine Flight.potential_answer_off ?_ ?_ ?_ rfl rfl
            · simp [flight]
            · simp [flight]
            · simp [flight]
        refine ⟨?_, hw.config, hw.fits⟩
        rw [hhand]
        dsimp only
        omega
    · exact absurd rfl (hne .profile (by simp [entryResources]))
    · -- a timer that is worth anything is worth more than what is in hand
      exfalso
      have hcheap : cost (.spawnTimer delay ev) ≤ 1 := Nat.le_trans hle hn
      cases ev <;> simp [cost, reasserts, worth] at hfree hcheap

/-- A piece that makes free requests only. -/
theorem free {α : Type} {x : Daemon α} {Q : α → Context → Prop} (hx : Meets x c Free Q)
    (hw : Answering bound m r w₀ n w) :
    Wp (world.admitting ok) (fun _ _ _ => True)
      (fun a c' w' => Q a c' ∧ Answering bound m r w₀ n w') x c w :=
  (wp_of_meets (W := world.admitting ok) (J := Answering bound m r w₀ n) hx hw
    (fun _ _ hstep h => h.drift hstep) fun _ _ _ _ _ he ha hw => hw.answer_free he ha.1).mono
      (fun _ _ _ _ => trivial) fun _ _ _ => id

end Answering

/-- The echo is taken: in the mode `dark` only with the panel on. -/
theorem Answering.of_take {ev : Event} {rest : List Event} (hevents : w.events = ev :: rest)
    (hev : reasserts ev = true) (hdark : m = .dark → w.disabled = false) (hm : Fits m w)
    (hw : Bounded bound m r w) :
    Answering bound m r { w with events := rest } 1 { w with events := rest } := by
  refine ⟨?_, rfl, hm⟩
  have hworth : worth ev = 0 := worth_of_reasserts hev
  have htake : (flight r { w with events := rest }).potential m + (w.flight r).inHand m ≤
      (w.flight r).potential m := by
    refine Flight.potential_take ?_ ?_ rfl rfl rfl hdark
    · simp [flight, hevents, hev]
      omega
    · simp [flight, hevents, hworth]
  have hhand : (flight r { w with events := rest }).inHand m = (w.flight r).inHand m := by
    simp [flight, Flight.inHand, hevents, hworth]
  unfold Bounded at hw
  rw [Nat.one_mul, hhand]
  dsimp only
  omega

/-- What the dispatcher makes of the active link when it reads it. -/
structure Ingested (w : Loop) (c c' : Context) : Prop where
  only : onlyProfile c c'
  read : c' = c ∨ ∃ name, w.active = some name ∧ c.currentProfile ≠ some name
  policy : c'.edpPolicy = w.policyAfter c
  again : w.policyAfter c' = c'.edpPolicy

namespace Ingested

/-- A link that is read leaves the machine alone. -/
theorem state (h : Ingested w c c') : c'.state = c.state := by
  obtain ⟨_, _, _, rfl⟩ := h.only
  rfl

/-- And it leaves the mode, which has counted with it. -/
theorem mode {fx : Effectors} (h : Ingested w c c') : w.mode fx c' = w.mode fx c :=
  mode_of_policy h.state (h.again.trans h.policy)

end Ingested

/-- The link is read while an echo is answered. -/
theorem ingestActiveProfile_after (c : Context) (hw : Answering bound m r w₀ n w) :
    Wp (world.admitting ok) (fun _ _ _ => True)
      (fun _ c' w' => Ingested w₀ c c' ∧ Answering bound m r w₀ n w')
      Effectors.ingestActiveProfile c w := by
  have hends : ∀ {answer : Bool} {c' : Context} {w' : Loop}, Answering bound m r w₀ n w' →
      Ingested w₀ c c' → Wp (world.admitting ok) (fun _ _ _ => True)
        (fun _ c' w' => Ingested w₀ c c' ∧ Answering bound m r w₀ n w') (pure answer) c' w' := by
    intro answer c' w' hw' hc w'' hdrift
    exact ⟨hc, hw'.drifts hdrift⟩
  rw [Effectors.ingestActiveProfile]
  refine (wp_ask_bind (e := Eff.activeProfileName)).mpr fun _ hdrift => ⟨trivial, ?_⟩
  rintro active w₁ ⟨⟨rfl, rfl⟩, -⟩
  have hw₁ : Answering bound m r w₀ n w₁ := hw.drifts hdrift
  have hactive : w₁.active = w₀.active := congrArg Prod.fst hw₁.config
  -- No profile active, the one that is recorded, or another: only the last records anything.
  cases hname : w₁.active with
  | none =>
    have hpolicy : w₀.policyAfter c = c.edpPolicy := by rw [policyAfter, ← hactive, hname]
    exact hends hw₁ ⟨onlyProfile_self c, .inl rfl, hpolicy.symm, hpolicy⟩
  | some name =>
    dsimp only
    rw [wp_get_bind, wp_ite]
    refine ⟨fun hsame => ?_, fun hother => ?_⟩
    · have hpolicy : w₀.policyAfter c = c.edpPolicy := by
        rw [policyAfter, ← hactive, hname]
        exact if_pos hsame
      exact hends hw₁ ⟨onlyProfile_self c, .inl rfl, hpolicy.symm, hpolicy⟩
    · refine (wp_ask_bind (e := Eff.loadProfiles)).mpr fun _ hdrift => ⟨trivial, ?_⟩
      rintro profiles w₂ ⟨⟨rfl, rfl⟩, -⟩
      have hw₂ : Answering bound m r w₀ n w₂ :=
        hw₁.drifts hdrift
      have hprofiles : w₂.profiles = w₀.profiles := congrArg (fun p => p.2.2.1) hw₂.config
      rw [wp_modify_bind]
      refine hends hw₂ ⟨⟨_, _, _, rfl⟩, .inr ⟨name, hactive ▸ hname, hother⟩, ?_, ?_⟩
      · rw [policyAfter, ← hactive, hname, ← hprofiles]
        exact (if_neg hother).symm
      · rw [policyAfter, ← hactive, hname]
        exact if_pos rfl

/-- The panel commands of an entry are for the state that the policy makes of it, out of shadow
mode. -/
theorem onEnter_commands (fx : Effectors) (c : Context) (state : State) (fresh : Bool) :
    Meets (fx.onEnter state fresh) c (fun _ e => ∀ on, e = .trySend (.setEdp on) →
      fx.shadow = false ∧
      on = c.edpPolicy.resolve (decide (state = .lidOpen))) fun _ _ => True := by
  have hquiet : ∀ {α : Type} {x : Daemon α} {c' : Context} {rs : List Resource}
      {Q : α → Context → Prop}, Meets x c' (only rs) Q → Resource.panel ∉ rs →
      Meets x c' (fun _ e => ∀ on, e = .trySend (.setEdp on) → fx.shadow = false ∧
        on = c.edpPolicy.resolve (decide (state = .lidOpen))) Q := by
    intro α x c' rs Q hx hp
    refine hx.mono (fun _ e he => ?_) fun _ _ => id
    rintro on rfl
    exact absurd he hp
  -- The one command of the panel is what the policy resolves for the state.
  have hedp : ∀ (c' : Context) (on : Bool), c'.edpPolicy = c.edpPolicy →
      decide (state = .lidOpen) = on →
      Meets (fx.setEdp on) c' (fun _ e => ∀ on, e = .trySend (.setEdp on) → fx.shadow = false ∧
        on = c.edpPolicy.resolve (decide (state = .lidOpen))) fun _ c'' => c'' = c' := by
    rintro c' _ hpolicy rfl
    refine (setEdp_spec fx c' _).mono ?_ fun _ _ => id
    rintro _ _ ⟨-, rfl, hshadow, -⟩ on heq
    obtain rfl : _ = on := by simpa using heq
    exact ⟨hshadow, by rw [hpolicy]⟩
  refine (hquiet (enterClaimWatch_spec c state) (by simp)).bind ?_
  rintro _ _ ⟨w, rfl⟩
  cases state with
  | lidOpen | docked =>
    refine (hquiet (cancelGraceTimer_spec _) (by simp)).bind ?_
    rintro _ _ rfl
    exact (hedp _ _ (by rfl) (by rfl)).bind fun _ _ _ => trivial
  | deferred =>
    refine (hquiet (cancelGraceTimer_spec _) (by simp)).bind ?_
    rintro _ _ rfl
    refine (hedp _ _ (by rfl) (by rfl)).bind fun _ c' _ => ?_
    have hpause : Meets (when (claimGoverns c'.world) fx.pauseMedia) c' (only [.command])
        fun _ _ => True := by
      simp [Effectors.pauseMedia, Effectors.sendCmd, only]
    rw [meets_bind, meets_get]
    exact (hquiet hpause (by simp)).bind fun _ _ _ => trivial
  | countdown =>
    refine (hedp _ _ (by rfl) (by rfl)).bind fun _ c' _ => ?_
    exact (hquiet (startGraceTimer_spec c' fresh) (by simp)).bind fun _ _ _ => trivial
  | suspending =>
    refine (hquiet (cancelGraceTimer_spec _) (by simp)).bind ?_
    rintro _ _ rfl
    exact (hquiet (suspendingTail_spec fx _) (by simp)).imp fun _ _ _ => trivial

/-- What an entry may do while an echo is answered. -/
theorem onEnter_after (fx : Effectors) (c : Context) (fresh : Bool) (hs : c.state ≠ .suspending)
    (hon : fx.shadow = false →
      if c.edpPolicy.resolve (decide (c.state = .lidOpen)) then m = .lit ∨ m = .dark else m = .off)
    (hw : Answering bound m r w₀ 1 w) :
    Wp (world.admitting ok) (fun _ _ _ => True)
      (fun _ c' w' => onlyTimers c c' ∧ ∃ n, Answering bound m r w₀ n w')
      (fx.onEnter c.state fresh) c w := by
  have hmeets := (onEnter_spec fx c c.state fresh hs).and (onEnter_commands fx c c.state fresh)
  refine ((onEnter_costs fx c.state fresh).wp (W := world.admitting ok)
    (J := fun n w => n ≤ 1 ∧ Answering bound m r w₀ n w) hmeets ⟨Nat.le_refl 1, hw⟩
    (fun _ _ _ hstep h => ⟨h.1, h.2.drift hstep⟩) ?_).mono (fun _ _ _ _ => trivial) ?_
  · rintro n s e w b w' hle ⟨hres, hdir⟩ ha ⟨hn, hw⟩
    refine ⟨Nat.le_trans (Nat.sub_le n _) hn, hw.answer hle hn hres.1 (fun on heq => ?_) ha.1⟩
    obtain ⟨hshadow, rfl⟩ := hdir on heq
    exact hon hshadow
  · rintro _ c' w' ⟨⟨⟨-, hc'⟩, -⟩, n, -, hw'⟩
    exact ⟨hc', n, hw'⟩

/-- The re-assert answers the echo with what it had in hand. It may have read the link on its
way. -/
theorem reassert_after (fx : Effectors) (trigger : ReconcileTrigger)
    (hw : Answering bound (w.mode fx c) r w 1 w) :
    Wp (world.admitting ok) (fun _ _ _ => True)
      (fun _ c' w' => (∃ c₁, (c₁ = c ∨ Ingested w c c₁) ∧ onlyTimers c₁ c') ∧
        ∃ n, Answering bound (w.mode fx c) r w n w') (fx.reassert trigger) c w := by
  have hlast : ∀ {c' : Context} {w' : Loop},
      (∃ c₁, (c₁ = c ∨ Ingested w c c₁) ∧ onlyTimers c₁ c') →
      (∃ n, Answering bound (w.mode fx c) r w n w') →
      Wp (world.admitting ok) (fun _ _ _ => True)
        (fun _ c' w' => (∃ c₁, (c₁ = c ∨ Ingested w c c₁) ∧ onlyTimers c₁ c') ∧
          ∃ n, Answering bound (w.mode fx c) r w n w')
        (Effectors.requestReconcile trigger) c' w' := by
    rintro c' w' hc' ⟨n, hw'⟩
    have hmeets := meets_free (requestReconcile_spec c' trigger) (by decide)
    refine (hw'.free hmeets).mono (fun _ _ _ _ => trivial) ?_
    rintro _ _ w'' ⟨rfl, hw''⟩
    exact ⟨hc', n, hw''⟩
  rw [Effectors.reassert, wp_get_bind, wp_bind, wp_when]
  refine ⟨fun hs => ?_, fun _ => ?_⟩
  · have hs' : c.state ≠ .suspending := by simpa using hs
    refine (ingestActiveProfile_after c hw).bind ?_
    rintro _ c₁ w₁ ⟨hc₁, hw₁⟩
    rw [wp_get_bind]
    refine (onEnter_after fx c₁ false (hc₁.state ▸ hs') ?_ hw₁).bind ?_
    · rw [hc₁.policy, hc₁.state]
      exact fun hshadow => mode_wants hshadow hs'
    · rintro _ c₂ w₂ ⟨hc₂, n, hw₂⟩ w₃ hdrift
      exact hlast ⟨c₁, .inr hc₁, hc₂⟩ ⟨n, hw₂.drifts hdrift⟩
  · refine fun w₁ hdrift => hlast ⟨c, .inl rfl, _, _, rfl⟩ ⟨1, ?_⟩
    exact hw.drifts hdrift

end Loop

end Hyprstate
