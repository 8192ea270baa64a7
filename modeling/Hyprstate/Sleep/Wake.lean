import Hyprstate.Sleep.Hook

/-!
# What the sleep hook does to the machine

A run writes exactly the wake files of the machine (`Bus.Wakes`): those of the controller, of the
root hubs, of the hubs between these and the devices, and of the tracked devices, as far as they
are there. Those that take the write let their device wake the machine. After a resume the
touchpad is unbound only while it is bound, each unbind is followed at once by a bind, a bind that
did not take is tried again, four times in all, and a run leaves the touchpad unbound only where
each of them failed, and says so (`run_wakes`).
-/

namespace Hyprstate.SleepHook

open Reactive Process

/-! ## The machine -/

/-- The machine under the hook, and what the hook did to it. -/
structure Bus where
  devices : List String
  there : HookPath → Bool
  contents : HookPath → Option String
  /-- The touchpad is on its bus. -/
  present : Bool
  /-- It is bound to its driver. -/
  bound : Bool
  /-- The wake files that are enabled. -/
  enabled : List HookPath
  /-- The writes that were made, and of each whether it took: it reported no error and, if it was a
  bind, the touchpad was bound after it. -/
  writes : List (HookPath × Bool)
  lines : List String

/-- A path is there now. -/
def Bus.exists (w : Bus) : HookPath → Bool
  | .present => w.present
  | .bound => w.bound
  | path => w.there path

/-- How a write moves the machine. An unbind that reports no error leaves the touchpad unbound, and
none binds it; a bind leaves a bound touchpad bound, and may end in any way of the four with
another one. A wake file that takes its write is enabled after it; of one that does not nothing is
known but that an enabled one stays so. -/
def Bus.Writes (w : Bus) (res : Option WriteError) (w' : Bus) : HookPath → Prop
  | .unbind => ∃ now, (now = true → w.bound = true) ∧ (res.isNone = true → now = false) ∧
      w' = { w with
        bound := now
        writes := w.writes ++ [(.unbind, res.isNone)] }
  | .bind => ∃ now, (w.bound = true → now = true) ∧
      w' = { w with
        bound := now
        writes := w.writes ++ [(.bind, res.isNone && now)] }
  | path => ∃ on, (res.isNone = true → on = true) ∧
      w' = { w with
        enabled := if on then w.enabled ++ [path] else w.enabled
        writes := w.writes ++ [(path, res.isNone)] }

/-- Nothing but the hook moves the machine. -/
def bus : World (Unit × HookEff) (stamped HookEff.Ans) Bus where
  drift _ _ := False
  answer r w b w' :=
    match r, b with
    | (_, .usbDevices), b => b = w.devices ∧ w' = w
    | (_, .pathExists path), b => b = w.exists path ∧ w' = w
    | (_, .readToString path), b => b = w.contents path ∧ w' = w
    | (_, .write path _), b => w.Writes b w' path
    | (_, .line msg), _ => w' = { w with lines := w.lines ++ [msg] }
    | (_, .sleep _), _ => w' = w

/-- The vendor and the product are tracked ones. -/
def Bus.Tracked (w : Bus) (device : String) : Prop :=
  ∃ vendor product, w.contents (.usb device .idVendor) = some vendor ∧
    w.contents (.usb device .idProduct) = some product ∧
    (trimmed vendor, trimmed product) ∈ wakeUsbVendors.map Prod.fst

/-- The file is a wake file of the hook's: that of the controller, or of a device that is a root
hub, calls itself a hub or is tracked; and it is there. -/
def Bus.Wakes (w : Bus) : HookPath → Prop
  | .controllerWakeup => w.there .controllerWakeup = true
  | .usb device .wakeup => device ∈ w.devices ∧ w.there (.usb device .wakeup) = true ∧
      (isRootHub device = true ∨
        (∃ product, w.contents (.usb device .product) = some product ∧ isHub product = true) ∨
        w.Tracked device)
  | _ => False

/-- What may be written, and when. -/
def Bus.Allows (action : String) (w : Bus) : HookPath → String → Prop
  | .unbind, content =>
    action = "post" ∧ content = touchpadClient ∧ w.present = true ∧ w.bound = true
  | .bind, content => action = "post" ∧ content = touchpadClient ∧ w.present = true
  | path, content => content = "enabled" ∧ w.Wakes path

/-- Every write is allowed when it is made. -/
def Guard (action : String) (_ : Unit) (e : HookEff) (w : Bus) : Prop :=
  ∀ path content, e = .write path content → w.Allows action path content

variable {action : String} {w : Bus}

/-- Nothing moves the machine between the requests. -/
theorem bus_still (w w' : Bus) : ¬bus.drift w w' := id

section

variable {α : Type} {R : α → Unit → Bus → Prop}

/-- A look at a path goes on with whether it is there. -/
theorem wp_pathExists {path : HookPath} {f : Bool → Hook α}
    (h : Wp bus (Guard action) R (f (w.exists path)) () w) :
    Wp bus (Guard action) R (pathExists path >>= f) () w := by
  refine (wp_still_ask_bind bus_still).mpr ⟨fun _ _ he => (by cases he), ?_⟩
  rintro _ _ ⟨rfl, rfl⟩
  exact h

/-- A listing of the USB devices goes on with them. -/
theorem wp_usbDevices {f : List String → Hook α}
    (h : Wp bus (Guard action) R (f w.devices) () w) :
    Wp bus (Guard action) R (usbDevices >>= f) () w := by
  refine (wp_still_ask_bind bus_still).mpr ⟨fun _ _ he => (by cases he), ?_⟩
  rintro _ _ ⟨rfl, rfl⟩
  exact h

/-- A read of a file goes on with what it holds. -/
theorem wp_readToString {path : HookPath} {f : Option String → Hook α}
    (h : Wp bus (Guard action) R (f (w.contents path)) () w) :
    Wp bus (Guard action) R (readToString path >>= f) () w := by
  refine (wp_still_ask_bind bus_still).mpr ⟨fun _ _ he => (by cases he), ?_⟩
  rintro _ _ ⟨rfl, rfl⟩
  exact h

/-- A line goes to the log. -/
theorem wp_line {msg : String} {f : Unit → Hook α}
    (h : Wp bus (Guard action) R (f ()) () { w with lines := w.lines ++ [msg] }) :
    Wp bus (Guard action) R (line msg >>= f) () w := by
  refine (wp_still_ask_bind bus_still).mpr ⟨fun _ _ he => (by cases he), ?_⟩
  rintro _ _ rfl
  exact h

/-- The same of a line that nothing follows. -/
theorem wp_line_last {msg : String} {R : Unit → Unit → Bus → Prop}
    (h : R () () { w with lines := w.lines ++ [msg] }) :
    Wp bus (Guard action) R (line msg) () w := by
  rw [← bind_pure (line msg)]
  exact wp_line ((wp_still_pure bus_still).mpr h)

/-- A write has to be allowed, and goes on from wherever it may move the machine. -/
theorem wp_write {path : HookPath} {content : String} {f : Option WriteError → Hook α}
    (hallows : w.Allows action path content)
    (h : ∀ res w', w.Writes res w' path → Wp bus (Guard action) R (f res) () w') :
    Wp bus (Guard action) R (write path content >>= f) () w := by
  refine (wp_still_ask_bind bus_still).mpr ⟨?_, fun res w' hw => h res w' hw⟩
  rintro _ _ ⟨⟩
  exact hallows

/-- What is returned is what was to be shown of. -/
theorem wp_return {a : α} (h : R a () w) : Wp bus (Guard action) R (pure a) () w :=
  (wp_still_pure bus_still).mpr h

end

/-! ## The wakeup files -/

/-- The writes leave what is enabled: what took its write is, what was stays, and nothing else is
that was not written to. -/
structure Woken (before : List HookPath) (made : List (HookPath × Bool))
    (after : List HookPath) : Prop where
  kept : ∀ path ∈ before, path ∈ after
  took : ∀ path, (path, true) ∈ made → path ∈ after
  only : ∀ path ∈ after, path ∈ before ∨ path ∈ made.map Prod.fst

/-- No write leaves everything as it is. -/
theorem Woken.nil (before : List HookPath) : Woken before [] before :=
  ⟨fun _ => id, fun _ h => absurd h List.not_mem_nil, fun _ => .inl⟩

/-- One series of writes after another is one series. -/
theorem Woken.trans {l₁ l₂ l₃ : List HookPath} {made made' : List (HookPath × Bool)}
    (h : Woken l₁ made l₂) (h' : Woken l₂ made' l₃) : Woken l₁ (made ++ made') l₃ := by
  refine ⟨fun path hpath => h'.kept path (h.kept path hpath), fun path hpath => ?_,
    fun path hpath => ?_⟩
  · rcases List.mem_append.mp hpath with hpath | hpath
    · exact h'.kept path (h.took path hpath)
    · exact h'.took path hpath
  · rw [List.map_append, List.mem_append]
    rcases h'.only path hpath with hpath | hpath
    · exact (h.only path hpath).imp_right .inl
    · exact .inr (.inr hpath)

/-- The files were written to, in this order, and some lines were logged. -/
def Enabled (paths : List HookPath) (w w' : Bus) : Prop :=
  ∃ made enabled lines, w' = { w with
      enabled
      writes := w.writes ++ made
      lines := w.lines ++ lines } ∧
    made.map Prod.fst = paths ∧ Woken w.enabled made enabled

/-- Nothing was done. -/
theorem Enabled.nil : Enabled [] w w := ⟨[], w.enabled, [], by simp, rfl, Woken.nil _⟩

/-- A line was logged. -/
theorem Enabled.line (msg : String) : Enabled [] w { w with lines := w.lines ++ [msg] } :=
  ⟨[], w.enabled, [msg], by simp, rfl, Woken.nil _⟩

/-- One series of files after another is one series. -/
theorem Enabled.trans {w₁ w₂ w₃ : Bus} {paths paths' : List HookPath} (h : Enabled paths w₁ w₂)
    (h' : Enabled paths' w₂ w₃) : Enabled (paths ++ paths') w₁ w₃ := by
  obtain ⟨made, enabled, lines, rfl, rfl, hwoken⟩ := h
  obtain ⟨made', enabled', lines', rfl, rfl, hwoken'⟩ := h'
  exact ⟨made ++ made', enabled', lines ++ lines', by simp, List.map_append, hwoken.trans hwoken'⟩

/-- The process writes to the files from where it starts. -/
abbrev Enables {α : Type} (action : String) (w : Bus) (x : Hook α) (paths : List HookPath) : Prop :=
  Wp bus (Guard action) (fun _ _ w' => Enabled paths w w') x () w

/-- One process after another writes to the files of both. -/
theorem Enables.bind {α β : Type} {x : Hook α} {f : α → Hook β} {paths paths' : List HookPath}
    (hx : Enables action w x paths)
    (hf : ∀ a w', Enabled paths w w' → Enables action w' (f a) paths') :
    Enables action w (x >>= f) (paths ++ paths') :=
  Wp.bind hx fun a _ w' h => (hf a w' h).mono (fun _ _ _ => id) fun _ _ _ h' => h.trans h'

/-- What is returned in the end writes to nothing. -/
theorem Enables.andReturn {α β : Type} {x : Hook α} {paths : List HookPath}
    (hx : Enables action w x paths) (g : α → β) :
    Enables action w (x >>= fun a => pure (g a)) paths :=
  Wp.bind hx fun _ _ _ h => wp_return h

/-- A line before a process writes to nothing. -/
theorem Enables.line_bind {α : Type} {msg : String} {f : Unit → Hook α} {paths : List HookPath}
    (hf : ∀ w', Enabled [] w w' → Enables action w' (f ()) paths) :
    Enables action w (line msg >>= f) paths :=
  wp_line ((hf _ (Enabled.line msg)).mono (fun _ _ _ => id) fun _ _ _ h =>
    (Enabled.line msg).trans h)

/-- A line alone writes to nothing. -/
theorem line_enables (msg : String) : Enables action w (line msg) [] :=
  wp_line_last (Enabled.line msg)

/-- A wake file is written to, and what went wrong with it is logged. -/
theorem writeEnabled_enables {path : HookPath} (hpath : w.Wakes path) :
    Enables action w (writeEnabled path) [path] := by
  have hallows : w.Allows action path "enabled" := by
    cases path with
    | controllerWakeup | usb _ _ => exact ⟨rfl, hpath⟩
    | _ => exact hpath.elim
  refine wp_write hallows fun res w' hw => ?_
  -- A write that failed may have enabled the device or not.
  have hput : ∃ on, (res.isNone = true → on = true) ∧ w' = { w with
      enabled := if on then w.enabled ++ [path] else w.enabled
      writes := w.writes ++ [(path, res.isNone)] } := by
    cases path with
    | controllerWakeup | usb _ _ => exact hw
    | _ => exact hpath.elim
  obtain ⟨on, hon, rfl⟩ := hput
  -- What is enabled now was enabled before or is the file just written.
  have hwoken : Woken w.enabled [(path, res.isNone)]
      (if on then w.enabled ++ [path] else w.enabled) := by
    refine ⟨fun p hp => ?_, fun p hp => ?_, fun p hp => ?_⟩
    · split
      · exact List.mem_append_left _ hp
      · exact hp
    · obtain ⟨rfl, htook⟩ := Prod.mk.inj (List.mem_singleton.mp hp)
      rw [hon htook.symm]
      exact List.mem_append_right _ List.mem_cons_self
    · split at hp
      · exact List.mem_append.mp hp
      · exact .inl hp
  have henabled : Enabled [path] w { w with
      enabled := if on then w.enabled ++ [path] else w.enabled
      writes := w.writes ++ [(path, res.isNone)] } :=
    ⟨_, _, [], by simp, rfl, hwoken⟩
  cases res with
  | none => exact wp_return henabled
  | some e => exact wp_line (wp_return (henabled.trans (Enabled.line _)))

/-- The paths that exist are found, and nothing is done. -/
theorem existing_wp (paths : List HookPath) :
    Wp bus (Guard action) (fun found _ w' => w' = w ∧ found = paths.filter w.exists)
      (existing paths) () w := by
  induction paths with
  | nil => exact wp_return ⟨rfl, rfl⟩
  | cons path rest ih =>
    refine wp_pathExists (ih.bind ?_)
    rintro more _ _ ⟨rfl, rfl⟩
    refine wp_return ⟨rfl, ?_⟩
    rw [List.filter_cons]

/-- All of some wake files are written to. -/
theorem enableAll_enables {paths : List HookPath} (hpaths : ∀ path ∈ paths, w.Wakes path) :
    Enables action w (enableAll paths) paths := by
  induction paths generalizing w with
  | nil => exact wp_return Enabled.nil
  | cons path rest ih =>
    refine Enables.bind (writeEnabled_enables (hpaths path List.mem_cons_self)) ?_
    rintro ok _ ⟨made, enabled, lines, rfl, -⟩
    refine Enables.andReturn (ih ?_) _
    exact fun path' h => hpaths path' (List.mem_cons_of_mem _ h)

/-- The file, where it is there. -/
def Bus.onlyThere (w : Bus) (path : HookPath) : List HookPath :=
  if w.exists path then [path] else []

/-- What is enabled of a device for being a hub. -/
def Bus.hubFiles (w : Bus) (device : String) : List HookPath :=
  if (w.contents (.usb device .product)).any isHub then w.onlyThere (.usb device .wakeup) else []

/-- What is enabled of a device for being tracked. -/
def Bus.inputFiles (w : Bus) (device : String) : List HookPath :=
  match w.contents (.usb device .idVendor), w.contents (.usb device .idProduct) with
  | some vendor, some product =>
    (wakeUsbVendors.filter fun row => (trimmed vendor, trimmed product) = row.1).flatMap fun _ =>
      w.onlyThere (.usb device .wakeup)
  | _, _ => []

/-- `enableWakeup` writes the device's file where it exists. -/
theorem enableWakeup_enables {device : String}
    (hpath : w.exists (.usb device .wakeup) = true → w.Wakes (.usb device .wakeup)) :
    Enables action w (enableWakeup device) (w.onlyThere (.usb device .wakeup)) := by
  refine wp_pathExists ?_
  rw [Bus.onlyThere]
  split
  · next hthere => exact writeEnabled_enables (hpath hthere)
  · exact wp_return Enabled.nil

/-- So it does with a name for the log. -/
theorem enableNamed_enables {path : HookPath} (name : String)
    (hpath : w.exists path = true → w.Wakes path) :
    Enables action w (enableNamed path name) (w.onlyThere path) := by
  refine wp_pathExists (wp_when.mpr ⟨fun hthere => ?_, fun hmissing => ?_⟩)
  · rw [Bus.onlyThere, if_pos hthere]
    exact Enables.bind (writeEnabled_enables (hpath hthere)) fun ok w₁ _ => line_enables _
  · rw [Bus.onlyThere, hmissing]
    exact wp_return Enabled.nil

/-- The loop over the hubs writes the hubs' files. -/
theorem enableIntermediate_enables {devices : List String}
    (hdevices : ∀ device ∈ devices, device ∈ w.devices) :
    Enables action w (enableIntermediate devices) (devices.flatMap w.hubFiles) := by
  induction devices generalizing w with
  | nil => exact wp_return Enabled.nil
  | cons device rest ih =>
    have hrest : ∀ d ∈ rest, d ∈ w.devices := fun d hd => hdevices d (List.mem_cons_of_mem _ hd)
    rw [List.flatMap_cons, Bus.hubFiles]
    refine wp_readToString ?_
    cases hproduct : w.contents (.usb device .product) with
    | none => exact ih hrest
    | some product =>
      by_cases hhub : isHub product = true
      · simp only [hhub, if_true, Option.any_some]
        refine Enables.bind (enableWakeup_enables fun hthere =>
          ⟨hdevices device List.mem_cons_self, hthere, .inr (.inl ⟨product, hproduct, hhub⟩)⟩) ?_
        rintro ok _ ⟨made, enabled, lines, rfl, -⟩
        refine Enables.andReturn (ih ?_) _
        exact hrest
      · simp only [hhub, Option.any_some]
        exact ih hrest

/-- The loop over the table writes the file of a device that is in it. -/
theorem enableTracked_enables {device vendor product : String}
    {rows : List ((String × String) × String)}
    (hrows : ∀ row ∈ rows, (vendor, product) = row.1 → w.exists (.usb device .wakeup) = true →
      w.Wakes (.usb device .wakeup)) :
    Enables action w (enableTracked device vendor product rows)
      ((rows.filter fun row => (vendor, product) = row.1).flatMap fun _ =>
        w.onlyThere (.usb device .wakeup)) := by
  induction rows generalizing w with
  | nil => exact wp_return Enabled.nil
  | cons row rest ih =>
    have hrest := fun row' h => hrows row' (List.mem_cons_of_mem row h)
    rw [enableTracked]
    by_cases hids : (vendor, product) = row.1
    · rw [List.filter_cons_of_pos (by simpa using hids), List.flatMap_cons]
      have hwhen : when (decide ((vendor, product) = row.1))
          (enableNamed (.usb device .wakeup) row.2) =
          enableNamed (.usb device .wakeup) row.2 := if_pos (decide_eq_true hids)
      rw [hwhen]
      refine Enables.bind (enableNamed_enables row.2 (hrows row List.mem_cons_self hids)) ?_
      rintro _ _ ⟨made, enabled, lines, rfl, -⟩
      refine ih ?_
      exact hrest
    · rw [List.filter_cons_of_neg (by simpa using hids)]
      simp only [when, hids, decide_false]
      exact ih hrest

/-- The loop over the devices writes those of the tracked ones. -/
theorem enableInputs_enables {devices : List String}
    (hdevices : ∀ device ∈ devices, device ∈ w.devices) :
    Enables action w (enableInputs devices) (devices.flatMap w.inputFiles) := by
  -- On the devices that are left; a device without its numbers is passed over.
  induction devices generalizing w with
  | nil => exact wp_return Enabled.nil
  | cons device rest ih =>
    have hrest : ∀ d ∈ rest, d ∈ w.devices := fun d hd => hdevices d (List.mem_cons_of_mem _ hd)
    rw [List.flatMap_cons]
    refine wp_readToString ?_
    cases hvendor : w.contents (.usb device .idVendor) with
    | none =>
      have hnone : w.inputFiles device = [] := by simp only [Bus.inputFiles, hvendor]
      rw [hnone]
      exact ih hrest
    | some vendor =>
      refine wp_readToString ?_
      cases hproduct : w.contents (.usb device .idProduct) with
      | none =>
        have hnone : w.inputFiles device = [] := by simp only [Bus.inputFiles, hvendor, hproduct]
        rw [hnone]
        exact ih hrest
      | some product =>
        have hfiles : w.inputFiles device =
            (wakeUsbVendors.filter fun row => (trimmed vendor, trimmed product) = row.1).flatMap
              fun _ =>
              w.onlyThere (.usb device .wakeup) := by
          simp only [Bus.inputFiles, hvendor, hproduct]
        -- A row of the table that the device's numbers meet makes it a tracked one.
        have hrows : ∀ row ∈ wakeUsbVendors, (trimmed vendor, trimmed product) = row.1 →
            w.exists (.usb device .wakeup) = true → w.Wakes (.usb device .wakeup) := by
          intro row hrow hids hthere
          have htracked : w.Tracked device :=
            ⟨vendor, product, hvendor, hproduct, List.mem_map.mpr ⟨row, hrow, hids.symm⟩⟩
          exact ⟨hdevices device List.mem_cons_self, hthere, .inr (.inr htracked)⟩
        rw [hfiles]
        show Enables action w
          (enableTracked device (trimmed vendor) (trimmed product) wakeUsbVendors >>= fun _ =>
            enableInputs rest) _
        generalize wakeUsbVendors = rows at hrows ⊢
        refine Enables.bind (enableTracked_enables hrows) ?_
        rintro _ _ ⟨made, enabled, lines, rfl, -⟩
        refine ih ?_
        exact hrest

/-! ## The touchpad -/

/-- What the last line says of the touchpad is so. -/
def Bus.Reports (w : Bus) : Prop :=
  ((∃ attempt, w.lines.getLast? = some (reboundLine attempt)) ∨
      w.lines.getLast? = some wedgedLine) ∧ w.bound = true ∨
    w.lines.getLast? = some unboundLine ∧ w.bound = false

/-- Each unbind is followed at once by a bind. -/
def Followed : List (HookPath × Bool) → Prop
  | [] => True
  | write :: rest =>
    (write.1 = .unbind → rest.head?.map Prod.fst = some HookPath.bind) ∧ Followed rest

/-- Of each bind among the writes, whether it took. -/
def bindsOf (made : List (HookPath × Bool)) : List Bool :=
  (made.filter fun write => decide (write.1 = .bind)).map Prod.snd

/-- At most `n` attempts, of which the last one alone may succeed: all `n` failed, or fewer did and
then one took. -/
def Retried (n : Nat) (binds : List Bool) : Prop :=
  binds = List.replicate n false ∨ ∃ k, k < n ∧ binds = List.replicate k false ++ [true]

/-- Writes without an unbind before others. -/
theorem Followed.append {made made' : List (HookPath × Bool)}
    (hmade : ∀ write ∈ made, write.1 ≠ .unbind) (h : Followed made') :
    Followed (made ++ made') := by
  induction made with
  | nil => exact h
  | cons write rest ih =>
    refine ⟨fun hunbind => absurd hunbind (hmade write List.mem_cons_self), ih fun write' h' => ?_⟩
    exact hmade write' (List.mem_cons_of_mem _ h')

/-- A failed attempt before others. -/
theorem Retried.failed {n : Nat} {binds : List Bool} (h : Retried n binds) :
    Retried (n + 1) (false :: binds) := by
  rcases h with rfl | ⟨k, hk, rfl⟩
  · exact .inl List.replicate_succ.symm
  · exact .inr ⟨k + 1, Nat.succ_lt_succ hk, by rw [List.replicate_succ, List.cons_append]⟩

/-- What at most `n` attempts do, and the writes that they make. -/
structure Cycled (n : Nat) (w : Bus) (made : List (HookPath × Bool)) (w' : Bus) : Prop where
  kept : ∃ bound lines, w' = { w with
    bound
    writes := w.writes ++ made
    lines }
  touchpad : ∀ write ∈ made, write.1 = .unbind ∨ write.1 = .bind
  followed : Followed made
  retried : Retried n (bindsOf made)
  unbound : w'.bound = false → bindsOf made = List.replicate n false
  reports : w'.Reports

/-- The touchpad is unbound where it was bound, and some lines are logged. -/
def Unbinding (w w' : Bus) : Prop :=
  ∃ now made lines, w' = { w with
      bound := now
      writes := w.writes ++ made
      lines } ∧
    (made = [] ∨ ∃ took, made = [(.unbind, took)])

/-- An unbind is written only while the touchpad is bound. -/
theorem unbind_wp (haction : action = "post") (hpresent : w.present = true) :
    Wp bus (Guard action) (fun _ _ w' => Unbinding w w') (when w.bound unbindTouchpad) () w := by
  refine wp_when.mpr ⟨fun hbound => ?_, fun _ => wp_return ?_⟩
  · refine wp_write ⟨haction, rfl, hpresent, hbound⟩ ?_
    rintro res _ ⟨now, -, -, rfl⟩
    cases res with
    | none => exact wp_return ⟨now, _, w.lines, rfl, .inr ⟨true, rfl⟩⟩
    | some e => exact wp_line_last ⟨now, _, _, rfl, .inr ⟨false, rfl⟩⟩
  · exact ⟨w.bound, [], w.lines, by simp, .inl rfl⟩

/-- An attempt goes on with whether its bind took. -/
theorem isRebound_wp {α : Type} {R : α → Unit → Bus → Prop} {res : Option WriteError}
    {f : Bool → Hook α} (h : Wp bus (Guard action) R (f (res.isNone && w.bound)) () w) :
    Wp bus (Guard action) R (isRebound res >>= f) () w := by
  cases res with
  | none => exact wp_pathExists h
  | some e => exact h

/-- The writes of one attempt before those of the attempts that follow it. -/
theorem followed_attempt {made rest : List (HookPath × Bool)} (took : Bool)
    (hmade : made = [] ∨ ∃ took, made = [(.unbind, took)]) (hrest : Followed rest) :
    Followed (made ++ (.bind, took) :: rest) ∧
      bindsOf (made ++ (.bind, took) :: rest) = took :: bindsOf rest := by
  have hbind : Followed ((.bind, took) :: rest) := ⟨fun h => (by cases h), hrest⟩
  rcases hmade with rfl | ⟨took', rfl⟩
  · exact ⟨hbind, rfl⟩
  · exact ⟨⟨fun _ => rfl, hbind⟩, rfl⟩

/-- The writes of one attempt are to the touchpad. -/
theorem touchpad_attempt {made rest : List (HookPath × Bool)} {took : Bool}
    (hmade : made = [] ∨ ∃ took, made = [(.unbind, took)])
    (hrest : ∀ write ∈ rest, write.1 = HookPath.unbind ∨ write.1 = .bind) :
    ∀ write ∈ made ++ (.bind, took) :: rest, write.1 = HookPath.unbind ∨ write.1 = .bind := by
  intro write hwrite
  rcases List.mem_append.mp hwrite with hwrite | hwrite
  · rcases hmade with rfl | ⟨took', rfl⟩
    · exact absurd hwrite List.not_mem_nil
    · rw [List.mem_singleton.mp hwrite]
      exact .inl rfl
  · rcases List.mem_cons.mp hwrite with rfl | hwrite
    · exact .inr rfl
    · exact hrest write hwrite

/-- The attempts that are left do what so many attempts do. -/
theorem rebindFrom_wp (haction : action = "post") {attempts : List Nat}
    (hpresent : w.present = true) :
    Wp bus (Guard action) (fun _ _ w' => ∃ made, Cycled attempts.length w made w')
      (rebindFrom attempts) () w := by
  induction attempts generalizing w with
  | nil =>
    -- No attempt is left: what is logged is what the driver's directory says.
    refine wp_pathExists ?_
    have hexists : w.exists .bound = w.bound := rfl
    rw [hexists]
    have hcycled : ∀ msg, Bus.Reports { w with lines := w.lines ++ [msg] } →
        Cycled 0 w [] { w with lines := w.lines ++ [msg] } := fun msg hreports =>
      ⟨⟨w.bound, w.lines ++ [msg], by simp⟩, by simp, trivial, .inl rfl, fun _ => rfl, hreports⟩
    cases hbound : w.bound with
    | true => exact wp_line_last ⟨[], hcycled _ (.inl ⟨.inr (List.getLast?_concat ..), hbound⟩)⟩
    | false => exact wp_line_last ⟨[], hcycled _ (.inr ⟨List.getLast?_concat .., hbound⟩)⟩
  | cons attempt rest ih =>
    refine wp_pathExists ((unbind_wp haction hpresent).bind ?_)
    rintro _ _ _ ⟨now, made, lines, rfl, hmade⟩
    refine wp_write ⟨haction, rfl, hpresent⟩ ?_
    rintro res _ ⟨now', hnow', rfl⟩
    refine isRebound_wp ?_
    cases hok : res.isNone && now' with
    | true =>
      -- The bind took, and no attempt follows.
      have hbound : now' = true := ((Bool.and_eq_true _ _).mp hok).2
      have hnothing : Followed [] := trivial
      obtain ⟨hfollowed, hbinds⟩ := followed_attempt true hmade hnothing
      refine wp_line_last ⟨made ++ [(.bind, true)],
        ⟨⟨now', lines ++ [reboundLine attempt], by simp⟩, touchpad_attempt hmade (by simp),
          hfollowed, ?_, fun h => ?_, .inl ⟨.inl ⟨attempt, List.getLast?_concat ..⟩, hbound⟩⟩⟩
      · rw [hbinds]
        exact .inr ⟨0, Nat.succ_pos _, rfl⟩
      · rw [hbound] at h
        cases h
    | false =>
      refine wp_line ?_
      refine (wp_still_ask_bind bus_still).mpr ⟨fun _ _ he => (by cases he), ?_⟩
      rintro _ _ rfl
      refine (ih ?_).mono (fun _ _ _ => id) fun _ _ w' h => ?_
      · exact hpresent
      obtain ⟨more, ⟨bound, lines', rfl⟩, htouchpad, hfollowed, hretried, hunbound, hreports⟩ := h
      obtain ⟨hfollowed', hbinds⟩ := followed_attempt false hmade hfollowed
      refine ⟨made ++ (.bind, false) :: more, ⟨bound, lines', by simp⟩,
        touchpad_attempt hmade htouchpad, hfollowed', ?_, fun h => ?_, hreports⟩
      · rw [hbinds]
        exact hretried.failed
      · rw [hbinds, hunbound h]
        exact List.replicate_succ.symm

/-- The touchpad that is there is cycled, four times at most. -/
theorem rebindTouchpad_wp (haction : action = "post") (hpresent : w.present = true) :
    Wp bus (Guard action) (fun _ _ w' => ∃ made, Cycled rebindAttempts.length w made w')
      rebindTouchpad () w := by
  refine wp_pathExists ?_
  have hexists : w.exists .present = true := hpresent
  rw [hexists]
  exact rebindFrom_wp haction hpresent

/-! ## A run -/

/-- The files that a run enables, in order. -/
def Bus.wakeFiles (w : Bus) : List HookPath :=
  w.onlyThere .controllerWakeup ++
    ((w.devices.filter isRootHub).map fun device => .usb device .wakeup).filter w.exists ++
    w.devices.flatMap w.hubFiles ++ w.devices.flatMap w.inputFiles

/-- The whole writes the wake files. -/
theorem enableWake_enables : Enables action w enableWake w.wakeFiles := by
  have hhubs : ∀ path ∈ ((w.devices.filter isRootHub).map fun device =>
      HookPath.usb device .wakeup).filter w.exists,
      w.Wakes path := by
    intro path hpath
    obtain ⟨hpath, hthere⟩ := List.mem_filter.mp hpath
    obtain ⟨device, hdevice, rfl⟩ := List.mem_map.mp hpath
    obtain ⟨hdevice, hroot⟩ := List.mem_filter.mp hdevice
    exact ⟨hdevice, hthere, .inl hroot⟩
  rw [Bus.wakeFiles, List.append_assoc, List.append_assoc]
  refine Enables.bind (enableNamed_enables "controller" fun hthere => hthere) ?_
  rintro _ _ ⟨made, enabled, lines, rfl, -⟩
  refine wp_usbDevices ?_
  refine Wp.bind (existing_wp _) ?_
  rintro hubs _ _ ⟨rfl, rfl⟩
  refine Enables.bind (enableAll_enables hhubs) ?_
  rintro count _ ⟨made', enabled', lines', rfl, -⟩
  refine Enables.line_bind ?_
  rintro _ ⟨made'', enabled'', lines'', rfl, -⟩
  refine wp_usbDevices ?_
  refine Enables.bind (enableIntermediate_enables fun _ h => h) ?_
  rintro intermediate _ ⟨made₃, enabled₃, lines₃, rfl, -⟩
  refine Enables.line_bind ?_
  rintro _ ⟨made₄, enabled₄, lines₄, rfl, -⟩
  exact wp_usbDevices (enableInputs_enables fun _ h => h)

/-- The file is written where it exists. -/
theorem mem_onlyThere {path path' : HookPath} :
    path ∈ w.onlyThere path' ↔ path = path' ∧ w.exists path' = true := by
  unfold Bus.onlyThere
  split <;> simp_all

/-- The wake file of a hub that is there. -/
theorem mem_hubFiles {path : HookPath} {device : String} :
    path ∈ w.hubFiles device ↔ path = .usb device .wakeup ∧ w.there (.usb device .wakeup) = true ∧
      ∃ product, w.contents (.usb device .product) = some product ∧ isHub product = true := by
  unfold Bus.hubFiles
  cases w.contents (.usb device .product) with
  | none => simp
  | some product =>
    by_cases hhub : isHub product = true
    · simp [hhub, mem_onlyThere, Bus.exists]
    · simp [hhub]

/-- The wake file of a tracked device that is there. -/
theorem mem_inputFiles {path : HookPath} {device : String} :
    path ∈ w.inputFiles device ↔
      path = .usb device .wakeup ∧ w.there (.usb device .wakeup) = true ∧ w.Tracked device := by
  unfold Bus.inputFiles Bus.Tracked
  cases w.contents (.usb device .idVendor) with
  | none => simp
  | some vendor =>
    cases w.contents (.usb device .idProduct) with
    | none => simp
    | some product =>
      simp only [List.mem_flatMap, List.mem_filter, decide_eq_true_eq, mem_onlyThere, Bus.exists]
      constructor
      · rintro ⟨row, ⟨hrow, hids⟩, hpath, hthere⟩
        exact ⟨hpath, hthere, vendor, product, rfl, rfl, List.mem_map.mpr ⟨row, hrow, hids.symm⟩⟩
      · rintro ⟨hpath, hthere, _, _, ⟨⟩, ⟨⟩, hids⟩
        obtain ⟨row, hrow, hids⟩ := List.mem_map.mp hids
        exact ⟨row, ⟨hrow, hids.symm⟩, hpath, hthere⟩

/-- The files that a run enables are those that may wake the machine. -/
theorem mem_wakeFiles {path : HookPath} : path ∈ w.wakeFiles ↔ w.Wakes path := by
  simp only [Bus.wakeFiles, List.mem_append, mem_onlyThere, List.mem_filter, List.mem_map,
    List.mem_flatMap, mem_hubFiles, mem_inputFiles]
  constructor
  · rintro (((⟨rfl, hthere⟩ | ⟨⟨device, ⟨hdevice, hroot⟩, rfl⟩, hthere⟩) | ⟨device, hdevice, rfl,
      hthere, hhub⟩) |
      ⟨device, hdevice, rfl, hthere, htracked⟩)
    · exact hthere
    · exact ⟨hdevice, hthere, .inl hroot⟩
    · exact ⟨hdevice, hthere, .inr (.inl hhub)⟩
    · exact ⟨hdevice, hthere, .inr (.inr htracked)⟩
  · intro hwakes
    cases path with
    | controllerWakeup => exact .inl (.inl (.inl ⟨rfl, hwakes⟩))
    | usb device file =>
      cases file with
      | wakeup =>
        obtain ⟨hdevice, hthere, hroot | hhub | htracked⟩ := hwakes
        · exact .inl (.inl (.inr ⟨⟨device, ⟨hdevice, hroot⟩, rfl⟩, hthere⟩))
        · exact .inl (.inr ⟨device, hdevice, rfl, hthere, hhub⟩)
        · exact .inr ⟨device, hdevice, rfl, hthere, htracked⟩
      | product | idVendor | idProduct => exact hwakes.elim
    | present | bound | unbind | bind => exact hwakes.elim

/-- The line that says how the touchpad was left. -/
def Bus.verdict (w : Bus) : Option String := w.lines.dropLast.getLast?

/-- What a run does, and the writes that it makes. -/
structure Outcome (action : String) (w : Bus) (made : List (HookPath × Bool)) (w' : Bus) :
    Prop where
  writes : w'.writes = w.writes ++ made
  /-- Any other action is ignored. -/
  ignored : action ≠ "pre" → action ≠ "post" → w' = w
  /-- But for the touchpad, what is written to are the wake files. -/
  wakes : action = "pre" ∨ action = "post" → ∀ path, path ≠ .unbind → path ≠ .bind →
    (path ∈ made.map Prod.fst ↔ w.Wakes path)
  /-- Those that took the write are enabled, what was enabled stays so, and nothing else is that is
  no wake file. -/
  enabled : (∀ path ∈ w.enabled, path ∈ w'.enabled) ∧
    (∀ path, w.Wakes path → (path, true) ∈ made → path ∈ w'.enabled) ∧
      ∀ path ∈ w'.enabled, path ∈ w.enabled ∨ w.Wakes path
  /-- Each unbind is followed at once by a bind. -/
  followed : Followed made
  /-- The touchpad is left alone before a suspend, and where there is none. -/
  untouched : action ≠ "post" ∨ w.present = false →
    w'.bound = w.bound ∧ ∀ write ∈ made, write.1 ≠ .unbind ∧ write.1 ≠ .bind
  /-- After a resume it is bound until a bind takes, four times at most. It is left unbound only
  where all four failed, and the log says so exactly then. -/
  cycled : action = "post" → w.present = true → Retried 4 (bindsOf made) ∧
    (w'.bound = false → bindsOf made = List.replicate 4 false) ∧
      (w'.verdict = some unboundLine ↔ w'.bound = false)

/-- A line that says that the touchpad is bound is not the one that says that it is not. -/
theorem reboundLine_ne_unboundLine (attempt : Nat) : reboundLine attempt ≠ unboundLine := by
  intro h
  have hunbound : unboundLine.toList[2]? = some '!' := by decide +kernel
  have hrebound : (reboundLine attempt).toList[2]? = some 't' := by
    unfold reboundLine
    split
    · decide +kernel
    · rw [String.toList_append, String.toList_append, List.append_assoc,
        List.getElem?_append_left (by decide +kernel)]
      decide +kernel
  rw [h, hunbound] at hrebound
  exact absurd (Option.some.inj hrebound) (by decide)

/-- What a run says of the touchpad is so. -/
theorem Bus.Reports.verdict (h : w.Reports) :
    w.lines.getLast? = some unboundLine ↔ w.bound = false := by
  have hwedged : wedgedLine ≠ unboundLine := by decide +kernel
  rcases h with ⟨⟨attempt, hline⟩ | hline, hbound⟩ | ⟨hline, hbound⟩
  · simp [hline, hbound, reboundLine_ne_unboundLine]
  · simp [hline, hbound, hwedged]
  · simp [hline, hbound]

/-- No wake file is the touchpad's. -/
theorem Bus.Wakes.ne_touchpad {path : HookPath} (h : w.Wakes path) :
    path ≠ .unbind ∧ path ≠ .bind := by
  cases path with
  | unbind | bind => exact h.elim
  | _ => exact ⟨fun he => (by cases he), fun he => (by cases he)⟩

/-- The wake files were written to, and then the touchpad was or was not: an outcome. -/
theorem outcome_of_woken {made made' : List (HookPath × Bool)} {enabled : List HookPath}
    {w' : Bus} (hours : action = "pre" ∨ action = "post")
    (hmade : made.map Prod.fst = w.wakeFiles) (hwoken : Woken w.enabled made enabled)
    (hwrites : w'.writes = w.writes ++ (made ++ made')) (henabled : w'.enabled = enabled)
    (htouchpad : ∀ write ∈ made', write.1 = HookPath.unbind ∨ write.1 = .bind)
    (hfollowed : Followed made')
    (huntouched : action ≠ "post" ∨ w.present = false → w'.bound = w.bound ∧ made' = [])
    (hcycled : action = "post" → w.present = true → Retried 4 (bindsOf made') ∧
      (w'.bound = false → bindsOf made' = List.replicate 4 false) ∧
        (w'.verdict = some unboundLine ↔ w'.bound = false)) :
    Outcome action w (made ++ made') w' := by
  -- The writes to the wake files are those of the machine's wake files, and no touchpad's.
  have hwakes : ∀ path, path ∈ made.map Prod.fst ↔ w.Wakes path := fun path => by
    rw [hmade, mem_wakeFiles]
  have hnot : ∀ write ∈ made, write.1 ≠ HookPath.unbind ∧ write.1 ≠ .bind := fun write h =>
    ((hwakes _).mp (List.mem_map_of_mem h)).ne_touchpad
  -- So the binds are those of the touchpad's part.
  have hbinds : bindsOf (made ++ made') = bindsOf made' := by
    have hnone : made.filter (fun write => decide (write.1 = .bind)) = [] :=
      List.filter_eq_nil_iff.mpr fun write h => by simpa using (hnot write h).2
    rw [bindsOf, List.filter_append, hnone, List.nil_append, bindsOf]
  subst henabled
  refine ⟨hwrites, fun hpre hpost => absurd hours (not_or.mpr ⟨hpre, hpost⟩),
    fun _ path hunbind hbind => ?_, ⟨hwoken.kept, fun path hpath htook => ?_, fun path hpath => ?_⟩,
    hfollowed.append fun write h => (hnot write h).1, fun h => ?_, fun hpost hpresent => ?_⟩
  · rw [List.map_append, List.mem_append, hwakes]
    refine ⟨fun h => h.resolve_right fun h => ?_, .inl⟩
    obtain ⟨write, hwrite, rfl⟩ := List.mem_map.mp h
    rcases htouchpad write hwrite with h | h
    · exact hunbind h
    · exact hbind h
  · rcases List.mem_append.mp htook with htook | htook
    · exact hwoken.took path htook
    · rcases htouchpad _ htook with h | h
      · exact absurd h hpath.ne_touchpad.1
      · exact absurd h hpath.ne_touchpad.2
  · exact (hwoken.only path hpath).imp_right (hwakes path).mp
  · obtain ⟨hbound, rfl⟩ := huntouched h
    rw [List.append_nil]
    exact ⟨hbound, hnot⟩
  · rw [hbinds]
    exact hcycled hpost hpresent

/-- However its writes end, a run exits 0, makes only writes that are allowed when they are made,
and ends as an outcome says. -/
theorem run_wakes (action : String) (w : Bus) :
    Wp bus (Guard action) (fun code _ w' => code = 0 ∧ ∃ made, Outcome action w made w')
      (run action) () w := by
  unfold run
  -- Another action ends before the log is opened.
  refine wp_ite.mpr ⟨fun hother => ?_, fun hours => ?_⟩
  · obtain ⟨hpre, hpost⟩ := hother
    refine wp_return ⟨rfl, [], (List.append_nil _).symm, fun _ _ => rfl,
      fun h => absurd h (not_or.mpr ⟨hpre, hpost⟩), ⟨fun _ => id, fun _ _ h => ?_, fun _ => .inl⟩,
      trivial, fun _ => ⟨rfl, fun _ h => ?_⟩, fun h => absurd h hpost⟩
    · exact absurd h List.not_mem_nil
    · exact absurd h List.not_mem_nil
  have hours : action = "pre" ∨ action = "post" := by
    by_cases hpre : action = "pre"
    · exact .inl hpre
    · exact .inr (by_contra fun hpost => hours ⟨hpre, hpost⟩)
  -- The wake files come first, for both actions.
  refine wp_line (Wp.bind enableWake_enables ?_)
  rintro _ _ w₁ ⟨made, enabled, more, hw₁, hmade, hwoken⟩
  have hlines : ∃ lines, w₁ = { w with
      enabled
      writes := w.writes ++ made
      lines } := ⟨_, hw₁⟩
  clear hw₁
  obtain ⟨lines, rfl⟩ := hlines
  -- The touchpad is bound again after a resume, where it is present.
  by_cases hpost : action = "post"
  · have hwhen : when (decide (action = "post")) rebindTouchpad = rebindTouchpad :=
      if_pos (decide_eq_true hpost)
    rw [hwhen]
    by_cases hpresent : w.present = true
    · refine Wp.bind (rebindTouchpad_wp hpost hpresent) ?_
      rintro _ _ _ ⟨made', ⟨bound, lines', rfl⟩, htouchpad, hfollowed, hretried, hunbound, hreports⟩
      refine wp_line (wp_return ⟨rfl, made ++ made', outcome_of_woken hours hmade hwoken
        (List.append_assoc _ _ _) rfl htouchpad hfollowed (fun h => ?_)
        fun _ _ => ⟨hretried, hunbound, ?_⟩⟩)
      · exact absurd h (not_or.mpr ⟨not_not.mpr hpost, by simp [hpresent]⟩)
      · refine Iff.trans ?_ hreports.verdict
        show (lines' ++ [_]).dropLast.getLast? = _ ↔ _
        rw [List.dropLast_concat]
    · refine Wp.bind (Q := fun _ _ w' => ∃ lines, w' = { w with
        enabled
        writes := w.writes ++ made
        lines }) ?_ ?_
      · refine wp_pathExists (wp_ite.mpr ⟨fun h => absurd h hpresent, fun _ => wp_line_last ?_⟩)
        exact ⟨_, rfl⟩
      · rintro _ _ _ ⟨lines', rfl⟩
        refine wp_line (wp_return ⟨rfl, made ++ [], outcome_of_woken hours hmade hwoken
          (by rw [List.append_nil]) rfl (by simp) trivial (fun _ => ⟨rfl, rfl⟩) fun _ h => ?_⟩)
        exact absurd h hpresent
  · have hwhen : when (decide (action = "post")) rebindTouchpad = pure () :=
      if_neg (by simpa using hpost)
    rw [hwhen, pure_bind]
    refine wp_line (wp_return ⟨rfl, made ++ [], outcome_of_woken hours hmade hwoken
      (by rw [List.append_nil]) rfl (by simp) trivial (fun _ => ⟨rfl, rfl⟩) fun h => ?_⟩)
    exact absurd h hpost

end Hyprstate.SleepHook
