import Mathlib.Data.List.DropRight
import Mathlib.Tactic.Common

/-!
# Trimming, splitting and lines

A text is a list of characters. What `trim` leaves is told by what it was cut from (`trim_eq_iff`),
a text is cut at its first separator exactly where no separator stands before (`findIdx?_split`,
`findIdx?_append_cons`), and a line that is ended is the first of the lines (`lines_append`).
-/

namespace Text

section

variable {α : Type} (blank : α → Bool)

/-- What is left without the blanks at either end. -/
def trim (l : List α) : List α := (l.dropWhile blank).rdropWhile blank

/-- It does not start with a blank. -/
def TrimmedStart (l : List α) : Prop := ∀ a ∈ l.head?, blank a = false

/-- It does not end with one. -/
def TrimmedEnd (l : List α) : Prop := ∀ a ∈ l.getLast?, blank a = false

variable {blank} {l m : List α}

/-- The blanks before a trimmed text are dropped, and no more. -/
theorem dropWhile_append_of_trimmed {pre : List α} (hpre : ∀ a ∈ pre, blank a = true)
    (hm : TrimmedStart blank m) : (pre ++ m).dropWhile blank = m := by
  rw [List.dropWhile_append_of_pos hpre]
  cases m with
  | nil => rfl
  | cons a m => exact List.dropWhile_cons_of_neg (by simp [hm a rfl])

/-- What is left without the leading blanks is trimmed at the start. -/
theorem dropWhile_eq_iff :
    l.dropWhile blank = m ↔ TrimmedStart blank m ∧ ∃ pre, l = pre ++ m ∧
    ∀ a ∈ pre, blank a = true := by
  constructor
  · rintro rfl
    refine ⟨fun a ha => ?_, l.takeWhile blank, List.takeWhile_append_dropWhile.symm, fun a ha => ?_⟩
    · have hhead := List.head?_dropWhile_not blank l
      rw [Option.mem_def.mp ha] at hhead
      simpa using hhead
    · exact List.mem_takeWhile_imp ha
  · rintro ⟨hm, pre, rfl, hpre⟩
    exact dropWhile_append_of_trimmed hpre hm

/-- What is left without the trailing blanks is trimmed at the end. -/
theorem rdropWhile_eq_iff :
    l.rdropWhile blank = m ↔ TrimmedEnd blank m ∧ ∃ post, l = m ++ post ∧
    ∀ a ∈ post, blank a = true := by
  have hreverse : l.rdropWhile blank = m ↔ l.reverse.dropWhile blank = m.reverse := by
    rw [List.rdropWhile, List.reverse_eq_iff]
  rw [hreverse, dropWhile_eq_iff]
  refine and_congr ?_ ?_
  · unfold TrimmedStart TrimmedEnd
    rw [List.head?_reverse]
  · constructor
    · rintro ⟨pre, hl, hpre⟩
      refine ⟨pre.reverse, ?_, by simpa using hpre⟩
      simpa using congrArg List.reverse hl
    · rintro ⟨post, rfl, hpost⟩
      exact ⟨post.reverse, List.reverse_append, by simpa using hpost⟩

/-- The result of trimming, and the blanks that were cut off. -/
theorem trim_eq_iff : trim blank l = m ↔ (TrimmedStart blank m ∧ TrimmedEnd blank m) ∧
    ∃ pre post, l = pre ++ m ++ post ∧ (∀ a ∈ pre, blank a = true) ∧
    ∀ a ∈ post, blank a = true := by
  constructor
  · intro h
    obtain ⟨hstart, pre, hl, hpre⟩ := dropWhile_eq_iff.mp (rfl : l.dropWhile blank = _)
    obtain ⟨hend, post, hm, hpost⟩ := rdropWhile_eq_iff.mp h
    refine ⟨⟨fun a ha => ?_, hend⟩, pre, post, ?_, hpre, hpost⟩
    · refine hstart a ?_
      rw [hm, List.head?_append, Option.mem_def.mp ha]
      rfl
    · rw [List.append_assoc, ← hm, ← hl]
  · rintro ⟨⟨hstart, hend⟩, pre, post, rfl, hpre, hpost⟩
    unfold trim
    rw [List.append_assoc]
    cases m with
    | nil =>
      -- There is nothing but blanks.
      have hall : ∀ a ∈ pre ++ ([] ++ post), blank a = true := by
        simpa [or_imp, forall_and] using ⟨hpre, hpost⟩
      rw [List.dropWhile_eq_nil_iff.mpr hall, List.rdropWhile_nil]
    | cons a m =>
      rw [dropWhile_append_of_trimmed hpre (fun b hb => hstart b (by simpa using hb))]
      exact rdropWhile_eq_iff.mpr ⟨hend, post, rfl, hpost⟩

/-- What was trimmed has nothing left to trim. -/
theorem trim_trim (l : List α) : trim blank (trim blank l) = trim blank l := by
  obtain ⟨htrimmed, -⟩ := trim_eq_iff.mp (rfl : trim blank l = trim blank l)
  exact trim_eq_iff.mpr ⟨htrimmed, [], [], (List.append_nil _).symm, by simp, by simp⟩

/-- Trimming adds nothing. -/
theorem mem_of_mem_trim {a : α} (h : a ∈ trim blank l) : a ∈ l :=
  (List.dropWhile_sublist _).mem ((List.rdropWhile_prefix _ _).mem h)

/-- What follows a prefix. -/
def stripPrefix [BEq α] (leader l : List α) : Option (List α) :=
  if leader.isPrefixOf l then some (l.drop leader.length) else none

/-- A leader is stripped exactly where the text begins with it. -/
theorem stripPrefix_eq_some [BEq α] [LawfulBEq α] {leader rest : List α} :
    stripPrefix leader l = some rest ↔ l = leader ++ rest := by
  unfold stripPrefix
  constructor
  · intro h
    split at h
    · rename_i hprefix
      obtain ⟨more, rfl⟩ := List.isPrefixOf_iff_prefix.mp hprefix
      rw [List.drop_left] at h
      rw [Option.some.inj h]
    · cases h
  · rintro rfl
    rw [if_pos (List.isPrefixOf_iff_prefix.mpr (List.prefix_append _ _)), List.drop_left]

/-- The first place where the test holds cuts the text in two. -/
theorem findIdx?_split {test : α → Bool} {i : Nat} (h : l.findIdx? test = some i) :
    ∃ a, test a = true ∧ l = l.take i ++ a :: l.drop (i + 1) ∧ ∀ b ∈ l.take i, test b = false := by
  obtain ⟨hi, htest, hbefore⟩ := List.findIdx?_eq_some_iff_getElem.mp h
  refine ⟨l[i], htest, ?_, fun b hb => ?_⟩
  · rw [← List.drop_eq_getElem_cons hi, List.take_append_drop]
  · obtain ⟨j, hj, rfl⟩ := List.mem_take_iff_getElem.mp hb
    simpa using hbefore j (by omega)

/-- The first element that passes is found behind those that do not. -/
theorem findIdx?_append_cons {test : α → Bool} {a : α} (hl : ∀ b ∈ l, test b = false)
    (ha : test a = true) (m : List α) : (l ++ a :: m).findIdx? test = some l.length := by
  refine List.findIdx?_eq_some_iff_getElem.mpr ⟨by simp, by simpa using ha, fun j hj => ?_⟩
  rw [List.getElem_append_left hj]
  simpa using hl _ (List.getElem_mem hj)

/-- What stands before the first separator, and what after it. -/
def splitOnce [BEq α] (sep : α) (l : List α) : Option (List α × List α) :=
  (l.findIdx? (· == sep)).map fun i => (l.take i, l.drop (i + 1))

/-- The split is at the first separator. -/
theorem splitOnce_eq_some [BEq α] [LawfulBEq α] {sep : α} {before after : List α} :
    splitOnce sep l = some (before, after) ↔ l = before ++ sep :: after ∧ sep ∉ before := by
  unfold splitOnce
  constructor
  · intro h
    obtain ⟨i, hi, hcut⟩ := Option.map_eq_some_iff.mp h
    obtain ⟨a, ha, hl, hbefore⟩ := findIdx?_split hi
    obtain rfl := eq_of_beq ha
    obtain ⟨rfl, rfl⟩ := Prod.mk.inj hcut
    refine ⟨hl, fun hmem => ?_⟩
    simpa using hbefore _ hmem
  · rintro ⟨rfl, hbefore⟩
    have hfirst : ∀ b ∈ before, (b == sep) = false := by
      intro b hb
      exact beq_eq_false_iff_ne.mpr fun hbs => hbefore (hbs ▸ hb)
    rw [findIdx?_append_cons hfirst (beq_self_eq_true sep), Option.map_some, List.take_left,
      List.drop_length_add_append, List.drop_succ_cons, List.drop_zero]

end

/-- A line without the carriage return before its line feed. -/
def dropReturn (line : List Char) : List Char :=
  if line.getLast? = some '\r' then line.dropLast else line

/-- The lines of a text that goes on where `line` was begun. -/
def linesFrom (line : List Char) : List Char → List (List Char)
  | [] => if line = [] then [] else [line]
  | c :: rest =>
    if c = '\n' then dropReturn line :: linesFrom [] rest else linesFrom (line ++ [c]) rest

/-- The lines of a text. Each ends with a line feed, a carriage return before it included, and the
last one may end with the text. -/
def lines (text : List Char) : List (List Char) := linesFrom [] text

/-- What holds no newline joins the line that is being read. -/
theorem linesFrom_append {more : List Char} (hmore : '\n' ∉ more) (line rest : List Char) :
    linesFrom line (more ++ rest) = linesFrom (line ++ more) rest := by
  induction more generalizing line with
  | nil => simp
  | cons c more ih =>
    obtain ⟨hc, hmore⟩ := not_or.mp (mt List.mem_cons.mpr hmore)
    rw [List.cons_append, linesFrom, if_neg (Ne.symm hc), ih hmore, List.append_assoc,
      List.singleton_append]

/-- A line that is ended is the first one. -/
theorem lines_append {line : List Char} (hline : '\n' ∉ line) (rest : List Char) :
    lines (line ++ '\n' :: rest) = dropReturn line :: lines rest := by
  rw [lines, linesFrom_append hline, List.nil_append, linesFrom, if_pos rfl]
  rfl

/-- A line that does not end with a carriage return stands as it is. -/
theorem dropReturn_of_ne {line : List Char} (h : line.getLast? ≠ some '\r') :
    dropReturn line = line :=
  if_neg h

/-- A line as it stands between line feeds: it has none, and no carriage return at its end. -/
def CleanLine (line : List Char) : Prop := '\n' ∉ line ∧ line.getLast? ≠ some '\r'

/-- Clean lines, each ended by a line feed, are read back. -/
theorem lines_unlines {ls : List (List Char)} (hls : ∀ line ∈ ls, CleanLine line)
    (rest : List Char) :
    lines (ls.flatMap (fun line => line ++ ['\n']) ++ rest) = ls ++ lines rest := by
  induction ls with
  | nil => rfl
  | cons line ls ih =>
    obtain ⟨hline, hreturn⟩ := hls line List.mem_cons_self
    rw [List.flatMap_cons, List.append_assoc, List.append_assoc, List.singleton_append,
      lines_append hline, dropReturn_of_ne hreturn, ih fun l hl =>
        hls l (List.mem_cons_of_mem _ hl)]
    rfl

/-- A line that was begun is the first one, with what follows it. -/
theorem linesFrom_cons_of_ne_nil {line : List Char} (hline : line ≠ []) (rest : List Char) :
    ∃ more ls, linesFrom line rest = dropReturn (line ++ more) :: ls ∨
      linesFrom line rest = (line ++ more) :: ls := by
  induction rest generalizing line with
  | nil => exact ⟨[], [], .inr (by rw [linesFrom, if_neg hline, List.append_nil])⟩
  | cons c rest ih =>
    by_cases hc : c = '\n'
    · exact ⟨[], linesFrom [] rest, .inl (by rw [linesFrom, if_pos hc, List.append_nil])⟩
    · have hmore : line ++ [c] ≠ [] := by simp
      obtain ⟨more, ls, h⟩ := ih hmore
      refine ⟨c :: more, ls, ?_⟩
      rw [linesFrom, if_neg hc]
      simpa using h

/-- The first line starts with what the text starts with, up to a line feed or a carriage return. -/
theorem lines_cons_of_start {start : List Char} (hne : start ≠ []) (hstart : '\n' ∉ start)
    (hreturn : '\r' ∉ start) (rest : List Char) :
    ∃ more ls, lines (start ++ rest) = (start ++ more) :: ls := by
  rw [lines, linesFrom_append hstart, List.nil_append]
  obtain ⟨more, ls, h | h⟩ := linesFrom_cons_of_ne_nil hne rest
  · rw [h]
    unfold dropReturn
    split
    · -- The carriage return that is dropped is none of the start.
      next hlast =>
      have hmore : more ≠ [] := by
        rintro rfl
        rw [List.append_nil] at hlast
        exact hreturn (List.mem_of_getLast? hlast)
      exact ⟨more.dropLast, ls, by rw [List.dropLast_append_of_ne_nil hmore]⟩
    · exact ⟨more, ls, rfl⟩
  · exact ⟨more, ls, h⟩

end Text
