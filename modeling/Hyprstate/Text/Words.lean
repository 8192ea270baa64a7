import Mathlib.Tactic.Common

/-!
# Words

The words of a text between blanks, as `split_whitespace` finds them. Words that are joined by a
blank are found again (`words_unwords`).
-/

namespace Text

section

variable {α : Type} (blank : α → Bool)

/-- The words of a text that goes on where `word` was begun. -/
def wordsFrom (word : List α) : List α → List (List α)
  | [] => if word = [] then [] else [word]
  | c :: rest =>
    if blank c then (if word = [] then [] else [word]) ++ wordsFrom [] rest
    else wordsFrom (word ++ [c]) rest

/-- The words of a text. -/
def words (text : List α) : List (List α) := wordsFrom blank [] text

/-- The words with a separator between them. -/
def unwords (sep : α) : List (List α) → List α
  | [] => []
  | [w] => w
  | w :: v :: ws => w ++ sep :: unwords sep (v :: ws)

variable {blank}

/-- Words are not empty, and hold no blank. -/
theorem wordsFrom_forall {word : List α} (hword : ∀ c ∈ word, blank c = false) (text : List α) :
    ∀ w ∈ wordsFrom blank word text, w ≠ [] ∧ ∀ c ∈ w, blank c = false := by
  have hflush : ∀ w ∈ (if word = [] then [] else [word]), w ≠ [] ∧ ∀ c ∈ w, blank c = false := by
    intro w hw
    split at hw
    · cases hw
    · obtain rfl := List.mem_singleton.mp hw
      exact ⟨‹_›, hword⟩
  induction text generalizing word with
  | nil => exact hflush
  | cons c rest ih =>
    intro w hw
    unfold wordsFrom at hw
    split at hw
    · rcases List.mem_append.mp hw with hw | hw
      · exact hflush w hw
      · have hnil : ∀ c ∈ ([] : List α), blank c = false := fun c hc => absurd hc List.not_mem_nil
        refine ih hnil (fun w hw => ?_) w hw
        simp at hw
    · next hc =>
      have hword' : ∀ d ∈ word ++ [c], blank d = false := by
        intro d hd
        rcases List.mem_append.mp hd with hd | hd
        · exact hword d hd
        · obtain rfl := List.mem_singleton.mp hd
          exact Bool.eq_false_iff.mpr hc
      refine ih hword' (fun w hw => ?_) w hw
      rw [if_neg (by simp), List.mem_singleton] at hw
      subst hw
      exact ⟨by simp, hword'⟩

/-- A word is not empty, and has no blank in it. -/
theorem of_mem_words {text w : List α} (hw : w ∈ words blank text) :
    w ≠ [] ∧ ∀ c ∈ w, blank c = false :=
  wordsFrom_forall (fun _ hc => absurd hc List.not_mem_nil) text w hw

/-- What holds no blank joins the word that is being read. -/
theorem wordsFrom_append {more : List α} (hmore : ∀ c ∈ more, blank c = false)
    (word rest : List α) :
    wordsFrom blank word (more ++ rest) = wordsFrom blank (word ++ more) rest := by
  induction more generalizing word with
  | nil => simp
  | cons c more ih =>
    rw [List.cons_append, wordsFrom, if_neg (by simp [hmore c List.mem_cons_self]),
      ih (fun d hd => hmore d (List.mem_cons_of_mem _ hd)), List.append_assoc,
        List.singleton_append]

/-- Words that are joined are found again. -/
theorem words_unwords {sep : α} (hsep : blank sep = true) {ws : List (List α)}
    (hws : ∀ w ∈ ws, w ≠ [] ∧ ∀ c ∈ w, blank c = false) : words blank (unwords sep ws) = ws := by
  induction ws with
  | nil => rfl
  | cons w ws ih =>
    obtain ⟨hne, hw⟩ := hws w List.mem_cons_self
    have ih := ih fun u hu => hws u (List.mem_cons_of_mem _ hu)
    cases ws with
    | nil =>
      have happend := wordsFrom_append hw [] []
      rw [List.append_nil, List.nil_append, wordsFrom, if_neg hne] at happend
      exact happend
    | cons v ws =>
      rw [words] at ih
      rw [unwords, words, wordsFrom_append hw, List.nil_append, wordsFrom, if_pos hsep,
        if_neg hne, ih]
      rfl

end

end Text
