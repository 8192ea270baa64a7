import Mathlib.Data.List.Induction
import Mathlib.Logic.Function.Basic
import Mathlib.Tactic.Common

/-!
# Replacing a file by another one

A file is replaced by writing the new content beside it and renaming that over it. Wherever this
fails or is interrupted, the file holds what it held before, or the new content as a whole
(`replace_target`), and no other file but the one beside it changes (`replace_frame`). So what is
read of the file is a register, which keeps the value that was put last to the end (`read_replace`,
`read_foldl`).
-/

namespace Store

variable {K C : Type} [DecidableEq K]

/-- How far a replacement comes, on its own or because it is interrupted. -/
inductive Ending (C : Type)
  /-- The file beside it is not written. -/
  | untouched
  /-- The file beside it holds something, and is not renamed. -/
  | torn (part : C)
  | replaced
  deriving DecidableEq

/-- Whether the replacement is done. -/
def Ending.done : Ending C → Bool
  | replaced => true
  | untouched | torn _ => false

/-- What the files hold afterwards. -/
def replace (beside target : K) (content : C) (files : K → Option C) : Ending C → K → Option C
  | .untouched => files
  | .torn part => Function.update files beside (some part)
  | .replaced => Function.update (Function.update files beside none) target (some content)

variable {beside target : K} {files : K → Option C}

/-- The target has the new content where the replacement ended, and its own otherwise. -/
theorem replace_target (hne : beside ≠ target) (content : C) (ending : Ending C) :
    replace beside target content files ending target = if ending.done then some content
      else files target := by
  cases ending with
  | untouched => rfl
  | torn part => exact Function.update_of_ne hne.symm _ _
  | replaced => exact Function.update_self _ _ _

/-- No other file is touched. -/
theorem replace_frame {k : K} (hbeside : k ≠ beside) (htarget : k ≠ target) (content : C)
    (ending : Ending C) : replace beside target content files ending k = files k := by
  cases ending with
  | untouched => rfl
  | torn part => exact Function.update_of_ne hbeside _ _
  | replaced => exact (Function.update_of_ne htarget _ _).trans (Function.update_of_ne hbeside _ _)

/-- A register whose content is read back as the value that was written. -/
theorem read_replace {V : Type} {read : Option C → V} {write : V → C}
    (hread : ∀ v, read (some (write v)) = v) (hne : beside ≠ target) (v : V) (ending : Ending C) :
    read (replace beside target (write v) files ending target) = if ending.done then v
      else read (files target) := by
  rw [replace_target hne]
  cases ending.done
  · rfl
  · exact hread v

/-- A register that each event sets or leaves holds what was put last. -/
theorem read_foldl {S E V : Type} (step : S → E → S) (read : S → V) (saved : E → Option V)
    (hstep : ∀ s e, read (step s e) = (saved e).getD (read s)) (events : List E) (s : S) :
    read (events.foldl step s) = (events.filterMap saved).getLast?.getD (read s) := by
  induction events using List.reverseRecOn with
  | nil => rfl
  | append_singleton events e ih =>
    rw [List.foldl_append, List.foldl_cons, List.foldl_nil, hstep, ih, List.filterMap_append]
    cases hsaved : saved e <;> simp [hsaved]

end Store
