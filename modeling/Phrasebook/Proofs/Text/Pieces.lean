import Phrasebook.Text.Basic
import Mathlib.Data.List.Basic
/-!
Cutting at a separator and joining with it are inverse to each other, on pieces without separator.
-/
namespace Phrasebook.Text

variable (sep : Code)

theorem splitAt_ne_nil (t : Text) : splitAt sep t ≠ [] := by
  cases t with
  | nil => simp [splitAt]
  | cons c rest =>
    simp only [splitAt]
    split_ifs
    · simp
    · split <;> simp

theorem splitAt_append (s t : Text) :
    splitAt sep (s ++ sep :: t) = splitAt sep s ++ splitAt sep t := by
  induction s with
  | nil => simp [splitAt]
  | cons c rest ih =>
    simp only [List.cons_append, splitAt, ih]
    split_ifs
    · rfl
    · rcases pieces : splitAt sep rest with _ | ⟨piece, later⟩
      · exact absurd pieces (splitAt_ne_nil sep rest)
      · rfl

theorem splitAt_of_not_mem {t : Text} (free : sep ∉ t) : splitAt sep t = [t] := by
  induction t with
  | nil => rfl
  | cons c rest ih =>
    obtain ⟨other, free⟩ : sep ≠ c ∧ sep ∉ rest := by simpa using free
    rw [splitAt, if_neg (Ne.symm other), ih free]

theorem not_mem_of_mem_splitAt {t piece : Text} (member : piece ∈ splitAt sep t) : sep ∉ piece := by
  induction t generalizing piece with
  | nil =>
    rw [List.mem_singleton.mp member]
    exact List.not_mem_nil
  | cons c rest ih =>
    simp only [splitAt] at member
    split_ifs at member with here
    · rcases List.mem_cons.mp member with rfl | later
      · exact List.not_mem_nil
      · exact ih later
    · rcases pieces : splitAt sep rest with _ | ⟨first, later⟩
      · exact absurd pieces (splitAt_ne_nil sep rest)
      · rw [pieces] at member ih
        rcases List.mem_cons.mp member with rfl | behind
        · simpa [Ne.symm here] using ih List.mem_cons_self
        · exact ih (List.mem_cons_of_mem _ behind)

theorem joinWith_cons {parts : List Text} (first : Text) (nonempty : parts ≠ []) :
    joinWith [sep] (first :: parts) = first ++ sep :: joinWith [sep] parts := by
  cases parts with
  | nil => exact absurd rfl nonempty
  | cons second rest => simp [joinWith]

theorem joinWith_cons_empty (between first : Text) (parts : List Text) :
    joinWith between (first :: parts) = first ++ joinWith between ([] :: parts) := by
  cases parts <;> simp [joinWith]

theorem splitAt_joinWith {parts : List Text} (nonempty : parts ≠ [])
    (free : ∀ part ∈ parts, sep ∉ part) : splitAt sep (joinWith [sep] parts) = parts := by
  induction parts with
  | nil => exact absurd rfl nonempty
  | cons first rest ih =>
    obtain ⟨freeFirst, freeRest⟩ := List.forall_mem_cons.mp free
    by_cases last : rest = []
    · subst last
      simpa [joinWith] using splitAt_of_not_mem sep freeFirst
    · rw [joinWith_cons sep first last, splitAt_append, ih last freeRest,
        splitAt_of_not_mem sep freeFirst]
      rfl

theorem joinWith_splitAt (t : Text) : joinWith [sep] (splitAt sep t) = t := by
  induction t with
  | nil => rfl
  | cons c rest ih =>
    simp only [splitAt]
    split_ifs with here
    · rw [joinWith_cons sep [] (splitAt_ne_nil sep rest), ih, here]
      rfl
    · rcases pieces : splitAt sep rest with _ | ⟨piece, later⟩
      · exact absurd pieces (splitAt_ne_nil sep rest)
      · rw [pieces] at ih
        rw [← ih]
        cases later <;> simp [joinWith]

theorem joinWith_append {front back : List Text} (hasFront : front ≠ []) (hasBack : back ≠ []) :
    joinWith [sep] (front ++ back) = joinWith [sep] front ++ sep :: joinWith [sep] back := by
  induction front with
  | nil => exact absurd rfl hasFront
  | cons first rest ih =>
    rw [List.cons_append, joinWith_cons sep first (by simp [hasBack])]
    by_cases last : rest = []
    · simp [last, joinWith]
    · rw [ih last, joinWith_cons sep first last]
      simp

end Phrasebook.Text
