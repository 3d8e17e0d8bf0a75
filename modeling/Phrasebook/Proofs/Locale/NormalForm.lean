import Phrasebook.Locale.Tag
import Phrasebook.Proofs.Text.LowerCase
/-!
The normal form of a locale tag is its own normal form. Lower-casing gives characters that it keeps,
and neither it nor the hyphens bring blanks to the ends. A language is cut out of the middle of a
tag: it may end in blanks, and its normal form is what is left without them.
-/
namespace Phrasebook.Locale
open Text

private theorem hyphenate_settled {c : Code} (settled : IsSettled c) : IsSettled (hyphenate c) := by
  rw [hyphenate]
  split_ifs
  · decide +kernel
  · exact settled

private theorem hyphenate_hyphenate (c : Code) : hyphenate (hyphenate c) = hyphenate c := by
  simp only [hyphenate]
  split_ifs with underscore again
  · cases again
  · rfl
  · rfl

private theorem isBlank_hyphenate (c : Code) : isBlank (hyphenate c) = isBlank c := by
  rw [hyphenate]
  split_ifs with underscore
  · rw [underscore]
    decide
  · rfl

private theorem hyphenate_isTrimmed {t : Text} (trimmed : IsTrimmed t) :
    IsTrimmed (t.map hyphenate) := by
  simpa [IsTrimmed, isBlank_hyphenate] using trimmed

variable {tag : Text} {c : Code}

theorem normalize_settled (member : c ∈ normalize tag) : IsSettled c := by
  obtain ⟨d, lowered, rfl⟩ := List.mem_map.mp member
  exact hyphenate_settled (lower_settled lowered)

theorem normalize_isTrimmed (tag : Text) : IsTrimmed (normalize tag) :=
  hyphenate_isTrimmed (lower_isTrimmed (strip_isTrimmed tag))

theorem hyphenate_of_mem_normalize (member : c ∈ normalize tag) : hyphenate c = c := by
  obtain ⟨d, -, rfl⟩ := List.mem_map.mp member
  exact hyphenate_hyphenate d

/-- A text whose characters have their normal form is only stripped. -/
theorem normalize_of_settled {t : Text} (settled : ∀ c ∈ t, IsSettled c)
    (hyphenated : ∀ c ∈ t, hyphenate c = c) : normalize t = strip t := by
  have within : ∀ c ∈ strip t, c ∈ t := fun c member => mem_of_mem_strip member
  rw [normalize, lower_of_settled fun c member => settled c (within c member)]
  refine (List.map_congr_left fun c member => ?_).trans (List.map_id _)
  exact hyphenated c (within c member)

def underscore : Code := 95

/-- What the normal form of a tag looks like. -/
structure IsNormal (t : Text) : Prop where
  trimmed : IsTrimmed t
  lowered : lower t = t
  hyphenated : underscore ∉ t

theorem hyphenate_ne_underscore (c : Code) : hyphenate c ≠ underscore := by
  rw [hyphenate]
  split_ifs with same
  · decide
  · exact same

theorem isNormal_normalize (tag : Text) : IsNormal (normalize tag) where
  trimmed := normalize_isTrimmed tag
  lowered := lower_of_settled fun _ => normalize_settled
  hyphenated member :=
    hyphenate_ne_underscore underscore (hyphenate_of_mem_normalize member)

theorem normalize_of_isNormal {t : Text} (normal : IsNormal t) : normalize t = t := by
  have kept : ∀ c ∈ t, hyphenate c = c := by
    intro c member
    refine if_neg ?_
    rintro rfl
    exact normal.hyphenated member
  rw [normalize, strip_of_isTrimmed normal.trimmed, normal.lowered]
  exact (List.map_congr_left kept).trans (List.map_id t)

theorem normalize_normalize (tag : Text) : normalize (normalize tag) = normalize tag :=
  normalize_of_isNormal (isNormal_normalize tag)

/-- Normalizing once is enough, whatever the tag: it gives exactly the texts that are trimmed, are
their own lower case and hold no underscore, and it keeps each of these. -/
theorem normalize_normal_form (tag : Text) :
    normalize (normalize tag) = normalize tag ∧
    underscore ∉ normalize tag ∧ IsTrimmed (normalize tag) ∧
    lower (normalize tag) = normalize tag ∧
    ∀ t, normalize t = t ↔ IsNormal t := by
  obtain ⟨trimmed, lowered, hyphenated⟩ := isNormal_normalize tag
  refine ⟨normalize_normalize tag, hyphenated, trimmed, lowered, fun t => ?_⟩
  refine ⟨fun fixed => ?_, normalize_of_isNormal⟩
  rw [← fixed]
  exact isNormal_normalize t

/-- The dotted capital becomes two characters. -/
example : normalize [32, 304, 95, 65, 160] = [105, 775, 45, 97] := by
  decide +kernel

theorem mem_normalize_of_mem_base (member : c ∈ base tag) : c ∈ normalize tag :=
  (List.takeWhile_prefix _).subset member

theorem separator_not_mem_base (tag : Text) : separator ∉ base tag := by
  intro member
  simpa using List.mem_takeWhile_imp member

theorem normalize_base (tag : Text) : normalize (base tag) = strip (base tag) :=
  normalize_of_settled (fun _ member => normalize_settled (mem_normalize_of_mem_base member))
    fun _ member => hyphenate_of_mem_normalize (mem_normalize_of_mem_base member)

theorem base_base (tag : Text) : base (base tag) = strip (base tag) := by
  rw [base, normalize_base, List.takeWhile_eq_self_iff]
  intro c member
  have other : c ≠ separator := by
    rintro rfl
    exact separator_not_mem_base tag (mem_of_mem_strip member)
  simpa using other

def EndsInBlank (t : Text) : Prop := ∃ c ∈ t.getLast?, isBlank c = true

/-- Only the end of a language can be blank. -/
theorem base_isTrimmed_iff (tag : Text) : IsTrimmed (base tag) ↔ ¬EndsInBlank (base tag) := by
  have front : ∀ c ∈ (base tag).head?, isBlank c = false := by
    intro c first
    obtain ⟨rest, whole⟩ : base tag <+: normalize tag := List.takeWhile_prefix _
    refine (normalize_isTrimmed tag).1 c ?_
    rw [← whole]
    exact List.mem_head?_append_of_mem_head? first
  refine (and_iff_right front).trans ?_
  simp only [EndsInBlank, not_exists, not_and, Bool.not_eq_true]

theorem normalize_base_eq_self_iff (tag : Text) :
    normalize (base tag) = base tag ↔ ¬EndsInBlank (base tag) := by
  rw [normalize_base, strip_eq_self_iff, base_isTrimmed_iff]

theorem base_base_eq_self_iff (tag : Text) :
    base (base tag) = base tag ↔ ¬EndsInBlank (base tag) := by
  rw [base_base, strip_eq_self_iff, base_isTrimmed_iff]

end Phrasebook.Locale
