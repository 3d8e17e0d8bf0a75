import Phrasebook.Limits
import Phrasebook.Proofs.Outcome
import Phrasebook.Proofs.Text.Numeral
import Mathlib.Algebra.Group.Nat.Defs
import Mathlib.Data.List.Infix
import Mathlib.Tactic.SplitIfs
/-!
What the checks of sizes let through. Of a specification they let through what writes no number that
is too large: each numeral in a text is part of a run of digits that is found, and never writes more
than the whole of it.
-/
namespace Phrasebook.Limits

theorem bitLength_le_iff {n k : Nat} : bitLength n ≤ k ↔ n < 2 ^ k := by
  rw [bitLength]
  split_ifs with zero
  · exact ⟨fun _ => zero ▸ Nat.two_pow_pos k, fun _ => Nat.zero_le k⟩
  · rw [Nat.add_one_le_iff, Nat.log2_lt zero]

theorem lt_two_pow_bitLength (n : Nat) : n < 2 ^ bitLength n := bitLength_le_iff.mp (Nat.le_refl _)

theorem bitLength_mul_le (a b : Nat) : bitLength (a * b) ≤ bitLength a + bitLength b := by
  rw [bitLength_le_iff, Nat.pow_add]
  exact Nat.mul_lt_mul'' (lt_two_pow_bitLength a) (lt_two_pow_bitLength b)

theorem bitLength_pow_le (a : Nat) {n : Nat} (positive : 0 < n) :
    bitLength (a ^ n) ≤ bitLength a * n := by
  rw [bitLength_le_iff, Nat.pow_mul]
  exact Nat.pow_lt_pow_left (lt_two_pow_bitLength a) (Nat.ne_of_gt positive)

theorem le_of_checkBits {bits : Int} (passed : checkBits bits = .ok ()) : bits ≤ maxBits := by
  unfold checkBits at passed
  split_ifs at passed with exceeds
  exact Int.not_lt.mp exceeds

theorem le_of_checkLength {length : Int} (passed : checkLength length = .ok ()) :
    length ≤ maxLength := by
  unfold checkLength at passed
  split_ifs at passed with exceeds
  exact Int.not_lt.mp exceeds

theorem le_of_checkRepetition {h : Heap} {sequence times : Value} {n : Nat} {k : Int}
    (passed : checkRepetition h sequence times = .ok ())
    (length : repeatable? h sequence = some n) (count : times.int? = some k) :
    n * k ≤ maxLength := by
  unfold checkRepetition at passed
  rw [length, count] at passed
  dsimp only at passed
  split_ifs at passed with exceeds
  exact Int.not_lt.mp exceeds

theorem le_foldl_max {k w : Int} {ws : List Int} (member : k ∈ w :: ws) : k ≤ ws.foldl max w := by
  induction ws generalizing k w with
  | nil => exact Int.le_of_eq (List.mem_singleton.mp member)
  | cons x rest ih =>
    rw [List.foldl_cons]
    rcases List.mem_cons.mp member with rfl | later
    · exact Int.le_trans (Int.le_max_left k x) (ih List.mem_cons_self)
    · rcases List.mem_cons.mp later with rfl | later
      · exact Int.le_trans (Int.le_max_right w k) (ih List.mem_cons_self)
      · exact ih (List.mem_cons_of_mem _ later)

section
variable {receiver : Value} {own : Nat} {o : Origin} {args keywords : List Value}
  (string : ownLength? receiver = some own)
include string

/-- Every width in a call is taken for the length of the result. Where tabs are replaced it is taken
for the length of each character. -/
theorem width_of_checkCall {name : Text} (isWidth : isWidthMethod name)
    (passed : checkCall (.method receiver name o) args keywords = .ok ()) {v : Value}
    (given : v ∈ args ++ keywords) {k : Int} (width : v.int? = some k) :
    (if name == "expandtabs" then k * own else k) ≤ maxLength := by
  have listed : k ∈ (args ++ keywords).filterMap Value.int? :=
    List.mem_filterMap.mpr ⟨v, given, width⟩
  simp only [checkCall, string, isWidth, if_true] at passed
  split at passed
  · rename_i none
    rw [none] at listed
    cases listed
  · rename_i w ws some
    rw [some] at listed
    have widest := le_foldl_max listed
    have bound := le_of_checkLength passed
    split_ifs at bound ⊢
    · exact Int.le_trans (Int.mul_le_mul_of_nonneg_right widest (Int.natCast_nonneg own)) bound
    · exact Int.le_trans widest bound

theorem replacement_of_checkCall
    (passed : checkCall (.method receiver "replace" o) args keywords = .ok ())
    {new : Value} (second : args[1]? = some new) {n : Nat} (length : ownLength? new = some n) :
    own + (own + 1) * n ≤ maxLength := by
  have isReplace : isWidthMethod "replace" = false ∧ (("replace" : Text) == ("replace" : Text)) := by
    decide
  simp only [checkCall, string, isReplace.1, isReplace.2, second, length] at passed
  exact_mod_cast le_of_checkLength passed

end

section Digits
open Text (IsNumeral)

variable {t run spec : Text} {c : Code}

/-- A run of digits at the front is found as a whole, then what is found behind it. -/
theorem digitRuns_of_decimal (decimal : Text.isDecimal c = true) (rest : Text) :
    ∃ later, digitRuns (c :: rest) = (c :: rest.takeWhile Text.isDecimal) :: later ∧
      later ⊆ digitRuns rest := by
  induction rest generalizing c with
  | nil => exact ⟨[], by simp [digitRuns, decimal], List.nil_subset _⟩
  | cons d rest ih =>
    rw [digitRuns, if_pos decimal]
    by_cases follows : Text.isDecimal d = true
    · obtain ⟨later, found, -⟩ := ih follows
      exact ⟨later, by simp [found, follows], found ▸ List.subset_cons_self _ _⟩
    · exact ⟨digitRuns (d :: rest), by simp [follows], List.Subset.refl _⟩

theorem digitRuns_of_other (other : ¬Text.isDecimal c = true) (rest : Text) :
    digitRuns (c :: rest) = digitRuns rest := by
  rw [digitRuns, if_neg other]

/-- Nothing but numerals is found. -/
theorem isNumeral_of_mem_digitRuns (found : run ∈ digitRuns t) : IsNumeral run ∧ run <:+: t := by
  induction t generalizing run with
  | nil => cases found
  | cons c rest ih =>
    have below (later : run ∈ digitRuns rest) : IsNumeral run ∧ run <:+: c :: rest :=
      ⟨(ih later).1, List.infix_cons (ih later).2⟩
    by_cases decimal : Text.isDecimal c = true
    · obtain ⟨later, runs, behind⟩ := digitRuns_of_decimal decimal rest
      rw [runs] at found
      rcases List.mem_cons.mp found with rfl | found
      · have taken := List.all_eq_true.mp (List.all_takeWhile (p := Text.isDecimal) (l := rest))
        refine ⟨⟨List.cons_ne_nil _ _, List.forall_mem_cons.mpr ⟨decimal, taken⟩⟩, ?_⟩
        exact (List.prefix_cons_inj c |>.mpr (List.takeWhile_prefix _)).isInfix
      · exact below (behind found)
    · rw [digitRuns_of_other decimal] at found
      exact below found

/-- What is found behind a character is found with it, or as part of a longer run. -/
theorem exists_digitRuns_cons (found : run ∈ digitRuns t) (c : Code) :
    ∃ whole ∈ digitRuns (c :: t), run <:+: whole := by
  unfold digitRuns
  split_ifs
  · split
    · rename_i first runs listed _
      rw [listed] at found
      rcases List.mem_cons.mp found with rfl | later
      · exact ⟨_, List.mem_cons_self, List.infix_cons (List.infix_refl _)⟩
      · exact ⟨run, List.mem_cons_of_mem _ later, List.infix_refl _⟩
    · exact ⟨run, List.mem_cons_of_mem _ found, List.infix_refl _⟩
  · exact ⟨run, found, List.infix_refl _⟩

/-- Each numeral inside a text is part of a run that is found. -/
theorem exists_digitRuns_of_infix (numeral : IsNumeral run) (inside : run <:+: t) :
    ∃ whole ∈ digitRuns t, run <:+: whole := by
  induction t with
  | nil => exact absurd (List.infix_nil.mp inside) numeral.nonempty
  | cons c rest ih =>
    rcases List.infix_cons_iff.mp inside with front | later
    · obtain ⟨d, digits, rfl⟩ := List.exists_cons_of_ne_nil numeral.nonempty
      obtain ⟨rfl, back, rfl⟩ := List.cons_prefix_cons.mp front
      obtain ⟨decimal, decimals⟩ := List.forall_mem_cons.mp numeral.decimal
      obtain ⟨later, found, -⟩ := digitRuns_of_decimal decimal (digits ++ back)
      refine ⟨_, found ▸ List.mem_cons_self, List.IsPrefix.isInfix ?_⟩
      rw [List.takeWhile_append_of_pos decimals, List.prefix_cons_inj]
      exact List.prefix_append _ _
    · obtain ⟨whole, found, part⟩ := ih later
      obtain ⟨longer, found, larger⟩ := exists_digitRuns_cons found c
      exact ⟨longer, found, part.trans larger⟩

theorem checkRun_eq_ok_iff (numeral : IsNumeral run) :
    (do checkLength (← readNumeral run)) = .ok () ↔
      run.length ≤ Number.maxDigits ∧ Text.value run ≤ maxLength := by
  rw [readNumeral, Text.decimalNumeral?_of_isNumeral numeral]
  split_ifs with long
  · simp [bind, Except.bind, Nat.not_le.mpr long]
  · simp [bind, Except.bind, checkLength, Nat.not_lt.mp long]

/-- A specification passes if each numeral in it, whole or part of a longer one, can be read and is
within the limit. -/
theorem checkSpec_eq_ok_iff : checkSpec spec = .ok () ↔ ∀ run, run <:+: spec → IsNumeral run →
    run.length ≤ Number.maxDigits ∧ Text.value run ≤ maxLength := by
  rw [checkSpec, Outcome.forM_eq_ok_iff]
  constructor
  · intro passed run inside numeral
    obtain ⟨whole, found, part⟩ := exists_digitRuns_of_infix numeral inside
    obtain ⟨short, small⟩ :=
      (checkRun_eq_ok_iff (isNumeral_of_mem_digitRuns found).1).mp (passed whole found)
    exact ⟨part.length_le.trans short, (Text.value_le_of_infix part).trans small⟩
  · intro small run found
    obtain ⟨numeral, inside⟩ := isNumeral_of_mem_digitRuns found
    exact (checkRun_eq_ok_iff numeral).mpr (small run inside numeral)

end Digits

end Phrasebook.Limits
