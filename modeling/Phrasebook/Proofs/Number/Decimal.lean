import Phrasebook.Number.Decimal
import Mathlib.Tactic
import Mathlib.Data.Rat.Lemmas
/-!
The values of decimals. A result is refused exactly if it rounds to more than the largest one, and a
division toward zero exactly if its quotient has more digits than the precision. Powers of ten that
are too large to be written out stand for the bounds; nothing here may evaluate them.
-/
namespace Phrasebook

theorem Binary.le_roundDiv_iff {k n d : Nat} (even : k % 2 = 0) (positive : 0 < d) :
    k ≤ roundDiv n d ↔ 2 * (k * d) ≤ 2 * n + d := by
  have whole : d * (n / d) + n % d = n := Nat.div_add_mod n d
  have small : n % d < d := Nat.mod_lt n positive
  rw [Nat.mul_comm d] at whole
  unfold roundDiv
  dsimp only
  generalize n / d = q at *
  generalize n % d = r at *
  rcases lt_trichotomy k (q + 1) with below | rfl | above
  · have : k * d ≤ q * d := Nat.mul_le_mul_right d (by omega)
    split_ifs <;> omega
  · rw [Nat.add_mul, Nat.one_mul]
    split_ifs <;> omega
  · have : (q + 2) * d ≤ k * d := Nat.mul_le_mul_right d (by omega)
    rw [Nat.add_mul] at this
    split_ifs <;> omega

namespace Decimal

/-- The value of a coefficient with an exponent. -/
def size (coefficient : Nat) (exponent : Int) : ℚ := coefficient * 10 ^ exponent

/-- The least size that is rounded to a power of ten or more. -/
def reach (k : Int) : ℚ := (10 ^ precision - 1 / 2) * 10 ^ (k - precision)

variable {a b : Nat} {e f k : Int}

theorem digitCount_le_iff {n : Nat} (some_ : 0 < n) : digitCount a ≤ n ↔ a < 10 ^ n :=
  Nat.length_toDigits_le_iff (by decide) some_

theorem digitCount_pos (a : Nat) : 0 < digitCount a := Nat.length_toDigits_pos

theorem lt_pow_digitCount (a : Nat) : a < 10 ^ digitCount a :=
  (digitCount_le_iff (digitCount_pos a)).mp le_rfl

theorem pow_le_of_pos (positive : 0 < a) : 10 ^ (digitCount a - 1) ≤ a := by
  rcases Nat.eq_zero_or_pos (digitCount a - 1) with one | more
  · rwa [one]
  · refine Nat.le_of_not_lt fun small => ?_
    have := (digitCount_le_iff more).mpr small
    omega

theorem ten_zpow_le_iff {j k : Int} : (10 : ℚ) ^ j ≤ 10 ^ k ↔ j ≤ k :=
  zpow_le_zpow_iff_right₀ (by norm_num)

theorem zero_size (e : Int) : size 0 e = 0 := by simp [size]

/-- The leading digit tells the size up to a factor of ten. -/
theorem le_size_iff (positive : 0 < a) : 10 ^ k ≤ size a e ↔ k ≤ adjusted a e := by
  have counted := digitCount_pos a
  have lower : (10 : ℚ) ^ adjusted a e ≤ size a e := by
    have : ((10 ^ (digitCount a - 1) : Nat) : ℚ) ≤ a := Nat.cast_le.mpr (pow_le_of_pos positive)
    calc (10 : ℚ) ^ adjusted a e
        = ((10 ^ (digitCount a - 1) : Nat) : ℚ) * 10 ^ e := by
          rw [Nat.cast_pow, ← zpow_natCast, Nat.cast_ofNat, ← zpow_add₀ (by norm_num)]
          congr 1
          unfold adjusted
          omega
      _ ≤ size a e := by unfold size; gcongr
  have upper : size a e < 10 ^ (adjusted a e + 1) := by
    have : (a : ℚ) < ((10 ^ digitCount a : Nat) : ℚ) := Nat.cast_lt.mpr (lt_pow_digitCount a)
    calc size a e < ((10 ^ digitCount a : Nat) : ℚ) * 10 ^ e := by unfold size; gcongr
      _ = 10 ^ (adjusted a e + 1) := by
          rw [Nat.cast_pow, ← zpow_natCast, Nat.cast_ofNat, ← zpow_add₀ (by norm_num)]
          congr 1
          unfold adjusted
          omega
  constructor
  · intro reached
    have : k < adjusted a e + 1 :=
      (zpow_lt_zpow_iff_right₀ (by norm_num)).mp (reached.trans_lt upper)
    omega
  · intro below
    exact (ten_zpow_le_iff.mpr below).trans lower

section Rounding

variable (a e) in
/-- Digits are cut only down to the precision or to the least exponent. -/
theorem excess_cases : a < 10 ^ (precision + excess a e) ∧
    (excess a e = 0 ∨ 10 ^ (precision - 1 + excess a e) ≤ a ∨ e + excess a e = leastExponent) := by
  have some_ : 0 < precision := by decide
  have kept : digitCount a ≤ precision + excess a e := by
    unfold excess
    omega
  refine ⟨(digitCount_le_iff (by omega)).mp kept, ?_⟩
  by_cases long : digitCount a = precision + excess a e
  · refine .inr (.inl ?_)
    refine (Nat.pow_le_pow_right (by decide) ?_).trans (pow_le_of_pos (a := a) ?_)
    · omega
    · rcases Nat.eq_zero_or_pos a with rfl | positive
      · have : digitCount 0 = 1 := rfl
        have : 1 < precision := by decide
        omega
      · exact positive
  · unfold excess at *
    omega

theorem roundDiv_one (a : Nat) : Binary.roundDiv a 1 = a := by
  simpa using Binary.roundDiv_mul_self Nat.one_pos a

theorem pow_le_roundDiv {cut : Nat} (long : 10 ^ (precision - 1 + cut) ≤ a) :
    10 ^ (precision - 1) ≤ Binary.roundDiv a (10 ^ cut) := by
  rw [Binary.le_roundDiv_iff (by decide) (Nat.pow_pos (by decide)), ← Nat.pow_add]
  exact (Nat.mul_le_mul_left 2 long).trans (Nat.le_add_right ..)

theorem pow_le_rounded_iff {cut scale : Nat}
    (kept : cut = 0 ∨ 10 ^ (precision - 1 + cut) ≤ a ∨ scale = 0) :
    10 ^ precision ≤ Binary.roundDiv a (10 ^ cut) * 10 ^ scale ↔
      2 * 10 ^ precision * 10 ^ cut ≤ 2 * (a * 10 ^ scale) + 10 ^ cut := by
  rcases Nat.eq_zero_or_pos scale with rfl | scaled
  · rw [Nat.pow_zero, Nat.mul_one, Nat.mul_one,
      Binary.le_roundDiv_iff (by decide) (Nat.pow_pos (by decide)), Nat.mul_assoc]
  rcases kept with rfl | long | none
  · rw [Nat.pow_zero, roundDiv_one]
    omega
  · -- One digit more is enough for both.
    have tenfold : 10 ≤ 10 ^ scale := Nat.le_self_pow (by omega) 10
    have whole : 10 ^ precision = 10 ^ (precision - 1) * 10 := rfl
    refine iff_of_true ?_ (le_trans ?_ (Nat.le_add_right ..))
    · rw [whole]
      exact Nat.mul_le_mul (pow_le_roundDiv long) tenfold
    · calc 2 * 10 ^ precision * 10 ^ cut = 2 * (10 ^ (precision - 1 + cut) * 10) := by
            rw [whole, Nat.pow_add]
            ring
        _ ≤ 2 * (a * 10 ^ scale) := Nat.mul_le_mul_left 2 (Nat.mul_le_mul long tenfold)
  · omega

theorem size_shift (a scale : Nat) (low : Int) :
    size a (low + scale) = (a * 10 ^ scale : Nat) * 10 ^ low := by
  rw [size, zpow_add₀ (by norm_num), zpow_natCast]
  push_cast
  ring

theorem pow_eq_mul (k : Int) : (10 : ℚ) ^ k = 10 ^ precision * 10 ^ (k - precision) := by
  rw [← zpow_natCast, ← zpow_add₀ (by norm_num)]
  congr 1
  omega

section
variable {cut : Nat}

theorem unit_le (coarse : e + cut < k - precision) :
    (10 : ℚ) ^ (e + cut) * 10 ≤ 10 ^ (k - precision) := by
  rw [← zpow_add_one₀ (by norm_num)]
  exact ten_zpow_le_iff.mpr coarse

/-- Digits that stand too low do not round to a power, -/
theorem rounded_lt_of_coarse (bounded : a < 10 ^ (precision + cut))
    (coarse : e + cut < k - precision) :
    size (Binary.roundDiv a (10 ^ cut)) (e + cut) < 10 ^ k := by
  have short : Binary.roundDiv a (10 ^ cut) < 10 ^ precision + 2 := by
    refine Nat.lt_of_not_le fun reached => ?_
    have some_ : 0 < 10 ^ cut := Nat.pow_pos (by decide)
    have := (Binary.le_roundDiv_iff (by decide) some_).mp reached
    rw [Nat.pow_add] at bounded
    linarith
  have short : (Binary.roundDiv a (10 ^ cut) : ℚ) < 10 ^ precision + 2 := by exact_mod_cast short
  have positive : (0 : ℚ) < 10 ^ (e + cut) := by positivity
  calc size (Binary.roundDiv a (10 ^ cut)) (e + cut)
      ≤ (10 ^ precision + 2) * (10 : ℚ) ^ (e + cut) := by unfold size; gcongr
    _ < 10 ^ precision * ((10 : ℚ) ^ (e + cut) * 10) := by
      rw [precision]
      linarith
    _ ≤ 10 ^ precision * 10 ^ (k - precision) := by gcongr; exact unit_le coarse
    _ = 10 ^ k := (pow_eq_mul k).symm

/-- and were not within reach of it. -/
theorem lt_reach_of_coarse (bounded : a < 10 ^ (precision + cut))
    (coarse : e + cut < k - precision) : size a e < reach k := by
  have short : (a : ℚ) < 10 ^ precision * 10 ^ cut := by
    rw [← pow_add]
    exact_mod_cast bounded
  have positive : (0 : ℚ) < 10 ^ (e + cut) := by positivity
  calc size a e < 10 ^ precision * 10 ^ cut * 10 ^ e := by unfold size; gcongr
    _ = 10 ^ precision * 10 ^ (e + cut) := by
      rw [zpow_add₀ (by norm_num), zpow_natCast]
      ring
    _ < (10 ^ precision - 1 / 2) * ((10 : ℚ) ^ (e + cut) * 10) := by
      rw [precision]
      linarith
    _ ≤ reach k := by
      unfold reach
      gcongr
      · norm_num [precision]
      · exact unit_le coarse

theorem pow_le_size_iff {scale : Nat} (gap : k - precision + scale = e + cut) :
    10 ^ k ≤ size (Binary.roundDiv a (10 ^ cut)) (e + cut) ↔
      10 ^ precision ≤ Binary.roundDiv a (10 ^ cut) * 10 ^ scale := by
  have grade : (0 : ℚ) < 10 ^ (k - precision) := by positivity
  rw [← gap, size_shift, pow_eq_mul, mul_le_mul_iff_left₀ grade]
  exact_mod_cast Iff.rfl

theorem reach_le_size_iff {scale : Nat} (gap : k - precision + scale = e + cut) :
    reach k ≤ size a e ↔
      2 * 10 ^ precision * 10 ^ cut ≤ 2 * (a * 10 ^ scale) + 10 ^ cut := by
  have scaled : size a e * 10 ^ cut = (a * 10 ^ scale : Nat) * 10 ^ (k - precision) := by
    rw [← size_shift, gap, size, size, zpow_add₀ (by norm_num), zpow_natCast, mul_assoc]
  have lifted : (0 : ℚ) < 10 ^ cut := by positivity
  have grade : (0 : ℚ) < 10 ^ (k - precision) := by positivity
  rw [← mul_le_mul_iff_left₀ lifted, scaled, reach, mul_right_comm, mul_le_mul_iff_left₀ grade,
    ← Nat.cast_le (α := ℚ)]
  push_cast
  constructor <;> intro _ <;> linarith

end

/-- What is rounded comes to a power of ten exactly if it was within half a digit of it. -/
theorem pow_le_size_rounded_iff (low : leastExponent + precision ≤ k) :
    10 ^ k ≤ size (Binary.roundDiv a (10 ^ excess a e)) (e + excess a e) ↔
      reach k ≤ size a e := by
  obtain ⟨bounded, kept⟩ := excess_cases a e
  rcases lt_or_ge (e + excess a e) (k - precision) with coarse | fine
  · exact iff_of_false (not_le.mpr (rounded_lt_of_coarse bounded coarse))
      (not_le.mpr (lt_reach_of_coarse bounded coarse))
  · obtain ⟨scale, gap⟩ := Int.le.dest fine
    rw [pow_le_size_iff gap, reach_le_size_iff gap]
    exact pow_le_rounded_iff (kept.imp_right (Or.imp_right fun least => by omega))

theorem size_shortened (cut a : Nat) (e : Int) :
    size (shortened cut a e).1 (shortened cut a e).2 =
      size (Binary.roundDiv a (10 ^ cut)) (e + cut) := by
  unfold shortened
  dsimp only
  split_ifs with carried
  · change size (10 ^ (precision - 1)) (e + cut + 1) = size (Binary.roundDiv a (Nat.pow 10 cut)) _
    rw [carried, size, size, zpow_add_one₀ (by norm_num)]
    norm_num [precision]
    ring
  · rfl

/-- A result that loses all its digits has the least exponent. -/
theorem shortened_of_zero (positive : 0 < a) (lost : (shortened (excess a e) a e).1 = 0) :
    (shortened (excess a e) a e).2 = leastExponent := by
  obtain ⟨-, kept⟩ := excess_cases a e
  generalize excess a e = cut at *
  unfold shortened at *
  dsimp only at *
  split_ifs at * with carried
  · cases lost
  · rcases kept with rfl | long | least
    · change Binary.roundDiv a 1 = 0 at lost
      rw [roundDiv_one] at lost
      omega
    · have rounded := pow_le_roundDiv long
      change Binary.roundDiv a (10 ^ cut) = 0 at lost
      rw [lost] at rounded
      cases rounded
    · exact least

theorem size_lt_iff (positive : 0 < a) : size a e < 10 ^ k ↔ adjusted a e < k := by
  rw [← not_le, ← not_le, le_size_iff positive]

theorem zero_lt_reach (k : Int) : 0 < reach k := by
  have : (0 : ℚ) < 10 ^ precision - 1 / 2 := by norm_num [precision]
  unfold reach
  positivity

theorem lt_reach_of_small (positive : 0 < a) (small : adjusted a e + 1 < leastExponent)
    (low : leastExponent + precision ≤ k) : size a e < reach k := by
  have digit : (1 : ℚ) ≤ 10 ^ precision - 1 / 2 := by norm_num [precision]
  calc size a e < 10 ^ (k - precision) := (size_lt_iff positive).mpr (by omega)
    _ ≤ reach k := le_mul_of_one_le_left (by positivity) digit

theorem greatest_low : leastExponent + precision ≤ greatestExponent + 1 := by decide

/-- A result is refused if it rounds to more than the largest one. Otherwise it has the sign that it
was given and reaches the powers of ten that it rounds to. -/
theorem fit_cases (negative : Bool) (a : Nat) (e : Int) :
    reach (greatestExponent + 1) ≤ size a e ∧ fit negative a e = .error .overflow ∨
    size a e < reach (greatestExponent + 1) ∧ ∃ b f, fit negative a e = .ok (.finite negative b f) ∧
      ∀ k, leastExponent + precision ≤ k → (10 ^ k ≤ size b f ↔ reach k ≤ size a e) := by
  have nothing (k f : Int) : ¬(10 : ℚ) ^ k ≤ size 0 f := by
    rw [zero_size]
    exact not_le.mpr (by positivity)
  unfold fit
  split_ifs with none small
  · subst none
    refine .inr ⟨(zero_size e).trans_lt (zero_lt_reach _), 0, _, rfl, fun k _ => ?_⟩
    exact iff_of_false (nothing k _) (not_le.mpr ((zero_size e).trans_lt (zero_lt_reach k)))
  · have positive := Nat.pos_of_ne_zero none
    refine .inr ⟨lt_reach_of_small positive small greatest_low, 0, _, rfl, fun k low => ?_⟩
    exact iff_of_false (nothing k _) (not_le.mpr (lt_reach_of_small positive small low))
  · have positive := Nat.pos_of_ne_zero none
    have reached (k : Int) (low : leastExponent + precision ≤ k) :
        10 ^ k ≤ size (shortened (excess a e) a e).1 (shortened (excess a e) a e).2 ↔
          reach k ≤ size a e := by
      rw [size_shortened]
      exact pow_le_size_rounded_iff low
    have lost := shortened_of_zero (e := e) positive
    generalize shortened (excess a e) a e = kept at *
    obtain ⟨b, f⟩ := kept
    dsimp only at *
    have tooLarge : greatestExponent < adjusted b f ↔ reach (greatestExponent + 1) ≤ size a e := by
      rw [← reached _ greatest_low]
      rcases Nat.eq_zero_or_pos b with rfl | some_
      · have single : adjusted 0 f = f := by simp [adjusted, digitCount]
        obtain rfl : f = leastExponent := lost rfl
        rw [single]
        exact iff_of_false (by decide) (nothing _ _)
      · rw [le_size_iff some_]
        exact Int.lt_iff_add_one_le
    by_cases overflows : greatestExponent < adjusted b f
    · rw [if_pos overflows]
      exact .inl ⟨tooLarge.mp overflows, rfl⟩
    · rw [if_neg overflows]
      exact .inr ⟨not_le.mp fun large => overflows (tooLarge.mpr large), b, f, rfl, reached⟩

end Rounding

section Division

theorem size_scaled {low : Int} (below : low ≤ e) : size (scaled a e low) low = size a e := by
  obtain ⟨shift, rfl⟩ := Int.le.dest below
  have gap : (low + shift - low).toNat = shift := by omega
  rw [scaled, gap, size_shift, size]
  rfl

theorem size_pos (positive : 0 < a) : 0 < size a e := by
  have : (0 : ℚ) < a := Nat.cast_pos.mpr positive
  unfold size
  positivity

theorem scaled_pos {low : Int} (positive : 0 < b) : 0 < scaled b f low :=
  Nat.mul_pos positive (Nat.pow_pos (by decide))

theorem pow_mul_size_le_iff {low : Int} (positive : 0 < b) :
    10 ^ precision * size b low ≤ size a low ↔ 10 ^ precision ≤ a / b := by
  have grade : (0 : ℚ) < 10 ^ low := by positivity
  rw [size, size, ← mul_assoc, mul_le_mul_iff_left₀ grade, Nat.le_div_iff_mul_le positive]
  exact_mod_cast Iff.rfl

/-- The remainder of the division toward zero is below the divisor; there is none if the quotient
has more digits than the precision. -/
theorem remainder_cases (s t : Bool) (a : Nat) (e f : Int) (divisor : 0 < b) :
    10 ^ precision * size b f ≤ size a e ∧
      remainder (.finite s a e) (.finite t b f) = .error .invalid ∨
    size a e < 10 ^ precision * size b f ∧ ∃ c g,
      remainder (.finite s a e) (.finite t b f) = fit s c g ∧ size c g < size b f := by
  have unfolded : remainder (.finite s a e) (.finite t b f) =
      ((divideWhole (.finite s a e) (.finite t b f)).mapError fun _ => .invalid) >>=
        fun divided => fit s divided.2.1 divided.2.2 := by
    rw [remainder]
    cases divideWhole (.finite s a e) (.finite t b f) <;> rfl
  have some_ : 0 < size b f := size_pos divisor
  rw [unfolded, divideWhole, if_neg divisor.ne']
  dsimp only
  split_ifs with none wide less many
  · subst none
    refine .inr ⟨(zero_size e).trans_lt (by positivity), 0, min e f, rfl, ?_⟩
    rwa [zero_size]
  · refine .inl ⟨le_of_lt ?_, rfl⟩
    calc 10 ^ precision * size b f
        < 10 ^ precision * 10 ^ (adjusted b f + 1) := by
          gcongr
          exact (size_lt_iff divisor).mpr (Int.lt_succ _)
      _ = 10 ^ (precision + (adjusted b f + 1)) := by
          rw [← zpow_natCast, ← zpow_add₀ (by norm_num)]
      _ ≤ size a e := (le_size_iff (Nat.pos_of_ne_zero none)).mpr (by omega)
  · have below : size a e < size b f :=
      calc size a e < 10 ^ adjusted b f := (size_lt_iff (Nat.pos_of_ne_zero none)).mpr (by omega)
        _ ≤ size b f := (le_size_iff divisor).mpr le_rfl
    have digits : (1 : ℚ) ≤ 10 ^ precision := one_le_pow₀ (by norm_num)
    refine .inr ⟨below.trans_le (le_mul_of_one_le_left some_.le digits), _, _, rfl, ?_⟩
    rwa [size_scaled (min_le_left e f)]
  · refine .inl ⟨?_, rfl⟩
    rw [← size_scaled (min_le_left e f), ← size_scaled (min_le_right e f)]
    exact (pow_mul_size_le_iff (scaled_pos divisor)).mpr many
  · have whole : 0 < scaled b f (min e f) := scaled_pos divisor
    have below : (scaled a e (min e f) % scaled b f (min e f) : Nat) < (scaled b f (min e f) : ℚ) :=
      Nat.cast_lt.mpr (Nat.mod_lt _ whole)
    rw [← size_scaled (min_le_left e f), ← size_scaled (min_le_right e f)]
    refine .inr ⟨not_le.mp fun large => many ((pow_mul_size_le_iff whole).mp large), _, _, rfl, ?_⟩
    unfold size
    gcongr

end Division

end Decimal
end Phrasebook
