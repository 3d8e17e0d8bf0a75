import Phrasebook.Proofs.Number.Decimal
import Phrasebook.Proofs.Plural.Category
import Phrasebook.Render.Invoke
/-!
Plural rules on decimals. A rule that orders counts refuses what is not a number, and one that
divides them refuses what is too large for the precision; integers are refused by none.
-/
namespace Phrasebook

open Decimal (precision greatestExponent reach size)
open Interpreter (countOf)
open Outcome (Succeeds ok_bind)

namespace Decimal

theorem ofInt_natural (n : Nat) : ofInt n = .finite false n 0 := rfl

theorem size_zero (n : Nat) : size n 0 = n := by simp [size]

/-- Numbers of no more digits than the precision are not refused as results. -/
theorem lt_reach_of_short {n : Nat} {k : Int} (short : n < 10 ^ precision) (high : precision ≤ k) :
    n < reach k := by
  have below : (n : ℚ) ≤ 10 ^ precision - 1 := by
    have : (n : ℚ) + 1 ≤ 10 ^ precision := by exact_mod_cast short
    linarith
  have grade : (1 : ℚ) ≤ 10 ^ (k - precision) := one_le_zpow₀ (by norm_num) (by omega)
  have whole : (0 : ℚ) ≤ 10 ^ precision - 1 / 2 := by norm_num [precision]
  calc (n : ℚ) < 10 ^ precision - 1 / 2 := by linarith
    _ ≤ reach k := le_mul_of_one_le_right whole grade

theorem reach_le_reach {j k : Int} (below : j ≤ k) : reach j ≤ reach k := by
  have whole : (0 : ℚ) ≤ 10 ^ precision - 1 / 2 := by norm_num [precision]
  have grade : (10 : ℚ) ^ (j - precision) ≤ 10 ^ (k - precision) :=
    ten_zpow_le_iff.mpr (Int.sub_le_sub_right below _)
  exact mul_le_mul_of_nonneg_left grade whole

theorem compare?_finite (s t : Bool) (a b : Nat) (e f : Int) :
    ∃ o, compare? (.finite s a e) (.finite t b f) = some o := by
  unfold compare?
  dsimp only
  split_ifs <;> exact ⟨_, rfl⟩

/-- Numbers whose leading digits stand apart are not equal. -/
theorem compare?_ne_eq (s t : Bool) {a b : Nat} {e f : Int} (some_ : a ≠ 0)
    (apart : adjusted a e ≠ adjusted b f) :
    compare? (.finite s a e) (.finite t b f) ≠ some .eq := by
  unfold compare?
  dsimp only
  split_ifs with both
  · exact absurd both.1 some_
  all_goals
    rintro ⟨⟩

end Decimal

namespace Count

variable {s : Bool} {a n : Nat} {e : Int}

theorem equals_finite (s : Bool) (a : Nat) (e : Int) (n : Nat) :
    Succeeds ((decimal (.finite s a e)).equals n) := ⟨_, rfl⟩

theorem order_finite (s : Bool) (a : Nat) (e : Int) (n : Nat) :
    Succeeds ((decimal (.finite s a e)).order n) := by
  obtain ⟨o, compared⟩ := Decimal.compare?_finite s false a n e 0
  exact ⟨some o, by rw [order, Decimal.ofInt_natural, compared]⟩

theorem within_finite (s : Bool) (a : Nat) (e : Int) (low high : Nat) :
    Succeeds ((decimal (.finite s a e)).within low high) :=
  ((order_finite s a e low).map _).bind fun _ => .ite ((order_finite s a e high).map _) (.pure _)

/-- A number of two digits or more is none of one digit. -/
theorem equals_of_large (large : 10 ≤ size a e) (digit : n < 10) :
    (decimal (.finite s a e)).equals n = .ok false := by
  have some_ : a ≠ 0 := by
    rintro rfl
    norm_num [size] at large
  have leading : 1 ≤ Decimal.adjusted a e :=
    (Decimal.le_size_iff (Nat.pos_of_ne_zero some_)).mp (by simpa using large)
  have single : Decimal.digitCount n = 1 := by
    have := Decimal.digitCount_pos n
    have := (Decimal.digitCount_le_iff (a := n) Nat.one_pos).mpr digit
    omega
  have apart : Decimal.adjusted a e ≠ Decimal.adjusted n 0 := by
    rw [Decimal.adjusted.eq_1 n, single]
    omega
  have differs := Decimal.compare?_ne_eq s false some_ apart
  change Except.ok (Decimal.compare? (.finite s a e) (.finite false n 0) == some .eq) = _
  rw [beq_eq_false_iff_ne.mpr differs]

theorem modulo_of_large (positive : 0 < n) (large : 10 ^ precision * n ≤ size a e) :
    (decimal (.finite s a e)).modulo n = .error (.unworded .arithmetic) := by
  rw [← Decimal.size_zero] at large
  rcases Decimal.remainder_cases s false a e 0 positive with ⟨-, refused⟩ | ⟨small, -⟩
  · rw [modulo, Decimal.ofInt_natural, refused]
  · exact absurd large (not_le.mpr small)

theorem modulo_finite (positive : 0 < n) (short : n < 10 ^ precision)
    (small : size a e < 10 ^ precision * n) :
    ∃ b f, (decimal (.finite s a e)).modulo n = .ok (.decimal (.finite s b f)) := by
  rw [← Decimal.size_zero] at small
  rcases Decimal.remainder_cases s false a e 0 positive with ⟨large, -⟩ | ⟨-, b, f, divided, below⟩
  · exact absurd large (not_le.mpr small)
  · rw [Decimal.size_zero] at below
    have fits : size b f < reach (greatestExponent + 1) :=
      below.trans (Decimal.lt_reach_of_short short (by decide))
    rcases Decimal.fit_cases s b f with ⟨refused, -⟩ | ⟨-, c, g, fitted, -⟩
    · exact absurd refused (not_le.mpr fits)
    · exact ⟨c, g, by rw [modulo, Decimal.ofInt_natural, divided, fitted]⟩

end Count

open Phrasebook.Count (equals_finite order_finite within_finite equals_of_large modulo_of_large
  modulo_finite)

namespace PluralRule

variable {s : Bool} {a : Nat} {e : Int}

theorem unitOne_of_large (large : 10 ^ precision * (10 : Nat) ≤ size a e) :
    unitOne (.decimal (.finite s a e)) = .error (.unworded .arithmetic) := by
  rw [unitOne, modulo_of_large (by decide) large]
  rfl

theorem isFew_of_large (large : 10 ^ precision * (10 : Nat) ≤ size a e) :
    isFew (.decimal (.finite s a e)) = .error (.unworded .arithmetic) := by
  rw [isFew, modulo_of_large (by decide) large]
  rfl

theorem unitOne_finite (s : Bool) (small : size a e < 10 ^ precision * (10 : Nat)) :
    Succeeds (unitOne (.decimal (.finite s a e))) := by
  have smaller : size a e < 10 ^ precision * (100 : Nat) := small.trans (by norm_num [precision])
  obtain ⟨b, f, units⟩ := modulo_finite (s := s) (by decide) (by decide) small
  obtain ⟨c, g, tens⟩ := modulo_finite (s := s) (by decide) (by decide) smaller
  rw [unitOne, units, ok_bind]
  refine (equals_finite s b f 1).bind fun _ => .ite ?_ (.pure _)
  rw [tens, ok_bind]
  exact (equals_finite s c g 11).bind fun _ => .pure _

theorem isFew_finite (s : Bool) (small : size a e < 10 ^ precision * (10 : Nat)) :
    Succeeds (isFew (.decimal (.finite s a e))) := by
  have smaller : size a e < 10 ^ precision * (100 : Nat) := small.trans (by norm_num [precision])
  obtain ⟨b, f, units⟩ := modulo_finite (s := s) (by decide) (by decide) small
  obtain ⟨c, g, tens⟩ := modulo_finite (s := s) (by decide) (by decide) smaller
  rw [isFew, units, ok_bind]
  refine (within_finite s b f 2 4).bind fun _ => .ite ?_ (.pure _)
  rw [tens, ok_bind]
  exact ((order_finite s c g 10).map _).bind fun _ =>
    .ite (((order_finite s c g 20).map _).bind fun _ => .pure _) (.pure _)

/-- Whether a rule asks for the order of a count and a number. -/
def orders : PluralRule → Bool
  | .french | .russian | .czech | .polish | .arabic => true
  | .english | .icelandic | .chinese => false

/-- Whether a rule asks for the remainder of a count. -/
def divides : PluralRule → Bool
  | .russian | .polish | .icelandic | .arabic => true
  | .english | .french | .czech | .chinese => false

/-- The power of ten that a rounded count has to stay below. Without a division only the largest
results of all set one. -/
def limit : PluralRule → Int
  | .russian | .polish | .icelandic => precision + 1
  | .arabic => precision + 2
  | .english | .french | .czech | .chinese => greatestExponent + 1

/-- The decimals that a rule refuses as counts. -/
def Refuses (rule : PluralRule) : Decimal → Prop
  | .notANumber _ signaling _ => signaling = true ∨ rule.orders = true
  | .infinite _ => rule.divides = true
  | .finite _ a e => reach rule.limit ≤ size a e

variable (rule : PluralRule)

theorem arabicIndex_of_large (large : 10 ^ precision * (100 : Nat) ≤ size a e) :
    arabicIndex (.decimal (.finite s a e)) = .error (.unworded .arithmetic) := by
  have leading : 10 ≤ size a e := le_trans (by norm_num [precision]) large
  rw [arabicIndex, equals_of_large leading (by decide), equals_of_large leading (by decide),
    equals_of_large leading (by decide), modulo_of_large (by decide) large]
  rfl

theorem arabicIndex_finite (s : Bool) (small : size a e < 10 ^ precision * (100 : Nat)) :
    Succeeds (arabicIndex (.decimal (.finite s a e))) := by
  obtain ⟨b, f, tens⟩ := modulo_finite (s := s) (by decide) (by decide) small
  rw [arabicIndex, tens]
  refine (equals_finite s a e 0).bind fun _ => .ite (.pure _) ?_
  refine (equals_finite s a e 1).bind fun _ => .ite (.pure _) ?_
  refine (equals_finite s a e 2).bind fun _ => .ite (.pure _) ?_
  refine ((order_finite s b f 10).map _).bind fun _ => .ite (.pure _) ?_
  refine ((order_finite s a e 11).map _).bind fun _ => .ite ?_ (.pure _)
  exact ((order_finite s b f 99).map _).bind fun _ => .ite (.pure _) (.pure _)

theorem index_finite (s : Bool) (fits : size a e < 10 ^ (greatestExponent + 1)) :
    10 ^ rule.limit ≤ size a e ∧
      rule.index (.decimal (.finite s a e)) = .error (.unworded .arithmetic) ∨
    size a e < 10 ^ rule.limit ∧ Succeeds (rule.index (.decimal (.finite s a e))) := by
  have tens : (10 : ℚ) ^ ((precision : Int) + 1) = 10 ^ precision * (10 : Nat) := by
    norm_num [precision]
  have hundreds : (10 : ℚ) ^ ((precision : Int) + 2) = 10 ^ precision * (100 : Nat) := by
    norm_num [precision]
  cases rule with
  | english => exact .inr ⟨fits, (equals_finite s a e 1).bind fun _ => .ite (.pure _) (.pure _)⟩
  | chinese => exact .inr ⟨fits, .pure _⟩
  | french =>
    exact .inr ⟨fits, ((order_finite s a e 1).map _).bind fun _ => .ite (.pure _) (.pure _)⟩
  | czech =>
    exact .inr ⟨fits, (equals_finite s a e 1).bind fun _ => .ite (.pure _) <|
      (within_finite s a e 2 4).bind fun _ => .ite (.pure _) (.pure _)⟩
  | icelandic =>
    rw [limit, tens, index]
    rcases le_or_gt (10 ^ precision * ((10 : Nat) : ℚ)) (size a e) with large | small
    · exact .inl ⟨large, by rw [unitOne_of_large large]; rfl⟩
    · exact .inr ⟨small, (unitOne_finite s small).bind fun _ => .ite (.pure _) (.pure _)⟩
  | russian =>
    rw [limit, tens, index]
    rcases le_or_gt (10 ^ precision * ((10 : Nat) : ℚ)) (size a e) with large | small
    · exact .inl ⟨large, by rw [unitOne_of_large large]; rfl⟩
    · exact .inr ⟨small, (unitOne_finite s small).bind fun _ => .ite (.pure _) <|
        (isFew_finite s small).bind fun _ => .ite (.pure _) (.pure _)⟩
  | polish =>
    rw [limit, tens, index]
    rcases le_or_gt (10 ^ precision * ((10 : Nat) : ℚ)) (size a e) with large | small
    · have leading : 10 ≤ size a e := le_trans (by norm_num [precision]) large
      exact .inl ⟨large, by rw [equals_of_large leading (by decide), isFew_of_large large]; rfl⟩
    · exact .inr ⟨small, (equals_finite s a e 1).bind fun _ => .ite (.pure _) <|
        (isFew_finite s small).bind fun _ => .ite (.pure _) (.pure _)⟩
  | arabic =>
    rw [limit, hundreds, index]
    rcases le_or_gt (10 ^ precision * ((100 : Nat) : ℚ)) (size a e) with large | small
    · exact .inl ⟨large, arabicIndex_of_large large⟩
    · exact .inr ⟨small, arabicIndex_finite s small⟩

theorem index_notANumber (s : Bool) (payload : Text) :
    rule.orders = true ∧ rule.index (.decimal (.notANumber s false payload)) =
      .error (.unworded .arithmetic) ∨
    rule.orders = false ∧ Succeeds (rule.index (.decimal (.notANumber s false payload))) := by
  cases rule with
  | english | icelandic | chinese => exact .inr ⟨rfl, _, rfl⟩
  | french | russian | czech | polish | arabic => exact .inl ⟨rfl, rfl⟩

theorem index_infinite :
    rule.divides = true ∧ rule.index (.decimal (.infinite false)) =
      .error (.unworded .arithmetic) ∨
    rule.divides = false ∧ Succeeds (rule.index (.decimal (.infinite false))) := by
  cases rule with
  | english | french | czech | chinese => exact .inr ⟨rfl, _, rfl⟩
  | russian | polish | icelandic | arabic => exact .inl ⟨rfl, rfl⟩

theorem low_limit : Decimal.leastExponent + precision ≤ rule.limit := by cases rule <;> decide

theorem limit_le : rule.limit ≤ greatestExponent + 1 := by cases rule <;> decide

/-- A rule refuses the magnitude of a decimal for the decimal that it is taken of. -/
theorem countOf_decimal {d m : Decimal} (given : d.magnitude = .ok m) (o : Origin) :
    countOf (.decimal d o) = .ok (.decimal m) := by
  simp only [countOf, Value.number?, Number.magnitude, Number.ofDecimal, given]
  rfl

theorem countOf_refused {d : Decimal} {trap : Decimal.Trap} (refused : d.magnitude = .error trap)
    (o : Origin) : countOf (.decimal d o) = .error (.unworded .arithmetic) := by
  simp only [countOf, Value.number?, Number.magnitude, Number.ofDecimal, refused]
  rfl

theorem index_countOf_decimal (d : Decimal) (o : Origin) :
    rule.Refuses d ∧
      (countOf (.decimal d o) >>= rule.index) = .error (.unworded .arithmetic) ∨
    ¬rule.Refuses d ∧ Succeeds (countOf (.decimal d o) >>= rule.index) := by
  cases d with
  | finite s a e =>
    rcases Decimal.fit_cases false a e with ⟨large, refused⟩ | ⟨small, b, f, fitted, reached⟩
    · rw [countOf_refused (d := .finite s a e) refused]
      exact .inl ⟨(Decimal.reach_le_reach rule.limit_le).trans large, rfl⟩
    · have fits : size b f < 10 ^ (greatestExponent + 1) :=
        not_le.mp fun large => not_le.mpr small ((reached _ Decimal.greatest_low).mp large)
      rw [countOf_decimal (d := .finite s a e) fitted, ok_bind, Refuses, ← reached _ rule.low_limit]
      rcases index_finite rule false fits with ⟨large, refused⟩ | ⟨small, given⟩
      · exact .inl ⟨large, refused⟩
      · exact .inr ⟨not_le.mpr small, given⟩
  | infinite s =>
    rw [countOf_decimal (d := .infinite s) rfl, ok_bind]
    rcases index_infinite rule with ⟨divides, refused⟩ | ⟨whole, given⟩
    · exact .inl ⟨divides, refused⟩
    · exact .inr ⟨by simp [Refuses, whole], given⟩
  | notANumber s signaling payload =>
    cases signaling with
    | true => exact .inl ⟨.inl rfl, rfl⟩
    | false =>
      rw [countOf_decimal (d := .notANumber s false payload) rfl, ok_bind]
      rcases index_notANumber rule s payload with ⟨orders, refused⟩ | ⟨silent, given⟩
      · exact .inl ⟨.inr orders, refused⟩
      · exact .inr ⟨by simp [Refuses, silent], given⟩

end PluralRule

end Phrasebook
