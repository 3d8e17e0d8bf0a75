import Phrasebook.Plural.Rule
import Phrasebook.Proofs.Outcome
import Mathlib.Tactic
/-!
The forms that plural rules give to whole numbers, against the bands that grammars name. The bands
lie modulo ten and a hundred; the Arabic rule takes the last of them for another one.
-/
namespace Phrasebook

open Outcome (ok_bind GivesOnly)

namespace Count

variable (n m : Nat)

theorem modulo_natural : (int n).modulo m = .ok (int (n % m : Nat)) := rfl

theorem equals_natural : (int n).equals m = .ok (decide (n = m)) := by
  simp [equals, Bool.beq_eq_decide_eq]

theorem order_natural : (int n).order m =
    .ok (some (if n < m then .lt else if n = m then .eq else .gt)) := by
  simp [order, compare, compareOfLessAndEq]

theorem atMost_natural : (int n).atMost m = .ok (decide (n ≤ m)) := by
  rw [atMost, order_natural]
  split_ifs <;> simp [Except.map] <;> omega

theorem atLeast_natural : (int n).atLeast m = .ok (decide (m ≤ n)) := by
  rw [atLeast, order_natural]
  split_ifs <;> simp [Except.map] <;> omega

theorem above_natural : (int n).above m = .ok (decide (m < n)) := by
  rw [above, order_natural]
  split_ifs <;> simp [Except.map] <;> omega

theorem below_natural : (int n).below m = .ok (decide (n < m)) := by
  rw [below, order_natural]
  split_ifs <;> simp [Except.map] <;> omega

theorem within_natural (low high : Nat) :
    (int n).within low high = .ok (decide (low ≤ n ∧ n ≤ high)) := by
  rw [within, atLeast_natural, ok_bind]
  by_cases least : low ≤ n
  · simp [least, atMost_natural]
  · simp [least, pure, Except.pure]

end Count

namespace PluralRule

open Phrasebook.Count (modulo_natural equals_natural atMost_natural atLeast_natural above_natural
  below_natural within_natural)

/-- Units two to four, but not twelve to fourteen. -/
def Few (n : Nat) : Prop := (2 ≤ n % 10 ∧ n % 10 ≤ 4) ∧ ¬(12 ≤ n % 100 ∧ n % 100 ≤ 14)

instance : DecidablePred Few := fun _ => inferInstanceAs (Decidable (_ ∧ _))

/-- Units of one, but not eleven. -/
def One (n : Nat) : Prop := n % 10 = 1 ∧ n % 100 ≠ 11

instance : DecidablePred One := fun _ => inferInstanceAs (Decidable (_ ∧ _))

/-- How many forms the grammar of a rule has. -/
def forms : PluralRule → Nat
  | .chinese => 1
  | .english | .french | .icelandic => 2
  | .russian | .czech | .polish => 3
  | .arabic => 6

/-- The form that the grammar of a rule names for a whole number. -/
def category : PluralRule → Nat → Nat
  | .english, n => if n = 1 then 0 else 1
  | .french, n => if n ≤ 1 then 0 else 1
  | .russian, n => if One n then 0 else if Few n then 1 else 2
  | .czech, n => if n = 1 then 0 else if 2 ≤ n ∧ n ≤ 4 then 1 else 2
  | .polish, n => if n = 1 then 0 else if Few n then 1 else 2
  | .icelandic, n => if One n then 0 else 1
  | .chinese, _ => 0
  | .arabic, n =>
    if n ≤ 2 then n
    else if 3 ≤ n % 100 ∧ n % 100 ≤ 10 then 3
    else if 11 ≤ n % 100 ∧ n % 100 ≤ 99 then 4
    else 5

variable (rule : PluralRule) (n : Nat)

-- The rule leaves out ten to nineteen; of these only twelve to fourteen have such units.
theorem isFew_natural : isFew (.int n) = .ok (decide (Few n)) := by
  unfold isFew
  simp only [modulo_natural, ok_bind, within_natural, atLeast_natural, below_natural,
    decide_eq_true_eq, pure, Except.pure, ← apply_ite Except.ok]
  refine congrArg Except.ok (Bool.eq_iff_iff.mpr ?_)
  unfold Few
  split_ifs <;> simp <;> omega

theorem unitOne_natural : unitOne (.int n) = .ok (decide (One n)) := by
  unfold unitOne
  simp only [modulo_natural, ok_bind, equals_natural, decide_eq_true_eq, pure, Except.pure,
    ← apply_ite Except.ok]
  refine congrArg Except.ok (Bool.eq_iff_iff.mpr ?_)
  unfold One
  split_ifs with one <;> simp [one]

theorem arabicIndex_natural : arabicIndex (.int n) =
    .ok (if n ≤ 2 then n else if n % 100 ≤ 10 then 3 else 4) := by
  unfold arabicIndex
  simp only [modulo_natural, ok_bind, equals_natural, atMost_natural, atLeast_natural,
    decide_eq_true_eq, pure, Except.pure, ← apply_ite Except.ok]
  refine congrArg Except.ok ?_
  split_ifs <;> omega

/-- Whole numbers that the rule takes for few where the grammar has none of its five bands: the
hundreds, and the two numbers behind each. -/
def Mistaken (rule : PluralRule) (n : Nat) : Prop := rule = .arabic ∧ 2 < n ∧ n % 100 ≤ 2

instance : Decidable (rule.Mistaken n) := inferInstanceAs (Decidable (_ ∧ _))

theorem index_natural :
    rule.index (.int n) = .ok (if rule.Mistaken n then 3 else rule.category n) := by
  unfold Mistaken
  cases rule with
  | arabic =>
    rw [index, arabicIndex_natural]
    refine congrArg Except.ok ?_
    simp only [category, true_and]
    split_ifs <;> omega
  | french =>
    simp only [index, category, ok_bind, above_natural, decide_eq_true_eq, pure, Except.pure,
      ← apply_ite Except.ok, reduceCtorEq, false_and, if_false]
    refine congrArg Except.ok ?_
    split_ifs <;> omega
  | _ =>
    simp only [index, category, ok_bind, equals_natural, within_natural, unitOne_natural,
      isFew_natural, decide_eq_true_eq, pure, Except.pure, ← apply_ite Except.ok, reduceCtorEq,
      false_and, if_false]

theorem arabicIndex_gives (c : Count) : GivesOnly (· < 6) (arabicIndex c) :=
  .bind fun _ => .ite (.pure (by decide)) <|
  .bind fun _ => .ite (.pure (by decide)) <|
  .bind fun _ => .ite (.pure (by decide)) <|
  .bind fun _ => .bind fun _ => .ite (.pure (by decide)) <|
  .bind fun _ => .ite
    (.bind fun _ => .bind fun _ => .ite (.pure (by decide)) (.pure (by decide)))
    (.pure (by decide))

/-- No count of any kind selects a form that the grammar lacks. -/
theorem index_gives (c : Count) : GivesOnly (· < rule.forms) (rule.index c) := by
  cases rule with
  | arabic => exact arabicIndex_gives c
  | chinese => exact .pure (by decide)
  | english | french | icelandic =>
    exact .bind fun _ => .ite (.pure (by decide)) (.pure (by decide))
  | russian | czech | polish =>
    exact .bind fun _ => .ite (.pure (by decide)) <|
      .bind fun _ => .ite (.pure (by decide)) (.pure (by decide))

theorem category_onto {i : Nat} (inside : i < rule.forms) (known : ¬(rule = .arabic ∧ i = 5)) :
    ∃ n < 12, rule.category n = i := by
  revert i
  cases rule <;> decide

theorem category_ne_last (right : ¬PluralRule.Mistaken .arabic n) :
    category .arabic n ≠ 5 := by
  simp only [Mistaken, true_and] at right
  simp only [category]
  split_ifs <;> omega

/-- The last Arabic form is left to numbers that are not whole. -/
theorem index_eq_natural_iff (i : Nat) : (∃ n : Nat, rule.index (.int n) = .ok i) ↔
    i < rule.forms ∧ ¬(rule = .arabic ∧ i = 5) := by
  constructor
  · rintro ⟨n, given⟩
    refine ⟨index_gives rule _ i given, ?_⟩
    rintro ⟨rfl, rfl⟩
    rw [index_natural, Except.ok.injEq] at given
    split_ifs at given with mistaken
    · cases given
    · exact category_ne_last n mistaken given
  · rintro ⟨inside, known⟩
    obtain ⟨n, small, same⟩ := category_onto rule inside known
    have right : ¬rule.Mistaken n := fun mistaken => by
      have := mistaken.2
      omega
    exact ⟨n, by rw [index_natural, if_neg right, same]⟩

theorem index_arabic_fraction :
    PluralRule.index .arabic (.decimal (.finite false 995 (-1))) = .ok 5 :=
  Outcome.eq_ok_of_toOption (by decide +kernel)

/-- A whole number has the form of its grammar, unless it stands at the start of an Arabic hundred;
so every form but the last Arabic one is that of some whole number. -/
theorem index_by_category :
    (∀ n : Nat, rule.index (.int n) = .ok (if rule.Mistaken n then 3 else rule.category n)) ∧
    (∀ i, (∃ n : Nat, rule.index (.int n) = .ok i) ↔
      i < rule.forms ∧ ¬(rule = .arabic ∧ i = 5)) ∧
    (∀ i, (∃ c, rule.index c = .ok i) ↔ i < rule.forms) := by
  refine ⟨index_natural rule, index_eq_natural_iff rule, fun i => ⟨?_, fun inside => ?_⟩⟩
  · rintro ⟨c, given⟩
    exact index_gives rule c i given
  · by_cases last : rule = .arabic ∧ i = 5
    · obtain ⟨rfl, rfl⟩ := last
      exact ⟨_, index_arabic_fraction⟩
    · obtain ⟨n, given⟩ := (index_eq_natural_iff rule i).mpr ⟨inside, last⟩
      exact ⟨.int n, given⟩

example : PluralRule.index .arabic (.int 100) = .ok 3 ∧ category .arabic 100 = 5 := ⟨rfl, rfl⟩

end PluralRule
end Phrasebook
