import Phrasebook.Number.Basic
import Phrasebook.Text.Class
import Mathlib.Logic.Function.Basic
/-!
Decimal numerals, in digits of any script: the number that is read from one is no less than that of any
part of it. What is written for an integer is read back, and different integers are written
differently.
-/
namespace Phrasebook.Text

section

/-- Decimal digits of any script, at least one. -/
structure IsNumeral (t : Text) : Prop where
  nonempty : t ≠ []
  decimal : ∀ c ∈ t, isDecimal c = true

/-- The number that digits write behind another one. -/
def valueFrom (n : Nat) (t : Text) : Nat := t.foldl (fun n c => n * 10 + (decimalValue? c).getD 0) n

def value (t : Text) : Nat := valueFrom 0 t

variable {t run whole : Text} {m n : Nat}

theorem valueFrom_append (n : Nat) (t u : Text) :
    valueFrom n (t ++ u) = valueFrom (valueFrom n t) u :=
  List.foldl_append

theorem valueFrom_mono (larger : m ≤ n) (t : Text) : valueFrom m t ≤ valueFrom n t := by
  induction t generalizing m n with
  | nil => exact larger
  | cons c rest ih => exact ih (Nat.add_le_add_right (Nat.mul_le_mul_right 10 larger) _)

theorem le_valueFrom (n : Nat) (t : Text) : n ≤ valueFrom n t := by
  induction t generalizing n with
  | nil => exact Nat.le_refl n
  | cons c rest ih =>
    have grows : n ≤ n * 10 + (decimalValue? c).getD 0 := by omega
    exact Nat.le_trans grows (ih _)

theorem value_le_of_infix (inside : run <:+: whole) : value run ≤ value whole := by
  obtain ⟨front, back, rfl⟩ := inside
  calc value run ≤ valueFrom (value front) run := valueFrom_mono (Nat.zero_le _) run
    _ ≤ valueFrom (valueFrom (value front) run) back := le_valueFrom _ back
    _ = value (front ++ run ++ back) := by simp only [value, valueFrom_append]

theorem decimalNumeral?_of_isNumeral (numeral : IsNumeral t) :
    decimalNumeral? t = some (value t) := by
  obtain ⟨nonempty, decimal⟩ := numeral
  rw [decimalNumeral?, if_neg (by simpa using nonempty), value]
  clear nonempty
  generalize 0 = n
  induction t generalizing n with
  | nil => rfl
  | cons c rest ih =>
    obtain ⟨here, later⟩ := List.forall_mem_cons.mp decimal
    obtain ⟨d, digit⟩ := Option.isSome_iff_exists.mp here
    simp only [valueFrom, List.foldl_cons, digit, Option.getD_some]
    exact ih later _

end

set_option maxRecDepth 4000 in
private theorem digit_values : ∀ d : Nat, d < 10 →
    isDigit (48 + d) = true ∧ decimalValue? (48 + d) = some d := by
  unfold isDigit digitLikeTable RangeTable.decode RangeTable.numbers
  -- The table is put in as a list of characters; taking the string apart would cost far more.
  generalize spelled : String.toList _ = table
  obtain rfl : table = _ := spelled.symm.trans String.toList_ofList
  clear spelled
  decide +kernel

/-- The digits that numerals are written with count as digits, and have their place value. -/
theorem digit_of_isDigit {c : Char} (digit : c.isDigit = true) :
    isDigit c.toNat = true ∧ decimalValue? c.toNat = some (c.toNat - '0'.toNat) := by
  obtain ⟨low, high⟩ : 48 ≤ c.toNat ∧ c.toNat ≤ 57 := Char.isDigit_iff_toNat.mp digit
  obtain ⟨d, place⟩ := Nat.exists_eq_add_of_le low
  have zero : '0'.toNat = 48 := rfl
  rw [zero, place, Nat.add_sub_cancel_left]
  exact digit_values d (by omega)

theorem valueFrom_map_toNat {cs : List Char} (digits : ∀ c ∈ cs, c.isDigit = true) (n : Nat) :
    valueFrom n (cs.map Char.toNat) = Nat.ofDigitChars 10 cs n := by
  induction cs generalizing n with
  | nil => simp [valueFrom, Nat.ofDigitChars]
  | cons c rest ih =>
    obtain ⟨here, later⟩ := List.forall_mem_cons.mp digits
    rw [List.map_cons, valueFrom, List.foldl_cons, (digit_of_isDigit here).2, Option.getD_some]
    refine (ih later _).trans ?_
    simp [Nat.ofDigitChars, Nat.mul_comm]

theorem decimalNumeral?_ofNat (n : Nat) : decimalNumeral? (ofNat n) = some n := by
  have digits : ∀ c ∈ Nat.toDigits 10 n, c.isDigit = true :=
    fun c member => Nat.isDigit_of_mem_toDigits (by decide) (by decide) member
  have numeral : IsNumeral (ofNat n) := by
    refine ⟨by simp [ofNat], fun c member => ?_⟩
    obtain ⟨digit, written, rfl⟩ := List.mem_map.mp member
    rw [isDecimal, (digit_of_isDigit (digits digit written)).2, Option.isSome_some]
  rw [decimalNumeral?_of_isNumeral numeral, value, ofNat, valueFrom_map_toNat digits,
    Nat.ofDigitChars_toDigits (by decide) (by decide)]

private theorem char_of_mem_ofNat {n c : Nat} (member : c ∈ ofNat n) :
    ∃ digit : Char, digit.isDigit = true ∧ digit.toNat = c := by
  obtain ⟨digit, written, rfl⟩ := List.mem_map.mp member
  exact ⟨digit, Nat.isDigit_of_mem_toDigits (by decide) (by decide) written, rfl⟩

theorem isDigit_of_mem_ofNat {n c : Nat} (member : c ∈ ofNat n) : isDigit c = true := by
  obtain ⟨digit, isDigit, rfl⟩ := char_of_mem_ofNat member
  exact (digit_of_isDigit isDigit).1

/-- Numerals are written from `0` up to `9`. -/
theorem le_of_mem_ofNat {n c : Nat} (member : c ∈ ofNat n) : 48 ≤ c ∧ c ≤ 57 := by
  obtain ⟨digit, isDigit, rfl⟩ := char_of_mem_ofNat member
  exact Char.isDigit_iff_toNat.mp isDigit

theorem length_ofNat_le {k n : Nat} (some_ : 0 < k) (short : ¬Nat.pow 10 k ≤ n) :
    (ofNat n).length ≤ k := by
  have bound := (Nat.length_toDigits_le_iff (by decide) some_).mpr (Nat.lt_of_not_le short)
  simpa [ofNat] using bound

theorem ofNat_injective : Function.Injective ofNat := by
  intro m n same
  have read := congrArg decimalNumeral? same
  simpa [decimalNumeral?_ofNat] using read

theorem ofNat_ne_nil (n : Nat) : ofNat n ≠ [] := by simp [ofNat]

/-- A numeral begins with `0` only if it is that of zero. -/
theorem exists_cons_ofNat {n : Nat} (positive : 0 < n) :
    ∃ first digits, ofNat n = first :: digits ∧ first ≠ 48 := by
  induction n using Nat.strongRecOn with
  | ind n ih =>
    by_cases single : n < 10
    · refine ⟨n.digitChar.toNat, [], by rw [ofNat, Nat.toDigits_of_lt_base single]; rfl, ?_⟩
      have digits : ∀ d < 10, 0 < d → d.digitChar.toNat ≠ 48 := by decide
      exact digits n single positive
    · obtain ⟨first, digits, written, other⟩ := ih (n / 10) (by omega) (by omega)
      refine ⟨first, digits ++ [(n % 10).digitChar.toNat], ?_, other⟩
      rw [ofNat, Nat.toDigits_of_base_le (by decide) (by omega), List.map_append]
      change ofNat (n / 10) ++ _ = _
      rw [written]
      rfl

/-- A minus stands below the digits. -/
theorem ofInt_injective : Function.Injective ofInt := by
  have minus : ∀ m n : Nat, ofNat m ≠ '-'.toNat :: ofNat n := by
    intro m n same
    have low : 48 ≤ '-'.toNat := (le_of_mem_ofNat (same ▸ List.mem_cons_self)).1
    exact absurd low (by decide)
  intro m n same
  cases m with
  | ofNat m =>
    cases n with
    | ofNat n => exact congrArg Int.ofNat (ofNat_injective same)
    | negSucc n => exact absurd same (minus m (n + 1))
  | negSucc m =>
    cases n with
    | ofNat n => exact absurd same.symm (minus n (m + 1))
    | negSucc n =>
      have successors : m + 1 = n + 1 := ofNat_injective (List.cons.inj same).2
      rw [Nat.succ.inj successors]

end Phrasebook.Text
