/-!
Double-precision numbers as exact fractions. `decode` takes a number apart; `ofRatio` is the number
nearest to a fraction, a tie going to the even neighbour. In a division with remainder the remainder
takes the sign of the divisor and the quotient is rounded down.
-/
namespace Phrasebook

/-- The value `± mantissa · 2 ^ exponent`. -/
structure Dyadic where
  negative : Bool
  mantissa : Nat
  exponent : Int

inductive FloatClass where
  | notANumber
  | infinite (negative : Bool)
  | finite (value : Dyadic)

namespace Binary

def decode (x : Float) : FloatClass :=
  let bits : Nat := x.toBits.toNat
  let negative := bits / Nat.pow 2 63 == 1
  let exponent : Nat := bits / Nat.pow 2 52 % 2048
  let fraction : Nat := bits % Nat.pow 2 52
  if exponent = 2047 then
    if fraction = 0 then .infinite negative else .notANumber
  else if exponent = 0 then .finite ⟨negative, fraction, -1074⟩
  else .finite ⟨negative, fraction + Nat.pow 2 52, (exponent : Int) - 1075⟩

def infinity (negative : Bool) : Float :=
  Float.ofBits ((if negative then Nat.pow 2 63 else 0) + 2047 * Nat.pow 2 52 : Nat).toUInt64

def nan : Float := Float.ofBits (2047 * Nat.pow 2 52 + Nat.pow 2 51 : Nat).toUInt64

def isNaN (x : Float) : Bool := match decode x with
  | .notANumber => true
  | _ => false

def isFinite (x : Float) : Bool := match decode x with
  | .finite _ => true
  | _ => false

def isNegative (x : Float) : Bool := x.toBits.toNat / Nat.pow 2 63 == 1

/-- The quotient rounded to the nearest integer, ties to even. -/
def roundDiv (num den : Nat) : Nat :=
  let q := num / den
  let r := num % den
  if 2 * r < den then q else if den < 2 * r then q + 1 else q + q % 2

/-- A fraction as `num / den` with both parts whole. -/
def ratioOf (mantissa : Nat) (exponent : Int) : Nat × Nat :=
  if 0 ≤ exponent then (mantissa * Nat.pow 2 exponent.toNat, 1) else (mantissa, Nat.pow 2 (-exponent).toNat)

/-- The integer part of `num / den / 2 ^ e`. -/
private def scaledFloor (num den : Nat) (e : Int) : Nat :=
  if 0 ≤ e then num / (den * Nat.pow 2 e.toNat) else num * Nat.pow 2 (-e).toNat / den

private def scaledRound (num den : Nat) (e : Int) : Nat :=
  if 0 ≤ e then roundDiv num (den * Nat.pow 2 e.toNat) else roundDiv (num * Nat.pow 2 (-e).toNat) den

/-- The nearest double; infinite when the fraction is beyond the largest one. -/
def ofRatio (negative : Bool) (num den : Nat) : Float :=
  let sign : Nat := if negative then Nat.pow 2 63 else 0
  if num = 0 then Float.ofBits sign.toUInt64
  else
    let guess : Int := (num.log2 : Int) - (den.log2 : Int) - 52
    let e := if scaledFloor num den guess < Nat.pow 2 52 then guess - 1 else guess
    let e := if e < -1074 then -1074 else e
    let q := scaledRound num den e
    let (q, e) := if q = Nat.pow 2 53 then (Nat.pow 2 52, e + 1) else (q, e)
    if e + 1075 ≥ 2047 then infinity negative
    else if q < Nat.pow 2 52 then Float.ofBits (sign + q).toUInt64
    else Float.ofBits (sign + (e + 1075).toNat * Nat.pow 2 52 + (q - Nat.pow 2 52)).toUInt64

theorem roundDiv_mul_self {n : Nat} (positive : 0 < n) (q : Nat) : roundDiv (n * q) n = q := by
  simp [roundDiv, Nat.mul_div_cancel_left q positive, positive]

/-- A number over itself is rounded as one. -/
theorem ofRatio_self {n : Nat} (positive : 0 < n) : ofRatio false n n = ofRatio false 1 1 := by
  have settled : ∀ {m : Nat}, 0 < m →
      ofRatio false m m = Float.ofBits (1023 * Nat.pow 2 52).toUInt64 := by
    intro m positive
    have guess : (m.log2 : Int) - (m.log2 : Int) - 52 = -52 := by omega
    have below : ¬(0 : Int) ≤ -52 := by decide
    have floor : scaledFloor m m (-52) = Nat.pow 2 52 := by
      rw [scaledFloor, if_neg below]
      exact Nat.mul_div_cancel_left _ positive
    have round : scaledRound m m (-52) = Nat.pow 2 52 := by
      rw [scaledRound, if_neg below]
      exact roundDiv_mul_self positive _
    have normal : ¬Nat.pow 2 52 = Nat.pow 2 53 := by decide
    simp only [ofRatio, guess, floor, if_neg (Nat.ne_of_gt positive), Nat.lt_irrefl, reduceIte,
      (by decide : ¬(-52 : Int) < -1074), round, if_neg normal]
    rfl
  rw [settled positive, settled Nat.one_pos]

def ofNat (n : Nat) : Float := ofRatio false n 1

def ofInt (n : Int) : Float := ofRatio (n < 0) n.natAbs 1

def ofDyadic (d : Dyadic) : Float :=
  let (num, den) := ratioOf d.mantissa d.exponent
  ofRatio d.negative num den

/-- The value of a decimal numeral `digits · 10 ^ exponent`, with bounds on the exponent past which
the answer is zero or infinite. -/
def ofScientific (negative : Bool) (digits : Nat) (exponent : Int) : Float :=
  if digits = 0 then ofRatio negative 0 1
  else
    let size : Int := (Nat.toDigits 10 digits).length
    if size + exponent > 320 then infinity negative
    else if size + exponent < -340 then ofRatio negative 0 1
    else if 0 ≤ exponent then ofRatio negative (digits * Nat.pow 10 exponent.toNat) 1
    else ofRatio negative digits (Nat.pow 10 (-exponent).toNat)

def toInt? (x : Float) : Option Int := match decode x with
  | .finite d =>
    let (num, den) := ratioOf d.mantissa d.exponent
    if num % den = 0 then some (if d.negative then -(num / den : Nat) else (num / den : Nat))
    else none
  | _ => none

/-- The integer toward zero. -/
def truncate? (x : Float) : Option Int := match decode x with
  | .finite d =>
    let (num, den) := ratioOf d.mantissa d.exponent
    some (if d.negative then -(num / den : Nat) else (num / den : Nat))
  | _ => none

/-- Order of two exact fractions of either sign; `none` with a number that is not one. -/
def compareInt? (x : Float) (n : Int) : Option Ordering := match decode x with
  | .notANumber => none
  | .infinite negative => some (if negative then .lt else .gt)
  | .finite d =>
    let (num, den) := ratioOf d.mantissa d.exponent
    let signed : Int := if d.negative then -(num : Int) else num
    some (compare signed (n * den))

/-- The exact remainder of the division toward zero. -/
def truncatedRemainder (x y : Float) : Float :=
  match decode x, decode y with
  | .finite a, .finite b =>
    if b.mantissa = 0 then nan
    else
      let e := min a.exponent b.exponent
      let m := a.mantissa * Nat.pow 2 (a.exponent - e).toNat
      let n := b.mantissa * Nat.pow 2 (b.exponent - e).toNat
      let (num, den) := ratioOf (m % n) e
      ofRatio a.negative num den
  | .finite _, .infinite _ => x
  | _, _ => nan

private def zeroLike (x : Float) : Float := ofRatio (isNegative x) 0 1

/-- The remainder with the sign of the divisor, which is not zero. -/
def floorRemainder (x y : Float) : Float :=
  let r := truncatedRemainder x y
  if r == 0 then zeroLike y
  else if (y < 0) != (r < 0) then r + y else r

/-- The quotient rounded down; the divisor is not zero. -/
def floorQuotient (x y : Float) : Float :=
  let r := truncatedRemainder x y
  let q := (x - r) / y
  let q := if r != 0 && ((y < 0) != (r < 0)) then q - 1 else q
  if q == 0 then zeroLike (x / y)
  else
    let f := q.floor
    if q - f > 0.5 then f + 1 else f

end Binary
end Phrasebook
