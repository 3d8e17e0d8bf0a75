import Phrasebook.Number.FloatText
import Phrasebook.Text.Class
/-!
Decimal numbers that keep their trailing zeros. Results are rounded to twenty-eight digits, a half
going to the even neighbour; a result too large for that is refused, one too small loses digits.
-/
namespace Phrasebook

inductive Decimal where
  | finite (negative : Bool) (coefficient : Nat) (exponent : Int)
  | infinite (negative : Bool)
  | notANumber (negative signaling : Bool) (payload : Text)

namespace Decimal

def precision : Nat := 28

/-- The exponent of the leading digit of the largest results. -/
def greatestExponent : Int := 999999

/-- The exponent of the last digit of the smallest results. -/
def leastExponent : Int := -1000026

def ofInt (n : Int) : Decimal := .finite (n < 0) n.natAbs 0

def digitCount (n : Nat) : Nat := (Nat.toDigits 10 n).length

/-- The exponent of the leading digit. -/
def adjusted (coefficient : Nat) (exponent : Int) : Int :=
  exponent + digitCount coefficient - 1

/-- A coefficient cut to so many digits, with its exponent. -/
private def rounded (digits coefficient : Nat) (exponent : Int) : Nat × Int :=
  let n := digitCount coefficient
  if n ≤ digits then (coefficient, exponent)
  else
    let cut := n - digits
    let q := Binary.roundDiv coefficient (Nat.pow 10 cut)
    if q = Nat.pow 10 digits then (Nat.pow 10 (digits - 1), exponent + cut + 1) else (q, exponent + cut)

inductive Trap where
  | invalid
  | divisionByZero
  | overflow

/-- How many of the last digits a result cannot keep: those beyond the precision and those below the
least exponent. -/
def excess (coefficient : Nat) (exponent : Int) : Nat :=
  max (digitCount coefficient - precision) (leastExponent - exponent).toNat

/-- A coefficient without its last digits, with its exponent. -/
def shortened (cut coefficient : Nat) (exponent : Int) : Nat × Int :=
  let q := Binary.roundDiv coefficient (Nat.pow 10 cut)
  if q = Nat.pow 10 precision then (Nat.pow 10 (precision - 1), exponent + cut + 1)
  else (q, exponent + cut)

/-- A value as the result of an operation. -/
def fit (negative : Bool) (coefficient : Nat) (exponent : Int) : Except Trap Decimal :=
  if coefficient = 0 then
    .ok (.finite negative 0 (max leastExponent (min exponent greatestExponent)))
  else if adjusted coefficient exponent + 1 < leastExponent then
    .ok (.finite negative 0 leastExponent)
  else
    let (q, e) := shortened (excess coefficient exponent) coefficient exponent
    if greatestExponent < adjusted q e then .error .overflow else .ok (.finite negative q e)

/-- Plain notation while the exponent is not positive and at most five zeros follow the point;
scientific notation otherwise. -/
def toText : Decimal → Text
  | .infinite negative => (if negative then "-Infinity" else "Infinity" : String)
  | .notANumber negative signaling payload =>
    (if negative then "-" else "" : String) ++ (if signaling then "sNaN" else "NaN" : String)
      ++ payload
  | .finite negative coefficient exponent =>
    let digits := Text.ofNat coefficient
    let left : Int := exponent + digits.length
    let point : Int := if exponent ≤ 0 ∧ -6 < left then left else 1
    let body : Text :=
      if point ≤ 0 then [48, 46] ++ List.replicate (-point).toNat 48 ++ digits
      else if digits.length ≤ point then
        digits ++ List.replicate (point - digits.length).toNat 48
      else digits.take point.toNat ++ 46 :: digits.drop point.toNat
    let tail : Text :=
      if left = point then []
      else 'E' :: (if left < point then '-' else '+') :: Text.ofNat (left - point).natAbs
    (if negative then [45] else []) ++ body ++ tail

def isZero : Decimal → Bool
  | .finite _ 0 _ => true
  | _ => false

def isNegative : Decimal → Bool
  | .finite negative _ _ | .infinite negative | .notANumber negative _ _ => negative

def isNaN : Decimal → Bool
  | .notANumber .. => true
  | _ => false

def toFloat : Decimal → Float
  | .finite negative coefficient exponent => Binary.ofScientific negative coefficient exponent
  | .infinite negative => Binary.infinity negative
  | .notANumber .. => Binary.nan

def ofFloat (x : Float) : Decimal := match Binary.decode x with
  | .notANumber => .notANumber false false []
  | .infinite negative => .infinite negative
  | .finite d =>
    if 0 ≤ d.exponent then .finite d.negative (d.mantissa * Nat.pow 2 d.exponent.toNat) 0
    else .finite d.negative (d.mantissa * Nat.pow 5 (-d.exponent).toNat) d.exponent

/-- The coefficient of a number for another exponent, which is not greater. -/
def scaled (coefficient : Nat) (exponent common : Int) : Nat :=
  coefficient * Nat.pow 10 (exponent - common).toNat

private def signedAt (negative : Bool) (coefficient : Nat) (exponent common : Int) : Int :=
  let n : Int := scaled coefficient exponent common
  if negative then -n else n

/-- Order of two decimals, `none` with one that is not a number. Magnitudes that differ in their
leading exponent are compared by it alone. -/
def compare? : Decimal → Decimal → Option Ordering
  | .notANumber .., _ => none
  | _, .notANumber .. => none
  | .infinite a, .infinite b => some (if a = b then .eq else if a then .lt else .gt)
  | .infinite a, .finite .. => some (if a then .lt else .gt)
  | .finite .., .infinite b => some (if b then .gt else .lt)
  | .finite s a e, .finite t b f =>
    if a = 0 ∧ b = 0 then some .eq
    else if a = 0 then some (if t then .gt else .lt)
    else if b = 0 then some (if s then .lt else .gt)
    else if s ≠ t then some (if s then .lt else .gt)
    else
      let p := adjusted a e
      let q := adjusted b f
      if p ≠ q then some (if (p < q) != s then .lt else .gt)
      else
        let common := min e f
        some (compare (signedAt s a e common) (signedAt t b f common))

private def quiet (a b : Decimal) : Option (Except Trap Decimal) :=
  match a, b with
  | .notANumber _ true _, _ => some (.error .invalid)
  | _, .notANumber _ true _ => some (.error .invalid)
  | .notANumber .., _ => some (.ok a)
  | _, .notANumber .. => some (.ok b)
  | _, _ => none

/-- The rounded value with a positive zero. -/
def plus : Decimal → Except Trap Decimal
  | .finite s a e => fit (a != 0 && s) a e
  | .notANumber _ true _ => .error .invalid
  | d => .ok d

def negate : Decimal → Except Trap Decimal
  | .finite s a e => fit (a != 0 && !s) a e
  | .infinite s => .ok (.infinite (!s))
  | .notANumber _ true _ => .error .invalid
  | d => .ok d

def magnitude : Decimal → Except Trap Decimal
  | .finite _ a e => fit false a e
  | .infinite _ => .ok (.infinite false)
  | .notANumber _ true _ => .error .invalid
  | d => .ok d

private def addFinite (s : Bool) (a : Nat) (e : Int) (t : Bool) (b : Nat) (f : Int) :
    Except Trap Decimal :=
  let common := min e f
  let n := signedAt s a e common + signedAt t b f common
  fit (if n = 0 then s && t else n < 0) n.natAbs common

def add (x y : Decimal) : Except Trap Decimal :=
  match quiet x y with
  | some r => r
  | none => match x, y with
    | .infinite a, .infinite b => if a = b then .ok x else .error .invalid
    | .infinite _, _ => .ok x
    | _, .infinite _ => .ok y
    | .finite s a e, .finite t b f => addFinite s a e t b f
    | _, _ => .error .invalid

private def flip : Decimal → Decimal
  | .finite s a e => .finite (!s) a e
  | .infinite s => .infinite (!s)
  | d => d

def subtract (x y : Decimal) : Except Trap Decimal := add x (flip y)

def multiply (x y : Decimal) : Except Trap Decimal :=
  match quiet x y with
  | some r => r
  | none => match x, y with
    | .infinite s, .infinite t => .ok (.infinite (s != t))
    | .infinite s, .finite t b _ => if b = 0 then .error .invalid else .ok (.infinite (s != t))
    | .finite s a _, .infinite t => if a = 0 then .error .invalid else .ok (.infinite (s != t))
    | .finite s a e, .finite t b f => fit (s != t) (a * b) (e + f)
    | _, _ => .error .invalid

private def dropZeros (ideal : Int) : Nat → Nat → Int → Nat × Int
  | 0, a, e => (a, e)
  | fuel + 1, a, e => if e < ideal ∧ a % 10 = 0 ∧ a ≠ 0 then dropZeros ideal fuel (a / 10) (e + 1)
    else (a, e)

/-- The quotient of two positive coefficients, to at least so many digits and one more that tells
whether others follow. An exact one has no zeros at its end. -/
private def expanded (digits a : Nat) (e : Int) (b : Nat) (f : Int) : Nat × Int :=
  let shift := digitCount b - digitCount a + digits + 1
  let q := a * Nat.pow 10 shift / b
  if a * Nat.pow 10 shift % b = 0 then dropZeros (e - f) (shift + 1) q (e - f - shift)
  else (if q % 5 = 0 then q + 1 else q, e - f - shift)

/-- The quotient of two positive coefficients to so many digits. -/
private def ratio (digits a : Nat) (e : Int) (b : Nat) (f : Int) : Nat × Int :=
  let (q, k) := expanded digits a e b f
  rounded digits q k

def divide (x y : Decimal) : Except Trap Decimal :=
  match quiet x y with
  | some r => r
  | none => match x, y with
    | .infinite _, .infinite _ => .error .invalid
    | .infinite s, .finite t _ _ => .ok (.infinite (s != t))
    | .finite s _ _, .infinite t => .ok (.finite (s != t) 0 leastExponent)
    | .finite s a e, .finite t b f =>
      if b = 0 then (if a = 0 then .error .invalid else .error .divisionByZero)
      else if a = 0 then fit (s != t) 0 (e - f)
      else
        let (q, k) := expanded precision a e b f
        fit (s != t) q k
    | _, _ => .error .invalid

/-- The quotient toward zero, and the coefficient and the exponent of the remainder, which has the
sign of the dividend. -/
def divideWhole (x y : Decimal) : Except Trap (Decimal × Nat × Int) :=
  match x, y with
  | .infinite _, _ => .error .invalid
  | .finite s a e, .infinite t => .ok (.finite (s != t) 0 0, a, e)
  | .finite s a e, .finite t b f =>
    if b = 0 then (if a = 0 then .error .invalid else .error .divisionByZero)
    else
      let common := min e f
      let gap := adjusted a e - adjusted b f
      if a = 0 then .ok (.finite (s != t) 0 0, 0, common)
      else if gap > precision then .error .invalid
      else
        let m := scaled a e common
        if gap < 0 then .ok (.finite (s != t) 0 0, m, common)
        else
          let n := scaled b f common
          if m / n ≥ Nat.pow 10 precision then .error .invalid
          else .ok (.finite (s != t) (m / n) 0, m % n, common)
  | _, _ => .error .invalid

/-- The remainder of the division toward zero. Division by zero and by far too small a number has
no remainder. -/
def remainder (x y : Decimal) : Except Trap Decimal :=
  match quiet x y with
  | some r => r
  | none => match divideWhole x y with
    | .ok (_, r, e) => fit x.isNegative r e
    | .error _ => .error .invalid

def quotient (x y : Decimal) : Except Trap Decimal :=
  match quiet x y with
  | some r => r
  | none => match x, y with
    | .infinite s, .finite t _ _ => .ok (.infinite (s != t))
    | _, _ => (divideWhole x y).map (·.1)

private def isWhole (coefficient : Nat) (exponent : Int) : Bool :=
  0 ≤ exponent || (-exponent < digitCount coefficient
    && coefficient % Nat.pow 10 (-exponent).toNat == 0)

private def isOdd (coefficient : Nat) (exponent : Int) : Bool :=
  coefficient != 0 && exponent ≤ 0 && coefficient / Nat.pow 10 (-exponent).toNat % 2 == 1

/-- How a positive number compares with one. -/
private def compareOne (coefficient : Nat) (exponent : Int) : Ordering :=
  match compare (adjusted coefficient exponent) 0 with
  | .eq => compare coefficient (Nat.pow 10 (-exponent).toNat)
  | o => o

/-- A power by squaring, with every product cut to so many digits. -/
private def wholePower (digits a : Nat) (e : Int) (n : Nat) : Nat × Int :=
  if n ≤ 1 then (a, e)
  else
    let (b, f) := wholePower digits a e (n / 2)
    let (b, f) := rounded digits (b * b) (2 * f)
    if n % 2 = 1 then rounded digits (b * a) (f + e) else (b, f)
termination_by n

/-- A power of a positive number other than one by a whole exponent other than zero. -/
private def powerBy (negative : Bool) (a : Nat) (e : Int) (inverse : Bool) (b : Nat) (f : Int) :
    Except Trap Decimal :=
  if 40 < adjusted b f then
    if (compareOne a e == .gt) != inverse then .error .overflow
    else .ok (.finite negative 0 leastExponent)
  else
    let digits := precision + (digitCount b + f).toNat + (if inverse then 3 else 2)
    let (a, e) := if inverse then ratio digits 1 0 a e else (a, e)
    let n := if 0 ≤ f then b * Nat.pow 10 f.toNat else b / Nat.pow 10 (-f).toNat
    let (c, k) := wholePower digits a e n
    fit negative c k

/-- A power. Of fractional exponents only those of zero, one and infinity have one here. -/
def power (x y : Decimal) : Except Trap Decimal :=
  match quiet x y with
  | some r => r
  | none =>
    let whole := match y with
      | .finite _ b f => b = 0 || isWhole b f
      | _ => false
    let negative := x.isNegative && match y with
      | .finite _ b f => whole && isOdd b f
      | _ => false
    if x.isZero then
      if y.isZero then .error .invalid
      else .ok (if y.isNegative then .infinite negative else .finite negative 0 0)
    else if x.isNegative && !whole then .error .invalid
    else match x, y with
      | .finite _ a e, .infinite t => match compareOne a e with
        | .eq => .ok (.finite false (Nat.pow 10 (precision - 1)) (1 - precision))
        | o => .ok (if (o == .gt) != t then .infinite false else .finite false 0 0)
      | .infinite _, y =>
        .ok (if y.isZero then .finite false 1 0
          else if y.isNegative then .finite negative 0 0 else .infinite negative)
      | .finite _ a e, .finite t b f =>
        if b = 0 then .ok (.finite false 1 0)
        else if compareOne a e = .eq then
          let zeros := if !whole then precision - 1 else if t then 0
            else if 40 < adjusted b f then (if e = 0 then 0 else precision - 1)
            else min (b * Nat.pow 10 f.toNat / Nat.pow 10 (-f).toNat * (-e).toNat) (precision - 1)
          .ok (.finite negative (Nat.pow 10 zeros) (-zeros))
        else if whole then powerBy negative a e t b f
        else .error .invalid
      | _, _ => .error .invalid

private def exponentOf (t : Text) : Option Int :=
  match t with
  | [] => none
  | 43 :: rest => (Text.decimalNumeral? rest).map Int.ofNat
  | 45 :: rest => (Text.decimalNumeral? rest).map fun n => -(n : Int)
  | t => (Text.decimalNumeral? t).map Int.ofNat

private def ofUnsigned? (negative : Bool) (t : Text) : Option Decimal :=
  if t = "inf" ∨ t = "infinity" then some (.infinite negative)
  else if Text.isPrefix "nan" t ∧ (t.drop 3).all Text.isDecimal then
    some (.notANumber negative false (t.drop 3))
  else if Text.isPrefix "snan" t ∧ (t.drop 4).all Text.isDecimal then
    some (.notANumber negative true (t.drop 4))
  else
    let number := t.takeWhile (· != 101)
    let rest := t.dropWhile (· != 101)
    let whole := number.takeWhile (· != 46)
    let fraction := (number.dropWhile (· != 46)).drop 1
    let e : Option Int := if rest.isEmpty then some 0 else exponentOf (rest.drop 1)
    match Text.decimalNumeral? (whole ++ fraction), e with
    | some n, some e => some (.finite negative n (e - fraction.length))
    | _, _ => none

/-- Reads a decimal numeral, an infinity or a word for no number, in any letter case. -/
def parse? (t : Text) : Option Decimal :=
  match Text.lowerAscii ((Text.strip t).filter (· != 95)) with
  | 43 :: rest => ofUnsigned? false rest
  | 45 :: rest => ofUnsigned? true rest
  | t => ofUnsigned? false t

end Decimal
end Phrasebook
