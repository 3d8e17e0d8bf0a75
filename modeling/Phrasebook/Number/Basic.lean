import Phrasebook.Fault
import Phrasebook.Number.Complex
import Phrasebook.Number.Decimal
/-!
Numbers of every kind: integers, doubles, complex numbers and decimals. Equality and order compare
exact values across kinds.
-/
namespace Phrasebook

inductive Number where
  | int (n : Int)
  | float (x : Float)
  | complex (z : Complex)
  | decimal (d : Decimal)

namespace Number

def isZero : Number → Bool
  | .int n => n == 0
  | .float x => x == 0
  | .complex z => z.isZero
  | .decimal d => d.isZero

private def signals : Decimal → Bool
  | .notANumber _ signaling _ => signaling
  | _ => false

def sameDecimal (a b : Decimal) : Except Fault Bool :=
  if signals a || signals b then .error (.unworded .arithmetic)
  else .ok (a.compare? b == some .eq)

/-- Whether two numbers have one value. Only a signaling decimal cannot be compared. -/
def same : Number → Number → Except Fault Bool
  | .int a, .int b => .ok (a == b)
  | .int a, .float b => .ok (Binary.compareInt? b a == some .eq)
  | .float a, .int b => .ok (Binary.compareInt? a b == some .eq)
  | .float a, .float b => .ok (a == b)
  | .complex a, .complex b => .ok (a.same b)
  | .complex a, .int b => .ok (a.im == 0 && Binary.compareInt? a.re b == some .eq)
  | .int a, .complex b => .ok (b.im == 0 && Binary.compareInt? b.re a == some .eq)
  | .complex a, .float b => .ok (a.im == 0 && a.re == b)
  | .float a, .complex b => .ok (b.im == 0 && b.re == a)
  | .decimal a, .decimal b => sameDecimal a b
  | .decimal a, .int b => sameDecimal a (Decimal.ofInt b)
  | .int a, .decimal b => sameDecimal (Decimal.ofInt a) b
  | .decimal a, .float b => sameDecimal a (Decimal.ofFloat b)
  | .float a, .decimal b => sameDecimal (Decimal.ofFloat a) b
  | .decimal a, .complex b =>
    if b.im == 0 then sameDecimal a (Decimal.ofFloat b.re) else .ok false
  | .complex a, .decimal b =>
    if a.im == 0 then sameDecimal (Decimal.ofFloat a.re) b else .ok false

def orderDecimal (a b : Decimal) : Except Fault (Option Ordering) :=
  match a.compare? b with
  | some o => .ok (some o)
  | none => .error (.unworded .arithmetic)

private def orderFloat (a b : Float) : Option Ordering :=
  if a < b then some .lt else if b < a then some .gt else if a == b then some .eq else none

/-- The order of two numbers, `none` for a double that has none. Complex numbers are not
ordered. -/
def order : Number → Number → Except Fault (Option Ordering)
  | .int a, .int b => .ok (some (compare a b))
  | .int a, .float b => .ok ((Binary.compareInt? b a).map Ordering.swap)
  | .float a, .int b => .ok (Binary.compareInt? a b)
  | .float a, .float b => .ok (orderFloat a b)
  | .decimal a, .decimal b => orderDecimal a b
  | .decimal a, .int b => orderDecimal a (Decimal.ofInt b)
  | .int a, .decimal b => orderDecimal (Decimal.ofInt a) b
  | .decimal a, .float b => orderDecimal a (Decimal.ofFloat b)
  | .float a, .decimal b => orderDecimal (Decimal.ofFloat a) b
  | .complex _, _ | _, .complex _ => .error .type

/-- The most digits an integer may have to be written in decimal or read back. -/
def maxDigits : Nat := 4300

/-- The decimal numeral of an integer that is not too long. -/
def intText (n : Int) : Except Fault Text :=
  if Nat.pow 10 maxDigits ≤ n.natAbs then .error .value else .ok (Text.ofInt n)

def toText : Number → Except Fault Text
  | .int n => intText n
  | .float x => .ok (Binary.toText x)
  | .complex z => .ok z.toText
  | .decimal d => .ok d.toText

/-- The number as a double; an integer may be too large for one. -/
def toFloat : Int → Except Fault Float := fun n =>
  let x := Binary.ofInt n
  if Binary.isFinite x then .ok x else .error (.unworded .overflow)

end Number
end Phrasebook
