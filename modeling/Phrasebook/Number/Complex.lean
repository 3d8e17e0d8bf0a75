import Phrasebook.Number.FloatText
/-!
Complex numbers over doubles, as far as powers of negative numbers and imaginary literals need
them.
-/
namespace Phrasebook

structure Complex where
  re : Float
  im : Float

namespace Complex

def ofFloat (x : Float) : Complex := ⟨x, 0⟩

def add (a b : Complex) : Complex := ⟨a.re + b.re, a.im + b.im⟩

def subtract (a b : Complex) : Complex := ⟨a.re - b.re, a.im - b.im⟩

def multiply (a b : Complex) : Complex :=
  ⟨a.re * b.re - a.im * b.im, a.re * b.im + a.im * b.re⟩

def negate (a : Complex) : Complex := ⟨-a.re, -a.im⟩

def isZero (a : Complex) : Bool := a.re == 0 && a.im == 0

def same (a b : Complex) : Bool := a.re == b.re && a.im == b.im

/-- The quotient, scaled by the larger part of the divisor; `none` for a zero divisor. -/
def divide? (a b : Complex) : Option Complex :=
  if b.isZero then none
  else if b.im.abs ≤ b.re.abs then
    let ratio := b.im / b.re
    let denom := b.re + b.im * ratio
    some ⟨(a.re + a.im * ratio) / denom, (a.im - a.re * ratio) / denom⟩
  else if b.re.abs ≤ b.im.abs then
    let ratio := b.re / b.im
    let denom := b.re * ratio + b.im
    some ⟨(a.re * ratio + a.im) / denom, (a.im * ratio - a.re) / denom⟩
  else some ⟨Binary.nan, Binary.nan⟩

private def powerNat (a : Complex) : Nat → Nat → Complex → Complex → Complex
  | 0, _, _, r => r
  | fuel + 1, n, p, r =>
    if n = 0 then r
    else powerNat a fuel (n / 2) (p.multiply p) (if n % 2 = 1 then r.multiply p else r)

def length (a : Complex) : Float :=
  if a.im == 0 then a.re.abs else if a.re == 0 then a.im.abs
  else (a.re * a.re + a.im * a.im).sqrt

/-- Powers by whole exponents up to a hundred are products, all others go through the polar form.
`none` is a zero base under a negative or complex exponent. -/
def power? (a b : Complex) : Option Complex :=
  if b.im == 0 && b.re.abs ≤ 100 && b.re.floor == b.re then
    let n := ((Binary.toInt? b.re).getD 0)
    let p := powerNat a 8 n.natAbs a ⟨1, 0⟩
    if n < 0 then divide? ⟨1, 0⟩ p else some p
  else if a.isZero then
    if b.im != 0 || b.re < 0 then none else some ⟨0, 0⟩
  else
    let angle := Float.atan2 a.im a.re
    let size := Float.pow a.length b.re
    let size := if b.im != 0 then size / Float.exp (angle * b.im) else size
    let phase := angle * b.re
    let phase := if b.im != 0 then phase + b.im * Float.log a.length else phase
    some ⟨size * Float.cos phase, size * Float.sin phase⟩

private def part (x : Float) : Text :=
  let t := (FloatLayout.shortest false).write x
  if t.fraction = ".0" then { t with fraction := [] }.toText else t.toText

/-- The imaginary part alone when the real part is a positive zero, else both in parentheses. -/
def toText (a : Complex) : Text :=
  if a.re == 0 && !Binary.isNegative a.re then part a.im ++ "j"
  else
    let im := part a.im
    "(" ++ part a.re ++ (if im.head? = some 45 then im else 43 :: im) ++ "j)"

end Complex
end Phrasebook
