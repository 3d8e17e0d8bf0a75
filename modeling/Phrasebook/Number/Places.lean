import Phrasebook.Number.Binary
/-!
Decimal digits of exact fractions: a given number of places, a given number of significant digits,
and the fewest digits that read back as the same double.
-/
namespace Phrasebook

/-- The value `digits · 10 ^ (exponent - count + 1)`: `exponent` belongs to the leading digit and
`count` is the number of digits. -/
structure Significand where
  digits : Nat
  count : Nat
  exponent : Int

namespace Places

def scale (num den : Nat) (places : Int) : Nat × Nat :=
  if 0 ≤ places then (num * Nat.pow 10 places.toNat, den) else (num, den * Nat.pow 10 (-places).toNat)

/-- The fraction in units of `10 ^ -places`, a half going to the even neighbour. -/
def fixed (num den : Nat) (places : Int) : Nat :=
  let (n, d) := scale num den places
  Binary.roundDiv n d

private def atLeastPower (num den : Nat) (e : Int) : Bool :=
  let (n, d) := scale num den (-e)
  d ≤ n

private def settle (num den : Nat) : Nat → Int → Int
  | 0, e => e
  | fuel + 1, e =>
    if !atLeastPower num den e then settle num den fuel (e - 1)
    else if atLeastPower num den (e + 1) then settle num den fuel (e + 1)
    else e

def leading (num den : Nat) : Int :=
  let bits : Int := (num.log2 : Int) - (den.log2 : Int)
  settle num den 8 (bits * 30103 / 100000)

/-- Rounded to `count` significant digits; zero has zeros only. -/
def significant (num den count : Nat) : Significand :=
  if num = 0 then ⟨0, count, 0⟩
  else
    let e := leading num den
    let q := fixed num den ((count : Int) - 1 - e)
    if q = Nat.pow 10 count then ⟨Nat.pow 10 (count - 1), count, e + 1⟩ else ⟨q, count, e⟩

private def readsBack (bits : UInt64) (digits : Nat) (places : Int) : Bool :=
  let (n, d) := scale digits 1 (-places)
  (Binary.ofRatio false n d).toBits == bits

/-- Of the two grid neighbours of the fraction the nearer one that reads back; of two as near the
even one. -/
private def gridHit? (bits : UInt64) (num den : Nat) (places : Int) : Option Nat :=
  let (n, d) := scale num den places
  let low := n / d
  let high := low + 1
  match readsBack bits low places, readsBack bits high places with
  | true, true => some (Binary.roundDiv n d)
  | true, false => some low
  | false, true => some high
  | false, false => none

private def shortestFrom (bits : UInt64) (num den : Nat) (e : Int) : Nat → Nat → Significand
  | 0, count => significant num den count
  | fuel + 1, count =>
    match gridHit? bits num den ((count : Int) - 1 - e) with
    | some q => if q = Nat.pow 10 count then ⟨1, 1, e + 1⟩ else ⟨q, count, e⟩
    | none => shortestFrom bits num den e fuel (count + 1)

/-- The fewest digits that read back as the double with these bits and this positive value. -/
def shortest (bits : UInt64) (num den : Nat) : Significand :=
  shortestFrom bits num den (leading num den) 17 1

end Places
end Phrasebook
