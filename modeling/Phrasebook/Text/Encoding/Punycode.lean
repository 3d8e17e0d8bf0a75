import Phrasebook.Text.Encoding.Treatment
/-!
Texts as ASCII: the ASCII characters first, and then where the others have to be inserted, as
numbers in base thirty-six whose digits have adaptive thresholds.
-/
namespace Phrasebook.Encoding.Punycode

private def threshold (place bias : Nat) : Nat :=
  let t : Int := 36 * (place + 1 : Int) - bias
  if t < 1 then 1 else if 26 < t then 26 else t.toNat

private def digit (n : Nat) : Nat := if n < 26 then 97 + n else 22 + n

private def digitValue? (b : Nat) : Option Nat :=
  if 65 ≤ b ∧ b ≤ 90 then some (b - 65) else if 97 ≤ b ∧ b ≤ 122 then some (b - 97)
  else if 48 ≤ b ∧ b ≤ 57 then some (b - 22) else none

private def numeral (bias : Nat) : Nat → Nat → Nat → List Nat
  | 0, _, _ => []
  | fuel + 1, place, n =>
    let t := threshold place bias
    if n < t then [digit n]
    else digit (t + (n - t) % (36 - t)) :: numeral bias fuel (place + 1) ((n - t) / (36 - t))

private def shrink (delta divisions : Nat) : Nat → Nat × Nat
  | 0 => (delta, divisions)
  | fuel + 1 =>
    if 455 < delta then shrink (delta / 35) (divisions + 36) fuel else (delta, divisions)

private def adapt (delta : Nat) (isFirst : Bool) (count : Nat) : Nat :=
  let delta := if isFirst then delta / 700 else delta / 2
  let delta := delta + delta / count
  let (delta, divisions) := shrink delta 0 delta
  divisions + 36 * delta / (delta + 38)

/-- The numbers that insert the occurrences of one character, given what is counted since the last
insertion. -/
private def deltasOf (c : Code) (delta : Nat) : Text → List Nat × Nat
  | [] => ([], delta)
  | x :: rest =>
    if x = c then
      let (more, left) := deltasOf c 0 rest
      (delta :: more, left)
    else deltasOf c (if x < c then delta + 1 else delta) rest

/-- The numbers of all insertions, by ascending characters from `next` on. -/
private def deltas (t : Text) (next delta : Nat) : List Code → List Nat
  | [] => []
  | c :: rest =>
    let below := (t.filter (· < c)).length
    let (own, left) := deltasOf c (delta + (below + 1) * (c - next)) t
    own ++ deltas t (c + 1) (left + 1) rest

private def numerals (count : Nat) (bias : Nat) (isFirst : Bool) : List Nat → List Nat
  | [] => []
  | delta :: rest =>
    numeral bias (delta + 1) 0 delta
      ++ numerals (count + 1) (adapt delta isFirst (count + 1)) false rest

private def distinct : List Code → List Code
  | a :: b :: rest => if a = b then distinct (b :: rest) else a :: distinct (b :: rest)
  | xs => xs

def encode (t : Text) : List Nat :=
  let base := t.filter (· < 128)
  let others := distinct ((t.filter (128 ≤ ·)).mergeSort (· ≤ ·))
  let code := numerals base.length 72 true (deltas t 128 0 others)
  if base.isEmpty then code else base ++ 45 :: code

/-- The number at the front, and the digits behind it. -/
private def number? (bias : Nat) : Nat → Nat → Nat → List Nat → Option (Nat × List Nat)
  | _, _, _, [] => none
  | place, weight, n, b :: rest => do
    let d ← digitValue? b
    let t := threshold place bias
    let n := n + d * weight
    if d < t then some (n, rest) else number? bias (place + 1) (weight * (36 - t)) n rest

/-- Inserts characters as long as there are numbers. A lenient reading stops at what is no number
and puts a question mark for a character that does not exist. -/
private def insertFrom (lenient : Bool) (isFirst : Bool) (bias : Nat) (c position : Nat) :
    Nat → Text → List Nat → Option Text
  | 0, out, _ => some out
  | _ + 1, out, [] => some out
  | fuel + 1, out, digits =>
    match number? bias 0 1 0 digits with
    | none => if lenient then some out else none
    | some (delta, rest) =>
      let size := out.length + 1
      let position := position + delta
      let c := c + position / size
      if 0x10ffff < c ∧ !lenient then none
      else
        let c := if 0x10ffff < c then 63 else c
        let i := position % size
        let out := out.take i ++ c :: out.drop i
        insertFrom lenient false (adapt delta isFirst size) c (i + 1) fuel out rest

/-- The text that ASCII characters stand for; the last minus sign ends those that stand for
themselves. -/
def decode (lenient : Bool) (base code : Text) : Option Text :=
  insertFrom lenient true 72 128 0 code.length base code

end Phrasebook.Encoding.Punycode
