import Phrasebook.Fault
import Phrasebook.Number.Decimal
import Phrasebook.Number.Binary
/-!
Plural rules. A rule maps a count to the index of a word form; counts are integers, doubles or
decimals, and a count of another kind fails where a rule has to compute with it.
-/
namespace Phrasebook

inductive PluralRule where
  | english | french | russian | czech | polish | icelandic | chinese | arabic
  deriving DecidableEq

inductive Count where
  | int (n : Int)
  | real (x : Float)
  | decimal (d : Decimal)
  | other

namespace Count

/-- The remainder by a positive number, never negative for integers and doubles. -/
def modulo (c : Count) (m : Nat) : Except Fault Count :=
  match c with
  | .int n => .ok (.int (n % m))
  | .real x => .ok (.real (Binary.floorRemainder x (Binary.ofNat m)))
  | .decimal d => match d.remainder (Decimal.ofInt m) with
    | .ok r => .ok (.decimal r)
    | .error _ => .error (.unworded .arithmetic)
  | .other => .error .type

private def isSignaling : Decimal → Bool
  | .notANumber _ signaling _ => signaling
  | _ => false

def equals (c : Count) (m : Nat) : Except Fault Bool :=
  match c with
  | .int n => .ok (n == m)
  | .real x => .ok (Binary.compareInt? x m == some .eq)
  | .decimal d =>
    if isSignaling d then .error (.unworded .arithmetic)
    else .ok (d.compare? (Decimal.ofInt m) == some .eq)
  | .other => .ok false

/-- The order of the count and a number; `none` when a double has none. -/
def order (c : Count) (m : Nat) : Except Fault (Option Ordering) :=
  match c with
  | .int n => .ok (some (compare n m))
  | .real x => .ok (Binary.compareInt? x m)
  | .decimal d => match d.compare? (Decimal.ofInt m) with
    | some o => .ok (some o)
    | none => .error (.unworded .arithmetic)
  | .other => .error .type

def atMost (c : Count) (m : Nat) : Except Fault Bool :=
  (c.order m).map fun o => o == some .lt || o == some .eq

def atLeast (c : Count) (m : Nat) : Except Fault Bool :=
  (c.order m).map fun o => o == some .gt || o == some .eq

def above (c : Count) (m : Nat) : Except Fault Bool := (c.order m).map fun o => o == some .gt

def below (c : Count) (m : Nat) : Except Fault Bool := (c.order m).map fun o => o == some .lt

/-- Whether the count lies in an interval; the upper end is looked at only past the lower. -/
def within (c : Count) (low high : Nat) : Except Fault Bool := do
  if ← c.atLeast low then c.atMost high else pure false

end Count

namespace PluralRule

def all : List PluralRule :=
  [.english, .french, .russian, .czech, .polish, .icelandic, .chinese, .arabic]

def label : PluralRule → Text
  | .english => "english" | .french => "french" | .russian => "russian" | .czech => "czech"
  | .polish => "polish" | .icelandic => "icelandic" | .chinese => "chinese"
  | .arabic => "arabic"

def ofLabel? (t : Text) : Option PluralRule := all.find? fun r => r.label == t

/-- Units two to four outside the teens. -/
def isFew (c : Count) : Except Fault Bool := do
  if ← (← c.modulo 10).within 2 4 then
    let tens ← c.modulo 100
    if ← tens.atLeast 10 then pure (!(← tens.below 20)) else pure true
  else pure false

def unitOne (c : Count) : Except Fault Bool := do
  if ← (← c.modulo 10).equals 1 then pure (!(← (← c.modulo 100).equals 11)) else pure false

def arabicIndex (c : Count) : Except Fault Nat := do
  if ← c.equals 0 then pure 0
  else if ← c.equals 1 then pure 1
  else if ← c.equals 2 then pure 2
  else if ← (← c.modulo 100).atMost 10 then pure 3
  else if ← c.atLeast 11 then
    if ← (← c.modulo 100).atMost 99 then pure 4 else pure 5
  else pure 5

def index (rule : PluralRule) (c : Count) : Except Fault Nat :=
  match rule with
  | .english => do if ← c.equals 1 then pure 0 else pure 1
  | .french => do if ← c.above 1 then pure 1 else pure 0
  | .russian => do
    if ← unitOne c then pure 0 else if ← isFew c then pure 1 else pure 2
  | .czech => do
    if ← c.equals 1 then pure 0 else if ← c.within 2 4 then pure 1 else pure 2
  | .polish => do
    if ← c.equals 1 then pure 0 else if ← isFew c then pure 1 else pure 2
  | .icelandic => do if ← unitOne c then pure 0 else pure 1
  | .chinese => pure 0
  | .arabic => arabicIndex c

end PluralRule
end Phrasebook
