import Phrasebook.Number.FloatText
/-!
Time budgets in seconds, whole or fractional as they were given.
-/
namespace Phrasebook

inductive Duration where
  | whole (seconds : Int)
  | real (seconds : Float)

namespace Duration

def isPositive : Duration → Bool
  | .whole n => 0 < n
  | .real x => !(x ≤ 0)

def toText : Duration → Text
  | .whole n => Text.ofInt n
  | .real x => Binary.toText x

/-- The budget in milliseconds, with at most six digits. -/
def millisecondsText : Duration → Text
  | .whole n => Binary.generalText (Binary.ofInt (n * 1000))
  | .real x => Binary.generalText (x * 1000)

/-- Microseconds, rounded down; `none` for a budget without end. -/
def microseconds? : Duration → Option Nat
  | .whole n => some (n * 1000000).toNat
  | .real x => (Binary.truncate? (x * 1000000)).map Int.toNat

end Duration
end Phrasebook
