import Phrasebook.Number.Places
import Phrasebook.OrderedMap
/-!
A cache of the keys of locales, which counts how often it answers.
-/
namespace Phrasebook

structure KeyCache where
  entries : OrderedMap (List Text) := []
  hits : Nat := 0
  misses : Nat := 0
  invalidations : Nat := 0

namespace KeyCache

/-- The keys of a locale, if they are known; either way the question is counted. -/
def get (c : KeyCache) (locale : Text) : Option (List Text) × KeyCache :=
  match c.entries.get? locale with
  | some keys => (some keys, { c with hits := c.hits + 1 })
  | none => (none, { c with misses := c.misses + 1 })

def put (c : KeyCache) (locale : Text) (keys : List Text) : KeyCache :=
  { c with entries := c.entries.insert locale keys }

def invalidate (c : KeyCache) (locale : Text) : Bool × KeyCache :=
  if c.entries.has locale then
    (true, { c with
      entries := c.entries.erase locale
      invalidations := c.invalidations + 1 })
  else (false, c)

def clear (_ : KeyCache) : KeyCache := {}

def size (c : KeyCache) : Nat := c.entries.length

/-- The share of hits as a percentage, to two places. -/
def hitRate (c : KeyCache) : Float :=
  let total := c.hits + c.misses
  if total = 0 then 0
  else
    let rate := Binary.ofRatio false c.hits total * 100
    match Binary.decode rate with
    | .finite d =>
      let (num, den) := Binary.ratioOf d.mantissa d.exponent
      Binary.ofRatio d.negative (Places.fixed num den 2) 100
    | _ => rate

end KeyCache
end Phrasebook
