import Phrasebook.Sorting.Runs
import Phrasebook.Value.Identity
/-!
Equality, order, membership and sorting. Items of containers count as equal also when they are
identical. A bound on the nesting stops comparisons of containers that hold themselves. Sorting is by
keys, and what is sorted is the positions of the values.
-/
namespace Phrasebook

namespace Heap

def view (h : Heap) (part : DictPart) (r : Nat) : List Value :=
  match part with
  | .keys => (h.dict r).map (·.1)
  | .values => (h.dict r).map (·.2)
  | .items => (h.dict r).map fun e => .ofItems [e.1, e.2]

end Heap

namespace Value

/-- Containers nested deeper are not compared or written. -/
def nestingLimit : Nat := 900

/-- The items of sets and of views that act as sets. -/
def setItems? (h : Heap) : Value → Option (List Value)
  | set r => some (h.set r)
  | view .keys r _ => some (h.view .keys r)
  | view .items r _ => some (h.view .items r)
  | _ => Option.none

/-- Whether all items satisfy a test that may fail. -/
def allM (p : Value → Except Fault Bool) : List Value → Except Fault Bool
  | [] => .ok true
  | x :: rest => do if ← p x then allM p rest else pure false

def anyM (p : Value → Except Fault Bool) : List Value → Except Fault Bool
  | [] => .ok false
  | x :: rest => do if ← p x then pure true else anyM p rest

/-- Compares two sequences item by item. -/
def allPairs (p : Value → Value → Except Fault Bool) :
    List Value → List Value → Except Fault Bool
  | [], [] => .ok true
  | x :: xs, y :: ys => do if ← p x y then allPairs p xs ys else pure false
  | _, _ => .ok false

/-- Equality of items: identity suffices. -/
def sameItemBy (same : Value → Value → Except Fault Bool) (a b : Value) : Except Fault Bool :=
  if a.identical b then .ok true else same a b

def sameEntries (same : Value → Value → Except Fault Bool) (m n : Entries) :
    Entries → Except Fault Bool
  | [] => .ok (m.length == n.length)
  | e :: rest => do
    match n.find? e.1 with
    | some v => if ← sameItemBy same v e.2 then sameEntries same m n rest else pure false
    | .none => pure false

def sameFields (same : Value → Value → Except Fault Bool) (m n : OrderedMap Value) :
    OrderedMap Value → Except Fault Bool
  | [] => .ok (m.length == n.length)
  | e :: rest => do
    match n.get? e.1 with
    | some v => if ← sameItemBy same v e.2 then sameFields same m n rest else pure false
    | .none => pure false

/-- Whether a set, or a view that acts as one, holds an item. -/
def setHolds (same : Value → Value → Except Fault Bool) (h : Heap) (container item : Value) :
    Except Fault Bool :=
  match container with
  | set r => if item.isHashable then .ok ((h.set r).any (·.sameKey item)) else .error .type
  | view .keys r _ =>
    if item.isHashable then .ok (Entries.has (h.dict r) item) else .error .type
  | view .items r _ => match item with
    | tuple [key, value] _ =>
      if key.isHashable then match Entries.find? (h.dict r) key with
        | some v => sameItemBy same v value
        | .none => .ok false
      else .error .type
    | _ => .ok false
  | _ => .error .type

def isSet : Value → Bool
  | set _ => true
  | _ => false

/-- Whether the items of one set are those of another, in which they are looked for. What is no set is
the same as itself. -/
def sameSets (same : Value → Value → Except Fault Bool) (h : Heap) (a b : Value) :
    Except Fault Bool :=
  match a.setItems? h, b.setItems? h with
  | some xs, some ys => if xs.length = ys.length then allM (setHolds same h b) xs else .ok false
  | _, _ => .ok (a.identical b)

/-- Equality of numbers, and of sets and views. Of a set and a view it is the view that looks for its
items in the other. -/
def sameOther (same : Value → Value → Except Fault Bool) (h : Heap) (a b : Value) :
    Except Fault Bool :=
  match a.number?, b.number? with
  | some m, some n => m.same n
  | _, _ => if isSet a && !isSet b then sameSets same h b a else sameSets same h a b

/-- Equality within a bound on the nesting. -/
def sameWithin (h : Heap) : Nat → Value → Value → Except Fault Bool
  | 0, _, _ => .error (.unworded .recursion)
  | fuel + 1, a, b =>
    match a, b with
    | text s _, text t _ => .ok (s == t)
    | bytes s _, bytes t _ => .ok (s == t)
    | date y m d, date y' m' d' => .ok (y == y' && m == m' && d == d')
    | tuple xs _, tuple ys _ =>
      if xs.length = ys.length then allPairs (sameItemBy (sameWithin h fuel)) xs ys
      else .ok false
    | list r, list s =>
      if (h.list r).length = (h.list s).length then
        allPairs (sameItemBy (sameWithin h fuel)) (h.list r) (h.list s)
      else .ok false
    | dict r, dict s =>
      if (h.dict r).length = (h.dict s).length then
        sameEntries (sameWithin h fuel) (h.dict r) (h.dict s) (h.dict r)
      else .ok false
    | object r, object s =>
      if r = s then .ok true
      else sameFields (sameWithin h fuel) (h.object r) (h.object s) (h.object r)
    | slice a b c _, slice x y z _ =>
      allPairs (sameItemBy (sameWithin h fuel)) [a, b, c] [x, y, z]
    | method a x _, method b y _ => .ok (x == y && a.identical b)
    | a, b => sameOther (sameWithin h fuel) h a b

def same (h : Heap) (a b : Value) : Except Fault Bool := sameWithin h nestingLimit a b

def sameItem (h : Heap) (a b : Value) : Except Fault Bool := sameItemBy (same h) a b

inductive Comparison where
  | less | lessEq | greater | greaterEq
  deriving DecidableEq

namespace Comparison

def holds : Comparison → Ordering → Bool
  | .less, o => o == .lt
  | .lessEq, o => o != .gt
  | .greater, o => o == .gt
  | .greaterEq, o => o != .lt

end Comparison

def textOrder (s t : Text) : Ordering :=
  if Text.less s t then .lt else if Text.less t s then .gt else .eq

/-- Two sequences without their common beginning. -/
def dropCommon (h : Heap) : List Value → List Value →
    Except Fault (List Value × List Value)
  | x :: xs, y :: ys => do
    if ← sameItem h x y then dropCommon h xs ys else pure (x :: xs, y :: ys)
  | xs, ys => .ok (xs, ys)

/-- Inclusion of one set in another, proper or not. -/
def compareSets (h : Heap) (op : Comparison) (a b : Value) (xs ys : List Value) :
    Except Fault Bool :=
  let subset (items : List Value) (container : Value) : Except Fault Bool :=
    allM (setHolds (same h) h container) items
  match op with
  | .less => if xs.length < ys.length then subset xs b else .ok false
  | .lessEq => if xs.length ≤ ys.length then subset xs b else .ok false
  | .greater => if ys.length < xs.length then subset ys a else .ok false
  | .greaterEq => if ys.length ≤ xs.length then subset ys a else .ok false

/-- Order of numbers, and of sets and views by inclusion. -/
def compareOther (h : Heap) (op : Comparison) (a b : Value) : Except Fault Bool :=
  match a.number?, b.number? with
  | some m, some n => do
    match ← m.order n with
    | some o => pure (op.holds o)
    | .none => pure false
  | _, _ =>
    match a.setItems? h, b.setItems? h with
    | some xs, some ys => compareSets h op a b xs ys
    | _, _ => .error .type

/-- Sequences are ordered by their first difference, or by their lengths. -/
def compareSequences (compared : Value → Value → Except Fault Bool) (h : Heap) (op : Comparison)
    (xs ys : List Value) : Except Fault Bool := do
  match ← dropCommon h xs ys with
  | (x :: _, y :: _) => compared x y
  | (xs, ys) => pure (op.holds (compare xs.length ys.length))

/-- Order within a bound on the nesting. -/
def compareWithin (h : Heap) (op : Comparison) : Nat → Value → Value → Except Fault Bool
  | 0, _, _ => .error (.unworded .recursion)
  | fuel + 1, a, b =>
    match a, b with
    | text s _, text t _ => .ok (op.holds (textOrder s t))
    | bytes s _, bytes t _ =>
      .ok (op.holds (textOrder (s.map (·.toNat)) (t.map (·.toNat))))
    | tuple xs _, tuple ys _ => compareSequences (compareWithin h op fuel) h op xs ys
    | list r, list s => compareSequences (compareWithin h op fuel) h op (h.list r) (h.list s)
    | a, b => compareOther h op a b

def compareBy (h : Heap) (op : Comparison) (a b : Value) : Except Fault Bool :=
  compareWithin h op nestingLimit a b

def contains (h : Heap) (container item : Value) : Except Fault Bool :=
  match container with
  | text t _ => match item with
    | text s _ => .ok (Text.isInfix s t)
    | _ => .error .type
  | bytes bs _ => match item with
    | bytes s _ => .ok (Text.isInfix (s.map (·.toNat)) (bs.map (·.toNat)))
    | item => match item.int? with
      | some n => if 0 ≤ n ∧ n < 256 then .ok (bs.any fun b => (b.toNat : Int) == n)
        else .error .value
      | .none => .error .type
  | tuple xs _ => anyM (sameItem h item) xs
  | list r => anyM (sameItem h item) (h.list r)
  | view .values r _ => anyM (sameItem h item) (h.view .values r)
  | dict r => if item.isHashable then .ok (Entries.has (h.dict r) item) else .error .type
  | set r => match item with
    | set s => .ok ((h.set r).any fun x => x.identical (set s))
    | item => setHolds (same h) h (set r) item
  | container => setHolds (same h) h container item

structure Keyed where
  key : Value
  value : Value

def itemAtPosition (xs : Array Value) (i : Nat) : Value := (xs[i]?).getD none

/-- Sorts by key; items with equal keys keep their order, also when the order is reversed. -/
def sortKeyed (h : Heap) (reverse : Bool) (xs : List Keyed) : List Value × Option Fault :=
  let keys := (xs.map Keyed.key).toArray
  let values := (xs.map Keyed.value).toArray
  let less (i j : Nat) : Except Fault Bool :=
    compareBy h .less (itemAtPosition keys i) (itemAtPosition keys j)
  let positions := List.range xs.length
  let sorted := Sorting.sort less (if reverse then positions.reverse else positions)
  ((if reverse then sorted.items.reverse else sorted.items).map (itemAtPosition values), sorted.fault)

end Value
end Phrasebook
