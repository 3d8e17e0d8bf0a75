import Phrasebook.Method.Call
import Phrasebook.Value.Compare
/-!
Methods of lists, tuples, dictionaries and sets. What a method changes before it fails stays changed.
-/
namespace Phrasebook.Method

/-- The entries that the argument of an update stands for: those of a dictionary, or pairs. With
entries that cannot be read or inserted, those before them and the fault. -/
def pairsOf (h : Heap) (out : Entries) : List Value → Entries × Option Fault
  | [] => (out, none)
  | item :: rest => match item.items h with
    | .ok [key, value] =>
      if key.isHashable then pairsOf h (out.insert key value) rest
      else (out, some .type)
    | .ok _ => (out, some .value)
    | .error f => (out, some f)

def updatePairs (h : Heap) (m : Entries) (source : Value) : Entries × Option Fault :=
  match source.items h with
  | .ok items => pairsOf h m items
  | .error f => (m, some f)

def updateEntries (h : Heap) (m : Entries) (source : Value) : Entries × Option Fault :=
  match source with
  | .dict r => (m.insertAll (h.dict r), none)
  | v => updatePairs h m v

def occurrences (h : Heap) (x : Value) : List Value → Except Fault Nat
  | [] => .ok 0
  | y :: rest => do
    let n ← occurrences h x rest
    pure (if ← Value.sameItem h y x then n + 1 else n)

def indexFrom (h : Heap) (x : Value) (at_ last : Nat) : List Value → Except Fault Nat
  | [] => .error .value
  | y :: rest => do
    if last ≤ at_ then throw .value
    else if ← Value.sameItem h y x then pure at_
    else indexFrom h x (at_ + 1) last rest

def indexOf (h : Heap) (xs : List Value) (c : Call) : Except Fault Value := do
  match ← c.positional 1 3 with
  | x :: bounds =>
    let n : Int := xs.length
    let clip (i : Int) : Nat := (if i < 0 then i + n else i).toNat
    let bounds ← bounds.mapM Value.toPosition
    let first := clip (bounds.head?.getD 0)
    let last := clip (bounds[1]?.getD n)
    pure (.ofInt (← indexFrom h x first last (xs.drop first)))
  | _ => throw .type

def countOf (h : Heap) (xs : List Value) (c : Call) : Except Fault Value := do
  match ← c.positional 1 1 with
  | [x] => pure (.ofInt (← occurrences h x xs))
  | _ => throw .type

/-- The item at a position, which may be counted from the end, and the items without it. -/
def takeAt (xs : List Value) (i : Int) : Except Fault (Value × List Value) :=
  let i := if i < 0 then i + xs.length else i
  match if i < 0 then none else xs[i.toNat]? with
  | some x => .ok (x, xs.eraseIdx i.toNat)
  | none => .error (.unworded .index)

def popItem (xs : List Value) (c : Call) : Except Fault (Value × List Value) := do
  match ← c.positional 0 1 with
  | [v] => takeAt xs (← v.toInt)
  | _ => takeAt xs (-1)

def insertItem (xs : List Value) (c : Call) : Except Fault (List Value) := do
  match ← c.positional 2 2 with
  | [i, x] =>
    let i ← i.toInt
    let i := (if i < 0 then i + xs.length else i).toNat
    pure (xs.take i ++ x :: xs.drop i)
  | _ => throw .type

def removeItem (h : Heap) (x : Value) : List Value → Except Fault (List Value)
  | [] => .error .value
  | y :: rest => do
    if ← Value.sameItem h y x then pure rest else pure (y :: (← removeItem h x rest))

def one (c : Call) : Except Fault Value := do
  match ← c.positional 1 1 with
  | [x] => pure x
  | _ => throw .type

/-- Calls a method of a list, except sorting, which may call back. -/
def ofList (r : Nat) (name : Text) (c : Call) : Memory Value := do
  let h ← get
  let xs := h.list r
  let change (new : Except Fault (List Value)) : Memory Value := do
    Memory.writeList r (← ofExcept new)
    pure .none
  if name = "append" then change ((one c).map fun x => xs ++ [x])
  else if name = "extend" then
    change (do pure (xs ++ (← (← one c).items h)))
  else if name = "insert" then change (insertItem xs c)
  else if name = "remove" then change (do removeItem h (← one c) xs)
  else if name = "clear" then change (c.empty.map fun _ => [])
  else if name = "reverse" then change (c.empty.map fun _ => xs.reverse)
  else if name = "pop" then
    let (x, rest) ← ofExcept (popItem xs c)
    Memory.writeList r rest
    pure x
  else if name = "copy" then do
    ofExcept c.empty
    Memory.newList xs
  else if name = "count" then ofExcept (countOf h xs c)
  else if name = "index" then ofExcept (indexOf h xs c)
  else throw .type

def ofTuple (xs : List Value) (name : Text) (c : Call) : Memory Value := do
  let h ← get
  if name = "count" then ofExcept (countOf h xs c)
  else if name = "index" then ofExcept (indexOf h xs c)
  else throw .type

/-- A key with a default for when it is absent. -/
def keyed (c : Call) : Except Fault (Value × Option Value) := do
  match ← c.positional 1 2 with
  | key :: rest => if key.isHashable then pure (key, rest.head?) else throw .type
  | _ => throw .type

def getEntry (entries : Entries) (c : Call) : Except Fault Value := do
  let (key, default) ← keyed c
  pure ((entries.find? key).getD (default.getD .none))

/-- The value under a key, or the default, with the entries that are left. -/
def takeEntry (h : Heap) (entries : Entries) (key : Value) (default : Option Value) :
    Except Fault (Value × Entries) :=
  match entries.find? key, default with
  | some v, _ => .ok (v, entries.erase key)
  | none, some v => .ok (v, entries)
  | none, none => do throw (.missingKey (← Value.quoted h key))

/-- An empty dictionary does not look at the key. -/
def popEntry (h : Heap) (entries : Entries) (c : Call) : Except Fault (Value × Entries) :=
  if entries.isEmpty then do
    let args ← c.positional 1 2
    takeEntry h entries (args.head?.getD .none) args[1]?
  else do
    let (key, default) ← keyed c
    takeEntry h entries key default

/-- Entries updated from the arguments of an update, of which there is one at most. -/
def updateFrom (h : Heap) (entries : Entries) : List Value → Entries × Option Fault
  | v :: _ => updateEntries h entries v
  | [] => (entries, none)

def withKeywords (entries : Entries) (c : Call) : Entries :=
  entries.insertAll (c.keywords.map fun k => (.ofName k.1, k.2))

def updateDict (h : Heap) (r : Nat) (entries : Entries) (c : Call) : Memory Value := do
  let sources ← ofExcept (Call.positional { c with keywords := [] } 0 1)
  let (updated, fault) := updateFrom h entries sources
  match fault with
  | some f =>
    Memory.writeDict r updated
    throw f
  | none =>
    Memory.writeDict r (withKeywords updated c)
    pure .none

def popLast (r : Nat) (entries : Entries) : Memory Value :=
  match entries.getLast? with
  | some e => do
    Memory.writeDict r entries.dropLast
    pure (.ofItems [e.1, e.2])
  | none => throw (.missingKey "'popitem(): dictionary is empty'")

/-- The value under a key, which is put there if there is none. -/
def ensureEntry (r : Nat) (entries : Entries) (key value : Value) : Memory Value :=
  match entries.find? key with
  | some v => pure v
  | none => do
    Memory.writeDict r (entries.insert key value)
    pure value

def ofDict (r : Nat) (name : Text) (c : Call) : Memory Value := do
  let h ← get
  let entries := h.dict r
  let view (part : DictPart) : Memory Value := do
    ofExcept c.empty
    pure (.view part r .unmarked)
  if name = "get" then ofExcept (getEntry entries c)
  else if name = "keys" then view .keys
  else if name = "values" then view .values
  else if name = "items" then view .items
  else if name = "pop" then
    let (v, rest) ← ofExcept (popEntry h entries c)
    Memory.writeDict r rest
    pure v
  else if name = "popitem" then
    ofExcept c.empty
    popLast r entries
  else if name = "setdefault" then
    let (key, default) ← ofExcept (keyed c)
    ensureEntry r entries key (default.getD .none)
  else if name = "copy" then do
    ofExcept c.empty
    Memory.newDict entries
  else if name = "clear" then do
    ofExcept c.empty
    Memory.writeDict r []
    pure .none
  else if name = "update" then updateDict h r entries c
  else throw .type

/-- Items of a set with others put in, up to one that cannot be in a set. -/
def addItems (xs : List Value) : List Value → List Value × Option Fault
  | [] => (xs, none)
  | y :: rest => if y.isHashable then addItems (Value.insertItem xs y) rest else (xs, some .type)

def dropItem (xs : List Value) (y : Value) : List Value := xs.filter fun x => !x.sameKey y

def dropItems (xs : List Value) : List Value → List Value × Option Fault
  | [] => (xs, none)
  | y :: rest => if y.isHashable then dropItems (dropItem xs y) rest else (xs, some .type)

def commonItems (xs ys : List Value) : List Value × Option Fault :=
  if ys.all Value.isHashable then (xs.filter fun x => ys.any (·.sameKey x), none)
  else (xs, some .type)

def toggledItems (xs ys : List Value) : List Value × Option Fault :=
  if ys.all Value.isHashable then
    let ys := ys.foldl Value.insertItem []
    ((xs.filter fun x => !ys.any (·.sameKey x)) ++ ys.filter fun y => !xs.any (·.sameKey y), none)
  else (xs, some .type)

/-- What arguments make of the items of a set, one after the other. -/
def combined (h : Heap) (step : List Value → List Value → List Value × Option Fault)
    (xs : List Value) : List Value → List Value × Option Fault
  | [] => (xs, none)
  | source :: rest => match source.items h with
    | .ok ys => match step xs ys with
      | (xs, none) => combined h step xs rest
      | (xs, some f) => (xs, some f)
    | .error f => (xs, some f)

/-- The items without one of them. A set that is looked for stands for its items, and is none of
them. -/
def withoutItem (xs : List Value) (x : Value) : Except Fault (List Value) :=
  if x.isSet then .ok xs else if x.isHashable then .ok (dropItem xs x) else .error .type

/-- Whether all items, or none, are in a set; those behind one that decides are not looked at. -/
def allIn (xs : List Value) (wanted : Bool) : List Value → Except Fault Bool
  | [] => .ok true
  | y :: rest =>
    if y.isHashable then
      if xs.any (·.sameKey y) = wanted then allIn xs wanted rest else .ok false
    else .error .type

/-- Puts items into a set, also those reached before a fault. -/
def changeSet (r : Nat) (outcome : List Value × Option Fault) : Memory Value := do
  Memory.writeSet r outcome.1
  match outcome.2 with
  | some f => throw f
  | none => pure .none

def freshSet (outcome : List Value × Option Fault) : Memory Value :=
  match outcome.2 with
  | some f => throw f
  | none => Memory.newSet outcome.1

def popFirst (r : Nat) : List Value → Memory Value
  | x :: rest => do
    Memory.writeSet r rest
    pure x
  | [] => throw (.missingKey "'pop from an empty set'")

def removeFrom (h : Heap) (r : Nat) (xs : List Value) (x : Value) : Memory Value := do
  let rest ← ofExcept (withoutItem xs x)
  if rest.length = xs.length then throw (.missingKey (← ofExcept (Value.quoted h x)))
  else changeSet r (rest, none)

/-- The outcome of an intersection; one that fails leaves the items. -/
def intersected (h : Heap) (xs sources : List Value) : List Value × Option Fault :=
  match combined h commonItems xs sources with
  | (common, none) => (common, none)
  | (_, some f) => (xs, some f)

def isSubset (h : Heap) (xs : List Value) (source : Value) : Except Fault Bool := do
  let ys ← source.items h
  if ys.all Value.isHashable then allIn ys true xs else throw .type

def ofSet (r : Nat) (name : Text) (c : Call) : Memory Value := do
  let h ← get
  let xs := h.set r
  let args ← ofExcept (c.positional 0 c.args.length)
  if name = "update" then changeSet r (combined h addItems xs args)
  else if name = "difference_update" then changeSet r (combined h dropItems xs args)
  else if name = "intersection_update" then changeSet r (intersected h xs args)
  else if name = "union" then freshSet (combined h addItems xs args)
  else if name = "difference" then freshSet (combined h dropItems xs args)
  else if name = "intersection" then freshSet (combined h commonItems xs args)
  else if name = "pop" then
    ofExcept c.empty
    popFirst r xs
  else if name = "clear" then
    ofExcept c.empty
    changeSet r ([], none)
  else if name = "copy" then
    ofExcept c.empty
    Memory.newSet xs
  else
    let x ← ofExcept (one c)
    if name = "add" then changeSet r (addItems xs [x])
    else if name = "discard" then changeSet r (← ofExcept (withoutItem xs x), none)
    else if name = "remove" then removeFrom h r xs x
    else if name = "symmetric_difference_update" then changeSet r (combined h toggledItems xs [x])
    else if name = "symmetric_difference" then freshSet (combined h toggledItems xs [x])
    else if name = "isdisjoint" then
      return .bool (← ofExcept (do allIn xs false (← x.items h)))
    else if name = "issuperset" then
      return .bool (← ofExcept (do allIn xs true (← x.items h)))
    else if name = "issubset" then return .bool (← ofExcept (isSubset h xs x))
    else throw .type

end Phrasebook.Method
