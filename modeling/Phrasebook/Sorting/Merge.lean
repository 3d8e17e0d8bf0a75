import Phrasebook.Fault
/-!
Merging two sorted runs by a comparison that may fail. Items are taken one at a time until one run
has given many in a row; from then on stretches are sought by galloping. Whatever happens, the
result holds the items of both runs.
-/
namespace Phrasebook.Sorting

/-- A strict order that may fail. -/
abbrev Less (α : Type) := α → α → Except Fault Bool

/-- Items in the arrangement that was reached, and the fault that ended the work early. -/
structure Outcome (α : Type) where
  items : List α
  fault : Option Fault

variable {α : Type}

/-- Doubles the distance as long as the items pass: the last that did, and one that did not or is
beyond the end. -/
def leap (p : α → Except Fault Bool) (xs : Array α) (start : Nat) :
    Nat → Nat → Nat → Except Fault (Nat × Nat)
  | 0, last, next => .ok (last, next)
  | fuel + 1, last, next => do
    match xs[start + next]? with
    | some x => if ← p x then leap p xs start fuel next (2 * next + 1) else pure (last, next)
    | none => pure (last, min next (xs.size - start))

/-- The first place from `low` on and before `high` whose item fails, by halving. `upper` takes the
upper of two middles. -/
def halve (p : α → Except Fault Bool) (upper : Bool) (xs : Array α) (start : Nat) :
    Nat → Nat → Nat → Except Fault Nat
  | 0, low, _ => .ok low
  | fuel + 1, low, high => do
    if low < high then
      let middle := if upper then high - 1 - (high - low) / 2 else low + (high - low) / 2
      match xs[start + middle]? with
      | some x =>
        if ← p x then halve p upper xs start fuel (middle + 1) high
        else halve p upper xs start fuel low middle
      | none => pure low
    else pure low

/-- How many items from `start` on pass a test, which those behind the first failure fail too. -/
def gallop (p : α → Except Fault Bool) (upper : Bool) (xs : Array α) (start : Nat) :
    Except Fault Nat := do
  match xs[start]? with
  | some x =>
    if ← p x then
      let (last, next) ← leap p xs start xs.size 0 1
      halve p upper xs start xs.size (last + 1) next
    else pure 0
  | none => pure 0

/-- A merge under way. The runs are read in the direction of the merge from `i` and `j` on; `out`
holds what has been taken, the latest first. -/
structure Merge (α : Type) where
  kept : Array α
  other : Array α
  i : Nat
  j : Nat
  out : List α
  patience : Nat

/-- Why a merge stops: a run has nothing more to compare, or a comparison failed. -/
inductive Stop where
  | exhausted
  | lastKept
  | failed (f : Fault)

abbrev Merging (α : Type) := EStateM Stop (Merge α)

namespace Merging

def lift {β : Type} : Except Fault β → Merging α β
  | .ok b => pure b
  | .error f => throw (.failed f)

/-- Takes items from the run that was set aside. Its last item goes behind all others. -/
def takeKept (n : Nat) : Merging α Unit := do
  modify fun m =>
    { m with i := m.i + n, out := (m.kept.extract m.i (m.i + n)).toList.reverse ++ m.out }
  let m ← get
  if m.kept.size = m.i + 1 then throw .lastKept
  if m.kept.size ≤ m.i then throw .exhausted

def takeOther (n : Nat) : Merging α Unit := do
  modify fun m =>
    { m with j := m.j + n, out := (m.other.extract m.j (m.j + n)).toList.reverse ++ m.out }
  let m ← get
  if m.other.size ≤ m.j then throw .exhausted

def nextKept : Merging α α := do
  let m ← get
  match m.kept[m.i]? with
  | some x => pure x
  | none => throw .exhausted

def nextOther : Merging α α := do
  let m ← get
  match m.other[m.j]? with
  | some x => pure x
  | none => throw .exhausted

/-- Stretches of this length are worth galloping for. -/
def minStretch : Nat := 7

/-- Takes a stretch of the run set aside and then one item of the other; the length of the
stretch. -/
def gallopKept (less : Less α) (backward : Bool) : Merging α Nat := do
  let y ← nextOther
  let m ← get
  let p := fun x => if backward then (less x y).map (!·) else (less y x).map (!·)
  let n ← lift (gallop p backward m.kept m.i)
  if n ≠ 0 then takeKept n
  takeOther 1
  pure n

def gallopOther (less : Less α) (backward : Bool) : Merging α Nat := do
  let x ← nextKept
  let m ← get
  let p := fun y => if backward then less x y else less y x
  let n ← lift (gallop p backward m.other m.j)
  if n ≠ 0 then takeOther n
  takeKept 1
  pure n

/-- Takes items one at a time, counting those in a row, or in stretches while these are long. -/
def run (less : Less α) (backward : Bool) : Nat → Bool → Nat → Nat → Merging α Unit
  | 0, _, _, _ => pure ()
  | fuel + 1, galloping, inKept, inOther => do
    if galloping then
      modify fun m => { m with patience := m.patience - if 1 < m.patience then 1 else 0 }
      let (a, b) ← if backward then do
          let b ← gallopOther less backward
          pure (← gallopKept less backward, b)
        else do
          let a ← gallopKept less backward
          pure (a, ← gallopOther less backward)
      if minStretch ≤ a ∨ minStretch ≤ b then run less backward fuel true 0 0
      else
        modify fun m => { m with patience := m.patience + 1 }
        run less backward fuel false 0 0
    else
      let x ← nextKept
      let y ← nextOther
      let otherFirst ← lift (if backward then less x y else less y x)
      let (inKept, inOther) := if otherFirst then (0, inOther + 1) else (inKept + 1, 0)
      if otherFirst then takeOther 1 else takeKept 1
      if (← get).patience ≤ max inKept inOther then
        modify fun m => { m with patience := m.patience + 1 }
        run less backward fuel true 0 0
      else run less backward fuel false inKept inOther

end Merging

/-- Merges in one direction, taking the other run's first item first. -/
def mergeToward (less : Less α) (backward : Bool) (patience : Nat)
    (kept other : Array α) : Outcome α × Nat :=
  let start : Merge α := ⟨kept, other, 0, 0, [], patience⟩
  let work : Merging α Unit := do
    Merging.takeOther 1
    if kept.size = 1 then throw .lastKept
    Merging.run less backward (2 * (kept.size + other.size)) false 0 0
  match work start with
  | .ok _ m => (⟨ending m false, none⟩, m.patience)
  | .error stop m => match stop with
    | .exhausted => (⟨ending m false, none⟩, m.patience)
    | .lastKept => (⟨ending m true, none⟩, m.patience)
    | .failed f => (⟨ending m false, some f⟩, m.patience)
where
  ending (m : Merge α) (keptLast : Bool) : List α :=
    let kept := (m.kept.extract m.i m.kept.size).toList
    let other := (m.other.extract m.j m.other.size).toList
    m.out.reverse ++ if keptLast then other ++ kept else kept ++ other

/-- Merges two runs, of which the first wins among equals. What is in place already is left alone,
and the shorter of the runs is set aside. Gives the patience for the next merge as well. -/
def merge (less : Less α) (patience : Nat) (xs ys : List α) : Outcome α × Nat :=
  match ys with
  | [] => (⟨xs, none⟩, patience)
  | y :: _ =>
    match gallop (fun x => (less y x).map (!·)) false xs.toArray 0 with
    | .error f => (⟨xs ++ ys, some f⟩, patience)
    | .ok n =>
      let front := xs.take n
      let xs := xs.drop n
      match xs.getLast? with
      | none => (⟨front ++ ys, none⟩, patience)
      | some x =>
        match gallop (fun y => (less y x).map (!·)) true ys.reverse.toArray 0 with
        | .error f => (⟨front ++ xs ++ ys, some f⟩, patience)
        | .ok m =>
          let back := ys.drop (ys.length - m)
          let ys := ys.take (ys.length - m)
          let (middle, patience) :=
            if ys.isEmpty then (⟨xs, none⟩, patience)
            else if xs.length ≤ ys.length then
              mergeToward less false patience xs.toArray ys.toArray
            else
              let (o, patience) :=
                mergeToward less true patience ys.reverse.toArray xs.reverse.toArray
              (⟨o.items.reverse, o.fault⟩, patience)
          (⟨front ++ middle.items ++ back, middle.fault⟩, patience)

end Phrasebook.Sorting
