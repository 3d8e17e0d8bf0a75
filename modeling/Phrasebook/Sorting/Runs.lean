import Phrasebook.Sorting.Merge
/-!
Sorting by natural runs. A run that ascends, or strictly descends and is then turned round, is made
longer by binary insertion if it is short; runs are merged in an order that keeps merges balanced.
When a comparison fails the arrangement reached so far is the result.
-/
namespace Phrasebook.Sorting

variable {α : Type}

/-- The items that go on as the run began, reversed, and the items after them. -/
def runFrom (less : Less α) (descending : Bool) (last : α) (out : List α) :
    List α → Except Fault (List α × List α)
  | [] => .ok (out, [])
  | x :: rest => do
    if (← less x last) == descending then runFrom less descending x (x :: out) rest
    else pure (out, x :: rest)

/-- The run at the front, in ascending order, and what follows it. -/
def naturalRun (less : Less α) : List α → Except Fault (List α × List α)
  | x :: y :: rest => do
    let descending ← less y x
    let (run, rest) ← runFrom less descending y [y, x] rest
    pure (if descending then run else run.reverse, rest)
  | xs => .ok (xs, [])

/-- The place of an item among the sorted ones between two positions, behind its equals. -/
def placeIn (less : Less α) (sorted : Array α) (x : α) : Nat → Nat → Nat → Except Fault Nat
  | 0, low, _ => .ok low
  | fuel + 1, low, high =>
    if low < high then
      let middle := low + (high - low) / 2
      match sorted[middle]? with
      | some y => do
        if ← less x y then placeIn less sorted x fuel low middle
        else placeIn less sorted x fuel (middle + 1) high
      | none => .ok low
    else .ok low

/-- Inserts items one after the other; those behind a failure stay where they are. -/
def insertAll (less : Less α) (sorted : Array α) : List α → Outcome α
  | [] => ⟨sorted.toList, none⟩
  | x :: rest => match placeIn less sorted x (sorted.size + 1) 0 sorted.size with
    | .ok i => insertAll less (sorted.insertIdxIfInBounds i x) rest
    | .error f => ⟨sorted.toList ++ x :: rest, some f⟩

/-- The least length of a run, which makes the number of runs a power of two or a little less. -/
def minRun (n : Nat) : Nat := shrink n 0 n
where
  shrink (n extra : Nat) : Nat → Nat
    | 0 => n + extra
    | fuel + 1 => if n < 64 then n + extra else shrink (n / 2) (max extra (n % 2)) fuel

/-- A sorted run, where it starts, and the power of the border behind it. -/
structure Run (α : Type) where
  start : Nat
  items : List α
  power : Nat := 0

/-- A sort under way: the runs, the latest first, and the items behind them. -/
structure Progress (α : Type) where
  pending : List (Run α)
  rest : List α
  patience : Nat

abbrev Work (α : Type) := EStateM Fault (Progress α)

/-- How deep the border of two neighbouring runs lies when the whole is halved again and again. -/
def borderPower (total : Nat) : Nat → Nat → Nat → Nat
  | 0, _, _ => 0
  | fuel + 1, a, b =>
    if total ≤ a then borderPower total fuel (2 * (a - total)) (2 * (b - total)) + 1
    else if total ≤ b then 1
    else borderPower total fuel (2 * a) (2 * b) + 1

/-- Merges two neighbours among the pending runs; `above` of them come later. -/
def mergeAt (less : Less α) (above : Nat) : Work α Unit := do
  let p ← get
  match p.pending.drop above with
  | later :: earlier :: older =>
    let (merged, patience) := merge less p.patience earlier.items later.items
    let runs := p.pending.take above ++ { earlier with items := merged.items } :: older
    set { p with pending := runs, patience := patience }
    match merged.fault with
    | some f => throw f
    | none => pure ()
  | _ => pure ()

/-- Merges the latest runs as long as their border is deeper than the new one. -/
def mergeDeeper (less : Less α) (power : Nat) : Nat → Work α Unit
  | 0 => pure ()
  | fuel + 1 => do
    match (← get).pending with
    | _ :: below :: _ =>
      if power < below.power then
        mergeAt less 0
        mergeDeeper less power fuel
    | _ => pure ()

/-- Makes room for a run of a length behind the pending ones. -/
def settle (less : Less α) (total length : Nat) : Work α Unit := do
  match (← get).pending with
  | latest :: _ =>
    let a := 2 * latest.start + latest.items.length
    let power := borderPower total (2 * total + 2) a (a + latest.items.length + length)
    mergeDeeper less power total
    modify fun p => { p with pending := match p.pending with
      | run :: older => { run with power := power } :: older
      | [] => [] }
  | [] => pure ()

/-- Sorts the run at the front of the rest and puts it on the pending ones. -/
def nextRun (less : Less α) (total least : Nat) : Work α Unit := do
  let p ← get
  let (run, after) ← match naturalRun less p.rest with
    | .ok r => pure r
    | .error f => throw f
  let short := after.take (least - run.length)
  let later := after.drop (least - run.length)
  let sorted := insertAll less run.toArray short
  set { p with rest := sorted.items ++ later }
  match sorted.fault with
  | some f => throw f
  | none =>
    settle less total sorted.items.length
    modify fun q => { q with
      pending := ⟨total - p.rest.length, sorted.items, 0⟩ :: q.pending
      rest := later }

def takeRuns (less : Less α) (total least : Nat) : Nat → Work α Unit
  | 0 => pure ()
  | fuel + 1 => do
    if !(← get).rest.isEmpty then
      nextRun less total least
      takeRuns less total least fuel

/-- Merges what is pending, the shorter neighbour first. -/
def mergeRest (less : Less α) : Nat → Work α Unit
  | 0 => pure ()
  | fuel + 1 => do
    match (← get).pending with
    | latest :: _ :: older =>
      let earlierFirst := match older with
        | third :: _ => decide (third.items.length < latest.items.length)
        | [] => false
      mergeAt less (if earlierFirst then 1 else 0)
      mergeRest less fuel
    | _ => pure ()

/-- Sorts items; those that are not less than each other keep their order. -/
def sort (less : Less α) (xs : List α) : Outcome α :=
  let total := xs.length
  let work : Work α Unit := do
    takeRuns less total (minRun total) total
    mergeRest less total
  let arranged (p : Progress α) : List α := p.pending.reverse.flatMap Run.items ++ p.rest
  match work ⟨[], xs, 7⟩ with
  | .ok _ p => ⟨arranged p, none⟩
  | .error f p => ⟨arranged p, some f⟩

end Phrasebook.Sorting
