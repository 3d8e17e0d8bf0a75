import Phrasebook.Value.Show
/-!
Values as sequences: truth, length, iteration, items by position or key, and slices.
-/
namespace Phrasebook.Value

def truth (h : Heap) : Value → Bool
  | none => false
  | text t _ => !t.isEmpty
  | bytes bs _ => !bs.isEmpty
  | tuple xs _ => !xs.isEmpty
  | list r => !(h.list r).isEmpty
  | dict r => !(h.dict r).isEmpty
  | set r => !(h.set r).isEmpty
  | view _ r _ => !(h.dict r).isEmpty
  | v => match v.number? with
    | some n => !n.isZero
    | .none => true

def length? (h : Heap) : Value → Option Nat
  | text t _ => some t.length
  | bytes bs _ => some bs.length
  | tuple xs _ => some xs.length
  | list r => some (h.list r).length
  | dict r => some (h.dict r).length
  | set r => some (h.set r).length
  | view _ r _ => some (h.dict r).length
  | _ => Option.none

def items (h : Heap) : Value → Except Fault (List Value)
  | text t _ => .ok (t.map fun c => ofText [c])
  | bytes bs _ => .ok (bs.map fun b => ofInt b.toNat)
  | tuple xs _ => .ok xs
  | list r => .ok (h.list r)
  | dict r => .ok (h.view .keys r)
  | set r => .ok (h.set r)
  | view part r _ => .ok (h.view part r)
  | _ => .error .type

/-- The items of a sequence at the positions of a slice with whole bounds. -/
def sliceItems {α : Type} (xs : List α) (lower upper : Option Int) (step : Int) : List α :=
  let n : Int := xs.length
  let clip (low high i : Int) : Int :=
    let i := if i < 0 then i + n else i
    if i < low then low else if high < i then high else i
  if 0 < step then
    let first := match lower with
      | some i => clip 0 n i
      | .none => 0
    let last := match upper with
      | some i => clip 0 n i
      | .none => n
    let chosen := (xs.drop first.toNat).take (last - first).toNat
    if step = 1 then chosen
    else (chosen.zipIdx.filter fun e => (e.2 : Int) % step == 0).map (·.1)
  else
    let first := match lower with
      | some i => clip (-1) (n - 1) i
      | .none => n - 1
    let last := match upper with
      | some i => clip (-1) (n - 1) i
      | .none => -1
    let chosen := ((xs.drop (last + 1).toNat).take (first - last).toNat).reverse
    (chosen.zipIdx.filter fun e => (e.2 : Int) % (-step) == 0).map (·.1)

def bound : Value → Except Fault (Option Int)
  | none => .ok Option.none
  | v => match v.int? with
    | some n => .ok (some n)
    | .none => .error .type

/-- The items at a slice; nothing for one that leaves none of them out and keeps their order. -/
def sliceOf? {α : Type} (xs : List α) (lower upper step : Value) :
    Except Fault (Option (List α)) := do
  let by_ := (← bound step).getD 1
  if by_ = 0 then throw .value
  let first ← bound lower
  let last ← bound upper
  let ys := sliceItems xs first last by_
  pure (if by_ = 1 ∧ ys.length = xs.length then Option.none else some ys)

/-- A slice of a value that cannot change; the whole of it is the value itself. -/
def sliceOf {α : Type} (v : Value) (make : List α → Value) (xs : List α)
    (lower upper step : Value) : Except Fault Value := do
  pure (((← sliceOf? xs lower upper step).map make).getD v)

/-- The item at a position, counted from the end when it is negative. -/
def itemAt? {α : Type} (xs : List α) (i : Int) : Option α :=
  if 0 ≤ i then xs[i.toNat]?
  else if -(xs.length : Int) ≤ i then xs[(i + xs.length).toNat]?
  else Option.none

/-- Positions from here on are not looked up. -/
def maxIndex : Int := Int.pow 2 63

def itemOf {α : Type} (missing : Fault) (xs : List α) (index : Value) :
    Except Fault α :=
  match index.int? with
  | some i =>
    if i < -maxIndex ∨ maxIndex ≤ i then .error (.unworded .index)
    else match itemAt? xs i with
      | some x => .ok x
      | .none => .error missing
  | .none => .error .type

def entryOf (h : Heap) (entries : Entries) (key : Value) : Except Fault Value :=
  if key.isHashable then
    match entries.find? key with
    | some v => .ok v
    | .none => do throw (.missingKey (← quoted h key))
  else .error .type

/-- The item at a position of a sequence, or under a key of a dictionary. -/
def itemAt (h : Heap) (target index : Value) : Except Fault Value :=
  match target with
  | text t _ => (itemOf (.outOfRange .string) t index).map fun c => ofText [c]
  | bytes bs _ => (itemOf (.unworded .index) bs index).map fun b => ofInt b.toNat
  | tuple xs _ => itemOf (.outOfRange .tuple) xs index
  | list r => itemOf (.outOfRange .list) (h.list r) index
  | dict r => entryOf h (h.dict r) index
  | _ => .error .type

/-- The part of a sequence at a slice; that of a list is a new one. -/
def sliceAt (h : Heap) (target lower upper step : Value) : Memory Value :=
  match target with
  | text t _ => ofExcept (sliceOf target ofText t lower upper step)
  | bytes bs _ => ofExcept (sliceOf target ofBytes bs lower upper step)
  | tuple xs _ => ofExcept (sliceOf target ofItems xs lower upper step)
  | list r => do
    Memory.newList ((← ofExcept (sliceOf? (h.list r) lower upper step)).getD (h.list r))
  | _ => throw .type

/-- What a subscript names. No dictionary has a slice for a key. -/
def subscript (target index : Value) : Memory Value := do
  let h ← get
  match index with
  | slice lower upper step _ => sliceAt h target lower upper step
  | index => ofExcept (itemAt h target index)

end Phrasebook.Value
