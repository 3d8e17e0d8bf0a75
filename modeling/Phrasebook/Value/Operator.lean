import Phrasebook.Format.Printf
import Phrasebook.Limits
import Phrasebook.Number.Arithmetic
/-!
The operators on values. Products, powers and percent formatting are checked against the limits
before they are computed.
-/
namespace Phrasebook.Value

/-- Whether a value is a view that acts as a set. -/
def isSetView : Value → Bool
  | view .keys .. | view .items .. => true
  | _ => false

/-- The items of a set or of a view that acts as one, also for a list beside such a view. -/
def setDifference (h : Heap) (a b : Value) : Memory Value := do
  if (isSet a && isSet b) || isSetView a || isSetView b then
    let left ← ofExcept (a.items h)
    let right ← ofExcept (b.items h)
    if !(left.all isHashable && right.all isHashable) then throw .type
    Memory.newSet ((left.foldl insertItem []).filter fun x => !right.any (·.sameKey x))
  else throw .type

def numeric (f : Number → Number → Except Fault Number) (a b : Value) :
    Except Fault Value :=
  match a.number?, b.number? with
  | some m, some n => (f m n).map ofNumber
  | _, _ => .error .type

def repeated {α : Type} (xs : List α) (times : Int) : Except Fault (List α) :=
  if times < -maxIndex ∨ maxIndex ≤ times then .error (.unworded .overflow)
  else if xs.isEmpty then .ok []
  else .ok (List.replicate times.toNat xs).flatten

/-- A value that cannot change, several times over; once is the value itself. -/
def repeatedAs {α : Type} (v : Value) (make : List α → Value) (xs : List α)
    (times : Int) : Except Fault Value :=
  if times = 1 then .ok v else (repeated xs times).map make

def repetition (h : Heap) (sequence times : Value) : Option (Memory Value) := do
  let n ← times.int?
  match sequence with
  | text t _ => some (ofExcept (repeatedAs sequence builtText t n))
  | bytes bs _ => some (ofExcept (repeatedAs sequence builtBytes bs n))
  | tuple xs _ => some (ofExcept (repeatedAs sequence ofItems xs n))
  | list r => some (do Memory.newList (← ofExcept (repeated (h.list r) n)))
  | _ => Option.none

/-- Two sequences in a row; one of them alone if the other is empty. -/
def appended {α : Type} (a b : Value) (make : List α → Value) (xs ys : List α) : Value :=
  if xs.isEmpty then b else if ys.isEmpty then a else make (xs ++ ys)

def sum (h : Heap) (a b : Value) : Memory Value :=
  match a, b with
  | text s _, text t _ => pure (appended a b builtText s t)
  | bytes s _, bytes t _ => pure (appended a b builtBytes s t)
  | tuple xs _, tuple ys _ => pure (appended a b ofItems xs ys)
  | list r, list s => Memory.newList (h.list r ++ h.list s)
  | a, b => ofExcept (numeric Number.add a b)

def product (h : Heap) (a b : Value) : Memory Value :=
  match repetition h a b, repetition h b a with
  | some m, _ => m
  | _, some m => m
  | _, _ => ofExcept (numeric Number.multiply a b)

def remainder (h : Heap) (a b : Value) : Except Fault Value :=
  match a with
  | text t _ => Printf.formatText h a t b
  | bytes bs _ => Printf.formatBytes h bs b
  | a => numeric Number.modulo a b

/-- What an operator may not build from two operands. -/
def checkBinary (h : Heap) (op : BinaryOp) (a b : Value) : Except Fault Unit :=
  match op with
  | .pow => Limits.checkPower a b
  | .mul => Limits.checkProduct h a b
  | .mod => match a with
    | text t _ => Limits.checkPrintf t b
    | bytes bs _ => Limits.checkPrintf (Limits.asciiText bs) b
    | _ => .ok ()
  | _ => .ok ()

def apply (h : Heap) (op : BinaryOp) (a b : Value) : Memory Value :=
  match op with
  | .add => sum h a b
  | .sub => match a.number?, b.number? with
    | some _, some _ => ofExcept (numeric Number.subtract a b)
    | _, _ => setDifference h a b
  | .mul => product h a b
  | .div => ofExcept (numeric Number.divide a b)
  | .floorDiv => ofExcept (numeric Number.floorDivide a b)
  | .mod => ofExcept (remainder h a b)
  | .pow => ofExcept (numeric Number.power a b)
  | .matMul | .bitAnd | .bitOr | .bitXor | .shiftLeft | .shiftRight =>
    throw (.violation ("Unsupported syntax in template expression: " ++ op.label))

def binary (op : BinaryOp) (a b : Value) : Memory Value := do
  let h ← get
  ofExcept (checkBinary h op a b)
  apply h op a b

def unaryNumber (f : Number → Except Fault Number) (a : Value) : Except Fault Value :=
  match a.number? with
  | some n => (f n).map ofNumber
  | .none => .error .type

def unary (h : Heap) (op : UnaryOp) (a : Value) : Except Fault Value :=
  match op with
  | .not => .ok (bool (!a.truth h))
  | .negative => unaryNumber Number.negate a
  | .positive => match a with
    | int .. | float .. | complex .. => .ok a
    | _ => unaryNumber Number.plus a
  | .invert => unaryNumber Number.invert a

def holds (h : Heap) (op : CompareOp) (a b : Value) : Except Fault Bool :=
  match op with
  | .eq => same h a b
  | .notEq => (same h a b).map (!·)
  | .less => compareBy h .less a b
  | .lessEq => compareBy h .lessEq a b
  | .greater => compareBy h .greater a b
  | .greaterEq => compareBy h .greaterEq a b
  | .isIn => contains h b a
  | .notIn => (contains h b a).map (!·)
  | .same => .ok (a.identical b)
  | .notSame => .ok (!a.identical b)

end Phrasebook.Value
