import Phrasebook.Limits
import Phrasebook.Method.Call
import Phrasebook.Method.Container
import Phrasebook.Method.Text
/-!
Methods of numbers, and calling a method by name, on a value or on a class with the value as first
argument.
-/
namespace Phrasebook.Method

def ratio (num den : Nat) (negative : Bool) : Value :=
  let g := Nat.gcd num den
  let n : Int := num / g
  .ofItems [.ofInt (if negative then -n else n), .ofInt (den / g)]

def ofInt (self : Value) (n : Int) (name : Text) : Except Fault Value :=
  if name = "bit_length" then .ok (.ofInt (Limits.bitLength n.natAbs))
  else if name = "bit_count" then
    .ok (.ofInt ((Nat.toDigits 2 n.natAbs).filter (· == '1')).length)
  else if name = "conjugate" then .ok self
  else if name = "as_integer_ratio" then .ok (.ofItems [self, .ofInt 1])
  else .error .type

def ofFloat (self : Value) (x : Float) (name : Text) : Except Fault Value :=
  if name = "is_integer" then .ok (.bool (Binary.toInt? x).isSome)
  else if name = "conjugate" then .ok self
  else if name = "as_integer_ratio" then
    match Binary.decode x with
    | .finite d =>
      let (num, den) := Binary.ratioOf d.mantissa d.exponent
      .ok (ratio num den d.negative)
    | .infinite _ => .error (.unworded .overflow)
    | .notANumber => .error .value
  else .error .type

def numberMethod (self : Value) (name : Text) : Except Fault Value :=
  match self with
  | .bool b =>
    let n : Int := if b then 1 else 0
    ofInt (.ofInt n) n name
  | .int n _ => ofInt self n name
  | .float x _ => ofFloat self x name
  | .complex z _ =>
    if name = "conjugate" then .ok (.ofComplex ⟨z.re, -z.im⟩) else .error .type
  | _ => .error .type

/-- Calls a method of a number; none of them takes arguments. -/
def ofNumber (self : Value) (name : Text) (c : Call) : Except Fault Value := do
  c.empty
  numberMethod self name

def call (receiver : Value) (name : Text) (c : Call) : Memory Value :=
  match receiver with
  | .text t _ => ofText receiver t name c
  | .bytes bs _ => ofBytes receiver bs name c
  | .list r => ofList r name c
  | .tuple xs _ => ofTuple xs name c
  | .dict r => ofDict r name c
  | .set r => ofSet r name c
  | v => ofExcept (ofNumber v name c)

/-- Whether a value belongs to a class, truth values being integers. -/
def isInstance (v : Value) (k : Kind) : Bool := v.kind == k || (v.kind == .bool && k == .int)

/-- The receiver and the other arguments of a method called through its class. -/
def receiverOf (k : Kind) (c : Call) : Except Fault (Value × Call) :=
  match c.args with
  | v :: rest => if isInstance v k then .ok (v, { c with args := rest }) else .error .type
  | [] => .error .type

end Phrasebook.Method
