import Phrasebook.Number.Basic
import Phrasebook.Number.Binary
/-!
Arithmetic on numbers of mixed kinds. An integer beside a double becomes one, either beside a
complex number becomes complex, and decimals mix with integers only.
-/
namespace Phrasebook.Number

/-- Two numbers brought to one kind. -/
inductive Pair where
  | ints (a b : Int)
  | floats (a b : Float)
  | complexes (a b : Complex)
  | decimals (a b : Decimal)

/-- Brings two numbers to one kind; a decimal and a double have none. -/
def unify : Number → Number → Except Fault Pair
  | .int a, .int b => .ok (.ints a b)
  | .int a, .float b => do pure (.floats (← toFloat a) b)
  | .float a, .int b => do pure (.floats a (← toFloat b))
  | .float a, .float b => .ok (.floats a b)
  | .complex a, .complex b => .ok (.complexes a b)
  | .complex a, .int b => do pure (.complexes a (.ofFloat (← toFloat b)))
  | .int a, .complex b => do pure (.complexes (.ofFloat (← toFloat a)) b)
  | .complex a, .float b => .ok (.complexes a (.ofFloat b))
  | .float a, .complex b => .ok (.complexes (.ofFloat a) b)
  | .decimal a, .decimal b => .ok (.decimals a b)
  | .decimal a, .int b => .ok (.decimals a (Decimal.ofInt b))
  | .int a, .decimal b => .ok (.decimals (Decimal.ofInt a) b)
  | .decimal _, _ | _, .decimal _ => .error .type

def divisionByZero : Fault := .unworded .zeroDivision

def ofDecimal (r : Except Decimal.Trap Decimal) : Except Fault Number :=
  match r with
  | .ok d => .ok (.decimal d)
  | .error _ => .error (.unworded .arithmetic)

def add (a b : Number) : Except Fault Number := do
  match ← unify a b with
  | .ints a b => pure (.int (a + b))
  | .floats a b => pure (.float (a + b))
  | .complexes a b => pure (.complex (a.add b))
  | .decimals a b => ofDecimal (a.add b)

def subtract (a b : Number) : Except Fault Number := do
  match ← unify a b with
  | .ints a b => pure (.int (a - b))
  | .floats a b => pure (.float (a - b))
  | .complexes a b => pure (.complex (a.subtract b))
  | .decimals a b => ofDecimal (a.subtract b)

def multiply (a b : Number) : Except Fault Number := do
  match ← unify a b with
  | .ints a b => pure (.int (a * b))
  | .floats a b => pure (.float (a * b))
  | .complexes a b => pure (.complex (a.multiply b))
  | .decimals a b => ofDecimal (a.multiply b)

/-- The quotient of two integers as the nearest double. -/
def intQuotient (a b : Int) : Except Fault Number :=
  if b = 0 then .error divisionByZero
  else
    let x := Binary.ofRatio ((a < 0) != (b < 0)) a.natAbs b.natAbs
    if Binary.isFinite x then .ok (.float x) else .error (.unworded .overflow)

def divide : Number → Number → Except Fault Number
  | .int a, .int b => intQuotient a b
  | a, b => do
    match ← unify a b with
    | .ints a b => intQuotient a b
    | .floats a b => if b == 0 then throw divisionByZero else pure (.float (a / b))
    | .complexes a b => match a.divide? b with
      | some z => pure (.complex z)
      | none => throw divisionByZero
    | .decimals a b => ofDecimal (a.divide b)

/-- The quotient rounded down, except that decimals round toward zero. -/
def floorDivide (a b : Number) : Except Fault Number := do
  match ← unify a b with
  | .ints a b => if b = 0 then throw divisionByZero else pure (.int (a.fdiv b))
  | .floats a b =>
    if b == 0 then throw divisionByZero else pure (.float (Binary.floorQuotient a b))
  | .complexes _ _ => throw .type
  | .decimals a b => ofDecimal (a.quotient b)

/-- The remainder that goes with `floorDivide`. -/
def modulo (a b : Number) : Except Fault Number := do
  match ← unify a b with
  | .ints a b => if b = 0 then throw divisionByZero else pure (.int (a.fmod b))
  | .floats a b =>
    if b == 0 then throw divisionByZero else pure (.float (Binary.floorRemainder a b))
  | .complexes _ _ => throw .type
  | .decimals a b => ofDecimal (a.remainder b)

def complexPower (a b : Complex) : Except Fault Number :=
  match a.power? b with
  | none => .error divisionByZero
  | some z =>
    if Binary.isFinite z.re && Binary.isFinite z.im then .ok (.complex z)
    else if Binary.isFinite a.re && Binary.isFinite a.im && Binary.isFinite b.re
      && Binary.isFinite b.im then .error (.unworded .overflow)
    else .ok (.complex z)

private def isOdd (x : Float) : Bool := match Binary.toInt? x with
  | some n => n % 2 == 1
  | none => false

private def isInfinite (x : Float) : Bool := !Binary.isFinite x && !Binary.isNaN x

/-- The power of doubles. A negative base under a fractional exponent gives a complex number. -/
def floatPower (a b : Float) : Except Fault Number :=
  if b == 0 then .ok (.float 1)
  else if Binary.isNaN a then .ok (.float a)
  else if Binary.isNaN b then .ok (.float (if a == 1 then 1 else b))
  else if isInfinite b then
    let size := a.abs
    if size == 1 then .ok (.float 1)
    else if (0 < b) == (1 < size) then .ok (.float b.abs)
    else .ok (.float 0)
  else if isInfinite a then
    if 0 < b then .ok (.float (if isOdd b then a else a.abs))
    else .ok (.float (if isOdd b && a < 0 then -0.0 else 0))
  else if a == 0 then
    if b < 0 then .error divisionByZero else .ok (.float (if isOdd b then a else 0))
  else if a < 0 && b.floor != b then complexPower (.ofFloat a) (.ofFloat b)
  else
    let x := Float.pow a.abs b
    let x := if a < 0 && isOdd b then -x else x
    if Binary.isFinite x then .ok (.float x) else .error (.unworded .overflow)

def power (a b : Number) : Except Fault Number := do
  match ← unify a b with
  | .ints a b =>
    if 0 ≤ b then pure (.int (Int.pow a b.toNat))
    else floatPower (← toFloat a) (← toFloat b)
  | .floats a b => floatPower a b
  | .complexes a b => complexPower a b
  | .decimals a b => ofDecimal (a.power b)

def negate : Number → Except Fault Number
  | .int n => .ok (.int (-n))
  | .float x => .ok (.float (-x))
  | .complex z => .ok (.complex z.negate)
  | .decimal d => ofDecimal d.negate

def plus : Number → Except Fault Number
  | .decimal d => ofDecimal d.plus
  | x => .ok x

/-- The bitwise complement, which only integers have. -/
def invert : Number → Except Fault Number
  | .int n => .ok (.int (-n - 1))
  | _ => .error .type

def magnitude : Number → Except Fault Number
  | .int n => .ok (.int n.natAbs)
  | .float x => .ok (.float x.abs)
  | .complex z => .ok (.float z.length)
  | .decimal d => ofDecimal d.magnitude

end Phrasebook.Number
