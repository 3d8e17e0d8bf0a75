import Phrasebook.Value.Sequence
/-!
Limits on what a template may build: the exponent of a power, the bits of an integer, the items of a
sequence, and the widths and precisions of formatted text. They are checked before the work is done.
-/
namespace Phrasebook.Limits

def maxExponent : Nat := 1000

def maxLength : Nat := 100000

def maxBits : Nat := 16384

def bitLength (n : Nat) : Nat := if n = 0 then 0 else n.log2 + 1

def checkBits (bits : Int) : Except Fault Unit :=
  if (maxBits : Int) < bits then
    .error (.violation ("Integer result would exceed " ++ Text.ofNat maxBits ++ " bits"))
  else .ok ()

def checkLength (length : Int) : Except Fault Unit :=
  if (maxLength : Int) < length then
    .error (.violation ("Result would exceed " ++ Text.ofNat maxLength ++ " characters"))
  else .ok ()

/-- The items of the sequences that repetition copies. -/
def repeatable? (h : Heap) : Value → Option Nat
  | .text t _ => some t.length
  | .bytes bs _ => some bs.length
  | .tuple xs _ => some xs.length
  | .list r => some (h.list r).length
  | _ => none

def checkRepetition (h : Heap) (sequence times : Value) : Except Fault Unit :=
  match repeatable? h sequence, times.int? with
  | some n, some k =>
    if (maxLength : Int) < n * k then
      .error (.violation ("Sequence repetition would exceed " ++ Text.ofNat maxLength
        ++ " items"))
    else .ok ()
  | _, _ => .ok ()

def exponentError (shown : Text) : Fault :=
  .violation ("Exponent " ++ shown ++ " exceeds the limit of " ++ Text.ofNat maxExponent)

/-- A whole or fractional exponent of whatever base. -/
def checkExponent (right : Value) : Except Fault Unit :=
  match right with
  | .float x _ =>
    if x.abs > Binary.ofNat maxExponent then .error (exponentError (Binary.toText x)) else .ok ()
  | .int n _ => if maxExponent < n.natAbs then do throw (exponentError (← Number.intText n))
    else .ok ()
  | _ => .ok ()

def checkPower (left right : Value) : Except Fault Unit := do
  checkExponent right
  match left.int?, right.int? with
  | some a, some b => if 0 < b then checkBits (bitLength a.natAbs * b)
  | _, _ => pure ()

def checkProduct (h : Heap) (left right : Value) : Except Fault Unit :=
  match left.int?, right.int? with
  | some a, some b => checkBits (bitLength a.natAbs + bitLength b.natAbs)
  | _, _ => do
    checkRepetition h left right
    checkRepetition h right left

/-- A numeral in digits of any script that is not too long to be read. -/
def readNumeral (digits : Text) : Except Fault Nat :=
  if Number.maxDigits < digits.length then .error .value
  else .ok ((Text.decimalNumeral? digits).getD 0)

def digitRuns : Text → List Text
  | [] => []
  | c :: rest =>
    if Text.isDecimal c then
      match digitRuns rest, rest.head?.any Text.isDecimal with
      | run :: runs, true => (c :: run) :: runs
      | runs, _ => [c] :: runs
    else digitRuns rest

def checkSpec (spec : Text) : Except Fault Unit :=
  (digitRuns spec).forM fun run => do checkLength (← readNumeral run)

/-- A width or precision that a percent conversion states. -/
inductive Measure where
  | star
  | digits (run : Text)

def measure (t : Text) : Option Measure × Text :=
  match t with
  | 42 :: rest => (some .star, rest)
  | t =>
    let run := t.takeWhile Text.isDecimal
    if run.isEmpty then (none, t) else (some (.digits run), t.dropWhile Text.isDecimal)

def isFlag (c : Code) : Bool := ([45, 35, 48, 32, 43] : List Code).contains c

/-- A key in parentheses up to the first closing one, if there is one. -/
def dropKey (t : Text) : Text :=
  match t with
  | 40 :: rest => match rest.dropWhile (· != 41) with
    | _ :: rest => rest
    | [] => t
  | t => t

def measures (t : Text) : List Measure × Text :=
  let t := (dropKey t).dropWhile isFlag
  let (width, t) := measure t
  match t with
  | 46 :: rest => match measure rest with
    | (some precision, rest) => (width.toList ++ [precision], rest)
    | (none, _) => (width.toList, t)
  | t => (width.toList, t)

def measuresFrom : Nat → Text → List Measure
  | 0, _ => []
  | _ + 1, [] => []
  | fuel + 1, 37 :: 37 :: rest => measuresFrom fuel rest
  | fuel + 1, c :: rest =>
    if c = 37 then
      let (found, rest) := measures rest
      found ++ measuresFrom fuel rest
    else measuresFrom fuel rest

/-- The measures of all conversions of a template; a doubled percent sign is none. -/
def templateMeasures (t : Text) : List Measure := measuresFrom (t.length + 1) t

def isStar : Measure → Bool
  | .star => true
  | _ => false

/-- Every measure that a template states, and every integer argument when one is a star. -/
def checkPrintf (template : Text) (values : Value) : Except Fault Unit := do
  let found := templateMeasures template
  found.forM fun m => match m with
    | .star => pure ()
    | .digits run => do checkLength (← readNumeral run)
  if found.any isStar then
    let items := match values with
      | .tuple items _ => items
      | v => [v]
    items.forM fun v => match v.int? with
      | some n => checkLength n.natAbs
      | none => pure ()

/-- Bytes as the text that is searched for conversions. -/
def asciiText (bs : List UInt8) : Text := bs.map fun b => if b.toNat < 128 then b.toNat else 0xfffd

/-- Methods whose integer argument is the length of their result. -/
def isWidthMethod (name : Text) : Bool :=
  name == "center" || name == "ljust" || name == "rjust" || name == "zfill"
    || name == "expandtabs"

def ownLength? : Value → Option Nat
  | .text t _ => some t.length
  | .bytes bs _ => some bs.length
  | _ => none

def checkCall (function : Value) (args : List Value) (keywords : List Value) : Except Fault Unit :=
  match function with
  | .method receiver name _ => match ownLength? receiver with
    | some own =>
      if isWidthMethod name then
        match (args ++ keywords).filterMap Value.int? with
        | [] => .ok ()
        | w :: ws =>
          let width := ws.foldl max w
          checkLength (if name == "expandtabs" then width * own else width)
      else if name == "replace" then
        match args[1]? with
        | some new => match ownLength? new with
          | some n => checkLength (own + (own + 1) * n)
          | none => .ok ()
        | none => .ok ()
      else .ok ()
    | none => .ok ()
  | _ => .ok ()

end Phrasebook.Limits
