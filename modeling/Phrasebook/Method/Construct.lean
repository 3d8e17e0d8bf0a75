import Phrasebook.Format.Printf
import Phrasebook.Limits
import Phrasebook.Method.Container
import Phrasebook.Text.Basic
/-!
Values made by calling a class, which only host functions can do: texts, integers and dictionaries.
-/
namespace Phrasebook.Method

def joinedDigits? : Text → Option Text
  | [] => none
  | [c] => if Text.isDecimal c then some [c] else none
  | c :: rest =>
    if !Text.isDecimal c then none
    else match rest with
      | 95 :: rest => (joinedDigits? rest).map (c :: ·)
      | rest => (joinedDigits? rest).map (c :: ·)

/-- The integer that a numeral writes, with blanks around it and a sign. -/
def readInt (t : Text) : Except Fault Int := do
  let t := Text.strip t
  let (negative, digits) := match t with
    | 45 :: rest => (true, rest)
    | 43 :: rest => (false, rest)
    | t => (false, t)
  match joinedDigits? digits with
  | some digits =>
    let n : Int := ← Limits.readNumeral digits
    pure (if negative then -n else n)
  | none => throw .value

def integerOf (v : Value) : Except Fault Value :=
  match v with
  | .int .. => .ok v
  | .text t _ => (readInt t).map .ofInt
  | .bytes bs _ => (readInt (Limits.asciiText bs)).map .ofInt
  | v => (Printf.truncated v).map .ofInt

def toInteger (c : Call) : Except Fault Value := do
  match ← c.positional 0 1 with
  | [] => pure (.ofInt 0)
  | v :: _ => integerOf v

def toText (h : Heap) (c : Call) : Except Fault Value := do
  match ← c.positional 0 1 with
  | [] => pure (.ofText [])
  | v :: _ => v.shown h

def toDict (c : Call) : Memory Value := do
  let h ← get
  let sources ← ofExcept (Call.positional { c with keywords := [] } 0 1)
  let (entries, fault) := updateFrom h [] sources
  match fault with
  | some f => throw f
  | none => Memory.newDict (withKeywords entries c)

def construct (k : Kind) (c : Call) : Memory Value := do
  match k with
  | .int => ofExcept (toInteger c)
  | .text => ofExcept (toText (← get) c)
  | .dict => toDict c
  | _ => throw .type

end Phrasebook.Method
