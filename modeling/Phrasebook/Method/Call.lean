import Phrasebook.Value.Sequence
/-!
Arguments of a call, and reading them: by position, by keyword, as texts, integers and bounds.
-/
namespace Phrasebook

structure Call where
  args : List Value
  keywords : OrderedMap Value := []

namespace Call

/-- The arguments of a function that takes none by keyword, from `least` to `most` of them. -/
def positional (c : Call) (least most : Nat) : Except Fault (List Value) :=
  if c.keywords.isEmpty && least ≤ c.args.length && c.args.length ≤ most then .ok c.args
  else .error .type

/-- The arguments of a function whose parameters can also be named; each comes at most once. -/
def named (c : Call) (params : List Text) : Except Fault (List (Option Value)) :=
  let given := params.take c.args.length
  if params.length < c.args.length then .error .type
  else if c.keywords.any fun k => !params.contains k.1 || given.contains k.1 then .error .type
  else .ok ((c.args.map some) ++ (params.drop c.args.length).map fun p => c.keywords.get? p)

def empty (c : Call) : Except Fault Unit := (c.positional 0 0).map fun _ => ()

end Call

namespace Value

def toInt (v : Value) : Except Fault Int :=
  match v.int? with
  | some n =>
    if n < -maxIndex ∨ maxIndex ≤ n then .error (.unworded .overflow) else .ok n
  | .none => .error .type

/-- An argument that has to be a position, however far away. -/
def toPosition (v : Value) : Except Fault Int :=
  match v.int? with
  | some n => .ok n
  | .none => .error .type

/-- A bound of a search, which may be left open. -/
def toBound (v : Option Value) : Except Fault (Option Int) :=
  match v with
  | Option.none | some none => .ok Option.none
  | some v => v.toPosition.map some

/-- A limit, none for a negative one. -/
def toLimit (v : Option Value) : Except Fault (Option Nat) :=
  match v with
  | Option.none => .ok Option.none
  | some v => do
    let n ← v.toInt
    pure (if n < 0 then Option.none else some n.toNat)

end Value
end Phrasebook
