import Phrasebook.Expr.Basic
/-!
Placing the literals of an expression: they are numbered from left to right under its text.
-/
namespace Phrasebook.Expr

mutual

def placeFrom (source : Text) : Expr → StateM Nat Expr
  | .literal v _ => do
    let n ← getModify (· + 1)
    pure (.literal v ⟨source, n⟩)
  | .name id => pure (.name id)
  | .attribute e attr => do pure (.attribute (← placeFrom source e) attr)
  | .subscript a b => do pure (.subscript (← placeFrom source a) (← placeFrom source b))
  | .slice a b c => do
    pure (.slice (← placeOption source a) (← placeOption source b) (← placeOption source c))
  | .call f args keywords => do
    pure (.call (← placeFrom source f) (← placeList source args)
      (← placeKeywords source keywords))
  | .binary op a b => do pure (.binary op (← placeFrom source a) (← placeFrom source b))
  | .unary op e => do pure (.unary op (← placeFrom source e))
  | .boolean op es => do pure (.boolean op (← placeList source es))
  | .compare a rest => do pure (.compare (← placeFrom source a) (← placeCompare source rest))
  | .conditional a b c => do
    pure (.conditional (← placeFrom source a) (← placeFrom source b) (← placeFrom source c))
  | .list es => do pure (.list (← placeList source es))
  | .tuple es => do pure (.tuple (← placeList source es))
  | .set es => do pure (.set (← placeList source es))
  | .dict items => do pure (.dict (← placeItems source items))
  | .joined es => do pure (.joined (← placeList source es))
  | .formatted e conversion spec => do
    pure (.formatted (← placeFrom source e) conversion (← placeOption source spec))
  | .lambda params simple body => do pure (.lambda params simple (← placeFrom source body))
  | .starred e => do pure (.starred (← placeFrom source e))
  | .foreign f => pure (.foreign f)

def placeOption (source : Text) : Option Expr → StateM Nat (Option Expr)
  | none => pure none
  | some e => do pure (some (← placeFrom source e))

def placeList (source : Text) : List Expr → StateM Nat (List Expr)
  | [] => pure []
  | e :: rest => do pure ((← placeFrom source e) :: (← placeList source rest))

def placeKeywords (source : Text) :
    List (Option Text × Expr) → StateM Nat (List (Option Text × Expr))
  | [] => pure []
  | (k, e) :: rest => do
    pure ((k, ← placeFrom source e) :: (← placeKeywords source rest))

def placeCompare (source : Text) :
    List (CompareOp × Expr) → StateM Nat (List (CompareOp × Expr))
  | [] => pure []
  | (op, e) :: rest => do
    pure ((op, ← placeFrom source e) :: (← placeCompare source rest))

def placeItems (source : Text) :
    List (Option Expr × Expr) → StateM Nat (List (Option Expr × Expr))
  | [] => pure []
  | (k, e) :: rest => do
    let k ← placeOption source k
    pure ((k, ← placeFrom source e) :: (← placeItems source rest))

end

def placed (e : Expr) (source : Text) : Expr := ((placeFrom source e).run 0).1

end Phrasebook.Expr
