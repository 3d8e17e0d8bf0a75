import Phrasebook.Text.Quoted
import Phrasebook.Value.Compare
/-!
Values as text: the quoted form, in which texts are literals, and the plain form. What is inside
itself is written as three dots there.
-/
namespace Phrasebook.Value

def functionText (label : Text) : Text := "<function " ++ label ++ ">"

/-- The quoted form of a value that is no container. -/
def atomText : Value → Except Fault Text
  | none => .ok "None"
  | bool b => .ok (if b then ("True" : Text) else "False")
  | int n _ => Number.intText n
  | float x _ => .ok (Binary.toText x)
  | complex z _ => .ok z.toText
  | text t _ => .ok (Text.Quoted.text t)
  | bytes bs _ => .ok (Text.Quoted.bytes bs)
  | ellipsis => .ok "Ellipsis"
  | decimal d _ => .ok ("Decimal('" ++ d.toText ++ "')")
  | date y m d =>
    .ok ("datetime.date(" ++ Text.ofNat y ++ ", " ++ Text.ofNat m ++ ", " ++ Text.ofNat d
      ++ ")")
  | function .length => .ok "<built-in function len>"
  | function f => .ok (functionText f.label)
  | helper f => .ok (functionText f.label)
  | form .. => .ok (functionText "form")
  | boundHelper f .. => .ok ("<template helper " ++ f.label ++ ">")
  | cls k => .ok ("<class '" ++ k.label ++ "'>")
  | method x name _ =>
    .ok ("<built-in method " ++ name ++ " of " ++ x.kind.label ++ " object>")
  | unbound k name => .ok ("<method '" ++ name ++ "' of '" ++ k.label ++ "' objects>")
  | unboundPart k name => .ok ("<attribute '" ++ name ++ "' of '" ++ k.label ++ "' objects>")
  | _ => .ok "<template lambda>"

def commaJoin (parts : List Text) : Text := Text.joinWith ", " parts

/-- What stands for a value inside itself. -/
def dots : Value → Text
  | tuple .. => "(...)"
  | list _ => "[...]"
  | set _ => "set(...)"
  | dict _ => [123, 46, 46, 46, 125]
  | object _ => "namespace(...)"
  | _ => "..."

/-- The quoted form within a bound on the nesting; `open_` holds the values being written. -/
def quotedWithin (h : Heap) : Nat → List Value → Value → Except Fault Text
  | 0, _, _ => .error (.unworded .recursion)
  | fuel + 1, open_, v =>
    let inner := quotedWithin h fuel (v :: open_)
    let parts (items : List Value) : Except Fault Text := do
      pure (commaJoin (← items.mapM inner))
    if open_.any (·.identical v) then .ok v.dots
    else match v with
    | tuple [x] _ => do pure ("(" ++ (← inner x) ++ ",)")
    | tuple xs _ => do pure ("(" ++ (← parts xs) ++ ")")
    | slice a b c _ => do
      pure ("slice(" ++ commaJoin (← [a, b, c].mapM (quotedWithin h fuel open_)) ++ ")")
    | list r => do pure ("[" ++ (← parts (h.list r)) ++ "]")
    | set r =>
      if (h.set r).isEmpty then .ok "set()"
      else do pure (123 :: (← parts (h.set r)) ++ [125])
    | dict r => do
      let written ← (h.dict r).mapM fun e => do
        pure ((← inner e.1) ++ ": " ++ (← inner e.2))
      pure (123 :: commaJoin written ++ [125])
    | object r => do
      let written ← (h.object r).mapM fun e => do pure (e.1 ++ "=" ++ (← inner e.2))
      pure ("namespace(" ++ commaJoin written ++ ")")
    | view part r _ => do
      pure (part.kind.label ++ "([" ++ (← parts (h.view part r)) ++ "])")
    | lookup r => do
      pure ("functools.partial(<method 'get' of 'dict' objects>, " ++ (← inner (dict r)) ++ ")")
    | v => atomText v

def quoted (h : Heap) (v : Value) : Except Fault Text := quotedWithin h nestingLimit [] v

/-- The plain form: a text stands for itself, everything else is quoted. -/
def plain (h : Heap) : Value → Except Fault Text
  | text t _ => .ok t
  | decimal d _ => .ok d.toText
  | date y m d =>
    let padded := FloatLayout.padded
    .ok (padded 4 y ++ 45 :: padded 2 m ++ 45 :: padded 2 d)
  | v => quoted h v

/-- The plain form as a value. A text is its own, and each truth value has one. -/
def shown (h : Heap) (v : Value) : Except Fault Value :=
  match v with
  | text .. => .ok v
  | bool _ => (quoted h v).map ofName
  | v => (plain h v).map builtText

/-- The quoted form in ASCII. -/
def asciiQuoted (h : Heap) (v : Value) : Except Fault Text :=
  (quoted h v).map Text.Quoted.toAscii

end Phrasebook.Value
