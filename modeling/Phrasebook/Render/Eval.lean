import Phrasebook.Method.Dispatch
import Phrasebook.Render.State
import Phrasebook.Value.Attribute
/-!
Evaluation of expressions, one node at a time. A node is evaluated by an interpreter for the nodes
below it and for the functions it calls; operands go from left to right, and in a dictionary display
each value before its key.
-/
namespace Phrasebook

/-- What evaluates the parts of a node: expressions in an evaluation and a scope, and calls. -/
structure Interpreter where
  eval : Nat → Locals → Expr → Render Value
  invoke : Value → Call → Render Value

namespace Render

/-- A name is a parameter or an entry of the data. -/
def lookup (r : Nat) (locals : Locals) (name : Text) : Render Value := do
  match locals.lookup name with
  | some v => pure v
  | none => match (← run r).data.get? name with
    | some v => pure v
    | none => throw (.undefinedName name)

/-- The attribute of a value as templates see it: entries of a dictionary come first, and partial
functions show nothing. -/
def shownMember (h : Heap) (target : Value) (attr : Text) : Except Fault Value :=
  match target with
  | .dict r => match Entries.find? (h.dict r) (.ofText attr) with
    | some v => .ok v
    | none => target.member h attr
  | .lookup _ =>
    .error (.violation ("Access to attribute '" ++ attr
      ++ "' of a partial function is not allowed"))
  | v => v.member h attr

def attributeOf (target : Value) (attr : Text) : Render Value :=
  if Expr.isForbiddenAttribute attr then throw (Refusal.attribute attr).fault
  else look fun h => shownMember h target attr

/-- The items of a display or argument list; a starred item gives all of its own. -/
def elements (eval : Expr → Render Value) : List Expr → Render (List Value)
  | [] => pure []
  | .starred e :: rest => do
    let v ← eval e
    let items ← ofMemory (Memory.markAll (← look fun h => v.items h))
    pure (items ++ (← elements eval rest))
  | e :: rest => do
    let v ← eval e
    pure (v :: (← elements eval rest))

def updated (m : Entries) (source : Value) : Render Entries := do
  match Method.updateEntries (← get).heap m source with
  | (m, none) => pure m
  | (_, some f) => throw f

def dictItems (eval : Expr → Render Value) (m : Entries) :
    List (Option Expr × Expr) → Render Entries
  | [] => pure m
  | (none, e) :: rest => do
    let v ← eval e
    dictItems eval (← updated m v) rest
  | (some k, e) :: rest => do
    let v ← eval e
    let key ← eval k
    if key.isHashable then dictItems eval (m.insert key v) rest else throw .type

def keywordItems (eval : Expr → Render Value) (m : Entries) :
    List (Option Text × Expr) → Render Entries
  | [] => pure m
  | (none, e) :: rest => do
    let v ← eval e
    keywordItems eval (← updated m v) rest
  | (some name, e) :: rest => do
    let v ← eval e
    keywordItems eval (m.insert (.ofName name) v) rest

/-- Evaluates operands up to the first whose truth decides. -/
def connect (eval : Expr → Render Value) (op : Connective) (last : Value) :
    List Expr → Render Value
  | [] => pure last
  | e :: rest => do
    let v ← eval e
    if v.truth (← get).heap == (op == .or) then pure v else connect eval op v rest

/-- A chain of comparisons, up to the first that fails. -/
def compareChain (eval : Expr → Render Value) (left : Value) :
    List (CompareOp × Expr) → Render Bool
  | [] => pure true
  | (op, e) :: rest => do
    let right ← eval e
    if ← look fun h => Value.holds h op left right then compareChain eval right rest
    else pure false

def optional (eval : Expr → Render Value) : Option Expr → Render Value
  | none => pure .none
  | some e => eval e

def converted (conversion : Option Conversion) (v : Value) : Render Value := do
  match conversion with
  | none => pure v
  | some .plain => look fun h => Value.shown h v
  | some .quoted => return .builtText (← look fun h => Value.quoted h v)
  | some .ascii => return .builtText (← look fun h => Value.asciiQuoted h v)

def specText (eval : Expr → Render Value) : Option Expr → Render Text
  | none => pure []
  | some e => do
    let s ← eval e
    look fun h => Value.plain h s

/-- The plain forms of values in a row. One alone is itself. -/
def joined : List Value → Render Value
  | [t] => pure t
  | texts => return .builtText (← texts.mapM fun t => look fun h => Value.plain h t).flatten

def inRow (eval : Expr → Render Value) (parts : List Expr) : Render Value := do
  let texts ← parts.mapM fun part => do
    let v ← eval part
    look fun h => Value.shown h v
  joined texts

/-- A keyword has to be a text. -/
def keywordOf (e : Value × Value) : Except Fault (Text × Value) :=
  match e.1 with
  | .text name _ => .ok (name, e.2)
  | _ => .error .type

def callOf (args : List Value) (keywords : Entries) : Except Fault Call := do
  let keywords ← keywords.mapM keywordOf
  pure ⟨args, keywords⟩

end Render

namespace Interpreter

/-- A call of what a template may call: its arguments, the limits, and the call itself. -/
def callWith (lower : Interpreter) (r : Nat) (locals : Locals) (f : Value) (args : List Expr)
    (keywords : List (Option Text × Expr)) : Render Value := do
  let args ← Render.elements (lower.eval r locals) args
  let keywords ← Render.keywordItems (lower.eval r locals) [] keywords
  ofExcept (Limits.checkCall f args (keywords.map (·.2)))
  let call ← ofExcept (Render.callOf args keywords)
  let result ← lower.invoke f call
  Render.checkDeadline r
  pure result

/-- A call: the function first, and no class. -/
def call (lower : Interpreter) (r : Nat) (locals : Locals) (function : Expr) (args : List Expr)
    (keywords : List (Option Text × Expr)) : Render Value := do
  let f ← lower.eval r locals function
  if !f.isCallable then throw (.notCallable f.kind.label)
  else match f with
    | .cls _ => throw (.violation "Calling classes is not allowed in templates")
    | f => lower.callWith r locals f args keywords

def dispatch (lower : Interpreter) (r : Nat) (locals : Locals) (e : Expr) : Render Value := do
  let eval := lower.eval r locals
  match e with
  | .literal l place => pure (.ofLiteral place l)
  | .name id => Render.lookup r locals id
  | .attribute target attr => Render.attributeOf (← eval target) attr
  | .subscript target index =>
    let t ← eval target
    let i ← eval index
    Render.ofMemory (t.subscript i)
  | .slice lower upper step =>
    let a ← Render.optional eval lower
    let b ← Render.optional eval upper
    let c ← Render.optional eval step
    pure (.ofBounds a b c)
  | .call f args keywords => lower.call r locals f args keywords
  | .binary op left right =>
    let a ← eval left
    let b ← eval right
    Render.ofMemory (Value.binary op a b)
  | .unary op operand =>
    let a ← eval operand
    Render.look fun h => Value.unary h op a
  | .boolean op operands => Render.connect eval op .none operands
  | .compare left rest => return .bool (← Render.compareChain eval (← eval left) rest)
  | .conditional test body orElse =>
    let t ← eval test
    eval (if t.truth (← get).heap then body else orElse)
  | .list items => Render.ofMemory (Memory.newList (← Render.elements eval items))
  | .tuple items => return .ofItems (← Render.elements eval items)
  | .set items =>
    let items ← Render.elements eval items
    if items.all Value.isHashable then
      Render.ofMemory (Memory.newSet (items.foldl Value.insertItem []))
    else throw .type
  | .dict items => Render.ofMemory (Memory.newDict (← Render.dictItems eval [] items))
  | .joined parts => Render.inRow eval parts
  | .formatted value conversion spec =>
    let v ← Render.converted conversion (← eval value)
    let spec ← Render.specText eval spec
    ofExcept (Limits.checkSpec spec)
    Render.look fun h => Value.formatted h v spec
  | .lambda params _ body => Render.newClosure ⟨params, body, locals, r⟩
  | .starred _ => throw (Refusal.construct "Starred").fault
  | .foreign f => throw (Refusal.construct f.label).fault

/-- One node within the deadline and the depth limit. -/
def node (lower : Interpreter) (r : Nat) (locals : Locals) (e : Expr) : Render Value := do
  Render.checkDeadline r
  Render.mark (← Render.guarded r (lower.dispatch r locals e))

end Interpreter
end Phrasebook
