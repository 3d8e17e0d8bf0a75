import Phrasebook.Number.Complex
import Phrasebook.Text.Basic
/-!
Syntax trees of placeholder expressions. The operators and constructs that templates do without
are part of the type, so that a refusal can name what it found.
-/
namespace Phrasebook

inductive Literal where
  | none
  | bool (value : Bool)
  | int (value : Int)
  | float (value : Float)
  | imaginary (value : Float)
  | text (value : Text)
  | bytes (value : List UInt8)
  | ellipsis

inductive BinaryOp where
  | add | sub | mul | div | floorDiv | mod | pow
  | matMul | bitAnd | bitOr | bitXor | shiftLeft | shiftRight
  deriving DecidableEq

inductive UnaryOp where
  | not | invert | negative | positive
  deriving DecidableEq

inductive CompareOp where
  | eq | notEq | less | lessEq | greater | greaterEq | isIn | notIn | same | notSame
  deriving DecidableEq

inductive Connective where
  | and | or
  deriving DecidableEq

/-- How the value of an f-string field is turned into text first. -/
inductive Conversion where
  | plain | quoted | ascii
  deriving DecidableEq

/-- Constructs outside the template grammar. -/
inductive Foreign where
  | namedExpr | await | yield | yieldFrom | listComp | setComp | dictComp | generator
  deriving DecidableEq

/-- Where a literal stands: the text of its expression, and how many literals come before it. Each
place has a value of its own, however often it is evaluated. -/
structure Place where
  source : Text := []
  index : Nat := 0
  deriving DecidableEq

/-- Expressions. In a call a keyword without name is a mapping to unpack; in a dictionary display
an item without key is one. `simpleParams` holds for lambdas with plain positional parameters
only. -/
inductive Expr where
  | literal (value : Literal) (place : Place)
  | name (id : Text)
  | attribute (target : Expr) (attr : Text)
  | subscript (target index : Expr)
  | slice (lower upper step : Option Expr)
  | call (function : Expr) (args : List Expr) (keywords : List (Option Text × Expr))
  | binary (op : BinaryOp) (left right : Expr)
  | unary (op : UnaryOp) (operand : Expr)
  | boolean (op : Connective) (operands : List Expr)
  | compare (left : Expr) (rest : List (CompareOp × Expr))
  | conditional (test body orElse : Expr)
  | list (items : List Expr)
  | tuple (items : List Expr)
  | set (items : List Expr)
  | dict (items : List (Option Expr × Expr))
  | joined (parts : List Expr)
  | formatted (value : Expr) (conversion : Option Conversion) (spec : Option Expr)
  | lambda (params : List Text) (simpleParams : Bool) (body : Expr)
  | starred (value : Expr)
  | foreign (construct : Foreign)

instance : Inhabited Expr := ⟨.literal .none {}⟩

namespace BinaryOp

def label : BinaryOp → Text
  | .add => "Add" | .sub => "Sub" | .mul => "Mult" | .div => "Div" | .floorDiv => "FloorDiv"
  | .mod => "Mod" | .pow => "Pow" | .matMul => "MatMult" | .bitAnd => "BitAnd"
  | .bitOr => "BitOr" | .bitXor => "BitXor" | .shiftLeft => "LShift" | .shiftRight => "RShift"

def isAllowed : BinaryOp → Bool
  | .add | .sub | .mul | .div | .floorDiv | .mod | .pow => true
  | _ => false

end BinaryOp

namespace Foreign

def label : Foreign → Text
  | .namedExpr => "NamedExpr" | .await => "Await" | .yield => "Yield"
  | .yieldFrom => "YieldFrom" | .listComp => "ListComp" | .setComp => "SetComp"
  | .dictComp => "DictComp" | .generator => "GeneratorExp"

end Foreign

namespace Expr

/-- The expressions directly below, in the order of evaluation of their text. -/
def children : Expr → List Expr
  | .literal .. | .name _ | .foreign _ => []
  | .attribute e _ | .unary _ e | .starred e | .lambda _ _ e => [e]
  | .subscript a b | .binary _ a b => [a, b]
  | .slice a b c => a.toList ++ b.toList ++ c.toList
  | .call f args keywords => f :: args ++ keywords.map (·.2)
  | .boolean _ es | .list es | .tuple es | .set es | .joined es => es
  | .compare a rest => a :: rest.map (·.2)
  | .conditional a b c => [a, b, c]
  | .dict items => items.filterMap (·.1) ++ items.map (·.2)
  | .formatted a _ spec => a :: spec.toList

end Expr
end Phrasebook
