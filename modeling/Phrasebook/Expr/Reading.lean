import Phrasebook.Expr.Basic
import Phrasebook.Expr.Parser
import Phrasebook.Expr.Place
import Phrasebook.Fault
/-!
Reading a placeholder expression: a text is parsed, and the expression is then held against the
template grammar: which constructs, attribute names and lambdas a template may use. It is checked level
by level from the top, and the first construct outside is refused.
-/
namespace Phrasebook

inductive Refusal where
  | construct (label : Text)
  | attribute (name : Text)
  | lambdaParameters

namespace Expr

/-- Names that start with an underscore, and those that reach into the formatting language or the
class of a value. -/
def isForbiddenAttribute (attr : Text) : Bool :=
  attr.head? == some 95 || attr == "format" || attr == "format_map" || attr == "mro"

/-- Points of a syntax tree that a refusal can name. -/
inductive Node where
  | expr (e : Expr)
  | operator (op : BinaryOp)
  | keyword (value : Expr)

namespace Node

def children : Node → List Node
  | .operator _ => []
  | .keyword e => [.expr e]
  | .expr (.binary op a b) => [.expr a, .operator op, .expr b]
  | .expr (.call f args keywords) =>
    .expr f :: args.map .expr ++ keywords.map fun k => .keyword k.2
  | .expr e => e.children.map .expr

def refusal? : Node → Option Refusal
  | .operator op => if op.isAllowed then none else some (.construct op.label)
  | .keyword _ => none
  | .expr (.foreign f) => some (.construct f.label)
  | .expr (.attribute _ attr) =>
    if isForbiddenAttribute attr then some (.attribute attr) else none
  | .expr (.lambda _ simple _) => if simple then none else some .lambdaParameters
  | .expr _ => none

end Node

/-- The first refusal on this level or, within `depth` levels, below it. -/
def firstRefusal : Nat → List Node → Option Refusal
  | 0, _ => none
  | depth + 1, level =>
    if level.isEmpty then none
    else match level.findSome? Node.refusal? with
      | some r => some r
      | none => firstRefusal depth (level.flatMap Node.children)

end Expr

namespace Refusal

def message : Refusal → Text
  | .construct label => "Unsupported syntax in template expression: " ++ label
  | .attribute name => "Access to attribute '" ++ name ++ "' is not allowed"
  | .lambdaParameters => "Template lambdas accept plain positional parameters only"

def fault (r : Refusal) : Fault := .violation r.message

end Refusal

namespace Expr

def refusal? (e : Expr) : Option Refusal := firstRefusal (2 * e.depth + 2) [.expr e]

private def ofParseError : ParseError → Fault
  | .malformed => .unworded .syntax_
  | .notEncodable => .unworded .encoding
  | .nestedTooDeep => .unworded .recursion

/-- The expression that a text writes, within the template grammar, with its literals placed. -/
def read (t : Text) : Except Fault Expr :=
  match Parser.parse t with
  | .error e => .error (ofParseError e)
  | .ok e => match e.refusal? with
    | some r => .error r.fault
    | none => .ok (e.placed t)

end Expr
end Phrasebook
