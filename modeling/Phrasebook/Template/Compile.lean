import Phrasebook.Depth
import Phrasebook.Expr.Reading
import Phrasebook.Template.Segment
import Phrasebook.Text.Quoted
/-!
Compiled templates. A source without an expression is a constant; any other is a sequence of texts
and expressions that are evaluated within a budget of time and depth.
-/
namespace Phrasebook

structure Budget where
  timeout : Duration
  maxDepth : Int

namespace Budget

def defaultTimeout : Duration := .real 0.5

def standard : Budget := ⟨defaultTimeout, Depth.defaultLimit⟩

def checked (timeout : Duration) (maxDepth : Int) : Except Fault Budget :=
  if timeout.isPositive then .ok ⟨timeout, maxDepth⟩
  else .error (.refusedSetting ("timeout must be positive, got " ++ timeout.toText))

end Budget

inductive Part where
  | text (body : Text)
  | expr (e : Expr)

inductive Template where
  | constant (source : Text)
  | dynamic (source : Text) (parts : List Part) (budget : Budget)

namespace Template

def source : Template → Text
  | constant t | dynamic t _ _ => t

def isConstant : Template → Bool
  | constant _ => true
  | dynamic .. => false

def describe (t : Template) : Text :=
  (if t.isConstant then ("ConstantRenderer(" : Text) else "TemplateRenderer(")
    ++ Text.Quoted.text t.source ++ ")"

private def syntaxError (d : Diagnostic) (source : Text) : Fault :=
  .own (.templateSyntax (.diagnostic d) source)

/-- Reads an expression. Of the faults of reading, only a malformed or refused expression is one of
the template. -/
def readExpr (source body : Text) : Except Fault Expr :=
  match Expr.read body with
  | .ok e => .ok e
  | .error (.unworded .syntax_) =>
    .error (syntaxError (Diagnostic.invalidExpression source body [42]) source)
  | .error (.own (.violation (.diagnostic d))) =>
    .error (syntaxError (Diagnostic.invalidExpression source body d.message) source)
  | .error f => .error f

def readPart (source : Text) : Segment → Except Fault Part
  | .text body => .ok (.text body)
  | .expr body _ => (readExpr source body).map .expr

/-- The segments of a source in which every marker is closed. -/
def segments (source : Text) : Except Fault (List Segment) :=
  match Segment.split source with
  | .ok segments => .ok segments
  | .error offset => .error (syntaxError (Diagnostic.unterminated source offset) source)

def compile (budget : Budget) (source : Text) : Except Fault Template :=
  if !Text.isInfix Segment.opening source then .ok (constant source)
  else do
    let segments ← segments source
    pure (dynamic source (← segments.mapM (readPart source)) budget)

end Template
end Phrasebook
