import Phrasebook.Diagnostic.Basic
import Phrasebook.Text.Quoted
/-!
Diagnostics as text: a block with place and hint, a single line, or a JSON object. Sanitizing cuts
free text at a length.
-/
namespace Phrasebook

inductive DiagnosticStyle where
  | block | line | json
  deriving DecidableEq

structure DiagnosticFormat where
  style : DiagnosticStyle := .block
  sanitize : Bool := false
  maxLength : Int := 100

namespace DiagnosticFormat

/-- The first `n` characters; a negative `n` drops that many at the end. -/
def head (n : Int) (t : Text) : Text :=
  if 0 ≤ n then t.take n.toNat else t.take (t.length - (-n).toNat)

/-- Free text, cut when it is too long and sanitizing is on. -/
def cut (f : DiagnosticFormat) (t : Text) : Text :=
  if f.sanitize && decide (f.maxLength < t.length) then head f.maxLength t ++ "..." else t

/-- The line that names the locale, and the key if both are known. -/
def place (d : Diagnostic) : List Text :=
  match d.locale, d.key with
  | some locale, some key => [("  --> " : Text) ++ locale ++ ":" ++ key]
  | some locale, none => [("  --> " : Text) ++ locale]
  | none, _ => []

/-- The hint, cut; an empty one is none. -/
def help (f : DiagnosticFormat) (d : Diagnostic) : Option Text :=
  match d.hint with
  | some hint => if hint.isEmpty then none else some (f.cut hint)
  | none => none

def block (f : DiagnosticFormat) (d : Diagnostic) : Text :=
  Text.joinWith [10]
    ((d.severity.label ++ "[" ++ d.code.label ++ "]: " ++ d.message) :: place d
      ++ (f.help d).toList.map fun hint => ("  = help: " : Text) ++ hint)

def line (f : DiagnosticFormat) (d : Diagnostic) : Text :=
  d.code.label ++ ": " ++ f.cut d.message

def member (name value : Text) : Text × Text := (name, value)

/-- The members of the JSON object, values already written. -/
def members (f : DiagnosticFormat) (d : Diagnostic) : List (Text × Text) :=
  [member "code" (Text.Quoted.json d.code.label), member "code_value" (Text.ofNat d.code.value),
   member "message" (Text.Quoted.json (f.cut d.message)),
   member "severity" (Text.Quoted.json d.severity.label)]
  ++ d.locale.toList.map (fun t => member "locale" (Text.Quoted.json t))
  ++ d.key.toList.map (fun t => member "key" (Text.Quoted.json t))
  ++ d.source.toList.map (fun t => member "source" (Text.Quoted.json (f.cut t)))
  ++ (f.help d).toList.map (fun t => member "hint" (Text.Quoted.json t))

def json (f : DiagnosticFormat) (d : Diagnostic) : Text :=
  123 :: Text.joinWith ", " ((f.members d).map fun m => Text.Quoted.json m.1 ++ ": " ++ m.2)
    ++ [125]

def format (f : DiagnosticFormat) (d : Diagnostic) : Text :=
  match f.style with
  | .block => f.block d
  | .line => f.line d
  | .json => f.json d

/-- Several diagnostics with a blank line between them. -/
def formatAll (f : DiagnosticFormat) (ds : List Diagnostic) : Text :=
  Text.joinWith [10, 10] (ds.map f.format)

end DiagnosticFormat

namespace Diagnostic

/-- The full block, without sanitizing. -/
def toText (d : Diagnostic) : Text := ({} : DiagnosticFormat).format d

end Diagnostic
end Phrasebook
