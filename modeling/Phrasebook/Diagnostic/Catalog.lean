import Phrasebook.Diagnostic.Basic
import Phrasebook.Duration
/-!
The wording of every diagnostic. A template source is shown up to its sixtieth character.
-/
namespace Phrasebook.Diagnostic

def preview (source : Text) : Text :=
  if source.length ≤ 60 then source else source.take 60 ++ "..."

def keyNotFound (locale key : Text) : Diagnostic where
  code := .resourceKeyNotFound
  message := "Resource '" ++ locale ++ "." ++ key ++ "' not found"
  hint := some "Load the key for this locale, or enable allow_missing"
  locale := some locale
  key := some key

def unterminated (source : Text) (offset : Int) : Diagnostic where
  code := .templateUnterminatedExpression
  message := "Unterminated expression at offset " ++ Text.ofInt offset ++ " in template '"
    ++ preview source ++ "'"
  hint := some "Close every '$\x7b' with a matching '\x7d'"
  source := some source

def invalidExpression (source expression detail : Text) : Diagnostic where
  code := .templateSyntax
  message := "Invalid expression '" ++ expression ++ "' in template '" ++ preview source ++ "': "
    ++ detail
  hint := some ("Expressions use Python syntax, e.g. $\x7bname\x7d or $\x7bpluralize(n, " ++
    "forms)\x7d" : String)
  source := some source

def executionFailed (source cause : Text) (locale key : Option Text) : Diagnostic where
  code := .templateExecutionFailed
  message :=
    let place : Text := match locale, key with
      | some l, some k => " ('" ++ l ++ "." ++ k ++ "')"
      | _, _ => []
    "Template" ++ place ++ " failed: " ++ cause
  hint := some "Check that every name used in the template is provided in the data"
  locale := locale
  key := key
  source := some source

def timedOut (budget : Duration) : Diagnostic where
  code := .templateTimeout
  message := "Template evaluation exceeded " ++ budget.millisecondsText ++ " ms"

def tooDeep (limit : Int) : Diagnostic where
  code := .templateDepthExceeded
  message := "Maximum nesting depth exceeded (max: " ++ Text.ofInt limit ++ ")"
  hint := some "Reduce nesting or check for runaway recursion"

def forbidden (detail : Text) : Diagnostic where
  code := .templateForbiddenOperation
  message := detail

def rootNotMapping (locale kind : Text) : Diagnostic where
  code := .resourceRootNotMapping
  message := "Locale '" ++ locale ++ "' must contain an object at root, got " ++ kind
  locale := some locale

/-- A key that is no path segment, shown as a literal. -/
def invalidKey (locale path shown : Text) : Diagnostic where
  code := .resourceInvalidKey
  message := "Invalid key " ++ shown ++ " under '" ++
    (if path.isEmpty then ("<root>" : Text) else path) ++ "' in locale '" ++ locale ++ "'"
  hint := some "Keys must be non-empty strings without '.'"
  locale := some locale
  key := if path.isEmpty then none else some path

def invalidLeaf (locale path kind : Text) : Diagnostic where
  code := .resourceInvalidLeaf
  message := "Unsupported value of type " ++ kind ++ " at '" ++ path ++ "' in locale '" ++ locale
    ++ "'"
  hint := some "Quote numbers and booleans so they load as template strings"
  locale := some locale
  key := some path

end Phrasebook.Diagnostic
