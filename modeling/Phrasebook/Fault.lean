import Phrasebook.Diagnostic.Catalog
import Phrasebook.Diagnostic.Format
/-!
Faults: the library's own errors, and what evaluating, reading and arithmetic may raise besides.
The wording of a fault is `none` where no wording is fixed.
-/
namespace Phrasebook

/-- The content of one of the library's own errors. -/
inductive Report where
  | message (text : Text)
  | diagnostic (value : Diagnostic)

namespace Report

def text : Report → Text
  | .message t => t
  | .diagnostic d => d.toText

def code? : Report → Option DiagnosticCode
  | .message _ => none
  | .diagnostic d => some d.code

end Report

inductive PhraseError where
  | general (report : Report)
  | invalidShape (report : Report) (locale path : Text)
  | templateSyntax (report : Report) (source : Text)
  | execution (report : Report) (source cause : Text) (locale key : Option Text)
  | keyNotFound (report : Report) (locale key : Text)
  | timedOut (report : Report)
  | violation (report : Report)
  | tooDeep (report : Report)

namespace PhraseError

def report : PhraseError → Report
  | .general r | .invalidShape r _ _ | .templateSyntax r _ | .execution r .. | .keyNotFound r _ _
  | .timedOut r | .violation r | .tooDeep r => r

/-- Whether the error also answers to handlers of failed look-ups. -/
def isKeyError : PhraseError → Bool
  | .keyNotFound .. => true
  | _ => false

end PhraseError

/-- Kinds of faults that the library shares with its host. -/
inductive FaultKind where
  | name | type | attribute | index | key | value | zeroDivision | overflow | arithmetic
  | runtime | recursion | memory | encoding | decoding | unicode | syntax_ | missingFile | directory
  | json | yaml | lookup
  deriving DecidableEq

inductive Indexed where
  | list | tuple | string
  deriving DecidableEq

inductive Fault where
  | undefinedName (name : Text)
  | notCallable (kind : Text)
  | lambdaArity (expected given : Nat)
  | noAttribute (kind attr : Text)
  | outOfRange (what : Indexed)
  | missingKey (shown : Text)
  | raised (message : Text)
  | refusedSetting (message : Text)
  | missingDirectory (path : Text)
  | unworded (kind : FaultKind)
  | own (error : PhraseError)

namespace FaultKind

def label : FaultKind → Text
  | .name => "NameError" | .type => "TypeError" | .attribute => "AttributeError"
  | .index => "IndexError" | .key => "KeyError" | .value => "ValueError"
  | .zeroDivision => "ZeroDivisionError" | .overflow => "OverflowError"
  | .arithmetic => "DecimalException" | .runtime => "RuntimeError"
  | .recursion => "RecursionError" | .memory => "MemoryError"
  | .encoding => "UnicodeEncodeError" | .decoding => "UnicodeDecodeError"
  | .unicode => "UnicodeError"
  | .syntax_ => "SyntaxError" | .missingFile => "FileNotFoundError"
  | .directory => "IsADirectoryError" | .json => "JSONDecodeError" | .yaml => "YAMLError"
  | .lookup => "LookupError"

end FaultKind

namespace PhraseError

def label : PhraseError → Text
  | .general _ => "I18nError"
  | .invalidShape .. => "InvalidResourceShapeError"
  | .templateSyntax .. => "TemplateSyntaxError"
  | .execution .. => "TemplateExecutionError"
  | .keyNotFound .. => "ResourceKeyNotFoundError"
  | .timedOut _ => "SandboxTimeoutError"
  | .violation _ => "SandboxViolationError"
  | .tooDeep _ => "DepthLimitExceededError"

end PhraseError

namespace Indexed

def label : Indexed → Text
  | .list => "list" | .tuple => "tuple" | .string => "string"

end Indexed

namespace Fault

def label : Fault → Text
  | .undefinedName _ => FaultKind.label .name
  | .notCallable _ | .lambdaArity .. => FaultKind.label .type
  | .noAttribute .. => FaultKind.label .attribute
  | .outOfRange _ => FaultKind.label .index
  | .missingKey _ => FaultKind.label .key
  | .raised _ => FaultKind.label .runtime
  | .refusedSetting _ => FaultKind.label .value
  | .missingDirectory _ => FaultKind.label .missingFile
  | .unworded kind => kind.label
  | .own e => e.label

private def isWord (t : Text) : Bool := !t.contains 46 && !t.contains 32

def message? : Fault → Option Text
  | .undefinedName n => some ("name '" ++ n ++ "' is not defined")
  | .notCallable k => some ("'" ++ k ++ "' object is not callable")
  | .lambdaArity expected given =>
    some ("<lambda>() takes " ++ Text.ofNat expected ++ " argument(s) but " ++ Text.ofNat given
      ++ " were given")
  | .noAttribute k a =>
    if isWord k then some ("'" ++ k ++ "' object has no attribute '" ++ a ++ "'") else none
  | .outOfRange what => some (what.label ++ " index out of range")
  | .missingKey shown => some shown
  | .raised m => some m
  | .refusedSetting m => some m
  | .missingDirectory path => some ("Locales directory '" ++ path ++ "' not found")
  | .unworded _ => none
  | .own e => some e.report.text

/-- The wording, or a star where none is fixed. -/
def message (f : Fault) : Text := f.message?.getD [42]

/-- Kind and wording, as given for the cause of a failed render. -/
def describe (f : Fault) : Text := f.label ++ ": " ++ f.message

def type : Fault := .unworded .type

def value : Fault := .unworded .value

def violation (detail : Text) : Fault :=
  .own (.violation (.diagnostic (Diagnostic.forbidden detail)))

end Fault
end Phrasebook
