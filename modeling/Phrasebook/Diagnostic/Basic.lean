import Phrasebook.Text.Basic
/-!
Diagnostics: a code, a message, and what is known of the place. Codes fall into reference errors,
template errors and resource errors, by thousands.
-/
namespace Phrasebook

inductive DiagnosticCode where
  | resourceKeyNotFound
  | templateSyntax
  | templateUnterminatedExpression
  | templateExecutionFailed
  | templateTimeout
  | templateDepthExceeded
  | templateForbiddenOperation
  | resourceRootNotMapping
  | resourceInvalidKey
  | resourceInvalidLeaf
  deriving DecidableEq

inductive Severity where
  | error | warning
  deriving DecidableEq

structure Diagnostic where
  code : DiagnosticCode
  message : Text
  hint : Option Text := none
  locale : Option Text := none
  key : Option Text := none
  source : Option Text := none
  severity : Severity := .error
  deriving DecidableEq

namespace DiagnosticCode

def label : DiagnosticCode → Text
  | .resourceKeyNotFound => "RESOURCE_KEY_NOT_FOUND"
  | .templateSyntax => "TEMPLATE_SYNTAX"
  | .templateUnterminatedExpression => "TEMPLATE_UNTERMINATED_EXPRESSION"
  | .templateExecutionFailed => "TEMPLATE_EXECUTION_FAILED"
  | .templateTimeout => "TEMPLATE_TIMEOUT"
  | .templateDepthExceeded => "TEMPLATE_DEPTH_EXCEEDED"
  | .templateForbiddenOperation => "TEMPLATE_FORBIDDEN_OPERATION"
  | .resourceRootNotMapping => "RESOURCE_ROOT_NOT_MAPPING"
  | .resourceInvalidKey => "RESOURCE_INVALID_KEY"
  | .resourceInvalidLeaf => "RESOURCE_INVALID_LEAF"

def value : DiagnosticCode → Nat
  | .resourceKeyNotFound => 1001
  | .templateSyntax => 2001
  | .templateUnterminatedExpression => 2002
  | .templateExecutionFailed => 2003
  | .templateTimeout => 2004
  | .templateDepthExceeded => 2005
  | .templateForbiddenOperation => 2006
  | .resourceRootNotMapping => 3001
  | .resourceInvalidKey => 3002
  | .resourceInvalidLeaf => 3003

def all : List DiagnosticCode :=
  [.resourceKeyNotFound, .templateSyntax, .templateUnterminatedExpression,
   .templateExecutionFailed, .templateTimeout, .templateDepthExceeded,
   .templateForbiddenOperation, .resourceRootNotMapping, .resourceInvalidKey,
   .resourceInvalidLeaf]

def ofLabel? (t : Text) : Option DiagnosticCode := all.find? fun c => c.label == t

end DiagnosticCode

namespace Severity

def label : Severity → Text
  | .error => "error"
  | .warning => "warning"

end Severity
end Phrasebook
