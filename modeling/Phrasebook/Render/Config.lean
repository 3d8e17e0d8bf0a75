import Phrasebook.Locale.Tag
import Phrasebook.Template.Compile
import Phrasebook.Value.Datum
/-!
Configurations: the default language, what is done about missing keys, shared template data, and the
budget of a render. A configuration is checked and normalized when it is made, and again when some
of its settings are replaced.
-/
namespace Phrasebook

structure Config where
  defaultLanguage : Text := "en"
  defaultOnMissing : Bool := false
  allowMissing : Bool := true
  templateData : OrderedMap Value := []
  timeout : Duration := Budget.defaultTimeout
  maxDepth : Int := Depth.defaultLimit

inductive Setting where
  | defaultLanguage (tag : Text)
  | defaultOnMissing (b : Bool)
  | allowMissing (b : Bool)
  | templateData (data : OrderedMap Value)
  | timeout (d : Duration)
  | maxDepth (n : Int)

namespace Config

private def refused (message : Text) : Fault := .refusedSetting message

/-- The normal form of acceptable settings. Falling back to the default language implies that keys
may be missing. -/
def checked (c : Config) : Except Fault Config :=
  let language := Locale.normalize c.defaultLanguage
  if language.isEmpty then .error (refused "default_language must not be empty")
  else if !c.timeout.isPositive then .error (refused "template_timeout must be positive")
  else if c.maxDepth ≤ 0 then .error (refused "max_expression_depth must be positive")
  else .ok { c with
    defaultLanguage := language
    allowMissing := c.defaultOnMissing || c.allowMissing }

def set (c : Config) : Setting → Config
  | .defaultLanguage tag => { c with defaultLanguage := tag }
  | .defaultOnMissing b => { c with defaultOnMissing := b }
  | .allowMissing b => { c with allowMissing := b }
  | .templateData data => { c with templateData := data }
  | .timeout d => { c with timeout := d }
  | .maxDepth n => { c with maxDepth := n }

/-- A configuration with some settings replaced, checked anew. -/
def replace (c : Config) (settings : List Setting) : Except Fault Config :=
  checked (settings.foldl set c)

def ofSettings (settings : List Setting) : Except Fault Config := replace {} settings

def defaultBase (c : Config) : Text := Locale.base c.defaultLanguage

def budget (c : Config) : Budget := ⟨c.timeout, c.maxDepth⟩

end Config

namespace Setting

def ofField (name : Text) (d : Datum) : Except Fault (Memory Setting) :=
  let is (s : String) : Bool := name == Text.ofString s
  if is "default_language" then match d with
    | .text t => .ok (pure (.defaultLanguage t))
    | .bytes _ => .error .type
    | d => .error (.noAttribute d.kindLabel "strip")
  else if is "default_language_on_missing" then match d with
    | .bool b => .ok (pure (.defaultOnMissing b))
    | _ => .error .type
  else if is "allow_missing" then match d with
    | .bool b => .ok (pure (.allowMissing b))
    | _ => .error .type
  else if is "template_data" then match d with
    | .map _ => .ok (do pure (.templateData (← Datum.toNamedValues d.named)))
    | _ => .error .type
  else if is "template_timeout" then match d with
    | .int n => .ok (pure (.timeout (.whole n)))
    | .float x => .ok (pure (.timeout (.real x)))
    | _ => .error .type
  else if is "max_expression_depth" then match d with
    | .int n => .ok (pure (.maxDepth n))
    | _ => .error .type
  else .error .type

end Setting
end Phrasebook
