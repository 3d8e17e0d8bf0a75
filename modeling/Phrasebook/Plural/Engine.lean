import Phrasebook.Depth
import Phrasebook.Locale.Tag
import Phrasebook.OrderedMap
import Phrasebook.Plural.Rule
import Phrasebook.Text.Quoted
/-!
Plural engines: which rule a language follows, and which warnings have been given. A tag is looked
up in full, then by its language, then falls back to the default rule.
-/
namespace Phrasebook

/-- The rules of the languages that have one. A region may differ from its language. -/
def languageRules : OrderedMap PluralRule :=
  let entries (rule : PluralRule) (languages : List String) : List (Text × PluralRule) :=
    languages.map fun l => (Text.ofString l, rule)
  OrderedMap.ofList
    (entries .english ["da", "de", "en", "es", "fi", "el", "he", "hu", "it", "nl", "no", "pt",
        "sv", "br"]
      ++ entries .chinese ["fa", "id", "ja", "ko", "lo", "ms", "th", "tr", "zh", "jp"]
      ++ entries .french ["fr", "tl", "pt-br"]
      ++ entries .russian ["hr", "ru", "uk", "uz"]
      ++ entries .czech ["cs", "sk"]
      ++ entries .icelandic ["is"]
      ++ entries .polish ["pl"]
      ++ entries .arabic ["ar"])

inductive PluralWarning where
  | language (tag : Text)
  | clamp (rule : PluralRule) (forms : Nat)
  deriving DecidableEq

structure PluralEngine where
  rules : OrderedMap PluralRule
  defaultRule : PluralRule
  warned : List PluralWarning := []

namespace PluralEngine

/-- An engine over a table of rules, whose tags may have any spelling. -/
def new (rules : List (Text × PluralRule) := languageRules) (defaultLanguage : Text := "en") :
    PluralEngine :=
  let rules := OrderedMap.ofList (rules.map fun e => (Locale.normalize e.1, e.2))
  { rules := rules
    defaultRule := ((rules.get? (Locale.normalize defaultLanguage)).getD .english) }

/-- The rule that the table has for a tag or its language. -/
def entry? (e : PluralEngine) (tag : Text) : Option PluralRule :=
  let code := Locale.normalize tag
  match e.rules.get? code with
  | some rule => some rule
  | none => e.rules.get? (Locale.base code)

def languageWarning (e : PluralEngine) (tag : Text) : LogRecord :=
  ⟨.warning, "Unsupported plural language " ++ Text.Quoted.text tag ++ ", falling back to "
    ++ Text.Quoted.text e.defaultRule.label ++ " rules"⟩

/-- The rule for a tag, with the warning for one that has none. -/
def ruleFor (e : PluralEngine) (tag : Text) : PluralRule × PluralEngine × List LogRecord :=
  match e.entry? tag with
  | some rule => (rule, e, [])
  | none =>
    let mark := PluralWarning.language (Locale.normalize tag)
    if e.warned.contains mark then (e.defaultRule, e, [])
    else (e.defaultRule, { e with warned := mark :: e.warned }, [languageWarning e tag])

/-- Gives a tag a rule; a warning about the tag may be given again. -/
def register (e : PluralEngine) (tag : Text) (rule : PluralRule) : PluralEngine :=
  let code := Locale.normalize tag
  { e with
    rules := e.rules.insert code rule
    warned := e.warned.filter (· != PluralWarning.language code) }

def resetWarnings (e : PluralEngine) : PluralEngine := { e with warned := [] }

def clampWarning (rule : PluralRule) (index forms : Nat) : LogRecord :=
  ⟨.warning, Text.Quoted.text rule.label ++ " plural rules selected form " ++ Text.ofNat index
    ++ " but only " ++ Text.ofNat forms ++ " form(s) supplied; using the last form"⟩

/-- The index clamped to the last of `forms` forms, with the warning for clamping. -/
def clampIndex (e : PluralEngine) (rule : PluralRule) (index forms : Nat) :
    Nat × PluralEngine × List LogRecord :=
  if index < forms then (index, e, [])
  else
    let mark := PluralWarning.clamp rule forms
    if e.warned.contains mark then (forms - 1, e, [])
    else (forms - 1, { e with warned := mark :: e.warned }, [clampWarning rule index forms])

end PluralEngine
end Phrasebook
