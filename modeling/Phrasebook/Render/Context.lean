import Phrasebook.Render.Eval
/-!
Contexts: resolving a requested locale, finding the template of a key along the chain of locales,
and rendering it. A key is looked for in the effective locale, its language, the default language
and is then itself the text, as far as the configuration allows.
-/
namespace Phrasebook

structure Resolution where
  language : Text
  base : Text
  deriving DecidableEq

namespace Resolution

def fallbackRecord (code base default : Text) : LogRecord :=
  ⟨.debug, "No resources for " ++ Text.Quoted.text code ++ " or " ++ Text.Quoted.text base
    ++ "; using default language " ++ Text.Quoted.text default⟩

/-- The default language stands in for a request that is absent, or that has no resources. -/
def resolve (store : ResourceStore) (config : Config) (request : Option Text) :
    Resolution × List LogRecord :=
  let code := Locale.normalize (request.getD [])
  let code := if code.isEmpty then config.defaultLanguage else code
  let base := Locale.base code
  if store.hasLocale code || store.hasLocale base then (⟨code, base⟩, [])
  else
    (⟨config.defaultLanguage, config.defaultBase⟩,
      if code = config.defaultLanguage then []
      else [fallbackRecord code base config.defaultLanguage])

end Resolution

namespace Context

def new (store : ResourceStore) (config : Config) (engine : EngineOwner)
    (request : Option Text) (data : OrderedMap Value) : Context × List LogRecord :=
  let (resolution, records) := Resolution.resolve store config request
  (⟨config, engine, resolution.language, resolution.base, data⟩, records)

def relocated (c : Context) (store : ResourceStore) (request : Text) :
    Context × List LogRecord :=
  let (resolution, records) := Resolution.resolve store c.config (some request)
  ({ c with language := resolution.language, base := resolution.base }, records)

def baseRecord (c : Context) (key : Text) : LogRecord :=
  ⟨.debug, "Key " ++ Text.Quoted.text key ++ " resolved in base language "
    ++ Text.Quoted.text c.base⟩

def defaultRecord (c : Context) (key : Text) : LogRecord :=
  ⟨.debug, "Key " ++ Text.Quoted.text key ++ " missing for " ++ Text.Quoted.text c.language
    ++ "; using default language " ++ Text.Quoted.text c.config.defaultLanguage⟩

def missingRecord (c : Context) (key : Text) : LogRecord :=
  ⟨.debug, "Key " ++ Text.Quoted.text key ++ " missing for " ++ Text.Quoted.text c.language
    ++ "; rendering the key"⟩

/-- The template that the store has for a key somewhere along the chain of locales. -/
def chainTemplate (c : Context) (store : ResourceStore) (key : Text) :
    Except Fault (Option (Template × List LogRecord)) := do
  match ← store.lookup c.language key with
  | some t => pure (some (t, []))
  | none =>
    let inBase ← if c.base = c.language then pure none else store.lookup c.base key
    match inBase with
    | some t => pure (some (t, [baseRecord c key]))
    | none =>
      if c.config.defaultOnMissing then
        match ← store.lookup c.config.defaultLanguage key with
        | some t => pure (some (t, [defaultRecord c key]))
        | none => pure none
      else pure none

/-- The template to render for a key; the key itself when it may be missing. -/
def findTemplate (c : Context) (store : ResourceStore) (key : Text) :
    Except Fault (Template × List LogRecord) := do
  match ← c.chainTemplate store key with
  | some found => pure found
  | none =>
    if c.config.allowMissing then pure (.constant key, [missingRecord c key])
    else throw (.own (.keyNotFound (.diagnostic (Diagnostic.keyNotFound c.language key))
      c.language key))

/-- Data of a render. Those of the call win over those of the context, and these over those of the
configuration. -/
def dataWith (c : Context) (data : OrderedMap Value) : OrderedMap Value :=
  ((OrderedMap.ofList [(Text.ofString "pluralize", Value.helper .pluralize)]
    |>.insertAll c.config.templateData).insertAll c.templateData).insertAll data

def describe (c : Context) : Text :=
  "I18nContext(language_code=" ++ Text.Quoted.text c.language ++ ")"

end Context

namespace Value

/-- The value as a context hands it to a template: a helper is bound to the context. -/
def bindTo (context : Nat) : Value → Value
  | helper h => boundHelper h context .unmarked
  | v => v

end Value

namespace Template

def executionError (source cause : Text) (locale key : Option Text) : Fault :=
  .own (.execution (.diagnostic (Diagnostic.executionFailed source cause locale key)) source
    cause locale key)

/-- The text that stands for a value. Nothing stands for the missing value. -/
def partText (h : Heap) (v : Value) : Except Fault Text :=
  match v with
  | .none => .ok []
  | v => Value.plain h v

def renderParts (lower : Interpreter) (r : Nat) : List Part → Render Text
  | [] => pure []
  | .text t :: rest => do pure (t ++ (← renderParts lower r rest))
  | .expr e :: rest => do
    let v ← lower.eval r [] e
    let t ← Render.look fun h => partText h v
    pure (t ++ (← renderParts lower r rest))

/-- Every fault of a render becomes one of the template, except one that already is. -/
def wrapped (source : Text) (f : Fault) : Fault :=
  match f with
  | .own (.execution ..) => f
  | f => executionError source f.describe none none

def render (lower : Interpreter) (data : OrderedMap Value) : Template → Render Text
  | .constant source => pure source
  | .dynamic source parts budget => do
    try
      let r ← Render.start budget data
      renderParts lower r parts
    catch f => throw (wrapped source f)

/-- A fault of a template that is not yet placed, with its locale and key. -/
def placed (locale key : Text) : Fault → Fault
  | .own (.execution _ source cause _ none) =>
    executionError source cause (some locale) (some key)
  | f => f

end Template

namespace Render

def renderKey (lower : Interpreter) (id : Nat) (key : Text) (data : OrderedMap Value) :
    Render Text := do
  let c ← context id
  let (template, records) ← ofExcept (c.findTemplate (← get).store key)
  log records
  let merged := c.dataWith data
  try
    let values ← ofMemory (Memory.markAll (merged.map fun e => e.2.bindTo id))
    template.render lower ((merged.map (·.1)).zip values)
  catch f =>
    throw (Template.placed (← context id).language key f)

end Render
end Phrasebook
