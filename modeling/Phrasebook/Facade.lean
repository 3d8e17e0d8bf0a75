import Phrasebook.Loading.Directory
import Phrasebook.Render.Invoke
/-!
The facade: a configuration with one store and one plural engine, which loads locale data, makes
contexts and renders keys.
-/
namespace Phrasebook

def Config.initialState (c : Config) (s : RenderState) : RenderState :=
  { s with
    store := { budget := c.budget, maxDepth := c.maxDepth }
    engine := PluralEngine.new languageRules c.defaultLanguage }

namespace Facade

/-- The configuration of a facade. Settings are put on top of the one given, if there are any. -/
def configure (base : Option Config) (settings : List Setting) : Except Fault Config :=
  match base with
  | none => Config.ofSettings settings
  | some c => if settings.isEmpty then .ok c else c.replace settings

/-- Changes the store in a way that may fail and gives records. -/
def changeStore (f : ResourceStore → Except Fault ResourceStore × List LogRecord) :
    Render Unit := do
  let (result, records) := f (← get).store
  Render.log records
  let store ← ofExcept result
  modify fun s => { s with store := store }

def askStore {α : Type} (f : ResourceStore → α × ResourceStore) : Render α :=
  modifyGet fun s =>
    let (a, store) := f s.store
    (a, { s with store := store })

def load (tag : Text) (data : Datum) : Render Unit := changeStore fun s => s.load tag data

def reset (tag : Option Text) : Render Unit :=
  changeStore fun s =>
    let (store, records) := match tag with
      | some tag => s.remove tag
      | none => s.clear
    (.ok store, records)

def loadDirectory (loader : DirectoryLoader) (strict : Bool := true) : Render LoadSummary := do
  let (result, store, records) := loader.loadInto (← get).store strict
  Render.log records
  modify fun s => { s with store := store }
  ofExcept result

/-- The locale to compare with: the default language unless another is named. -/
def reference (config : Config) (tag : Option Text) : Text :=
  match tag with
  | some t => if t.isEmpty then config.defaultLanguage else t
  | none => config.defaultLanguage

def missing (config : Config) (tag : Text) (other : Option Text) : Render (List Text) :=
  askStore fun s => s.missing tag (reference config other)

def extra (config : Config) (tag : Text) (other : Option Text) : Render (List Text) :=
  askStore fun s => s.extra tag (reference config other)

def progress (config : Config) (tag : Text) (other : Option Text) :
    Render ResourceStore.Progress :=
  askStore fun s => s.progress tag (reference config other)

def createContext (config : Config) (owner : EngineOwner) (request : Option Text)
    (data : OrderedMap Value) : Render Nat := do
  let (context, records) := Context.new (← get).store config owner request data
  Render.log records
  modifyGet fun s => (s.contexts.size, { s with contexts := s.contexts.push context })

def renderIn (context : Nat) (key : Text) (data : OrderedMap Value) : Render Text :=
  Render.renderKey Interpreter.full context key data

def render (config : Config) (request : Option Text) (key : Text) (data : OrderedMap Value) :
    Render Text := do
  renderIn (← createContext config .facade request data) key []

/-- Whether a text is what a key renders to in a context; no text at all never is. -/
def isRendering (key : Text) (data : OrderedMap Value) (text : Text) (context : Nat) :
    Render Bool := do
  if text.isEmpty then pure false else return text == (← renderIn context key data)

/-- The context for another requested locale; without one its locale stays. -/
def relocate (context : Nat) (request : Option Text) : Render Text := do
  let c ← Render.context context
  match request with
  | none => pure c.language
  | some tag =>
    let (moved, records) := c.relocated (← get).store tag
    Render.log records
    Render.setContext context moved
    pure moved.language

def setContextEntry (context : Nat) (name : Text) (v : Value) : Render Unit := do
  let c ← Render.context context
  Render.setContext context { c with templateData := c.templateData.insert name v }

def findIn (context : Nat) (tag : Option Text) (key : Text) : Render (Option Resource) := do
  let c ← Render.context context
  let tag := match tag with
    | some t => if t.isEmpty then c.language else t
    | none => c.language
  ofExcept ((← get).store.find tag key)

def describe (config : Config) : Render Text := do
  let locales := (← get).store.locales
  return "I18n(default_language=" ++ Text.Quoted.text config.defaultLanguage ++ ", locales="
    ++ ResourceStore.tagList locales ++ ")"

def evaluate (budget : Budget) (e : Expr) (data : OrderedMap Value) : Render Value := do
  let r ← Render.start budget data
  Interpreter.full.eval r [] e

def renderTemplate (t : Template) (data : OrderedMap Value) : Render Text :=
  t.render Interpreter.full data

def selectForm (owner : EngineOwner) (count forms language : Value) : Render Value :=
  Interpreter.full.selectForm owner count forms language

end Facade
end Phrasebook
