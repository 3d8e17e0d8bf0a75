import Phrasebook.Method.Construct
import Phrasebook.Render.Context
/-!
Calls: lambdas, functions and helpers of the application, methods, and classes. What calls back goes
through the interpreter of the frame below, which ends when the stack does.
-/
namespace Phrasebook

namespace Interpreter

/-- Calls whatever value it is, as host functions do. -/
def callBack (lower : Interpreter) (f : Value) (args : List Value) : Render Value :=
  if f.isCallable then lower.invoke f ⟨args, []⟩ else throw (.notCallable f.kind.label)

/-- Calls a method found as host functions find it, by attribute. -/
def callMember (lower : Interpreter) (target : Value) (name : Text) (args : List Value) :
    Render Value := do
  lower.callBack (← Render.look fun h => target.member h name) args

/-- The body of a lambda runs in the scope where it was written. -/
def enter (lower : Interpreter) (closure : Closure) (args : List Value) : Render Value :=
  if args.length ≠ closure.params.length then
    throw (.lambdaArity closure.params.length args.length)
  else lower.eval closure.run ((closure.params.zip args).reverse ++ closure.locals) closure.body

def callLambda (lower : Interpreter) (ref : Nat) (c : Call) : Render Value := do
  if !c.keywords.isEmpty then throw .type
  else match ← Render.closure? ref with
    | none => throw .type
    | some closure => lower.enter closure c.args

def present : Option Value → Except Fault Value
  | some v => .ok v
  | none => .error .type

/-- The required arguments of a function whose parameters can be named. -/
def required (c : Call) (params : List String) : Except Fault (List Value) := do
  let given ← c.named (params.map Text.ofString)
  given.mapM present

def keywordLists (c : Call) : Memory Value := do
  if !c.args.isEmpty then throw .type
  else
    let sorted := c.keywords.mergeSort fun a b => !Text.less b.1 a.1
    Memory.newList (← sorted.mapM fun k => Memory.newList [.ofName k.1, k.2])

def lengthOf (h : Heap) (c : Call) : Except Fault Value := do
  match ← c.positional 1 1 with
  | [v] => match v.length? h with
    | some n => pure (.ofInt n)
    | none => throw .type
  | _ => throw .type

/-- The separator of a joining function comes by keyword only. -/
def separatorOf (c : Call) : Except Fault Value :=
  if c.keywords.any fun k => k.1 != Text.ofString "sep" then .error .type
  else .ok ((c.keywords.get? "sep").getD (.ofText [32]))

def callFunction (lower : Interpreter) (f : HostFunction) (c : Call) : Render Value := do
  match f with
  | .upper => match ← ofExcept (required c ["s"]) with
    | [s] => lower.callMember s "upper" []
    | _ => throw .type
  | .join =>
    let sep ← ofExcept (separatorOf c)
    lower.callMember sep "join" [.ofItems c.args]
  | .boom => do
    ofExcept c.empty
    throw (.raised "boom")
  | .apply => match ← ofExcept (required c ["f"]) with
    | [f] => lower.callBack f [.ofInt 3]
    | _ => throw .type
  | .twice => match ← ofExcept (required c ["f", "x"]) with
    | [f, x] => do lower.callBack f [← lower.callBack f [x]]
    | _ => throw .type
  | .keywords => Render.ofMemory (keywordLists c)
  | .length => Render.look fun h => lengthOf h c

def formText (h : Heap) (before after : Text) (c : Call) : Except Fault Value := do
  match ← required c ["n"] with
  | [n] =>
    let shown ← Value.shown h n
    if before.isEmpty && after.isEmpty then pure shown
    else pure (.builtText (before ++ (← Value.plain h n) ++ after))
  | _ => throw .type

/-- The keys of a list that is being sorted, which looks empty meanwhile. -/
def sortKeys (lower : Interpreter) (key : Value) (xs : List Value) :
    Render (List Value.Keyed) :=
  match key with
  | .none => pure (xs.map fun x => ⟨x, x⟩)
  | key => xs.mapM fun x => do pure ⟨← lower.callBack key [x], x⟩

/-- The key function of a sort, and whether it goes backwards. -/
def sortSettings (c : Call) : Except Fault (Value × Bool) := do
  if !c.args.isEmpty then throw .type
  else match ← c.named (["key", "reverse"].map Text.ofString) with
    | [key, reverse] => do
      let reverse ← (reverse.getD (.bool false)).toInt
      pure (key.getD .none, reverse != 0)
    | _ => throw .type

/-- Sorts a list in place. The list must not be changed by the key function. -/
def sortList (lower : Interpreter) (ref : Nat) (c : Call) : Render Value := do
  let (key, reverse) ← ofExcept (sortSettings c)
  let (xs, sort) ← Render.ofMemory (Memory.beginSort ref)
  let keyed ← try sortKeys lower key xs
    catch f =>
      let _ ← Render.ofMemory (Memory.endSort sort ref xs)
      throw f
  let (sorted, fault) := Value.sortKeyed (← get).heap reverse keyed
  let wasFilled ← Render.ofMemory (Memory.endSort sort ref sorted)
  match fault with
  | some f => throw f
  | none => if wasFilled then throw .value else pure .none

def callMethod (lower : Interpreter) (receiver : Value) (name : Text) (c : Call) :
    Render Value :=
  match receiver with
  | .list ref =>
    if name = "sort" then lower.sortList ref c
    else Render.ofMemory (Method.call receiver name c)
  | v => Render.ofMemory (Method.call v name c)

/-- A language tag in a call, as far as it is one. -/
def tagOf (v : Value) : Except Fault Text :=
  match v with
  | .text t _ => .ok t
  | .bytes .. => .error .type
  | v => .error (.noAttribute v.kind.fullLabel "strip")

def countOf (v : Value) : Except Fault Count :=
  match v.number? with
  | none => .error .type
  | some n => do
    match ← n.magnitude with
    | .int n => pure (.int n)
    | .float x => pure (.real x)
    | .decimal d => pure (.decimal d)
    | .complex _ => pure .other

def formsLength (h : Heap) (forms : Value) : Except Fault Nat :=
  match forms.length? h with
  | some n => .ok n
  | none => .error .type

def formIndex (owner : EngineOwner) (count forms language : Value) : Render Nat := do
  let tag ← ofExcept (tagOf language)
  let rule ← Render.useEngine owner fun e => e.ruleFor tag
  let count ← ofExcept (countOf count)
  let index ← ofExcept (rule.index count)
  let size ← Render.look fun h => formsLength h forms
  Render.useEngine owner fun e => e.clampIndex rule index size

/-- A text stands behind the count; a function makes something of it. -/
def fillForm (lower : Interpreter) (form count : Value) : Render Value := do
  if form.isCallable then lower.invoke form ⟨[count], []⟩
  else
    let shown ← Render.look fun h => Value.plain h count
    return .builtText (shown ++ 32 :: (← Render.look fun h => Value.plain h form))

/-- The form for a count. Without forms the count stands alone. -/
def selectForm (lower : Interpreter) (owner : EngineOwner) (count forms language : Value) :
    Render Value := do
  if !forms.truth (← get).heap then Render.look fun h => Value.shown h count
  else
    let index ← formIndex owner count forms language
    let form ← Render.ofMemory (forms.subscript (.ofInt index))
    lower.fillForm form count

/-- Renders a key that a template gives. -/
def translate (lower : Interpreter) (id : Nat) (key : Value)
    (data : OrderedMap Value) : Render Value := do
  match key with
  | .text key _ => return .builtText (← Render.renderKey lower id key data)
  | .bytes .. => throw .type
  | key => throw (.noAttribute key.kind.fullLabel "split")

def requestOf (h : Heap) (tag : Value) : Except Fault Text :=
  if tag.truth h then tagOf tag else .ok []

def relocateTo (id : Nat) (c : Context) (tag : Value) : Render Value := do
  let request ← Render.look fun h => requestOf h tag
  let (moved, records) := c.relocated (← get).store request
  Render.log records
  Render.setContext id moved
  return .builtText moved.language

/-- Asks for another locale, or for the one there is. -/
def relocate (id : Nat) (tag : Value) : Render Value := do
  let c ← Render.context id
  match tag with
  | .none => return .builtText c.language
  | tag => relocateTo id c tag

def hasKeyword (c : Call) (names : List String) : Bool :=
  c.keywords.any fun k => names.any fun n => Text.ofString n == k.1

def taggedText (h : Heap) (c : Call) : Except Fault Text := do
  match ← c.named (["text"].map Text.ofString) with
  | [some v] => Value.plain h v
  | _ => pure [63]

/-- The language to select a form in, which is that of the context unless one is given. -/
def languageOf (h : Heap) (context : Context) (language : Option Value) : Value :=
  match language with
  | some v => if v.truth h then v else .builtText context.language
  | none => .builtText context.language

/-- The key that a call gives, by position or by name, and the data with it. -/
def keyOf (c : Call) : Except Fault (Value × OrderedMap Value) :=
  match c.args, c.keywords.get? "key" with
  | [key], none => .ok (key, c.keywords)
  | [], some key => .ok (key, c.keywords.erase "key")
  | _, _ => .error .type

/-- A count, its forms and the language to choose one in. -/
def choiceOf (c : Call) : Except Fault (Value × Value × Option Value) := do
  match ← c.named (["count", "forms", "language_code"].map Text.ofString) with
  | [some count, some forms, language] => pure (count, forms, language)
  | _ => throw .type

def helperResult (lower : Interpreter) (id : Nat) (helper : Helper) (c : Call) : Render Value := do
  match helper with
  | .tag =>
    let text ← Render.look fun h => taggedText h c
    let c ← Render.context id
    return .builtText ("[" ++ c.language ++ "/" ++ c.base ++ "] " ++ text)
  | .translate =>
    let (key, data) ← ofExcept (keyOf c)
    translate lower id key data
  | .relocale => match ← ofExcept (required c ["code"]) with
    | [tag] => relocate id tag
    | _ => throw .type
  | .pluralize =>
    let (count, forms, language) ← ofExcept (choiceOf c)
    let context ← Render.context id
    let language := languageOf (← get).heap context language
    lower.selectForm context.engine count forms language

def callHelper (lower : Interpreter) (id : Nat) (helper : Helper) (c : Call) : Render Value :=
  if hasKeyword c ["self", "ctx"] then throw .type else lower.helperResult id helper c

/-- A helper with what it takes for a context. -/
def callBeside (lower : Interpreter) (helper : Helper) (context : Value) (c : Call) :
    Render Value := do
  match helper with
  | .tag =>
    let language ← Render.look fun h => context.member h "language_code"
    let base ← Render.look fun h => context.member h "base_language_code"
    let text ← Render.look fun h => taggedText h c
    let language ← Render.look fun h => Value.plain h language
    let base ← Render.look fun h => Value.plain h base
    return .builtText ("[" ++ language ++ "/" ++ base ++ "] " ++ text)
  | .translate =>
    match c.args with
    | [key] =>
      let render ← Render.look fun h => context.member h "render"
      let data ← Render.ofMemory
        (Memory.newDict (c.keywords.map fun k => (.ofName k.1, k.2)))
      lower.callBack render [key, data]
    | _ => throw .type
  | .relocale =>
    match c.args with
    | [tag] => lower.callMember context "locale" [tag]
    | _ => throw .type
  | .pluralize => throw .type

/-- A helper without a context takes its first argument for one. -/
def callUnbound (lower : Interpreter) (helper : Helper) (c : Call) : Render Value :=
  match c.args with
  | [] => throw .type
  | context :: args => lower.callBeside helper context ⟨args, c.keywords⟩

def applied (lower : Interpreter) (f : Value) (c : Call) : Render Value := do
  match f with
  | .lambda ref => lower.callLambda ref c
  | .function f => lower.callFunction f c
  | .form before after _ => Render.look fun h => formText h before after c
  | .boundHelper h id _ => lower.callHelper id h c
  | .helper h => callUnbound lower h c
  | .lookup ref => Render.look fun h => Method.getEntry (h.dict ref) c
  | .method receiver name _ => lower.callMethod receiver name c
  | .unbound k name =>
    let (receiver, c) ← ofExcept (Method.receiverOf k c)
    lower.callMethod receiver name c
  | .cls k => Render.ofMemory (Method.construct k c)
  | f => throw (.notCallable f.kind.label)

def apply (lower : Interpreter) (f : Value) (c : Call) : Render Value := do
  Render.mark (← lower.applied f c)

/-- The interpreter with one more frame. -/
def next (lower : Interpreter) : Interpreter := ⟨lower.node, lower.apply⟩

def exhausted : Interpreter :=
  ⟨fun _ _ _ => throw (.unworded .recursion), fun _ _ => throw (.unworded .recursion)⟩

/-- The interpreter on a stack of so many frames. -/
def ofFrames : Nat → Interpreter
  | 0 => exhausted
  | n + 1 => (ofFrames n).next

/-- Frames that the stack holds; each carries a node or a call. -/
def frames : Nat := 490

def full : Interpreter := ofFrames frames

end Interpreter
end Phrasebook
