import Phrasebook.Plural.Engine
import Phrasebook.Render.Config
import Phrasebook.Resource.Store
import Phrasebook.Value.Operator
/-!
The state that renders share: the heap, the closures of lambdas, running evaluations, contexts, the
store and the plural engines. A clock counts evaluated nodes, one to the microsecond.
-/
namespace Phrasebook

/-- Parameters of the enclosing lambdas, the innermost first. -/
abbrev Locals := List (Text × Value)

/-- A lambda with the scope it was written in. `run` is the evaluation whose data it sees and whose
budget it uses, whoever calls it. -/
structure Closure where
  params : List Text
  body : Expr
  locals : Locals
  run : Nat

/-- An evaluation. Every expression of a template runs in one. -/
structure Run where
  data : OrderedMap Value
  guard : DepthGuard
  timeout : Duration
  expires : Option Nat

inductive EngineOwner where
  | facade | shared
  deriving DecidableEq

/-- A view on the store for one requested locale. -/
structure Context where
  config : Config
  engine : EngineOwner
  language : Text
  base : Text
  templateData : OrderedMap Value

structure RenderState where
  heap : Heap := {}
  closures : Array Closure := #[]
  runs : Array Run := #[]
  clock : Nat := 0
  contexts : Array Context := #[]
  store : ResourceStore := {}
  engine : PluralEngine := .new
  sharedEngine : PluralEngine := .new
  log : List LogRecord := []

/-- Computations on the shared state. A fault keeps what was changed before it. -/
abbrev Render := EStateM Fault RenderState

namespace Render

def ofMemory {α : Type} (m : Memory α) : Render α := fun s =>
  let heap := s.heap
  let rest := { s with heap := {} }
  match m heap with
  | .ok a heap => .ok a { rest with heap := heap }
  | .error f heap => .error f { rest with heap := heap }

def look {α : Type} (f : Heap → Except Fault α) : Render α := do ofExcept (f (← get).heap)

def mark (v : Value) : Render Value := ofMemory (Memory.mark v)

/-- Adds records to the log, the newest first. -/
def log (records : List LogRecord) : Render Unit :=
  modify fun s => { s with log := records.reverse ++ s.log }

def start (budget : Budget) (data : OrderedMap Value) : Render Nat := do
  log (Depth.clampWarnings budget.maxDepth)
  modifyGet fun s =>
    let run : Run :=
      { data := data
        guard := .new budget.maxDepth
        timeout := budget.timeout
        expires := budget.timeout.microseconds?.map (s.clock + ·) }
    (s.runs.size, { s with runs := s.runs.push run })

def standIn : Run := ⟨[], ⟨0, 0⟩, .whole 0, none⟩

def run (r : Nat) : Render Run := do return ((← get).runs[r]?).getD standIn

/-- Lets time pass, and fails once the budget of the evaluation is spent. -/
def checkDeadline (r : Nat) : Render Unit := do
  modify fun s => { s with clock := s.clock + 1 }
  let run ← run r
  match run.expires with
  | some t =>
    if t < (← get).clock then
      throw (.own (.timedOut (.diagnostic (Diagnostic.timedOut run.timeout))))
  | none => pure ()

def setGuard (r : Nat) (guard : DepthGuard) : Render Unit :=
  modify fun s => { s with runs := s.runs.modify r fun run => { run with guard := guard } }

/-- Goes one level deeper for the time of a computation, whether it succeeds or fails. -/
def guarded {α : Type} (r : Nat) (body : Render α) : Render α := do
  setGuard r (← ofExcept (← run r).guard.enter)
  try
    let a ← body
    setGuard r (← run r).guard.leave
    pure a
  catch f =>
    setGuard r (← run r).guard.leave
    throw f

def newClosure (c : Closure) : Render Value :=
  modifyGet fun s => (.lambda s.closures.size, { s with closures := s.closures.push c })

def closure? (ref : Nat) : Render (Option Closure) := do return (← get).closures[ref]?

def context (id : Nat) : Render Context := do
  return ((← get).contexts[id]?).getD ⟨{}, .shared, [], [], []⟩

def setContext (id : Nat) (c : Context) : Render Unit :=
  modify fun s => { s with contexts := s.contexts.setIfInBounds id c }

def engine (owner : EngineOwner) : Render PluralEngine := do
  match owner with
  | .facade => return (← get).engine
  | .shared => return (← get).sharedEngine

def setEngine (owner : EngineOwner) (e : PluralEngine) : Render Unit :=
  match owner with
  | .facade => modify fun s => { s with engine := e }
  | .shared => modify fun s => { s with sharedEngine := e }

/-- Asks a plural engine, which may note a warning. -/
def useEngine {α : Type} (owner : EngineOwner)
    (ask : PluralEngine → α × PluralEngine × List LogRecord) : Render α := do
  let answer := ask (← engine owner)
  setEngine owner answer.2.1
  log answer.2.2
  pure answer.1

end Render
end Phrasebook
