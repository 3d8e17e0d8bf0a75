import Phrasebook.Proofs.Context.Rendering
import Mathlib.Logic.Relation
/-!
Renders of a key as calls, and how they fail. A fault of the template itself is told with the key and
the source of the render; one that a render inside has told is passed on as it is.
-/
namespace Phrasebook

namespace Fault

/-- Whether a fault is one of a render that has been told with its key. -/
def isTold : Fault → Bool
  | .own (.execution _ _ _ _ (some _)) => true
  | _ => false

theorem isExecution_of_isTold {f : Fault} (told : f.isTold = true) : f.isExecution = true := by
  unfold isTold at told
  split at told
  · rfl
  · cases told

/-- No other fault is described like a missing key. -/
theorem keyNotFound_of_describe {f : Fault}
    (named : f.describe.take 24 = "ResourceKeyNotFoundError") :
    ∃ report locale key, f = .own (.keyNotFound report locale key) := by
  cases f with
  | own e =>
    cases e with
    | keyNotFound report locale key => exact ⟨report, locale, key, rfl⟩
    | _ => cases named
  | unworded kind => cases kind <;> cases named
  | _ => cases named

end Fault

namespace Template

theorem isTold_executionError (source cause locale key : Text) :
    (executionError source cause (some locale) (some key)).isTold = true := rfl

/-- What a render makes of a fault in its template. -/
def told (source locale key : Text) (f : Fault) : Fault := placed locale key (wrapped source f)

/-- The template's own faults get its source and the key it stands under. -/
theorem told_of_own {f : Fault} (own : f.isExecution = false) (source locale key : Text) :
    told source locale key f = executionError source f.describe (some locale) (some key) := by
  unfold told wrapped
  split
  · cases own
  · rfl

theorem told_of_isTold {f : Fault} (isTold : f.isTold = true) (source locale key : Text) :
    told source locale key f = f := by
  unfold Fault.isTold at isTold
  split at isTold
  · rfl
  · cases isTold

theorem told_isTold (source locale key : Text) (f : Fault) :
    (told source locale key f).isTold = true := by
  unfold told placed
  split
  · rfl
  · rename_i other
    have execution := isExecution_wrapped source f
    generalize wrapped source f = g at other execution
    unfold Fault.isExecution at execution
    split at execution
    · rename_i report source cause locale key
      cases key with
      | none => exact absurd rfl (other report source cause locale)
      | some key => rfl
    · cases execution

end Template

/-- A render of a key: the context and the data, the interpreter and the state to begin with. -/
structure RenderCall where
  lower : Interpreter
  context : Nat
  key : Text
  data : OrderedMap Value
  state : RenderState

namespace RenderCall

variable (c : RenderCall)

def outcome : Except Fault Text :=
  (Render.renderKey c.lower c.context c.key c.data).outcome c.state

def Raises (f : Fault) : Prop := c.outcome = .error f

/-- The context as it is when the render begins. -/
def held : Context := (c.state.contexts[c.context]?).getD ⟨{}, .shared, [], [], []⟩

def found : Except Fault (Template × List LogRecord) := c.held.findTemplate c.state.store c.key

/-- The parts of a template over the data of a render. -/
def evaluation (lower : Interpreter) (parts : List Part) (budget : Budget) : Render Text := do
  let merged := c.held.dataWith c.data
  let values ← Render.ofMemory (Memory.markAll (merged.map fun e => e.2.bindTo c.context))
  let r ← Render.start budget ((merged.map (·.1)).zip values)
  Template.renderParts lower r parts

/-- The state in which the template is evaluated. -/
def begun (records : List LogRecord) : RenderState :=
  { c.state with log := records.reverse ++ c.state.log }

/-- The template that the key of a render stands for, with its source. -/
def Finds (source : Text) (parts : List Part) (budget : Budget) (records : List LogRecord) : Prop :=
  c.found = .ok (.dynamic source parts budget, records)

/-- The template of a render has a source, and its evaluation stops with a fault. -/
def Stops (source : Text) (f : Fault) : Prop :=
  ∃ parts budget records, c.Finds source parts budget records ∧
    (c.evaluation c.lower parts budget).outcome (c.begun records) = .error f

/-- A render stops with the fault that another one raises. -/
def Carries (d : RenderCall) : Prop := ∃ source f, c.Stops source f ∧ d.Raises f

variable {c} {d e : RenderCall} {source key : Text} {f : Fault}

theorem context_held : (Render.context c.context).outcome c.state = .ok c.held := rfl

theorem outcome_of_found {t : Template} {records : List LogRecord}
    (found : c.found = .ok (t, records)) :
    c.outcome =
      (Render.renderFound c.lower c.context c.key c.held c.data t).outcome (c.begun records) :=
  Render.renderKey_of_found context_held found

theorem outcome_of_missing (missing : c.found = .error f) : c.outcome = .error f :=
  Render.renderKey_of_error context_held missing

open Render Template

/-- A render that stops tells of the fault. -/
theorem raises_of_stops (stops : c.Stops source f) :
    ∃ language, c.Raises (told source language c.key f) := by
  obtain ⟨parts, budget, records, found, failed⟩ := stops
  have body : Render.outcome (do
      let values ← ofMemory (Memory.markAll
        ((c.held.dataWith c.data).map fun e => e.2.bindTo c.context))
      (Template.dynamic source parts budget).render c.lower
        (((c.held.dataWith c.data).map (·.1)).zip values)) (c.begun records) =
        .error (wrapped source f) := by
    -- Marking never fails, so that the fault comes from the parts.
    rw [evaluation, outcome_bind_of_ok rfl] at failed
    rw [outcome_bind_of_ok rfl, render, outcome_tryCatch_of_error failed]
    rfl
  unfold Raises
  rw [outcome_of_found found, renderFound, outcome_tryCatch_of_error body]
  exact ⟨_, rfl⟩

/-- A render that fails has found no template, or has stopped in the one it found. -/
theorem stops_of_raises (raised : c.Raises f) :
    c.found = .error f ∨
      ∃ source g language, c.Stops source g ∧ f = told source language c.key g := by
  unfold Raises at raised
  cases looked : c.found with
  | error g =>
    rw [outcome_of_missing looked] at raised
    cases raised
    exact .inl rfl
  | ok result =>
    obtain ⟨t, records⟩ := result
    rw [outcome_of_found looked, renderFound] at raised
    cases t with
    | constant source =>
      rw [outcome_tryCatch_of_ok rfl] at raised
      cases raised
    | dynamic source parts budget =>
      refine .inr ?_
      cases ended : (c.evaluation c.lower parts budget).outcome (c.begun records) with
      | error g =>
        have stops : c.Stops source g := ⟨parts, budget, records, looked, ended⟩
        obtain ⟨language, told⟩ := raises_of_stops stops
        unfold Raises at told
        rw [outcome_of_found looked, renderFound, raised] at told
        cases told
        exact ⟨source, g, language, stops, rfl⟩
      | ok text =>
        rw [evaluation, outcome_bind_of_ok rfl] at ended
        rw [outcome_tryCatch_of_ok] at raised
        · cases raised
        · rw [outcome_bind_of_ok rfl, render, outcome_tryCatch_of_ok ended]

/-- Looking a template up fails with a key that cannot be read, or with the key as missing. -/
theorem found_eq_error (missing : c.found = .error f) :
    f = .value ∨ ∃ report locale, f = .own (.keyNotFound report locale c.key) := by
  unfold found at missing
  rcases c.held.findTemplate_cases c.state.store c.key with
    ⟨f, absent, given⟩ | ⟨t, records, -, given⟩ | ⟨-, given⟩
  · rw [c.held.found?_eq] at absent
    obtain ⟨-, tag, -, -, -, here⟩ := (ResourceStore.firstTemplate_eq_iff (by simp)).mp absent
    obtain ⟨rfl, -⟩ := ResourceStore.lookup_eq_error_iff.mp here
    rw [given] at missing
    cases missing
    exact .inl rfl
  · rw [given] at missing
    cases missing
  · rw [given] at missing
    split_ifs at missing
    cases missing
    exact .inr ⟨_, _, rfl⟩

/-- Along a chain of renders, each of which carries the fault of the next, the first one raises what
the last one's template stops with, told with the source and the key of the last. -/
theorem raises_of_carries (chain : Relation.ReflTransGen Carries c e) (stops : e.Stops source f)
    (own : f.isExecution = false) :
    ∃ language, c.Raises (executionError source f.describe (some language) (some e.key)) := by
  induction chain using Relation.ReflTransGen.head_induction_on with
  | refl =>
    obtain ⟨language, raised⟩ := raises_of_stops stops
    rw [told_of_own own] at raised
    exact ⟨language, raised⟩
  | head carries _ ih =>
    obtain ⟨outer, g, stopped, raised⟩ := carries
    obtain ⟨language, inner⟩ := ih
    obtain rfl : g = _ := Except.error.inj (raised.symm.trans inner)
    obtain ⟨other, passed⟩ := raises_of_stops stopped
    rw [told_of_isTold (isTold_executionError ..)] at passed
    exact ⟨language, passed⟩

end RenderCall
end Phrasebook
