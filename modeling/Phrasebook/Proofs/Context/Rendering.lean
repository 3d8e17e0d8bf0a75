import Phrasebook.Proofs.Context.Chain
import Phrasebook.Proofs.Render.Outcome
import Phrasebook.Proofs.Resource.Position
/-!
How looking a key up and rendering it can end. A look-up fails at segments that cannot be read, and
nowhere else; a rendering fails where a look-up does, where a key may not be missing, and where its
template cannot be evaluated.
-/
namespace Phrasebook

/-- Whether a fault is one of a template that was being rendered. -/
def Fault.isExecution : Fault → Bool
  | .own (.execution ..) => true
  | _ => false

namespace Template

theorem isExecution_wrapped (source : Text) (f : Fault) : (wrapped source f).isExecution = true := by
  unfold wrapped
  split <;> rfl

theorem wrapped_of_isExecution {f : Fault} (execution : f.isExecution = true) (source : Text) :
    wrapped source f = f := by
  unfold wrapped
  split
  · rfl
  · rename_i other
    unfold Fault.isExecution at execution
    split at execution
    · exact (other _ _ _ _ _ rfl).elim
    · cases execution

theorem wrapped_of_not_isExecution {f : Fault} (plain : f.isExecution = false) (source : Text) :
    wrapped source f = executionError source f.describe none none := by
  unfold wrapped
  split
  · cases plain
  · rfl

theorem isExecution_placed (locale key : Text) {f : Fault} (execution : f.isExecution = true) :
    (placed locale key f).isExecution = true := by
  unfold placed
  split
  · rfl
  · exact execution

variable {lower : Interpreter} {data : OrderedMap Value} {s : RenderState} {f : Fault}

theorem isExecution_of_render {t : Template} (ended : (t.render lower data).outcome s = .error f) :
    f.isExecution = true := by
  cases t with
  | constant source => cases ended
  | dynamic source parts budget =>
    rw [render] at ended
    rcases body : Render.outcome (do
        let r ← Render.start budget data
        renderParts lower r parts) s with e | text
    · rw [Render.outcome_tryCatch_of_error body] at ended
      cases ended
      exact isExecution_wrapped source e
    · rw [Render.outcome_tryCatch_of_ok body] at ended
      cases ended

end Template

namespace ResourceStore

theorem lookup_eq_error_iff {s : ResourceStore} {tag key : Text} {f : Fault} :
    s.lookup tag key = .error f ↔ f = .value ∧
      Resource.Misreads (Text.splitAt Resource.separator key)
        ((s.trees.get? (Locale.normalize tag)).map .tree) := by
  rw [← Resource.find_eq_error_iff]
  change _ ↔ s.find tag key = .error f
  rw [lookup]
  rcases s.find tag key with e | _ | ⟨t | entries | items⟩ <;> simp [bind, Except.bind, pure, Except.pure]

end ResourceStore

namespace Render

/-- A template that a context has found for a key, over the data of the context. -/
def renderFound (lower : Interpreter) (id : Nat) (key : Text) (c : Context)
    (data : OrderedMap Value) (t : Template) : Render Text :=
  tryCatch (do
      let values ← ofMemory (Memory.markAll ((c.dataWith data).map fun e => e.2.bindTo id))
      t.render lower (((c.dataWith data).map (·.1)).zip values))
    fun f => do throw (Template.placed (← context id).language key f)

variable {lower : Interpreter} {id : Nat} {key : Text} {data : OrderedMap Value} {s : RenderState}
  {c : Context}

theorem outcome_context (held : s.contexts[id]? = some c) : (context id).outcome s = .ok c := by
  rw [outcome, context_of_held held]

variable (held : (context id).outcome s = .ok c)
include held

theorem renderKey_of_error {f : Fault} (failed : c.findTemplate s.store key = .error f) :
    (renderKey lower id key data).outcome s = .error f := by
  rw [renderKey, outcome_bind_of_ok held]
  refine (outcome_bind_of_ok (m := get) rfl).trans (outcome_bind_of_error ?_)
  change (ofExcept (c.findTemplate s.store key) : Render _).outcome s = _
  rw [failed]
  rfl

/-- The template that is found is rendered, over the data of the context. -/
theorem renderKey_of_found {t : Template} {records : List LogRecord}
    (found : c.findTemplate s.store key = .ok (t, records)) :
    (renderKey lower id key data).outcome s =
      (renderFound lower id key c data t).outcome { s with log := records.reverse ++ s.log } := by
  have given : (ofExcept (c.findTemplate s.store key) : Render _).outcome s = .ok (t, records) := by
    rw [found]
    rfl
  rw [renderKey, outcome_bind_of_ok held]
  refine (outcome_bind_of_ok (m := get) rfl).trans ((outcome_bind_of_ok given).trans ?_)
  rw [found]
  rfl

theorem renderKey_constant {records : List LogRecord} {source : Text}
    (found : c.findTemplate s.store key = .ok (.constant source, records)) :
    (renderKey lower id key data).outcome s = .ok source := by
  rw [renderKey_of_found held found]
  exact outcome_tryCatch_of_ok rfl

theorem isExecution_of_renderKey {t : Template} {records : List LogRecord} {f : Fault}
    (found : c.findTemplate s.store key = .ok (t, records))
    (ended : (renderKey lower id key data).outcome s = .error f) : f.isExecution = true := by
  rw [renderKey_of_found held found, renderFound] at ended
  rcases body : Render.outcome (do
      let values ← ofMemory (Memory.markAll ((c.dataWith data).map fun e => e.2.bindTo id))
      t.render lower (((c.dataWith data).map (·.1)).zip values))
    { s with log := records.reverse ++ s.log } with e | text
  · rw [outcome_tryCatch_of_error body] at ended
    cases ended
    refine Template.isExecution_placed _ key ?_
    -- Marking never fails, so that only the template can have failed.
    rw [outcome_bind_of_ok rfl] at body
    exact Template.isExecution_of_render body
  · rw [outcome_tryCatch_of_ok body] at ended
    cases ended

end Render

namespace Context

open Resource

/-- How a context, as the last one made, renders a key. -/
def rendering (c : Context) (s : RenderState) (key : Text) (data : OrderedMap Value) :
    Except Fault Text :=
  (Facade.renderIn s.contexts.size key data).outcome { s with contexts := s.contexts.push c }

variable (c : Context) (s : RenderState) (key : Text) (data : OrderedMap Value)

theorem rendering_cases :
    (∃ f, s.store.firstTemplate key c.chain = .error f ∧ c.rendering s key data = .error f) ∨
    (∃ t, s.store.firstTemplate key c.chain = .ok (some t) ∧
      ∀ f, c.rendering s key data = .error f → f.isExecution = true) ∨
    s.store.firstTemplate key c.chain = .ok none ∧ c.rendering s key data =
      if c.config.allowMissing then .ok key
      else .error (.own (.keyNotFound (.diagnostic (Diagnostic.keyNotFound c.language key))
        c.language key)) := by
  have pushed : (s.contexts.push c)[s.contexts.size]? = some c := Array.getElem?_push_size
  have held := Render.outcome_context (s := { s with contexts := s.contexts.push c }) pushed
  rw [← c.found?_eq, rendering, Facade.renderIn]
  rcases c.findTemplate_cases s.store key with
    ⟨f, failed, given⟩ | ⟨t, records, found, given⟩ | ⟨absent, given⟩
  · exact .inl ⟨f, failed, Render.renderKey_of_error held given⟩
  · exact .inr (.inl ⟨t, found, fun f => Render.isExecution_of_renderKey held given⟩)
  · refine .inr (.inr ⟨absent, ?_⟩)
    split_ifs at given ⊢
    · exact Render.renderKey_constant held given
    · exact Render.renderKey_of_error held given

end Context
end Phrasebook
