import Phrasebook.Proofs.Binding.Scope
import Phrasebook.Proofs.Evaluation.Calls
import Phrasebook.Proofs.Render.Segmentwise
/-!
Calls in states whose lambdas differ in the names of parameters alone, and from them the interpreter
on any stack. A lambda brings its own scope, whoever calls it. So a parameter may be renamed.
-/
namespace Phrasebook

open Expr (Alpha)

theorem Locals.Alike.refl (locals : Locals) :
    ∃ names, Locals.Alike names locals locals ∧ ∀ p ∈ names, p.1 = p.2 := by
  induction locals with
  | nil => exact ⟨[], .nil, nofun⟩
  | cons entry rest ih =>
    obtain ⟨names, alike, same⟩ := ih
    exact ⟨_, .cons entry.1 entry.1 entry.2 alike, List.forall_mem_cons.mpr ⟨rfl, same⟩⟩

namespace Interpreter

open Render

section
variable {lower : Interpreter} (matched : lower.Matches)
include matched

/-- What a template says by itself, without a scope around it, is evaluated as it is. -/
theorem free_matches (r : Nat) (e : Expr) :
    Render.Matches (lower.eval r [] e) (lower.eval r [] e) :=
  matched.eval r .nil (Expr.alpha_self fun _ _ => rfl)

/-- The body of a lambda is evaluated in the scope that the lambda has with it. -/
theorem enter_matches {c c' : Closure} (alike : c.Alike c') (args : List Value) :
    Render.Matches (lower.enter c args) (lower.enter c' args) := by
  obtain ⟨run, length, names, locals, body⟩ := alike
  rw [enter, enter, run, length]
  split_ifs with given
  · exact .throw _
  · exact matched.eval c.run (locals.entered length (not_not.mp given)) body

theorem callLambda_matches (ref : Nat) (c : Call) :
    Render.Matches (lower.callLambda ref c) (lower.callLambda ref c) := by
  refine .ite (.throw _) (closure?_matches ref (.throw _) fun closure closure' alike => ?_)
  exact enter_matches matched alike c.args

theorem render_matches (t : Template) (data : OrderedMap Value) :
    Render.Matches (t.render lower data) (t.render lower data) := by
  have parts (r : Nat) (parts : List Part) :
      matching.Relates (Template.renderParts lower r parts)
        fun _ => Template.renderParts lower r parts :=
    renderParts_relates (free_matches matched r) parts
  cases t with
  | constant source => exact .pure source
  | dynamic source listed budget =>
    refine .tryCatch (.bind (matching.same (start_steady budget data)) fun r => ?_) fun f => ?_
    · exact parts r listed
    · exact .throw _

theorem renderKey_matches (id : Nat) (key : Text) (data : OrderedMap Value) :
    Render.Matches (renderKey lower id key data) (renderKey lower id key data) := by
  have context : Render.Matches (context id) (context id) := matching.same (context_steady id)
  have marked (vs : List Value) :
      Render.Matches (ofMemory (Memory.markAll vs)) (ofMemory (Memory.markAll vs)) :=
    matching.same (ofMemory_leaf matching.admits (.modifyGet _)).steady
  refine .bind context fun c => read_matches (fun _ _ => rfl) fun s => ?_
  refine .bind (.same _) fun found => .bind (matching.same (log_steady _)) fun _ => ?_
  refine .tryCatch (.bind (marked _) fun values => ?_) fun f => .bind context fun c => .throw _
  exact render_matches matched found.1 _

theorem callHelper_matches (id : Nat) (c : Call) :
    Render.Matches (lower.callHelper id .translate c) (lower.callHelper id .translate c) := by
  refine .ite (.throw _) (.bind (.same _) fun found => ?_)
  obtain ⟨key, data⟩ := found
  cases key with
  | text t o => exact .bind (renderKey_matches matched id t data) fun shown => .pure _
  | _ => exact .throw _

theorem next_matches : lower.next.Matches where
  eval r alike alpha := node_matches matched r alike alpha
  invokes f c := by
    refine apply_relates matched.invokes (fun ref _ => callLambda_matches matched ref c) ?_
    exact fun id _ _ => callHelper_matches matched id c

end

theorem ofFrames_matches (n : Nat) : (ofFrames n).Matches := by
  induction n with
  | zero => exact ⟨fun _ _ _ => .throw _, fun _ _ => Likeness.Mirrors.throw _⟩
  | succ n ih => exact next_matches ih

end Interpreter

theorem Closure.Alike.refl (c : Closure) : c.Alike c := by
  obtain ⟨names, locals, same⟩ := Locals.Alike.refl c.locals
  refine ⟨rfl, rfl, names, locals, Expr.alpha_self fun n _ => ?_⟩
  exact Expr.paired_bound_self (fun p _ => Iff.rfl) fun _ => Expr.paired_self same n

theorem RenderState.Alike.refl (s : RenderState) : s.Alike s :=
  ⟨rfl, rfl, fun _ c found => ⟨c, found, .refl c⟩⟩

theorem Render.Matches.outcome_eq {α : Type} {m m' : Render α} (matched : Matches m m')
    (s : RenderState) : m'.outcome s = m.outcome s := by
  have alike := matched (RenderState.Alike.refl s)
  simp only [EStateM.run] at alike
  rw [outcome, outcome]
  generalize m s = left at alike ⊢
  generalize m' s = right at alike ⊢
  cases alike <;> rfl

theorem Render.Matches.keeps {α : Type} {m : Render α} (matched : Matches m m) (s : RenderState) :
    s.KeepsLambdas (m.stateAfter s) := by
  have alike := matched (RenderState.Alike.refl s)
  simp only [EStateM.run] at alike
  rw [stateAfter]
  generalize m s = left at alike ⊢
  cases alike with
  | ok a states kept => exact kept
  | error f states kept => exact kept

namespace Interpreter

open Render

/-- A lambda has the scope with it that it is written in. -/
theorem eval_lambda {n r : Nat} {locals : Locals} {params : List Text} {simple : Bool} {body : Expr}
    {s t : RenderState} {v : Value}
    (ended : EStateM.run ((ofFrames n).eval r locals (.lambda params simple body)) s = .ok v t) :
    ∃ ref, v = .lambda ref ∧ t.closures[ref]? = some ⟨params, body, locals, r⟩ := by
  cases n with
  | zero => cases ended
  | succ n =>
    obtain ⟨-, s₁, -, ended⟩ := Outcome.run_bind_eq_ok.mp ended
    obtain ⟨w, s₂, guarded, marked⟩ := Outcome.run_bind_eq_ok.mp ended
    obtain ⟨run, s₃, -, guarded⟩ := Outcome.run_bind_eq_ok.mp guarded
    obtain ⟨guard, s₄, -, guarded⟩ := Outcome.run_bind_eq_ok.mp guarded
    obtain ⟨-, s₅, -, guarded⟩ := Outcome.run_bind_eq_ok.mp guarded
    cases guarded
    cases marked
    exact ⟨s₅.closures.size, rfl, Array.getElem?_push_size⟩

/-- A call of a lambda, by whomever, evaluates its body in the scope that it has with it. -/
theorem invoke_lambda (n : Nat) {ref : Nat} {c : Closure} {args : List Value} {s : RenderState}
    (found : s.closures[ref]? = some c) (given : args.length = c.params.length) :
    EStateM.run ((ofFrames (n + 1)).invoke (.lambda ref) ⟨args, []⟩) s =
      EStateM.run (do
        mark (← (ofFrames n).eval c.run ((c.params.zip args).reverse ++ c.locals) c.body)) s := by
  have entered : EStateM.run (closure? ref) s = .ok (some c) s := by
    rw [← found]
    rfl
  have called : EStateM.run ((ofFrames n).callLambda ref ⟨args, []⟩) s =
      EStateM.run ((ofFrames n).eval c.run ((c.params.zip args).reverse ++ c.locals) c.body) s := by
    change EStateM.run (closure? ref >>= _) s = _
    rw [EStateM.run_bind, entered]
    simp only [enter, given, ne_eq, not_true_eq_false, if_false]
  change EStateM.run ((ofFrames n).callLambda ref ⟨args, []⟩ >>= mark) s = _
  rw [EStateM.run_bind, called, EStateM.run_bind]

/-- Lambdas stay as they are, whatever is evaluated or called. -/
theorem keepsLambdas (n : Nat) (s : RenderState) :
    (∀ r locals e, s.KeepsLambdas (((ofFrames n).eval r locals e).stateAfter s)) ∧
      ∀ f c, s.KeepsLambdas (((ofFrames n).invoke f c).stateAfter s) := by
  have matched := ofFrames_matches n
  refine ⟨fun r locals e => ?_, fun f c => Render.Matches.keeps (matched.invokes f c) s⟩
  obtain ⟨names, alike, same⟩ := Locals.Alike.refl locals
  exact (matched.eval r alike (Expr.alpha_self fun m _ => Expr.paired_self same m)).keeps s

end Interpreter

namespace Facade

open Expr (Renamed mentions)

end Facade
end Phrasebook
