import Phrasebook.Proofs.Evaluation.Level
/-!
What becomes of evaluations while an expression is evaluated. New ones may begin, for templates that
are rendered on the way, but those that there were are found as they were.
-/
namespace Phrasebook

namespace Run

/-- The evaluations that there were are still there, and as they were. -/
def Unchanged (runs later : Array Run) : Prop :=
  ∀ (r : Nat) (run : Run), runs[r]? = some run → later[r]? = some run

theorem Unchanged.refl (runs : Array Run) : Unchanged runs runs := fun _ _ found => found

theorem Unchanged.trans {runs later last : Array Run} (first : Unchanged runs later)
    (second : Unchanged later last) : Unchanged runs last :=
  fun r run found => second r run (first r run found)

theorem unchanged_push (runs : Array Run) (run : Run) : Unchanged runs (runs.push run) := by
  intro r old found
  rw [Array.getElem?_push, if_neg, found]
  rintro rfl
  simp at found

theorem unchanged_left {runs after : Array Run} {r : Nat} {g : DepthGuard}
    (entered : (entry runs r).guard.enter = .ok g) (same : Unchanged (guardedBy runs r g) after) :
    Unchanged runs (left after r) := by
  intro i run found
  rw [getElem?_left]
  by_cases own : r = i
  · subst own
    have there := same r { run with guard := g }
      (by rw [getElem?_guardedBy, if_pos rfl, found]; rfl)
    rw [entry, found] at entered
    rw [if_pos rfl, there, Option.map_some, DepthGuard.leave_of_enter entered]
    rfl
  · rw [if_neg own]
    exact same i run (by rw [getElem?_guardedBy, if_neg own, found])

end Run

/-- Two runs that do the same, and find their evaluations again. -/
def Simulation.restoring : Simulation where
  shift := 0
  runs first second := first = second
  stores first second := second = first
  kept := Run.Unchanged
  scope _ _ _ := True
  template _ := True
  allowed _ := True
  excused _ := False
  refl := Run.Unchanged.refl
  trans := Run.Unchanged.trans
  runtime _ := trivial
  refused _ _ := trivial
  parts _ _ _ := trivial
  items _ _ _ := trivial
  body _ _ _ := trivial
  timing same := Run.timing_of_eq same.symm
  data same _ _ _ _ _ := by rw [same]

namespace Simulation

theorem restoring_guards : restoring.Guards := guards_of_same eq_comm Run.unchanged_left

theorem restoring_renders : restoring.Renders where
  unexcused _ := id
  size same := congrArg Array.size same.symm
  push _ _ _ same := congrArg (Array.push · _) same
  kept := Run.unchanged_push
  parts _ _ _ _ := trivial
  shift := rfl
  stores := id
  constant _ := trivial
  found _ _ := trivial

end Simulation

/-- An expression leaves all evaluations as they were, its own included. -/
theorem Interpreter.eval_unchanged (n : Nat) (r : Nat) (locals : Locals) (e : Expr)
    (s : RenderState) :
    Run.Unchanged s.runs (((ofFrames n).eval r locals e).stateAfter s).runs := by
  have follows := ofFrames_follows Simulation.restoring_guards
    (fun follows => asks_of_renders Simulation.restoring_renders follows) n
  have still : OrderedMap.rename (.past 0) locals = locals := OrderedMap.still (.inr rfl)
  have near : Simulation.restoring.Near s s.runs s.store :=
    ⟨RenderState.still (.inr rfl), fun _ _ _ _ => trivial, rfl, rfl⟩
  exact ((follows.eval still trivial).ended near fun _ _ => id).2.1

end Phrasebook
