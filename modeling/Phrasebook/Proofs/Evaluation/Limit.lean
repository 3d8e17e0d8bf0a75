import Phrasebook.Facade
import Phrasebook.Proofs.Render.Outcome
import Phrasebook.Proofs.Simulation.Rendering
/-!
What the depth limit has to do with an evaluation: nothing, unless it is exceeded.
-/
namespace Phrasebook

/-- The fault of going deeper than the limit. -/
def Fault.IsTooDeep (f : Fault) : Prop := ∃ report, f = .own (.tooDeep report)

namespace DepthGuard

/-- The same level under another limit. -/
def under (limit : Int) (g : DepthGuard) : DepthGuard := { g with limit := limit }

theorem tooDeep_of_enter {g : DepthGuard} {f : Fault} (refused : g.enter = .error f) :
    f.IsTooDeep := by
  rw [enter] at refused
  split_ifs at refused
  exact ⟨_, (Except.error.inj refused).symm⟩

theorem under_enter {g deeper : DepthGuard} {limit : Int} (entered : g.enter = .ok deeper)
    (higher : g.limit ≤ limit) :
    (g.under limit).enter = .ok (deeper.under limit) ∧ deeper.limit = g.limit := by
  rw [enter] at entered
  split_ifs at entered with reached
  obtain rfl := Except.ok.inj entered
  have below : ¬limit ≤ g.depth := by omega
  refine ⟨?_, rfl⟩
  rw [enter, under, if_neg below]
  rfl

end DepthGuard

namespace Run

/-- The evaluations with another limit for one of them. -/
def limitedBy (runs : Array Run) (r : Nat) (limit : Int) : Array Run :=
  runs.modify r fun run => { run with guard := run.guard.under limit }

variable {runs : Array Run} {r : Nat} {limit : Int}

theorem getElem?_limitedBy (i : Nat) : (limitedBy runs r limit)[i]? =
    if r = i then runs[i]?.map fun run => { run with guard := run.guard.under limit }
    else runs[i]? :=
  Array.getElem?_modify

theorem entry_limitedBy (i : Nat) :
    (entry (limitedBy runs r limit) i).data = (entry runs i).data ∧
      (entry (limitedBy runs r limit) i).expires = (entry runs i).expires ∧
      (entry (limitedBy runs r limit) i).timeout = (entry runs i).timeout := by
  rw [limitedBy, entry_modify]
  split_ifs <;> exact ⟨rfl, rfl, rfl⟩

/-- The evaluation, if there is one, is under no higher limit. -/
def AtMost (runs : Array Run) (r : Nat) (limit : Int) : Prop :=
  ∀ run ∈ runs[r]?, run.guard.limit ≤ limit

theorem AtMost.guardedBy {g : DepthGuard} {i : Nat} (most : AtMost runs r limit)
    (same : i = r → g.limit = (entry runs r).guard.limit) :
    AtMost (guardedBy runs i g) r limit := by
  intro run found
  rw [getElem?_guardedBy] at found
  split_ifs at found with here
  · obtain ⟨run, held, rfl⟩ := Option.map_eq_some_iff.mp found
    have bound := most run held
    rw [entry, held, Option.getD_some] at same
    exact (same here).symm ▸ bound
  · exact most run found

theorem AtMost.left (most : AtMost runs r limit) (i : Nat) : AtMost (left runs i) r limit := by
  refine most.guardedBy fun same => ?_
  rw [same]
  rfl

end Run

/-- Two runs in which nothing asks the store and one evaluation has different limits, until the lower
one is exceeded. -/
def Simulation.limits (r : Nat) (limit : Int) : Simulation where
  shift := 1
  runs first second := second = Run.limitedBy first r limit ∧ Run.AtMost first r limit
  stores first second := second = first
  kept _ _ := True
  scope _ _ _ := True
  template _ := True
  allowed _ := True
  excused := Fault.IsTooDeep
  refl _ := trivial
  trans _ _ := trivial
  runtime _ := trivial
  refused _ _ := trivial
  parts _ _ _ := trivial
  items _ _ _ := trivial
  body _ _ _ := trivial
  timing same i := by
    rw [same.1]
    exact (Run.entry_limitedBy i).2
  data same i _ _ _ _ := by rw [same.1, (Run.entry_limitedBy i).1]

theorem Simulation.limits_guards (r : Nat) (limit : Int) : (limits r limit).Guards where
  entered {runs runs' i g} same entered := by
    obtain ⟨rfl, most⟩ : runs' = Run.limitedBy runs r limit ∧ Run.AtMost runs r limit := same
    have found := Run.found_of_enter entered
    refine ⟨if r = i then g.under limit else g, ?_, (Run.guardedBy_modify (fun _ => rfl) i).symm, ?_⟩
    · rw [Run.entry, Run.getElem?_limitedBy, found]
      split_ifs with own
      · subst own
        exact (DepthGuard.under_enter entered (most _ found)).1
      · exact entered
    · refine most.guardedBy fun own => ?_
      subst own
      exact (DepthGuard.under_enter entered (most _ found)).2
  refused _ refused := .inl (DepthGuard.tooDeep_of_enter refused)
  left {_ _ after after' i _} _ _ _ later := by
    obtain ⟨rfl, most⟩ : after' = Run.limitedBy after r limit ∧ Run.AtMost after r limit := later
    exact ⟨Run.left_modify (fun _ => rfl) i, most.left i⟩
  kept _ _ := trivial

namespace Facade

theorem outcome_evaluate (budget : Budget) (e : Expr) (data : OrderedMap Value) (s : RenderState) :
    (evaluate budget e data).outcome s =
      (Interpreter.full.eval s.runs.size [] e).outcome (Render.started budget data s) := by
  rw [evaluate]
  rfl

theorem stateAfter_evaluate (budget : Budget) (e : Expr) (data : OrderedMap Value)
    (s : RenderState) : (evaluate budget e data).stateAfter s =
      (Interpreter.full.eval s.runs.size [] e).stateAfter (Render.started budget data s) := by
  rw [evaluate]
  rfl

/-- What an evaluation under a higher limit starts from, beside one under a lower limit. -/
theorem started_beside (timeout : Duration) {depth higher : Int} (le : depth ≤ higher)
    (unclamped : higher ≤ Depth.ceiling Depth.defaultReserve) (data : OrderedMap Value)
    (s : RenderState) :
    Render.started ⟨timeout, higher⟩ data s =
        (Render.started ⟨timeout, depth⟩ data s).beside (Run.limitedBy
          (Render.started ⟨timeout, depth⟩ data s).runs s.runs.size higher) s.store ∧
      Run.AtMost (Render.started ⟨timeout, depth⟩ data s).runs s.runs.size higher := by
  have lower : ¬Depth.ceiling Depth.defaultReserve < depth := by omega
  have upper : ¬Depth.ceiling Depth.defaultReserve < higher := by omega
  simp only [Render.started, Depth.clampWarnings, DepthGuard.new, Depth.clamp, if_neg lower,
    if_neg upper, RenderState.beside]
  constructor
  · rw [Run.limitedBy, Run.push_modify_last]
    rfl
  · intro run found
    rw [Array.getElem?_push_size] at found
    obtain rfl := Option.some.inj found
    exact le

end Facade
end Phrasebook
