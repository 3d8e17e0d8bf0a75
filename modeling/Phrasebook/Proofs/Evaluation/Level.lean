import Phrasebook.Proofs.Render.Outcome
import Phrasebook.Proofs.Simulation.Rendering
/-!
Levels of evaluations. Whatever is evaluated, and however it ends, the guards stay within their limits
and come back to where they were, so that each expression of a template starts at the top.
-/
namespace Phrasebook

namespace DepthGuard

/-- No deeper than the limit; at the top where the limit is negative. -/
def IsWithin (g : DepthGuard) : Prop := 0 ≤ g.depth ∧ g.depth ≤ max g.limit 0

instance (g : DepthGuard) : Decidable g.IsWithin := inferInstanceAs (Decidable (_ ∧ _))

theorem new_isWithin (requested : Int) : (new requested).IsWithin :=
  ⟨Int.le_refl 0, Int.le_max_right _ _⟩

variable {g deeper : DepthGuard} (entered : g.enter = .ok deeper)
include entered

theorem eq_of_enter : g.depth < g.limit ∧ deeper = ⟨g.limit, g.depth + 1⟩ := by
  rw [enter] at entered
  split_ifs at entered with reached
  exact ⟨Int.not_le.mp reached, (Except.ok.inj entered).symm⟩

theorem IsWithin.enter (within : g.IsWithin) : deeper.IsWithin := by
  obtain ⟨below, rfl⟩ := eq_of_enter entered
  have down := within.1
  constructor <;> dsimp only <;> omega

theorem leave_of_enter : deeper.leave = g := by
  obtain ⟨-, rfl⟩ := eq_of_enter entered
  obtain ⟨limit, depth⟩ := g
  simp [leave]

end DepthGuard

namespace Run

/-- All guards are within their limits. -/
def Within (runs : Array Run) : Prop := ∀ run ∈ runs, run.guard.IsWithin

instance (runs : Array Run) : Decidable (Within runs) :=
  inferInstanceAs (Decidable (∀ run ∈ runs, run.guard.IsWithin))

/-- The evaluations that there were are still there, on the same levels. -/
def SameLevels (runs later : Array Run) : Prop :=
  ∀ (r : Nat) (run : Run), runs[r]? = some run →
    ∃ run', later[r]? = some run' ∧ run'.guard = run.guard

theorem SameLevels.refl (runs : Array Run) : SameLevels runs runs :=
  fun _ run found => ⟨run, found, rfl⟩

theorem SameLevels.trans {runs later last : Array Run} (first : SameLevels runs later)
    (second : SameLevels later last) : SameLevels runs last := by
  intro r run found
  obtain ⟨run', found', same⟩ := first r run found
  obtain ⟨run'', found'', same'⟩ := second r run' found'
  exact ⟨run'', found'', same'.trans same⟩

theorem Within.guardedBy {runs : Array Run} (within : Within runs) (r : Nat) {guard : DepthGuard}
    (isWithin : guard.IsWithin) : Within (guardedBy runs r guard) := by
  intro run member
  obtain ⟨i, found⟩ := Array.getElem?_of_mem member
  rw [getElem?_guardedBy] at found
  split_ifs at found
  · obtain ⟨run, -, rfl⟩ := Option.map_eq_some_iff.mp found
    exact isWithin
  · exact within run (Array.mem_of_getElem? found)

variable {runs after : Array Run} {r : Nat} {g : DepthGuard}
  (entered : (entry runs r).guard.enter = .ok g) (same : SameLevels (guardedBy runs r g) after)
include entered same

theorem left_of_enter : left after r = guardedBy after r (entry runs r).guard := by
  have found := found_of_enter entered
  obtain ⟨run, there, guard⟩ := same r { entry runs r with guard := g }
    (by rw [getElem?_guardedBy, if_pos rfl, found]; rfl)
  rw [left, entry, there, Option.getD_some, guard, DepthGuard.leave_of_enter entered]

theorem sameLevels_left : SameLevels runs (left after r) := by
  rw [left_of_enter entered same]
  intro i run found
  by_cases own : r = i
  · subst own
    obtain ⟨run', there, -⟩ := same r { run with guard := g }
      (by rw [getElem?_guardedBy, if_pos rfl, found]; rfl)
    refine ⟨{ run' with guard := (entry runs r).guard }, ?_, ?_⟩
    · rw [getElem?_guardedBy, if_pos rfl, there]
      rfl
    · rw [entry, found]
      rfl
  · obtain ⟨run', there, guard⟩ := same i run (by rw [getElem?_guardedBy, if_neg own, found])
    exact ⟨run', by rw [getElem?_guardedBy, if_neg own, there], guard⟩

end Run

/-- Two runs that do the same, as long as all guards are within their limits. -/
def Simulation.levels : Simulation where
  shift := 0
  runs first second := second = first ∧ Run.Within first
  stores first second := second = first
  kept := Run.SameLevels
  scope _ _ _ := True
  template _ := True
  allowed _ := True
  excused _ := False
  refl := Run.SameLevels.refl
  trans := Run.SameLevels.trans
  runtime _ := trivial
  refused _ _ := trivial
  parts _ _ _ := trivial
  items _ _ _ := trivial
  body _ _ _ := trivial
  timing same := Run.timing_of_eq same.1
  data same _ _ _ _ _ := by rw [same.1]

namespace Simulation

theorem levels_guards : levels.Guards where
  entered {runs runs' r g} same entered := by
    obtain ⟨rfl, within⟩ : runs' = runs ∧ Run.Within runs := same
    have own := within _ (Array.mem_of_getElem? (Run.found_of_enter entered))
    exact ⟨g, entered, rfl, within.guardedBy r (own.enter entered)⟩
  refused {runs runs' r f} same refused := by
    obtain ⟨rfl, -⟩ : runs' = runs ∧ Run.Within runs := same
    exact .inr refused
  left {runs _ after after' r g} before entered same later := by
    obtain ⟨rfl, within⟩ : after' = after ∧ Run.Within after := later
    have own := before.2 _ (Array.mem_of_getElem? (Run.found_of_enter entered))
    refine ⟨rfl, ?_⟩
    rw [Run.left_of_enter entered same]
    exact within.guardedBy r own
  kept entered same := Run.sameLevels_left entered same

theorem levels_starts : levels.Starts where
  unexcused _ := id
  size same := congrArg Array.size same.1
  push {runs runs'} budget data expires same := by
    obtain ⟨rfl, within⟩ : runs' = runs ∧ Run.Within runs := same
    refine ⟨rfl, fun run member => ?_⟩
    rcases Array.mem_push.mp member with old | rfl
    · exact within run old
    · exact DepthGuard.new_isWithin _
  kept runs run r old found := by
    refine ⟨old, ?_, rfl⟩
    rw [Array.getElem?_push, if_neg, found]
    rintro rfl
    simp at found
  parts _ _ _ _ := trivial

theorem levels_renders : levels.Renders where
  toStarts := levels_starts
  shift := rfl
  stores := id
  constant _ := trivial
  found _ _ := trivial

theorem levels_near {s : RenderState} (within : Run.Within s.runs) :
    levels.Near s s.runs s.store :=
  ⟨RenderState.still (.inr rfl), fun _ _ _ _ => trivial, ⟨rfl, within⟩, rfl⟩

end Simulation

namespace Render

variable {α : Type} {m m' : Render α} {s : RenderState}

/-- A computation does as another, leaves all guards within their limits, and keeps the levels that
there are. -/
def KeepsLevels (m m' : Render α) (s : RenderState) : Prop :=
  EStateM.run m' s = EStateM.run m s ∧ Run.Within (m.stateAfter s).runs ∧
    Run.SameLevels s.runs (m.stateAfter s).runs

theorem Follows.keepsLevels {f : α → α} (follows : Follows .levels f m m')
    (within : Run.Within s.runs) : KeepsLevels m m' s := by
  obtain ⟨outcome, kept, runs, store, near, after⟩ :=
    follows.ended (Simulation.levels_near within) fun _ _ => id
  obtain ⟨rfl, within⟩ : runs = (m.stateAfter s).runs ∧ Run.Within (m.stateAfter s).runs := near.runs
  obtain rfl : store = (m.stateAfter s).store := near.stores
  exact ⟨run_eq_of_ended outcome after, within, kept⟩

/-- An alarm that goes off once a guard is not within its limit. -/
def watch (alarm : Render Unit) : Render Unit := do
  if Run.Within (← get).runs then pure () else alarm

theorem watch_silent (alarm : Render Unit) : Silent (watch alarm) Simulation.levels.Beside := by
  rintro _ ⟨s, runs, store, near, rfl⟩
  obtain ⟨rfl, within⟩ : runs = s.runs ∧ Run.Within s.runs := near.runs
  change EStateM.run (if Run.Within s.runs then pure () else alarm) _ = _
  rw [if_pos within]
  rfl

end Render

namespace Interpreter

/-- An interpreter with an alarm for each expression that does not start at the top. -/
def fromTop (alarm : Render Unit) (lower : Interpreter) : Interpreter where
  eval r locals e := do
    if (← Render.run r).guard.depth ≠ 0 then alarm
    lower.eval r locals e
  invoke := lower.invoke

theorem watched_follows (alarm : Render Unit) (n : Nat) :
    (ofFrames n).Follows .levels (hooked (Render.watch alarm) n) :=
  hooked_follows Simulation.levels_guards (Render.watch_silent alarm)
    (fun follows => asks_of_renders Simulation.levels_renders follows) n

end Interpreter

namespace Render

theorem run_bind_congr {α β : Type} {m m' : Render α} {n n' : α → Render β} {s : RenderState}
    (first : EStateM.run m' s = EStateM.run m s)
    (second : ∀ a t, EStateM.run m s = .ok a t → EStateM.run (n' a) t = EStateM.run (n a) t) :
    EStateM.run (m' >>= n') s = EStateM.run (m >>= n) s := by
  rw [EStateM.run_bind, EStateM.run_bind, first]
  rcases ended : EStateM.run m s with ⟨a, t⟩ | ⟨e, t⟩
  · exact second a t ended
  · rfl

theorem run_look {α : Type} (x : Heap → Except Fault α) (s : RenderState) :
    EStateM.run (look x) s = match x s.heap with
      | .ok a => .ok a s
      | .error e => .error e s := by
  change EStateM.run (ofExcept (x s.heap)) s = _
  cases x s.heap <;> rfl

end Render

namespace Template

variable {lower lower' : Interpreter} (follows : lower.Follows .levels lower')
  (alarm : Render Unit)
include follows

theorem run_renderParts_fromTop (r : Nat) (parts : List Part) {s : RenderState}
    (within : Run.Within s.runs)
    (top : ∃ run, s.runs[r]? = some run ∧ run.guard.depth = 0) :
    EStateM.run (renderParts (lower'.fromTop alarm) r parts) s =
      EStateM.run (renderParts lower r parts) s := by
  induction parts generalizing s with
  | nil => rfl
  | cons part rest ih =>
    cases part with
    | text t => exact Render.run_bind_congr (ih within top) fun _ _ _ => rfl
    | expr e =>
      have empty : OrderedMap.rename (.past 0) ([] : Locals) = [] := rfl
      have kept := (follows.eval (r := r) (e := e) empty trivial).keepsLevels within
      obtain ⟨run, found, depth⟩ := top
      have first : EStateM.run ((lower'.fromTop alarm).eval r [] e) s =
          EStateM.run (lower.eval r [] e) s := by
        rw [← kept.1]
        change EStateM.run (do
          if ((s.runs[r]?).getD Render.standIn).guard.depth ≠ 0 then alarm
          lower'.eval r [] e) s = _
        rw [found, Option.getD_some, if_neg (not_not.mpr depth)]
      refine Render.run_bind_congr first fun v t ended => ?_
      have after : (lower.eval r [] e).stateAfter s = t := by
        rw [EStateM.run] at ended
        rw [Render.stateAfter, ended]
      rw [Render.KeepsLevels, after] at kept
      obtain ⟨run', found', guard⟩ := kept.2.2 r run found
      refine Render.run_bind_congr rfl fun text u looked => ?_
      rw [Render.run_look] at looked
      split at looked
      · cases looked
        have later := ih kept.2.1 ⟨run', found', (congrArg DepthGuard.depth guard).trans depth⟩
        exact Render.run_bind_congr later fun _ _ _ => rfl
      · cases looked

theorem render_fromTop (t : Template) (data : OrderedMap Value) {s : RenderState}
    (within : Run.Within s.runs) :
    Render.KeepsLevels (t.render lower data) (t.render (lower'.fromTop alarm) data) s := by
  have plain := (render_follows follows Simulation.levels_starts (t := t) trivial
    (OrderedMap.still (m := data) (.inr rfl))).keepsLevels within
  refine ⟨?_, plain.2⟩
  cases t with
  | constant source => rfl
  | dynamic source parts budget =>
    have begun : Run.Within (Render.started budget data s).runs :=
      (Simulation.levels_starts.push budget data _ ⟨rfl, within⟩).2
    have body : EStateM.run (do
          let r ← Render.start budget data
          renderParts (lower'.fromTop alarm) r parts) s =
        EStateM.run (do
          let r ← Render.start budget data
          renderParts lower r parts) s :=
      run_renderParts_fromTop follows alarm s.runs.size parts begun
        ⟨_, Array.getElem?_push_size, rfl⟩
    rw [EStateM.run, EStateM.run] at body
    change EStateM.tryCatch _ _ s = EStateM.tryCatch _ _ s
    delta EStateM.tryCatch
    simp only [body]

end Template

namespace Interpreter

end Interpreter
end Phrasebook
