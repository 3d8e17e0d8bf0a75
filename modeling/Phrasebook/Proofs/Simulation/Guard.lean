import Phrasebook.Proofs.Simulation.Invoke
/-!
The depth of evaluations side by side. A guard goes one level deeper for a node and comes back after
it; beside, something may be looked at each time a guard changes.
-/
namespace Phrasebook

open Value (rename)

namespace Run

/-- The evaluations with another guard for one of them. -/
def guardedBy (runs : Array Run) (r : Nat) (guard : DepthGuard) : Array Run :=
  runs.modify r fun run => { run with guard := guard }

/-- The evaluations after one of them has come back from a level. -/
def left (runs : Array Run) (r : Nat) : Array Run :=
  guardedBy runs r (entry runs r).guard.leave

theorem getElem?_guardedBy (runs : Array Run) (r : Nat) (guard : DepthGuard) (i : Nat) :
    (guardedBy runs r guard)[i]? =
      if r = i then runs[i]?.map fun run => { run with guard := guard } else runs[i]? :=
  Array.getElem?_modify

theorem getElem?_left (runs : Array Run) (r i : Nat) :
    (left runs r)[i]? =
      if r = i then runs[i]?.map fun run => { run with guard := run.guard.leave } else runs[i]? := by
  rw [left, getElem?_guardedBy]
  split_ifs with same
  · subst same
    cases found : runs[r]? with
    | none => rfl
    | some run => simp [entry, found]
  · rfl

/-- A change of one evaluation that keeps to its guard's levels is the same before a level is left as
after it. -/
theorem left_modify {runs : Array Run} {r : Nat} {u : Run → Run}
    (leaves : ∀ run, u { run with guard := run.guard.leave } =
      { u run with guard := (u run).guard.leave }) (i : Nat) :
    left (runs.modify r u) i = (left runs i).modify r u := by
  refine Array.ext_getElem? fun j => ?_
  simp only [getElem?_left, Array.getElem?_modify]
  split_ifs
  · cases runs[j]? <;> simp [leaves]
  · rfl
  · rfl
  · rfl

theorem guardedBy_modify {runs : Array Run} {r : Nat} {u : Run → Run} {g g' : DepthGuard}
    (guards : ∀ run, u { run with guard := g } = { u run with guard := g' }) (i : Nat) :
    (guardedBy runs i g).modify r u = guardedBy (runs.modify r u) i (if r = i then g' else g) := by
  refine Array.ext_getElem? fun j => ?_
  simp only [getElem?_guardedBy, Array.getElem?_modify]
  by_cases own : r = j
  · subst own
    by_cases here : i = r
    · subst here
      cases runs[i]? <;> simp [guards]
    · simp [here]
  · by_cases here : i = j
    · subst here
      simp [own]
    · simp [own, here]

theorem push_modify {runs : Array Run} {r : Nat} (inside : r < runs.size) (u : Run → Run)
    (run : Run) : (runs.push run).modify r u = (runs.modify r u).push run := by
  refine Array.ext_getElem? fun j => ?_
  simp only [Array.getElem?_modify, Array.getElem?_push, Array.size_modify]
  split_ifs with own last
  · omega
  · rfl
  · rfl
  · rfl

theorem push_modify_last (runs : Array Run) (run : Run) (u : Run → Run) :
    (runs.push run).modify runs.size u = runs.push (u run) := by
  refine Array.ext_getElem? fun j => ?_
  rw [Array.getElem?_modify, Array.getElem?_push, Array.getElem?_push]
  split_ifs
  · rfl
  · omega
  · omega
  · rfl

theorem entry_modify (runs : Array Run) (r : Nat) (u : Run → Run) (i : Nat) :
    entry (runs.modify r u) i =
      if r = i ∧ i < runs.size then u (entry runs i) else entry runs i := by
  simp only [entry, Array.getElem?_modify]
  by_cases own : r = i
  · subst own
    by_cases inside : r < runs.size
    · simp [inside]
    · simp [inside]
  · simp [own]

/-- What is entered is there; what stands in for the others lets nothing in. -/
theorem found_of_enter {runs : Array Run} {r : Nat} {g : DepthGuard}
    (entered : (entry runs r).guard.enter = .ok g) : runs[r]? = some (entry runs r) := by
  rw [entry] at entered ⊢
  cases found : runs[r]? with
  | some run => rfl
  | none =>
    rw [found] at entered
    cases entered

end Run

namespace Render

/-- Goes one level deeper for the time of a computation, with a look at the state whenever the guard
has changed. -/
def guardedWith {α : Type} (hook : Render Unit) (r : Nat) (body : Render α) : Render α := do
  setGuard r (← ofExcept (← run r).guard.enter)
  hook
  try
    let a ← body
    setGuard r (← run r).guard.leave
    hook
    pure a
  catch f =>
    setGuard r (← run r).guard.leave
    hook
    throw f

theorem guardedWith_pure {α : Type} (r : Nat) (body : Render α) :
    guardedWith (pure ()) r body = guarded r body := rfl

/-- The state that a computation on a deeper level starts from. -/
def deepened (s : RenderState) (r : Nat) (guard : DepthGuard) : RenderState :=
  { s with runs := Run.guardedBy s.runs r guard }

/-- The state in which an evaluation has come back from a level. -/
def back (s : RenderState) (r : Nat) : RenderState := { s with runs := Run.left s.runs r }

/-- Nothing comes of a look at certain states. -/
def Silent (hook : Render Unit) (P : RenderState → Prop) : Prop :=
  ∀ s, P s → EStateM.run hook s = .ok () s

variable {α : Type} {hook : Render Unit} {P : RenderState → Prop} {r : Nat} {body : Render α}
  {s t : RenderState}

theorem run_guardedWith_refused {f : Fault}
    (refused : (Run.entry s.runs r).guard.enter = .error f) :
    EStateM.run (guardedWith hook r body) s = .error f s := by
  change EStateM.run (do
    setGuard r (← ofExcept (Run.entry s.runs r).guard.enter)
    _) s = _
  rw [refused]
  rfl

section
variable (silent : Silent hook P) {g : DepthGuard}
  (entered : (Run.entry s.runs r).guard.enter = .ok g) (first : P (deepened s r g))
include silent entered first

theorem run_guardedWith :
    EStateM.run (guardedWith hook r body) s =
      EStateM.run (tryCatchThe Fault (do
          let a ← body
          setGuard r (← run r).guard.leave
          hook
          pure a) fun f => do
        setGuard r (← run r).guard.leave
        hook
        throw f) (deepened s r g) := by
  change EStateM.run (do
    setGuard r (← ofExcept (Run.entry s.runs r).guard.enter)
    hook
    _) s = _
  rw [entered]
  change EStateM.run (hook >>= fun _ => _) (deepened s r g) = _
  rw [EStateM.run_bind, silent _ first]
  rfl

theorem run_guardedWith_ok {a : α} (ended : EStateM.run body (deepened s r g) = .ok a t)
    (last : P (back t r)) : EStateM.run (guardedWith hook r body) s = .ok a (back t r) := by
  rw [run_guardedWith silent entered first]
  refine Outcome.run_tryCatch_ok ?_
  rw [EStateM.run_bind, ended]
  change EStateM.run (hook >>= fun _ => pure a) (back t r) = _
  rw [EStateM.run_bind, silent _ last]
  rfl

theorem run_guardedWith_error {f : Fault}
    (ended : EStateM.run body (deepened s r g) = .error f t) (last : P (back t r)) :
    EStateM.run (guardedWith hook r body) s = .error f (back t r) := by
  rw [run_guardedWith silent entered first, Outcome.run_tryCatch_error (e := f) (t := t)]
  · change EStateM.run (hook >>= fun _ => throw f) (back t r) = _
    rw [EStateM.run_bind, silent _ last]
    rfl
  · rw [EStateM.run_bind, ended]

end
end Render

/-- How guards may differ side by side. Where the first enters a level, so does the second; where the
first does not, the second does not either, unless the first is excused. -/
structure Simulation.Guards (K : Simulation) : Prop where
  entered : ∀ {runs runs' r g}, K.runs runs runs' → (Run.entry runs r).guard.enter = .ok g →
    ∃ g', (Run.entry runs' r).guard.enter = .ok g' ∧
      K.runs (Run.guardedBy runs r g) (Run.guardedBy runs' r g')
  refused : ∀ {runs runs' r f}, K.runs runs runs' → (Run.entry runs r).guard.enter = .error f →
    K.excused f ∨ (Run.entry runs' r).guard.enter = .error f
  left : ∀ {runs runs' after after' r g}, K.runs runs runs' →
    (Run.entry runs r).guard.enter = .ok g → K.kept (Run.guardedBy runs r g) after →
      K.runs after after' → K.runs (Run.left after r) (Run.left after' r)
  kept : ∀ {runs after r g}, (Run.entry runs r).guard.enter = .ok g →
    K.kept (Run.guardedBy runs r g) after → K.kept runs (Run.left after r)

/-- Guards do not differ where evaluations are the same. -/
theorem Simulation.guards_of_same {K : Simulation}
    (same : ∀ {runs runs'}, K.runs runs runs' ↔ runs' = runs)
    (kept : ∀ {runs after r g}, (Run.entry runs r).guard.enter = .ok g →
      K.kept (Run.guardedBy runs r g) after → K.kept runs (Run.left after r)) : K.Guards where
  entered fits entered := by
    obtain rfl := same.mp fits
    exact ⟨_, entered, same.mpr rfl⟩
  refused fits refused := by
    obtain rfl := same.mp fits
    exact .inr refused
  left _ _ _ fits := by
    obtain rfl := same.mp fits
    exact same.mpr rfl
  kept := kept

/-- What is beside a state that fits. -/
def Simulation.Beside (K : Simulation) (s' : RenderState) : Prop :=
  ∃ s runs store, K.Near s runs store ∧ s' = s.beside runs store

namespace Render

variable {K : Simulation} {α : Type} {f : α → α}

theorem enter_runtime (g : DepthGuard) : Outcome.FailsOnly Fault.IsRuntime g.enter := by
  rw [DepthGuard.enter]
  split
  · exact .error (.tooDeep _)
  · exact .ok _

theorem deepened_near {s : RenderState} {runs : Array Run} {store : ResourceStore}
    (near : K.Near s runs store) {r : Nat} {g : DepthGuard} {runs' : Array Run}
    (fits : K.runs (Run.guardedBy s.runs r g) runs') : K.Near (deepened s r g) runs' store where
  image := (setGuard_mirrors r g near.image).of_ok.2
  closures := near.closures
  runs := fits
  stores := near.stores

theorem back_near {s : RenderState} {runs : Array Run} {store : ResourceStore}
    (near : K.Near s runs store) {r : Nat} (fits : K.runs (Run.left s.runs r) (Run.left runs r)) :
    K.Near (back s r) (Run.left runs r) store where
  image := (setGuard_mirrors r _ near.image).of_ok.2
  closures := near.closures
  runs := fits
  stores := near.stores

theorem guarded_follows (guards : K.Guards) {hook : Render Unit} (silent : Silent hook K.Beside)
    (r : Nat) {m m' : Render α} (follows : Follows K f m m') :
    Follows K f (guarded r m) (guardedWith hook r m') := by
  intro s runs store near
  have plain : Silent (pure ()) fun _ => True := fun _ _ => rfl
  rw [← guardedWith_pure]
  cases ended : (Run.entry s.runs r).guard.enter with
  | error e =>
    rw [run_guardedWith_refused ended]
    rcases guards.refused near.runs ended with excused | refused
    · exact .excused excused
    · rw [run_guardedWith_refused (s := s.beside runs store) refused]
      exact .error (K.runtime (enter_runtime _ e ended)) near (K.refl _)
  | ok g =>
    obtain ⟨g', enters, fits⟩ := guards.entered near.runs ended
    have entered : (Run.entry (s.beside runs store).runs r).guard.enter = .ok g' := enters
    have deep := deepened_near near fits
    have agreed := follows deep
    have first : K.Beside (deepened (s.beside runs store) r g') := ⟨_, _, _, deep, rfl⟩
    generalize left : EStateM.run m (deepened s r g) = result at agreed
    generalize right : EStateM.run m' ((deepened s r g).beside (Run.guardedBy runs r g') store) =
      result' at agreed
    cases agreed with
    | @ok a t runs' store' still later kept =>
      have near := back_near later (guards.left near.runs ended kept later.runs)
      rw [run_guardedWith_ok plain ended trivial left trivial,
        run_guardedWith_ok silent entered first right ⟨_, _, _, near, rfl⟩]
      exact .ok still near (guards.kept ended kept)
    | @error e t runs' store' allowed later kept =>
      have near := back_near later (guards.left near.runs ended kept later.runs)
      rw [run_guardedWith_error plain ended trivial left trivial,
        run_guardedWith_error silent entered first right ⟨_, _, _, near, rfl⟩]
      exact .error allowed near (guards.kept ended kept)
    | excused excused =>
      rw [run_guardedWith_error plain ended trivial left trivial]
      exact .excused excused

theorem hook_follows {hook : Render Unit} (silent : Silent hook K.Beside) :
    Follows K id (pure ()) hook := by
  intro s runs store near
  rw [silent _ ⟨s, runs, store, near, rfl⟩]
  exact .ok rfl near (K.refl _)

end Render

namespace Interpreter

/-- One node, with a look at the state before it and whenever a guard has changed. -/
def nodeWith (hook : Render Unit) (lower : Interpreter) (r : Nat) (locals : Locals) (e : Expr) :
    Render Value := do
  hook
  Render.checkDeadline r
  Render.mark (← Render.guardedWith hook r (lower.dispatch r locals e))

/-- The interpreter on a stack of so many frames, each with a look at the state. -/
def hooked (hook : Render Unit) : Nat → Interpreter
  | 0 => exhausted
  | n + 1 => ⟨(hooked hook n).nodeWith hook, (hooked hook n).apply⟩

theorem hooked_pure (n : Nat) : hooked (pure ()) n = ofFrames n := by
  induction n with
  | zero => rfl
  | succ n ih => rw [hooked, ih, ofFrames]; rfl

variable {K : Simulation}

/-- If one interpreter goes along with the other over all that asks the store, it does over all. -/
theorem hooked_follows (guards : K.Guards) {hook : Render Unit}
    (silent : Render.Silent hook K.Beside)
    (asks : ∀ {lower lower'}, lower.Follows K lower' → K.Asks lower lower') (n : Nat) :
    (ofFrames n).Follows K (hooked hook n) := by
  induction n with
  | zero => exact exhausted_follows
  | succ n ih =>
    constructor
    · intro r locals e still scope
      change Render.Follows K (rename K.moving)
        (pure () >>= fun _ => (ofFrames n).node r locals e) ((hooked hook n).nodeWith hook r locals e)
      refine .bind (Render.hook_follows silent) fun _ _ => ?_
      refine .bind (Render.checkDeadline_follows r) fun _ _ => ?_
      refine .bind ?_ fun _ => Render.mark_follows
      exact Render.guarded_follows guards silent r (dispatch_follows ih still scope)
    · intro f c stillF still
      exact apply_follows ih (asks ih) stillF still

theorem ofFrames_follows (guards : K.Guards)
    (asks : ∀ {lower lower'}, lower.Follows K lower' → K.Asks lower lower') (n : Nat) :
    (ofFrames n).Follows K (ofFrames n) := by
  have silent : Render.Silent (pure ()) K.Beside := fun _ _ => rfl
  have follows := hooked_follows guards silent asks n
  rwa [hooked_pure] at follows

end Interpreter
end Phrasebook
