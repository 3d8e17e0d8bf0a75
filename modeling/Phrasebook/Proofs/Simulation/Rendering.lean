import Phrasebook.Proofs.Context.Rendering
import Phrasebook.Proofs.Renaming.Context
import Phrasebook.Proofs.Simulation.Guard
/-!
Renders side by side, also those that a template asks for. A render tells of every fault in words of
its own, so that none can be excused in it.
-/
namespace Phrasebook

open Value (rename)

theorem Fault.isRuntime_of_isExecution {f : Fault} (execution : f.isExecution = true) :
    f.IsRuntime := by
  unfold isExecution at execution
  split at execution
  · exact .execution ..
  · cases execution

/-- How two runs end, as far as the first is not excused. -/
theorem Render.Follows.ended {K : Simulation} {α : Type} {f : α → α} {m m' : Render α}
    (follows : Follows K f m m') {s : RenderState} {runs : Array Run} {store : ResourceStore}
    (near : K.Near s runs store) (unexcused : ∀ e, m.outcome s = .error e → ¬K.excused e) :
    m'.outcome (s.beside runs store) = m.outcome s ∧
      K.kept s.runs (m.stateAfter s).runs ∧ ∃ later other, K.Near (m.stateAfter s) later other ∧
        m'.stateAfter (s.beside runs store) = (m.stateAfter s).beside later other := by
  have agreed := follows near
  unfold outcome at unexcused ⊢
  unfold stateAfter
  rw [EStateM.run, EStateM.run] at agreed
  generalize m s = left at agreed unexcused ⊢
  generalize m' (s.beside runs store) = right at agreed ⊢
  cases agreed with
  | ok _ near kept => exact ⟨rfl, kept, _, _, near, rfl⟩
  | error _ near kept => exact ⟨rfl, kept, _, _, near, rfl⟩
  | excused excused => exact absurd excused (unexcused _ rfl)

theorem Render.Follows.allowed {K : Simulation} {α : Type} {f : α → α} {m m' : Render α}
    (follows : Follows K f m m') {s : RenderState} {runs : Array Run} {store : ResourceStore}
    (near : K.Near s runs store) {e : Fault} (failed : m.outcome s = .error e) :
    K.allowed e ∨ K.excused e := by
  have agreed := follows near
  unfold outcome at failed
  rw [EStateM.run, EStateM.run] at agreed
  generalize m s = left at agreed failed
  generalize m' (s.beside runs store) = right at agreed
  cases agreed with
  | ok _ _ _ => cases failed
  | error allowed _ _ =>
    cases failed
    exact .inl allowed
  | excused excused =>
    cases failed
    exact .inr excused

/-- Evaluations may begin side by side. -/
structure Simulation.Starts (K : Simulation) : Prop where
  unexcused : ∀ f, ¬K.excused f
  size : ∀ {runs runs'}, K.runs runs runs' → runs'.size = runs.size
  push : ∀ {runs runs'} (budget : Budget) (data : OrderedMap Value) (expires : Option Nat),
    K.runs runs runs' → K.runs (runs.push ⟨data, .new budget.maxDepth, budget.timeout, expires⟩)
      (runs'.push ⟨data, .new budget.maxDepth, budget.timeout, expires⟩)
  kept : ∀ runs run, K.kept runs (runs.push run)
  parts : ∀ {source parts budget runs runs'}, K.template (.dynamic source parts budget) →
    K.runs runs runs' → ∀ e, .expr e ∈ parts → K.scope runs.size [] e

namespace Render

/-- The state in which an evaluation has begun. -/
def started (budget : Budget) (data : OrderedMap Value) (s : RenderState) : RenderState :=
  { s with
    log := (Depth.clampWarnings budget.maxDepth).reverse ++ s.log
    runs := s.runs.push ⟨data, .new budget.maxDepth, budget.timeout,
      budget.timeout.microseconds?.map (s.clock + ·)⟩ }

variable {K : Simulation} {γ : Type} {g : γ → γ}

theorem start_follows (starts : K.Starts) (budget : Budget) {data : OrderedMap Value}
    (still : data.rename K.moving = data) {n n' : Nat → Render γ}
    (rest : ∀ runs runs', K.runs runs runs' → Follows K g (n runs.size) (n' runs.size)) :
    Follows K g (start budget data >>= n) (start budget data >>= n') := by
  intro s runs store near
  have image := (start_mirrors budget data near.image).of_ok.2
  rw [still] at image
  have later : K.Near (started budget data s)
      (runs.push ⟨data, .new budget.maxDepth, budget.timeout,
        budget.timeout.microseconds?.map (s.clock + ·)⟩) store :=
    ⟨image, near.closures, starts.push budget data _ near.runs, near.stores⟩
  have agreed := (rest s.runs runs near.runs later).after (starts.kept s.runs _)
  have second : EStateM.run (start budget data >>= n') (s.beside runs store) =
      EStateM.run (n' runs.size) ((started budget data s).beside
        (runs.push ⟨data, .new budget.maxDepth, budget.timeout,
          budget.timeout.microseconds?.map (s.clock + ·)⟩) store) := rfl
  rw [second, starts.size near.runs]
  exact agreed

end Render

namespace Template

variable {K : Simulation} {lower lower' : Interpreter} (follows : lower.Follows K lower')
include follows

theorem renderParts_follows (r : Nat) {parts : List Part}
    (scope : ∀ e, .expr e ∈ parts → K.scope r [] e) :
    Render.Follows K id (renderParts lower r parts) (renderParts lower' r parts) := by
  induction parts with
  | nil => exact .pure rfl
  | cons part rest ih =>
    have ih := ih fun e member => scope e (.tail _ member)
    cases part with
    | text t => exact .bind ih fun ts _ => .pure rfl
    | expr e =>
      refine .bind (follows.eval rfl (scope e (.head _))) fun v _ => ?_
      refine .bind (Render.look_follows_id fun h => partText_ordinary h v) fun t _ => ?_
      exact .bind ih fun ts _ => .pure rfl

theorem render_follows (starts : K.Starts) {t : Template} (template : K.template t)
    {data : OrderedMap Value} (still : data.rename K.moving = data) :
    Render.Follows K id (t.render lower data) (t.render lower' data) := by
  cases t with
  | constant source => exact .pure rfl
  | dynamic source parts budget =>
    refine .tryCatch (Render.start_follows starts budget still fun runs runs' fits => ?_)
      (fun f _ => .throw (K.runtime ?_)) fun f excused => absurd excused (starts.unexcused f)
    · exact renderParts_follows follows _ (starts.parts template fits)
    · exact Fault.isRuntime_of_isExecution (isExecution_wrapped source f)

end Template

theorem Render.renderFound_follows {K : Simulation} {lower lower' : Interpreter}
    (follows : lower.Follows K lower') (starts : K.Starts) (r : Nat) (key : Text) {c : Context}
    {data : OrderedMap Value} {t : Template} (template : K.template t)
    (bound : ((c.dataWith data).map fun e => e.2.bindTo r).map (rename K.moving) =
      (c.dataWith data).map fun e => e.2.bindTo r) :
    Follows K id (renderFound lower r key c data t) (renderFound lower' r key c data t) := by
  refine .tryCatch ?_ (fun f allowed => .bind (context_follows r) fun c _ => .throw ?_)
    fun f excused => absurd excused (starts.unexcused f)
  · refine .bind (ofMemory_follows (Memory.markAll_mirrors _) (congrArg Memory.markAll bound)
      (.modifyGet _)) fun values still => ?_
    refine Template.render_follows follows starts template ?_
    rw [← OrderedMap.zip_rename, still]
  · unfold Template.placed
    split
    · exact K.runtime (.execution ..)
    · exact allowed

/-- Keys may be rendered side by side: nothing moves, and the stores are the same and have nothing but
templates that may be rendered. -/
structure Simulation.Renders (K : Simulation) : Prop extends K.Starts where
  shift : K.shift = 0
  stores : ∀ {store store'}, K.stores store store' → store' = store
  constant : ∀ source, K.template (.constant source)
  found : ∀ {store store' locale key t}, K.stores store store' →
    store.lookup locale key = .ok (some t) → K.template t

namespace Context

theorem findTemplate_runtime (c : Context) (store : ResourceStore) (key : Text) :
    Outcome.FailsOnly Fault.IsRuntime (c.findTemplate store key) := by
  intro f failed
  rcases c.findTemplate_cases store key with
    ⟨f', absent, given⟩ | ⟨t, records, found, given⟩ | ⟨absent, given⟩
  · obtain rfl := Except.error.inj (given.symm.trans failed)
    rw [c.found?_eq] at absent
    obtain ⟨-, tag, -, -, -, here⟩ := (ResourceStore.firstTemplate_eq_iff (by simp)).mp absent
    obtain ⟨rfl, -⟩ := ResourceStore.lookup_eq_error_iff.mp here
    exact .ordinary .value
  · rw [given] at failed
    cases failed
  · rw [given] at failed
    split_ifs at failed
    obtain rfl := Except.error.inj failed
    exact .keyNotFound ..

theorem template_of_findTemplate {K : Simulation} (renders : K.Renders) {c : Context}
    {store store' : ResourceStore} (stores : K.stores store store') {key : Text} {t : Template}
    {records : List LogRecord} (found : c.findTemplate store key = .ok (t, records)) :
    K.template t := by
  rcases c.findTemplate_cases store key with
    ⟨f, absent, given⟩ | ⟨t', records', here, given⟩ | ⟨absent, given⟩
  · rw [given] at found
    cases found
  · rw [given] at found
    cases found
    rw [c.found?_eq] at here
    obtain ⟨-, tag, -, -, -, here⟩ := (ResourceStore.firstTemplate_eq_iff (by simp)).mp here
    exact renders.found stores here
  · rw [given] at found
    split_ifs at found
    cases found
    exact renders.constant key

end Context

section
variable {K : Simulation} (renders : K.Renders)
include renders

namespace Render

theorem setContext_follows (r : Nat) (c : Context) :
    Follows K id (setContext r c) (setContext r c) := by
  have still : c.rename K.moving = c := Context.still (.inr renders.shift)
  exact follows_of_blind (setContext_mirrors r c) (by rw [still]; rfl) (fun _ _ _ _ => rfl)
    (.modify _)

variable {lower lower' : Interpreter} (follows : lower.Follows K lower')
include follows

theorem renderKey_follows (r : Nat) (key : Text) (data : OrderedMap Value) :
    Follows K id (renderKey lower r key data) (renderKey lower' r key data) := by
  refine .bind (context_follows r) fun c _ => .read fun s runs store near => ?_
  obtain rfl := renders.stores near.stores
  refine .bindExcept (c.findTemplate_runtime _ key) fun found given => ?_
  refine .bind (log_follows _) fun _ _ => ?_
  exact renderFound_follows follows renders.toStarts r key
    (Context.template_of_findTemplate renders near.stores given)
    (Value.map_still (.inr renders.shift))

end Render

namespace Interpreter

theorem relocateTo_follows (r : Nat) (c : Context) (tag : Value) :
    Render.Follows K (rename K.moving) (relocateTo r c tag) (relocateTo r c tag) := by
  refine .bind (Render.look_follows_id fun h => requestOf_ordinary h tag) fun request _ => ?_
  refine .read fun s runs store near => ?_
  obtain rfl := renders.stores near.stores
  refine .bind (Render.log_follows _) fun _ _ => ?_
  exact .bind (Render.setContext_follows renders r _) fun _ _ => .pure (Value.rename_builtText ..)

theorem relocate_follows (r : Nat) (tag : Value) :
    Render.Follows K (rename K.moving) (relocate r tag) (relocate r tag) := by
  refine .bind (Render.context_follows r) fun c _ => ?_
  have other := relocateTo_follows renders r c tag
  cases tag with
  | none => exact .pure (Value.rename_builtText ..)
  | _ => exact other

variable {lower lower' : Interpreter} (follows : lower.Follows K lower')
include follows

theorem translate_follows (r : Nat) (key : Value) (data : OrderedMap Value) :
    Render.Follows K (rename K.moving) (translate lower r key data)
      (translate lower' r key data) := by
  have misused {f : Fault} (ordinary : f.IsOrdinary) :
      Render.Follows K (rename K.moving) (throw f) (throw f) := .throw (K.runtime (.ordinary ordinary))
  cases key with
  | text key o =>
    refine .bind (Render.renderKey_follows renders follows r key data) fun t _ => .pure ?_
    exact Value.rename_builtText ..
  | bytes => exact misused .type
  | _ => exact misused (.noAttribute ..)

theorem asks_of_renders : K.Asks lower lower' := by
  intro h r o c asks _ still
  have misused : Render.Follows K (rename K.moving) (throw .type) (throw .type) :=
    .throw (K.runtime (.ordinary .type))
  cases h with
  | translate =>
    refine .bindExcept (keyOf_ordinary c).runtime fun found _ => ?_
    exact translate_follows renders follows r found.1 found.2
  | relocale =>
    refine .bind (required_follows still _) fun args _ => ?_
    rcases args with _ | ⟨tag, _ | ⟨t, rest⟩⟩
    · exact misused
    · exact relocate_follows renders r tag
    · exact misused
  | tag => cases asks
  | pluralize => cases asks

end Interpreter
end
end Phrasebook
