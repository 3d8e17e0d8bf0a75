import Phrasebook.Proofs.Renaming.Method
import Phrasebook.Render.State
/-!
Rendering states under a renaming: one is the image of another, with closures, evaluations and
contexts of its own besides, and a clock that is ahead.
-/
namespace Phrasebook

def Closure.rename (ρ : Renaming) (c : Closure) : Closure :=
  { c with locals := OrderedMap.rename ρ c.locals, run := ρ.run c.run }

def Run.rename (ρ : Renaming) (r : Run) : Run :=
  { r with data := r.data.rename ρ, expires := r.expires.map (· + ρ.delay) }

def Config.rename (ρ : Renaming) (c : Config) : Config :=
  { c with templateData := c.templateData.rename ρ }

def Context.rename (ρ : Renaming) (c : Context) : Context :=
  { c with config := c.config.rename ρ, templateData := c.templateData.rename ρ }

/-- Two engines choose alike, whatever they have warned about. -/
def PluralEngine.Agrees (e e' : PluralEngine) : Prop :=
  e'.rules = e.rules ∧ e'.defaultRule = e.defaultRule

theorem PluralEngine.Agrees.symm {e e' : PluralEngine} (agrees : e.Agrees e') : e'.Agrees e :=
  ⟨agrees.1.symm, agrees.2.symm⟩

theorem PluralEngine.Agrees.trans {e f g : PluralEngine} (first : e.Agrees f)
    (second : f.Agrees g) : e.Agrees g :=
  ⟨second.1.trans first.1, second.2.trans first.2⟩

namespace RenderState

/-- One state is the image of another, apart from what it has besides. -/
structure Image (ρ : Renaming) (s s' : RenderState) : Prop where
  heap : Heap.Image ρ s.heap s'.heap
  closures : TableImage ρ.lambda (Closure.rename ρ) s.closures s'.closures
  runs : TableImage ρ.run (Run.rename ρ) s.runs s'.runs
  contexts : TableImage ρ.context (Context.rename ρ) s.contexts s'.contexts
  clock : s'.clock = s.clock + ρ.delay
  store : s'.store = s.store
  engine : s.engine.Agrees s'.engine
  sharedEngine : s.sharedEngine.Agrees s'.sharedEngine

/-- What is no image is as before, and so are the store and the rules of the engines. -/
structure Kept (ρ : Renaming) (s t : RenderState) : Prop where
  heap : Heap.Kept ρ s.heap t.heap
  contexts : TableKept ρ.context s.contexts t.contexts
  store : t.store = s.store
  engine : s.engine.Agrees t.engine
  sharedEngine : s.sharedEngine.Agrees t.sharedEngine

theorem Kept.refl (ρ : Renaming) (s : RenderState) : Kept ρ s s :=
  ⟨.refl .., .refl .., rfl, ⟨rfl, rfl⟩, ⟨rfl, rfl⟩⟩

theorem Kept.trans {ρ : Renaming} {s t u : RenderState} (first : Kept ρ s t)
    (second : Kept ρ t u) : Kept ρ s u where
  heap := first.heap.trans second.heap
  contexts := first.contexts.trans second.contexts
  store := second.store.trans first.store
  engine := first.engine.trans second.engine
  sharedEngine := first.sharedEngine.trans second.sharedEngine

def likeness (ρ : Renaming) : Likeness RenderState := ⟨Image ρ, Kept ρ, .refl ρ, .trans⟩

end RenderState

namespace Render

/-- Computations end alike on a state and its image. -/
abbrev Mirrors {α β : Type} (ρ : Renaming) (f : α → β) (m : Render α) (m' : Render β) : Prop :=
  (RenderState.likeness ρ).Mirrors f m m'

variable {ρ : Renaming} {α β : Type} {f : α → β}

theorem injective_mirrors {m : Render α} {m' : Render β}
    (mirrors : ρ.IsInjective → Mirrors ρ f m m') : Mirrors ρ f m m' :=
  fun _ _ image => mirrors image.heap.injective image

theorem run_ofMemory_ok {m : Memory α} {s : RenderState} {a : α} {h : Heap}
    (ended : m.run s.heap = .ok a h) :
    EStateM.run (ofMemory m) s = .ok a { s with heap := h } := by
  rw [EStateM.run] at ended ⊢
  simp only [ofMemory, ended]

theorem run_ofMemory_error {m : Memory α} {s : RenderState} {e : Fault} {h : Heap}
    (ended : m.run s.heap = .error e h) :
    EStateM.run (ofMemory m) s = .error e { s with heap := h } := by
  rw [EStateM.run] at ended ⊢
  simp only [ofMemory, ended]

theorem ofMemory_mirrors {m : Memory α} {m' : Memory β} (mirrors : Memory.Mirrors ρ f m m') :
    Mirrors ρ f (ofMemory m) (ofMemory m') := by
  intro s s' image
  have alike := mirrors image.heap
  generalize left : m.run s.heap = r at alike
  generalize right : m'.run s'.heap = r' at alike
  cases alike with
  | ok a between kept =>
    rw [run_ofMemory_ok left, run_ofMemory_ok right]
    exact .ok a { image with heap := between } { RenderState.Kept.refl ρ s' with heap := kept }
  | error e between kept =>
    rw [run_ofMemory_error left, run_ofMemory_error right]
    exact .error e { image with heap := between } { RenderState.Kept.refl ρ s' with heap := kept }

theorem look_mirrors {x : Heap → Except Fault α} {x' : Heap → Except Fault β}
    (mapped : ∀ h h', Heap.Image ρ h h' → x' h' = (x h).map f) :
    Mirrors ρ f (look x) (look x') :=
  .read fun _ _ image => .ofExcept (mapped _ _ image.heap)

theorem mark_mirrors (v : Value) : Mirrors ρ (Value.rename ρ) (mark v) (mark (v.rename ρ)) :=
  ofMemory_mirrors (Memory.mark_mirrors v)

theorem log_mirrors (records records' : List LogRecord) :
    Mirrors ρ id (log records) (log records') :=
  fun _ s' image => .ok () { image with } { RenderState.Kept.refl ρ s' with }

theorem start_mirrors (budget : Budget) (data : OrderedMap Value) :
    Mirrors ρ ρ.run (start budget data) (start budget (data.rename ρ)) := by
  refine .bind (log_mirrors _ _) fun _ s s' image => ?_
  have expires : (budget.timeout.microseconds?.map (s'.clock + ·)) =
      (budget.timeout.microseconds?.map (s.clock + ·)).map (· + ρ.delay) := by
    rw [image.clock, Option.map_map]
    congr
    funext t
    simp only [Function.comp_apply]
    omega
  change (RenderState.likeness ρ).Alike _ s'
    (.ok s.runs.size { s with runs := s.runs.push (Run.mk data (.new budget.maxDepth) budget.timeout
      (budget.timeout.microseconds?.map (s.clock + ·))) })
    (.ok s'.runs.size { s' with runs := s'.runs.push (Run.mk (data.rename ρ) (.new budget.maxDepth)
      budget.timeout (budget.timeout.microseconds?.map (s'.clock + ·))) })
  rw [← image.runs.aligned.start, expires]
  exact .ok s.runs.size { image with runs := image.runs.push _ } { RenderState.Kept.refl ρ s' with }

theorem run_mirrors (r : Nat) : Mirrors ρ (Run.rename ρ) (run r) (run (ρ.run r)) := by
  refine .read fun s s' image => .pure' ?_
  rw [image.runs.entry]
  cases s.runs[r]? <;> rfl

theorem checkDeadline_mirrors (r : Nat) :
    Mirrors ρ id (checkDeadline r) (checkDeadline (ρ.run r)) := by
  have tick : Mirrors ρ id (modify fun s => { s with clock := s.clock + 1 })
      (modify fun s => { s with clock := s.clock + 1 }) := by
    intro s s' image
    have clock : s'.clock + 1 = s.clock + 1 + ρ.delay := by
      rw [image.clock]
      omega
    exact .ok () { image with clock := clock } { RenderState.Kept.refl ρ s' with }
  refine .bind tick fun _ => .bind (run_mirrors r) fun run => ?_
  obtain ⟨data, guard, timeout, expires⟩ := run
  cases expires with
  | none => exact .pure ()
  | some t =>
    refine .read fun s s' image => ?_
    have spent : t + ρ.delay < s'.clock ↔ t < s.clock := by
      rw [image.clock]
      omega
    simp only [Run.rename, Option.map_some, spent]
    exact .ite (.throw _) (.pure ())

theorem setGuard_mirrors (r : Nat) (guard : DepthGuard) :
    Mirrors ρ id (setGuard r guard) (setGuard (ρ.run r) guard) := by
  intro s s' image
  have runs := image.runs.modify r (fun run => { run with guard := guard })
    (fun run => { run with guard := guard }) fun _ => rfl
  exact .ok () { image with runs := runs } { RenderState.Kept.refl ρ s' with }

theorem guarded_mirrors (r : Nat) {m : Render α} {m' : Render β} (mirrors : Mirrors ρ f m m') :
    Mirrors ρ f (guarded r m) (guarded (ρ.run r) m') := by
  refine .bind (run_mirrors r) fun run => ?_
  refine .bind (.same run.guard.enter) fun guard => ?_
  refine .bind (setGuard_mirrors r guard) fun _ => ?_
  refine .tryCatch (.bind mirrors fun a => ?_) fun e => ?_
  · refine .bind (run_mirrors r) fun run => ?_
    exact .bind (setGuard_mirrors r run.guard.leave) fun _ => .pure a
  · refine .bind (run_mirrors r) fun run => ?_
    exact .bind (setGuard_mirrors r run.guard.leave) fun _ => .throw e

theorem newClosure_mirrors (c : Closure) :
    Mirrors ρ (Value.rename ρ) (newClosure c) (newClosure (c.rename ρ)) := by
  intro s s' image
  change (RenderState.likeness ρ).Alike _ s'
    (.ok (Value.lambda s.closures.size) { s with closures := s.closures.push c })
    (.ok (Value.lambda s'.closures.size) { s' with closures := s'.closures.push (c.rename ρ) })
  rw [← image.closures.aligned.start]
  exact .ok (Value.lambda s.closures.size) { image with closures := image.closures.push c }
    { RenderState.Kept.refl ρ s' with }

theorem closure?_mirrors (r : Nat) :
    Mirrors ρ (Option.map (Closure.rename ρ)) (closure? r) (closure? (ρ.lambda r)) :=
  .read fun _ _ image => .pure' (image.closures.entry r)

theorem context_mirrors (id : Nat) :
    Mirrors ρ (Context.rename ρ) (context id) (context (ρ.context id)) := by
  refine .read fun s s' image => .pure' ?_
  rw [image.contexts.entry]
  cases s.contexts[id]? <;> rfl

theorem setContext_mirrors (r : Nat) (c : Context) :
    Mirrors ρ id (setContext r c) (setContext (ρ.context r) (c.rename ρ)) :=
  fun _ s' image =>
    .ok () { image with contexts := image.contexts.set r c }
      { RenderState.Kept.refl ρ s' with contexts := .set _ r _ }

end Render
end Phrasebook
