import Phrasebook.Proofs.Expr.Grammar
import Phrasebook.Proofs.Ordinary.Fault
import Phrasebook.Proofs.Simulation.Still
/-!
Two runs side by side that differ in the tables of evaluations and in the store alone. A simulation
says how these may differ, which expressions are looked at and which faults come out; what all runs
have in common is proved once, for every simulation.
-/
namespace Phrasebook

namespace Expr

/-- The item itself, without the star in front of it. -/
def unstarred : Expr → Expr
  | .starred e => e
  | e => e

/-- The expressions that are evaluated with an expression, in its scope, besides its items. -/
def parts : Expr → List Expr
  | .call f _ keywords => f :: keywords.map (·.2)
  | .list _ | .tuple _ | .set _ | .lambda .. | .starred _ => []
  | e => e.children

theorem others_of_parts {e d : Expr} (member : d ∈ e.parts) : d ∈ e.others := by
  cases e with
  | list | tuple | set | lambda | starred => cases member
  | _ => exact member

/-- What the evaluation of an expression refuses without looking at its parts. -/
inductive Refuses : Expr → Refusal → Prop
  | starred (e : Expr) : Refuses (.starred e) (.construct "Starred")
  | foreign (f : Foreign) : Refuses (.foreign f) (.construct f.label)
  | attribute (e : Expr) {attr : Text} (forbidden : isForbiddenAttribute attr = true) :
    Refuses (.attribute e attr) (.attribute attr)
  | operator {op : BinaryOp} (a b : Expr) (foreign : op.isAllowed = false) :
    Refuses (.binary op a b) (.construct op.label)

end Expr

/-- The evaluation of a number. -/
def Run.entry (runs : Array Run) (r : Nat) : Run := (runs[r]?).getD Render.standIn

theorem Run.timing_of_eq {table table' : Array Run} (same : table' = table) (r : Nat) :
    (entry table' r).expires = (entry table r).expires ∧
      (entry table' r).timeout = (entry table r).timeout := by
  rw [same]
  exact ⟨rfl, rfl⟩

/-- What two runs have in common. With a `shift`, nothing in either run asks the store. `kept` says
what one run leaves of its own evaluations, `scope` which expressions it evaluates where, `template`
which templates it renders, and `allowed` which faults end both runs alike; after an `excused` fault
in the first, the second may do what it likes. -/
structure Simulation where
  shift : Nat
  runs : Array Run → Array Run → Prop
  stores : ResourceStore → ResourceStore → Prop
  kept : Array Run → Array Run → Prop
  scope : Nat → Locals → Expr → Prop
  template : Template → Prop
  allowed : Fault → Prop
  excused : Fault → Prop
  refl : ∀ table, kept table table
  trans : ∀ {first second third}, kept first second → kept second third → kept first third
  runtime : ∀ {f : Fault}, f.IsRuntime → allowed f
  refused : ∀ {r locals e refusal}, scope r locals e → e.Refuses refusal → allowed refusal.fault
  parts : ∀ {r locals e}, scope r locals e → ∀ d ∈ e.parts, scope r locals d
  items : ∀ {r locals e}, scope r locals e → ∀ d ∈ e.items, scope r locals d.unstarred
  body : ∀ {r locals params simple body}, scope r locals (.lambda params simple body) →
    ∀ args : List Value, args.length = params.length →
      scope r ((params.zip args).reverse ++ locals) body
  timing : ∀ {table table'}, runs table table' → ∀ r,
    (Run.entry table' r).expires = (Run.entry table r).expires ∧
      (Run.entry table' r).timeout = (Run.entry table r).timeout
  data : ∀ {table table'}, runs table table' → ∀ {r locals name}, scope r locals (.name name) →
    locals.lookup name = none →
      (Run.entry table' r).data.get? name = (Run.entry table r).data.get? name

namespace RenderState

/-- The state of the run beside. -/
def beside (s : RenderState) (runs : Array Run) (store : ResourceStore) : RenderState :=
  { s with runs := runs, store := store }

@[simp] theorem beside_heap (s : RenderState) (runs : Array Run) (store : ResourceStore) :
    (s.beside runs store).heap = s.heap := rfl

end RenderState

namespace Simulation

variable (K : Simulation)

def moving : Renaming := .past K.shift

/-- A lambda may be called with as many arguments as it takes. -/
def Permits (c : Closure) : Prop :=
  ∀ args : List Value, args.length = c.params.length →
    K.scope c.run ((c.params.zip args).reverse ++ c.locals) c.body

/-- A state and the tables beside it fit together. -/
structure Near (s : RenderState) (runs : Array Run) (store : ResourceStore) : Prop where
  image : s.Image K.moving s
  closures : ∀ c ∈ s.closures, K.Permits c
  runs : K.runs s.runs runs
  stores : K.stores s.store store

/-- Two runs that end alike. -/
inductive Agreed {α : Type} (f : α → α) (before : Array Run) :
    EStateM.Result Fault RenderState α → EStateM.Result Fault RenderState α → Prop
  | ok {a : α} {t : RenderState} {runs : Array Run} {store : ResourceStore} (still : f a = a)
    (near : K.Near t runs store) (kept : K.kept before t.runs) :
    Agreed f before (.ok a t) (.ok a (t.beside runs store))
  | error {e : Fault} {t : RenderState} {runs : Array Run} {store : ResourceStore}
    (allowed : K.allowed e) (near : K.Near t runs store) (kept : K.kept before t.runs) :
    Agreed f before (.error e t) (.error e (t.beside runs store))
  | excused {e : Fault} {t : RenderState} {r : EStateM.Result Fault RenderState α}
    (excused : K.excused e) : Agreed f before (.error e t) r

theorem Agreed.after {K : Simulation} {α : Type} {f : α → α}
    {before runs : Array Run} {left right : EStateM.Result Fault RenderState α}
    (kept : K.kept before runs) (agreed : K.Agreed f runs left right) :
    K.Agreed f before left right := by
  cases agreed with
  | ok still near later => exact .ok still near (K.trans kept later)
  | error allowed near later => exact .error allowed near (K.trans kept later)
  | excused excused => exact .excused excused

/-- What leaves evaluations, lambdas and the store as they are keeps the tables beside fitting. -/
theorem Near.untouched {K : Simulation} {s t : RenderState}
    {runs : Array Run} {store : ResourceStore} (near : K.Near s runs store)
    (frame : t = { t with closures := s.closures, runs := s.runs, store := s.store })
    (image : t.Image K.moving t) :
    K.Near t runs store ∧ K.kept s.runs t.runs ∧
      { t with closures := s.closures, runs := runs, store := store } = t.beside runs store := by
  obtain ⟨heap, closures, table, clock, contexts, held, engine, shared, log⟩ := t
  injection frame with _ sameClosures sameRuns _ _ sameStore
  subst sameClosures sameRuns sameStore
  exact ⟨⟨image, near.closures, near.runs, near.stores⟩, K.refl _, rfl⟩

end Simulation

namespace Render

variable {K : Simulation} {α γ : Type} {f : α → α} {g : γ → γ}

/-- The second computation does beside what the first does. -/
def Follows (K : Simulation) (f : α → α) (m m' : Render α) : Prop :=
  ∀ ⦃s : RenderState⦄ ⦃runs : Array Run⦄ ⦃store : ResourceStore⦄, K.Near s runs store →
    K.Agreed f s.runs (EStateM.run m s) (EStateM.run m' (s.beside runs store))

/-- A handler that ends an excused fault with one. -/
def Rethrows (K : Simulation) (n : Fault → Render α) : Prop :=
  ∀ e, K.excused e → ∀ s, ∃ e' t, EStateM.run (n e) s = .error e' t ∧ K.excused e'

namespace Follows

variable {m m' : Render α}

theorem pure {a : α} (still : f a = a) : Follows K f (Pure.pure a) (Pure.pure a) :=
  fun s _ _ near => .ok still near (K.refl s.runs)

theorem throw {e : Fault} (allowed : K.allowed e) :
    Follows K f (throwThe Fault e) (throwThe Fault e) :=
  fun s _ _ near => .error allowed near (K.refl s.runs)

theorem bind {n n' : α → Render γ} (first : Follows K f m m')
    (second : ∀ a, f a = a → Follows K g (n a) (n' a)) : Follows K g (m >>= n) (m' >>= n') := by
  intro s runs store near
  have agreed := first near
  rw [EStateM.run_bind, EStateM.run_bind]
  generalize EStateM.run m s = left at agreed ⊢
  generalize EStateM.run m' (s.beside runs store) = right at agreed ⊢
  cases agreed with
  | ok still near kept => exact (second _ still near).after kept
  | error allowed near kept => exact .error allowed near kept
  | excused excused => exact .excused excused

theorem tryCatch {n n' : Fault → Render α} (first : Follows K f m m')
    (second : ∀ e, K.allowed e → Follows K f (n e) (n' e)) (rethrows : Rethrows K n) :
    Follows K f (tryCatchThe Fault m n) (tryCatchThe Fault m' n') := by
  intro s runs store near
  have agreed := first near
  generalize left : EStateM.run m s = r at agreed
  generalize right : EStateM.run m' (s.beside runs store) = r' at agreed
  cases agreed with
  | ok still near kept =>
    rw [Outcome.run_tryCatch_ok left, Outcome.run_tryCatch_ok right]
    exact .ok still near kept
  | error allowed near kept =>
    rw [Outcome.run_tryCatch_error left, Outcome.run_tryCatch_error right]
    exact (second _ allowed near).after kept
  | @excused e t _ excused =>
    rw [Outcome.run_tryCatch_error left]
    obtain ⟨e', t', ended, excused⟩ := rethrows e excused t
    rw [ended]
    exact .excused excused

theorem mapM {n n' : α → Render γ} (xs : List α) (each : ∀ a ∈ xs, Follows K g (n a) (n' a)) :
    Follows K (List.map g) (xs.mapM n) (xs.mapM n') := by
  induction xs with
  | nil => exact .pure rfl
  | cons x rest ih =>
    obtain ⟨head, tail⟩ := List.forall_mem_cons.mp each
    rw [List.mapM_cons, List.mapM_cons]
    refine .bind head fun y still => .bind (ih tail) fun ys others => ?_
    refine .pure ?_
    rw [List.map_cons, still, others]

theorem ite {p : Prop} [Decidable p] {n n' : Render α} (yes : Follows K f m m')
    (no : Follows K f n n') : Follows K f (if p then m else n) (if p then m' else n') := by
  split_ifs
  · exact yes
  · exact no

theorem ofExcept {x x' : Except Fault α} (mapped : x' = x.map f) (same : x' = x)
    (runtime : Outcome.FailsOnly Fault.IsRuntime x) :
    Follows K f (MonadExcept.ofExcept x) (MonadExcept.ofExcept x) := by
  subst same
  cases x' with
  | error e => exact .throw (K.runtime (runtime e rfl))
  | ok a => exact .pure (Except.ok.inj mapped).symm

theorem bindExcept {x : Except Fault α} {n n' : α → Render γ}
    (runtime : Outcome.FailsOnly Fault.IsRuntime x)
    (rest : ∀ a, x = .ok a → Follows K g (n a) (n' a)) :
    Follows K g (MonadExcept.ofExcept x >>= n) (MonadExcept.ofExcept x >>= n') := by
  cases x with
  | error e => exact fun s _ _ near => .error (K.runtime (runtime e rfl)) near (K.refl s.runs)
  | ok a => exact rest a rfl

theorem same {x : Except Fault α} (ordinary : Ordinary x) :
    Follows K id (MonadExcept.ofExcept x) (MonadExcept.ofExcept x) :=
  .ofExcept (Outcome.map_id x).symm rfl ordinary.runtime

/-- What is read from the state is the same beside, but for the tables that differ. -/
theorem read {n n' : RenderState → Render γ}
    (rest : ∀ s runs store, K.Near s runs store → Follows K g (n s) (n' (s.beside runs store))) :
    Follows K g (get >>= n) (get >>= n') :=
  fun s runs store near => rest s runs store near near

end Follows

/-- A computation that neither looks at evaluations, lambdas and the store nor changes them. -/
def Blind (m : Render α) : Prop :=
  ∀ s closures runs store,
    EStateM.run m { s with closures := closures, runs := runs, store := store } =
      match EStateM.run m s with
      | .ok a t => .ok a { t with closures := closures, runs := runs, store := store }
      | .error e t => .error e { t with closures := closures, runs := runs, store := store }

namespace Blind

variable {m : Render α} (blind : Blind m) {s t : RenderState}
include blind

theorem after_ok {a : α} (ended : EStateM.run m s = .ok a t) :
    t = { t with closures := s.closures, runs := s.runs, store := s.store } := by
  have own := blind s s.closures s.runs s.store
  rw [show { s with closures := s.closures, runs := s.runs, store := s.store } = s from rfl,
    ended] at own
  exact (EStateM.Result.ok.inj own).2

theorem after_error {e : Fault} (ended : EStateM.run m s = .error e t) :
    t = { t with closures := s.closures, runs := s.runs, store := s.store } := by
  have own := blind s s.closures s.runs s.store
  rw [show { s with closures := s.closures, runs := s.runs, store := s.store } = s from rfl,
    ended] at own
  exact (EStateM.Result.error.inj own).2

end Blind

theorem ofMemory_blind (m : Memory α) : Blind (ofMemory m) := by
  intro s closures runs store
  simp only [EStateM.run, ofMemory]
  cases m s.heap <;> rfl

/-- A blind computation that mirrors itself does the same beside. -/
theorem follows_of_blind {m m' : Render α} (mirrors : Mirrors K.moving f m m') (same : m' = m)
    (blind : Blind m) (runtime : Outcome.StopsOnly Fault.IsRuntime m) : Follows K f m m := by
  subst same
  intro s runs store near
  have alike := mirrors near.image
  have beside := blind s s.closures runs store
  change EStateM.run m' (s.beside runs store) = _ at beside
  rw [beside]
  rcases ended : EStateM.run m' s with ⟨a, t⟩ | ⟨e, t⟩
  · rw [ended] at alike
    obtain ⟨still, image⟩ := alike.of_ok
    obtain ⟨near, kept, same⟩ := near.untouched (blind.after_ok ended) image
    dsimp only
    rw [same]
    exact .ok still.symm near kept
  · rw [ended] at alike
    obtain ⟨near, kept, same⟩ := near.untouched (blind.after_error ended) alike.of_error
    dsimp only
    rw [same]
    exact .error (K.runtime (runtime ended)) near kept

theorem ofMemory_follows {m m' : Memory α} (mirrors : Memory.Mirrors K.moving f m m')
    (same : m' = m) (ordinary : Memory.Ordinary m) : Follows K f (ofMemory m) (ofMemory m) := by
  refine follows_of_blind (ofMemory_mirrors mirrors) (congrArg _ same) (ofMemory_blind m) ?_
  intro s e t failed
  simp only [EStateM.run, ofMemory] at failed
  cases ended : m s.heap with
  | ok a h => simp [ended] at failed
  | error e' h =>
    simp only [ended, EStateM.Result.error.injEq] at failed
    exact failed.1 ▸ .ordinary (ordinary ended)

/-- What the contents of the heap give fails as it does beside. -/
theorem look_follows {x x' : Heap → Except Fault α}
    (mapped : ∀ h h', h.Image K.moving h' → x' h' = (x h).map f) (same : x' = x)
    (runtime : ∀ h, Outcome.FailsOnly Fault.IsRuntime (x h)) : Follows K f (look x) (look x) := by
  refine .read fun s runs store near => ?_
  exact .ofExcept (mapped _ _ near.image.heap) (congrFun same s.heap) (runtime s.heap)

theorem look_follows_id {x : Heap → Except Fault α} (ordinary : ∀ h, Ordinary (x h)) :
    Follows K id (look x) (look x) :=
  .read fun s _ _ _ => .same (ordinary s.heap)

theorem mark_follows {v : Value} (still : v.rename K.moving = v) :
    Follows K (Value.rename K.moving) (mark v) (mark v) :=
  ofMemory_follows (Memory.mark_mirrors v) (congrArg _ still) (.modifyGet _)

theorem log_follows (records : List LogRecord) : Follows K id (log records) (log records) :=
  follows_of_blind (log_mirrors records records) rfl (fun _ _ _ _ => rfl) (.modify _)

theorem context_follows (r : Nat) : Follows K (Context.rename K.moving) (context r) (context r) :=
  follows_of_blind (context_mirrors r) rfl (fun _ _ _ _ => rfl)
    (.bind .get fun _ => .pure _)

/-- The lambda that a name stands for, with what it may be called with. -/
theorem closure_follows {r : Nat} {n n' : Option Closure → Render γ}
    (rest : ∀ c : Option Closure, c.map (Closure.rename K.moving) = c →
      (∀ x ∈ c, K.Permits x) → Follows K g (n c) (n' c)) :
    Follows K g (closure? r >>= n) (closure? r >>= n') := by
  intro s runs store near
  refine rest s.closures[r]? (near.image.closures.entry r).symm ?_ near
  exact fun x found => near.closures x (Array.mem_of_getElem? found)

theorem newClosure_follows {c : Closure} (still : c.rename K.moving = c) (permits : K.Permits c) :
    Follows K (Value.rename K.moving) (newClosure c) (newClosure c) := by
  intro s runs store near
  have alike := newClosure_mirrors c near.image
  rw [still] at alike
  refine .ok (t := { s with closures := s.closures.push c }) rfl ?_ (K.refl _)
  refine ⟨alike.of_ok.2, fun x member => ?_, near.runs, near.stores⟩
  rcases Array.mem_push.mp member with old | rfl
  · exact near.closures x old
  · exact permits

theorem checkDeadline_follows (r : Nat) : Follows K id (checkDeadline r) (checkDeadline r) := by
  have tick : Follows K id (modify fun s => { s with clock := s.clock + 1 })
      (modify fun s => { s with clock := s.clock + 1 }) := fun s runs store near =>
    .ok (t := { s with clock := s.clock + 1 }) rfl
      ⟨{ near.image with clock := rfl }, near.closures, near.runs, near.stores⟩
      (K.refl _)
  refine .bind tick fun _ _ => .read fun s runs store near => ?_
  obtain ⟨expires, timeout⟩ := K.timing near.runs r
  simp only [Run.entry] at expires timeout
  dsimp only [RenderState.beside]
  rw [expires, timeout]
  cases (s.runs[r]?.getD standIn).expires with
  | none => exact .pure rfl
  | some t =>
    exact .read fun s _ _ _ => .ite (.throw (K.runtime (.timedOut _))) (.pure rfl)

end Render
end Phrasebook
