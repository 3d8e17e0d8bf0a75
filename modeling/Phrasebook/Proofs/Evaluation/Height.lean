import Phrasebook.Proofs.Evaluation.Level
import Phrasebook.Proofs.Evaluation.Limit
import Phrasebook.Proofs.Evaluation.Order
import Phrasebook.Proofs.Ordinary.Leaf
import Phrasebook.Proofs.Render.Isolation
/-!
How deep an expression goes. Without calls it stays within a limit that covers its height, and goes
that deep if nothing in it is left out.
-/
namespace Phrasebook

theorem Fault.isTooDeep_iff {f : Fault} : f.IsTooDeep ↔ f.label = "DepthLimitExceededError" := by
  constructor
  · rintro ⟨report, rfl⟩
    rfl
  · intro named
    cases f with
    | own e =>
      cases e with
      | tooDeep report => exact ⟨report, rfl⟩
      | _ => exact absurd named (of_decide_eq_false rfl)
    | unworded kind => cases kind <;> exact absurd named (by decide)
    | _ => exact absurd named (of_decide_eq_false rfl)

theorem Depth.clamp_le (d : Int) : clamp d ≤ ceiling defaultReserve := by
  rw [clamp]
  split_ifs <;> omega

theorem Depth.clamp_clamp (d : Int) : clamp (clamp d) = clamp d := by
  have le := clamp_le d
  rw [clamp, if_neg (by omega)]

namespace Expr

/-- The longest chain of nodes that are evaluated one within the other. A star is no node of its
own, and the body of a lambda waits for a call. -/
def height (e : Expr) : Nat :=
  match e with
  | .lambda .. => 1
  | .starred e => e.height
  | e => (e.children.attach.map fun d => d.val.height).foldr max 0 + 1
termination_by e.depth
decreasing_by
  · simp [depth]
  · have bound := depth_le_depthList d.property
    have depth := depth_eq e
    omega

/-- Whether what an expression evaluates may depend on what comes before it. -/
def isBranching : Expr → Bool
  | .boolean .. | .conditional .. => true
  | .compare _ rest => 1 < rest.length
  | _ => false

theorem head?_of_comparison {a : Expr} {rest : List (CompareOp × Expr)} {c : CompareOp × Expr}
    (straight : (compare a rest).isBranching = false) (member : c ∈ rest) : c ∈ rest.head? := by
  match rest with
  | [] => cases member
  | [d] =>
    obtain rfl := List.mem_singleton.mp member
    rfl

variable {e d : Expr}

@[simp] theorem height_starred (e : Expr) : (starred e).height = e.height := by
  rw [height]

theorem foldr_max_le_iff (hs : List Nat) (n : Nat) : hs.foldr max 0 ≤ n ↔ ∀ h ∈ hs, h ≤ n := by
  induction hs with
  | nil => simp
  | cons h rest ih => simp [Nat.max_le, ih]

/-- An expression is one higher than what stands directly in it. -/
theorem height_le_iff {room : Int} (nonneg : 0 ≤ room) (starless : ∀ d, e ≠ .starred d)
    (evaluated : ∀ params simple body, e ≠ .lambda params simple body) :
    e.height ≤ room + 1 ↔ ∀ d ∈ e.children, d.height ≤ room := by
  have own : e.height = (e.children.map height).foldr max 0 + 1 := by
    rw [height]
    · simp
    · exact evaluated
    · exact starless
  obtain ⟨n, rfl⟩ := Int.eq_ofNat_of_zero_le nonneg
  have le := foldr_max_le_iff (e.children.map height) n
  rw [List.forall_mem_map] at le
  rw [own]
  norm_cast
  rw [Nat.add_le_add_iff_right]
  exact_mod_cast le

theorem height_pos (e : Expr) : 0 < e.height := by
  induction e using height.induct with
  | case1 => simp [height]
  | case2 e ih => simpa using ih
  | case3 e evaluated starless =>
    rw [height]
    · omega
    · exact evaluated
    · exact starless

theorem lt_height_iff {room : Int} (nonneg : 0 ≤ room) (starless : ∀ d, e ≠ .starred d)
    (evaluated : ∀ params simple body, e ≠ .lambda params simple body) :
    room + 1 < e.height ↔ ∃ d ∈ e.children, room < d.height := by
  have le := not_congr (height_le_iff nonneg starless evaluated)
  simpa only [not_forall, Int.not_le, exists_prop] using le

/-- Operands are what stands directly in an expression, without the stars of its items. -/
theorem mem_operands_iff (strict : e.isStrict = true) :
    d ∈ e.operands.map (·.expr) ↔ d ∈ e.others ∨ ∃ c ∈ e.items, c.unstarred = d := by
  cases e with
  | dict items =>
    simp only [operands_of_dict, others, children, Expr.items, List.mem_flatMap, List.mem_cons,
      Option.mem_toList, List.mem_append, List.mem_filterMap, List.mem_map]
    grind
  | call f args keywords =>
    simp [operands_of_ne_dict strict (by simp), written, others, items, or_right_comm, or_assoc]
  | _ => simp [operands_of_ne_dict strict (by simp), written, others, items]

theorem height_unstarred (e : Expr) : e.unstarred.height = e.height := by
  cases e with
  | starred e => exact e.height_starred.symm
  | _ => rfl

theorem contains_unstarred (e : Expr) : e.Contains e.unstarred := by
  cases e with
  | starred e => exact .single (List.mem_singleton_self e)
  | _ => exact .refl

theorem contains_of_operand (strict : e.isStrict = true) {o : Operand} (member : o ∈ e.operands) :
    e.Contains o.expr := by
  rcases (mem_operands_iff strict).mp (List.mem_map_of_mem member) with other | ⟨c, item, same⟩
  · exact .single (mem_children_iff.mpr (.inl other))
  · rw [← same]
    exact .head (mem_children_iff.mpr (.inr item)) c.contains_unstarred

theorem height_le_iff_operands (strict : e.isStrict = true) {room : Int} (nonneg : 0 ≤ room) :
    e.height ≤ room + 1 ↔ ∀ o ∈ e.operands, o.expr.height ≤ room := by
  have starless : ∀ d, e ≠ .starred d := by
    rintro d rfl
    cases strict
  have evaluated : ∀ params simple body, e ≠ .lambda params simple body := by
    rintro params simple body rfl
    cases strict
  rw [height_le_iff nonneg starless evaluated]
  constructor
  · intro all o member
    rcases (mem_operands_iff strict).mp (List.mem_map_of_mem member) with other | ⟨c, item, same⟩
    · exact all _ (mem_children_iff.mpr (.inl other))
    · rw [← same, height_unstarred]
      exact all c (mem_children_iff.mpr (.inr item))
  · intro all d child
    rcases mem_children_iff.mp child with other | item
    · obtain ⟨o, member, rfl⟩ := List.mem_map.mp ((mem_operands_iff strict).mpr (.inl other))
      exact all o member
    · obtain ⟨o, member, same⟩ :=
        List.mem_map.mp ((mem_operands_iff strict).mpr (.inr ⟨d, item, rfl⟩))
      rw [← height_unstarred, ← same]
      exact all o member

end Expr

theorem Fault.not_isTooDeep_admits : Fault.Admits fun f => ¬f.IsTooDeep where
  ordinary {f} ordinary := by
    rintro ⟨report, rfl⟩
    cases ordinary
  violation detail := by
    rintro ⟨report, same⟩
    cases same

/-- How many levels a guard still lets in. -/
def DepthGuard.slack (g : DepthGuard) : Int := g.limit - g.depth

namespace RenderState

/-- One evaluation is on a level. -/
def IsAt (s : RenderState) (r : Nat) (g : DepthGuard) : Prop := s.runs[r]?.map (·.guard) = some g

/-- The same state with another limit for one evaluation. -/
def limitedBy (s : RenderState) (r : Nat) (limit : Int) : RenderState :=
  { s with runs := Run.limitedBy s.runs r limit }

theorem IsAt.guard {s : RenderState} {r : Nat} {g : DepthGuard} (there : s.IsAt r g) :
    (Run.entry s.runs r).guard = g := by
  obtain ⟨run, found, rfl⟩ := Option.map_eq_some_iff.mp there
  rw [Run.entry, found]
  rfl

end RenderState

namespace Render

/-- How a computation ends beside itself under a higher limit. If it comes to a value, it comes to
it under the higher limit as well, and has gone as deep as it says; if it goes too deep, something
in it exceeds the limit. -/
inductive Measured {α : Type} (r : Nat) (g : DepthGuard) (higher : Int) (reached exceeded : Prop) :
    EStateM.Result Fault RenderState α → EStateM.Result Fault RenderState α → Prop
  | ok {a : α} {t : RenderState} (there : t.IsAt r g) (holds : reached) :
    Measured r g higher reached exceeded (.ok a t) (.ok a (t.limitedBy r higher))
  | error {f : Fault} {t u : RenderState} (shallow : ¬f.IsTooDeep) :
    Measured r g higher reached exceeded (.error f t) (.error f u)
  | tooDeep {f : Fault} {t : RenderState} {result : EStateM.Result Fault RenderState α}
    (deep : f.IsTooDeep) (holds : exceeded) :
    Measured r g higher reached exceeded (.error f t) result

def Measures {α : Type} (r : Nat) (g : DepthGuard) (higher : Int) (reached exceeded : Prop)
    (m : Render α) : Prop :=
  ∀ s, s.IsAt r g → Measured r g higher reached exceeded (EStateM.run m s)
    (EStateM.run m (s.limitedBy r higher))

variable {α β : Type} {r : Nat} {g : DepthGuard} {higher : Int} {reached exceeded : Prop}

namespace Measures

variable {m : Render α}

theorem mono {reached' exceeded' : Prop} (measures : Measures r g higher reached exceeded m)
    (reaches : reached → reached') (exceeds : exceeded → exceeded') :
    Measures r g higher reached' exceeded' m := by
  intro s there
  have measured := measures s there
  generalize EStateM.run m s = left at measured ⊢
  generalize EStateM.run m (s.limitedBy r higher) = right at measured ⊢
  cases measured with
  | ok there holds => exact .ok there (reaches holds)
  | error shallow => exact .error shallow
  | tooDeep deep holds => exact .tooDeep deep (exceeds holds)

theorem leaf (leaf : Leaf (fun f => ¬f.IsTooDeep) m) : Measures r g higher True False m := by
  intro s there
  have beside := leaf.blind s s.closures (Run.limitedBy s.runs r higher) s.store
  change EStateM.run m (s.limitedBy r higher) = _ at beside
  rw [beside]
  cases ended : EStateM.run m s with
  | error f t => exact .error (leaf.stops ended)
  | ok a t =>
    have frame := leaf.blind.after_ok ended
    obtain ⟨heap, closures, runs, clock, contexts, store, engine, shared, log⟩ := t
    injection frame with _ sameClosures sameRuns _ _ sameStore
    subst sameClosures sameRuns sameStore
    exact .ok there trivial

theorem throw {f : Fault} (shallow : ¬f.IsTooDeep) :
    Measures r g higher False False (throwThe Fault f : Render α) :=
  fun _ _ => .error shallow

theorem bind {n : α → Render β} {reached' exceeded' : Prop}
    (first : Measures r g higher reached exceeded m)
    (second : ∀ a, Measures r g higher reached' exceeded' (n a)) :
    Measures r g higher (reached ∧ reached') (exceeded ∨ exceeded') (m >>= n) := by
  intro s there
  have measured := first s there
  rw [EStateM.run_bind, EStateM.run_bind]
  generalize EStateM.run m s = left at measured ⊢
  generalize EStateM.run m (s.limitedBy r higher) = right at measured ⊢
  cases measured with
  | error shallow => exact .error shallow
  | tooDeep deep holds => exact .tooDeep deep (.inl holds)
  | @ok a t there holds =>
    have later : Measures r g higher (reached ∧ reached') (exceeded ∨ exceeded') (n a) :=
      (second a).mono (⟨holds, ·⟩) .inr
    exact later t there

theorem andThen {n : α → Render β} (first : Measures r g higher True False m)
    (second : ∀ a, Measures r g higher reached exceeded (n a)) :
    Measures r g higher reached exceeded (m >>= n) :=
  (first.bind second).mono And.right fun either => either.resolve_left id

theorem mapM {n : α → Render β} {reached exceeded : α → Prop} (xs : List α)
    (each : ∀ x ∈ xs, Measures r g higher (reached x) (exceeded x) (n x)) :
    Measures r g higher (∀ x ∈ xs, reached x) (∃ x ∈ xs, exceeded x) (xs.mapM n) := by
  induction xs with
  | nil => exact (leaf (.pure [])).mono (fun _ => nofun) False.elim
  | cons x rest ih =>
    obtain ⟨head, tail⟩ := List.forall_mem_cons.mp each
    rw [List.mapM_cons]
    have measures := head.bind fun y => (ih tail).bind fun ys => leaf (.pure (y :: ys))
    exact measures.mono (by simp +contextual) (by simp)

/-- The state may be looked at, but for the limit. -/
theorem read {n : RenderState → Render α} (same : ∀ s, n (s.limitedBy r higher) = n s)
    (rest : ∀ s, Measures r g higher reached exceeded (n s)) :
    Measures r g higher reached exceeded (get >>= n) := by
  intro s there
  change Measured r g higher reached exceeded (EStateM.run (n s) s)
    (EStateM.run (n (s.limitedBy r higher)) (s.limitedBy r higher))
  rw [same]
  exact rest s s there

theorem ended {s : RenderState} (measures : Measures r g higher reached exceeded m)
    (there : s.IsAt r g) :
    (∃ a, m.outcome s = .ok a ∧ reached) ∨
    (∃ f, m.outcome s = .error f ∧ ¬f.IsTooDeep ∧ m.outcome (s.limitedBy r higher) = .error f) ∨
    ∃ f, m.outcome s = .error f ∧ f.IsTooDeep ∧ exceeded := by
  have measured := measures s there
  simp only [EStateM.run] at measured
  unfold outcome
  generalize m s = left at measured ⊢
  generalize m (s.limitedBy r higher) = right at measured ⊢
  cases measured with
  | ok there holds => exact .inl ⟨_, rfl, holds⟩
  | error shallow => exact .inr (.inl ⟨_, rfl, shallow, rfl⟩)
  | tooDeep deep holds => exact .inr (.inr ⟨_, rfl, deep, holds⟩)

end Measures

/-- What is read of an evaluation does not depend on its guard. -/
theorem run_measures {α : Type} {n : Run → Render α} {reached exceeded : Prop}
    (same : ∀ run guard, n { run with guard := guard } = n run)
    (rest : ∀ run, Measures r g higher reached exceeded (n run)) :
    Measures r g higher reached exceeded (run r >>= n) := by
  suffices read : Measures r g higher reached exceeded (get >>= fun s => n (Run.entry s.runs r)) from
    read
  refine .read (fun s => ?_) fun s => rest _
  rw [RenderState.limitedBy, Run.limitedBy, Run.entry_modify]
  split_ifs
  · exact same _ _
  · rfl

theorem checkDeadline_measures : Measures r g higher True False (checkDeadline r) := by
  have tick : Measures r g higher True False (modify fun s => { s with clock := s.clock + 1 }) :=
    fun s there => .ok (t := { s with clock := s.clock + 1 }) there trivial
  refine tick.andThen fun _ => run_measures (fun _ _ => rfl) fun run => ?_
  cases run.expires with
  | none => exact .leaf (.pure ())
  | some t =>
    refine .read (fun _ => rfl) fun s => .leaf (.ite (.throw ?_) (.pure ()))
    rintro ⟨report, same⟩
    cases same

theorem lookup_measures (locals : Locals) (name : Text) :
    Measures r g higher True False (lookup r locals name) := by
  unfold lookup
  cases locals.lookup name with
  | some v => exact .leaf (.pure v)
  | none =>
    refine run_measures (fun _ _ => rfl) fun run => ?_
    cases run.data.get? name with
    | some v => exact .leaf (.pure v)
    | none => exact .leaf (.throw (Fault.not_isTooDeep_admits.ordinary (.undefinedName name)))

theorem newClosure_measures (c : Closure) : Measures r g higher True False (newClosure c) :=
  fun s there => .ok (t := { s with closures := s.closures.push c }) there trivial

section
variable {s : RenderState} {deeper : DepthGuard}

theorem deepened_isAt (there : s.IsAt r g) (deeper : DepthGuard) :
    (deepened s r deeper).IsAt r deeper := by
  obtain ⟨run, found, -⟩ := Option.map_eq_some_iff.mp there
  rw [RenderState.IsAt, deepened, Run.getElem?_guardedBy, if_pos rfl, found]
  rfl

theorem back_isAt (there : s.IsAt r deeper) : (back s r).IsAt r deeper.leave := by
  obtain ⟨run, found, rfl⟩ := Option.map_eq_some_iff.mp there
  rw [RenderState.IsAt, back, Run.getElem?_left, if_pos rfl, found]
  rfl

theorem enter_limitedBy (there : s.IsAt r g) (entered : g.enter = .ok deeper)
    (le : g.limit ≤ higher) :
    (Run.entry (s.limitedBy r higher).runs r).guard.enter = .ok (deeper.under higher) := by
  obtain ⟨run, found, rfl⟩ := Option.map_eq_some_iff.mp there
  rw [RenderState.limitedBy, Run.entry, Run.getElem?_limitedBy, if_pos rfl, found]
  exact (DepthGuard.under_enter entered le).1

theorem deepened_limitedBy (s : RenderState) (deeper : DepthGuard) :
    (deepened s r deeper).limitedBy r higher =
      deepened (s.limitedBy r higher) r (deeper.under higher) := by
  have limited : Run.limitedBy (Run.guardedBy s.runs r deeper) r higher = Run.guardedBy
      (Run.limitedBy s.runs r higher) r (if r = r then deeper.under higher else deeper) :=
    Run.guardedBy_modify (fun _ => rfl) r
  rw [if_pos rfl] at limited
  exact congrArg (fun runs => { s with runs := runs }) limited

theorem back_limitedBy (s : RenderState) :
    back (s.limitedBy r higher) r = (back s r).limitedBy r higher :=
  congrArg (fun runs => { s with runs := runs }) (Run.left_modify (fun _ => rfl) r)

end

/-- One level deeper. -/
theorem guarded_measures {m : Render α} (le : g.limit ≤ higher)
    (below : 0 < g.slack → Measures r ⟨g.limit, g.depth + 1⟩ higher reached exceeded m) :
    Measures r g higher (0 < g.slack ∧ reached) (g.slack ≤ 0 ∨ exceeded) (guarded r m) := by
  intro s there
  have silent : Silent (pure ()) fun _ => True := fun _ _ => rfl
  rw [← guardedWith_pure]
  cases entered : g.enter with
  | error f =>
    rw [run_guardedWith_refused (there.guard ▸ entered)]
    refine .tooDeep (DepthGuard.tooDeep_of_enter entered) (.inl ?_)
    rw [DepthGuard.enter] at entered
    split_ifs at entered with full
    exact Int.sub_nonpos_of_le full
  | ok deeper =>
    obtain ⟨inside, same⟩ := DepthGuard.eq_of_enter entered
    have room : 0 < g.slack := Int.sub_pos_of_lt inside
    rw [← same] at below
    have measured := below room _ (deepened_isAt there deeper)
    have first : (Run.entry s.runs r).guard.enter = .ok deeper := there.guard ▸ entered
    have second := enter_limitedBy there entered le
    rw [deepened_limitedBy] at measured
    generalize left : EStateM.run m (deepened s r deeper) = result at measured
    generalize right : EStateM.run m (deepened (s.limitedBy r higher) r _) = result' at measured
    cases measured with
    | @ok a t at' holds =>
      rw [run_guardedWith_ok silent first trivial left trivial,
        run_guardedWith_ok silent second trivial right trivial, back_limitedBy]
      have back := back_isAt at'
      rw [DepthGuard.leave_of_enter entered] at back
      exact .ok back ⟨room, holds⟩
    | @error f t u shallow =>
      rw [run_guardedWith_error silent first trivial left trivial,
        run_guardedWith_error silent second trivial right trivial]
      exact .error shallow
    | tooDeep deep holds =>
      rw [run_guardedWith_error silent first trivial left trivial]
      exact .tooDeep deep (.inr holds)

section
variable {eval : Expr → Render Value}

theorem connect_measures {reached exceeded : Expr → Prop} (op : Connective) (last : Value)
    (es : List Expr) (each : ∀ e ∈ es, Measures r g higher (reached e) (exceeded e) (eval e)) :
    Measures r g higher True (∃ e ∈ es, exceeded e) (connect eval op last es) := by
  induction es generalizing last with
  | nil => exact (Measures.leaf (.pure last)).mono id False.elim
  | cons e rest ih =>
    obtain ⟨head, tail⟩ := List.forall_mem_cons.mp each
    have later (v : Value) : Measures r g higher True (∃ e ∈ rest, exceeded e) (do
        if v.truth (← get).heap == (op == .or) then pure v else connect eval op v rest) := by
      refine .read (fun _ => rfl) fun s => ?_
      split_ifs
      · exact (Measures.leaf (.pure v)).mono id False.elim
      · exact ih v tail
    exact (head.bind later).mono (fun _ => trivial) (by simp)

/-- The first comparison of a chain is always made. -/
theorem compareChain_measures {reached exceeded : CompareOp × Expr → Prop} (left : Value)
    (cs : List (CompareOp × Expr))
    (each : ∀ c ∈ cs, Measures r g higher (reached c) (exceeded c) (eval c.2)) :
    Measures r g higher (∀ c ∈ cs.head?, reached c) (∃ c ∈ cs, exceeded c)
      (compareChain eval left cs) := by
  induction cs generalizing left with
  | nil => exact (Measures.leaf (.pure true)).mono (fun _ => nofun) False.elim
  | cons c rest ih =>
    obtain ⟨head, tail⟩ := List.forall_mem_cons.mp each
    have holds (right : Value) : Measures r g higher True False
        (look fun h => Value.holds h c.1 left right) :=
      .leaf (look_leaf Fault.not_isTooDeep_admits fun h => Value.holds_ordinary h c.1 left right)
    have later (right : Value) (b : Bool) : Measures r g higher True (∃ c ∈ rest, exceeded c)
        (if b then compareChain eval right rest else pure false) := by
      split_ifs
      · exact (ih right tail).mono (fun _ => trivial) id
      · exact (Measures.leaf (.pure false)).mono id False.elim
    refine (head.bind fun right => (holds right).bind (later right)).mono ?_ (by simp)
    rintro ⟨first, -⟩ _ ⟨⟩
    exact first

end
end Render

namespace Interpreter

open Render (Measures)

variable {r : Nat} {higher : Int}

/-- With so many levels left, a computation goes as deep as an expression is high, if nothing in it
is left out, and no deeper. -/
abbrev MeasuresHeight (r : Nat) (g : DepthGuard) (higher : Int) (e : Expr) (room : Int)
    (m : Render Value) : Prop :=
  Measures r g higher (e.Without Expr.isBranching → e.height ≤ room) (room < e.height) m

/-- Each node is evaluated as deep as it is high. -/
def MeasuresHeights (lower : Interpreter) (r : Nat) (higher : Int) : Prop :=
  ∀ (g : DepthGuard) (locals : Locals) (e : Expr), g.limit ≤ higher → e.Without Expr.isCall →
    MeasuresHeight r g higher e g.slack (lower.eval r locals e)

section
variable {lower : Interpreter} (measures : lower.MeasuresHeights r higher) {g : DepthGuard}
  (le : g.limit ≤ higher) (nonneg : 0 ≤ g.slack) (locals : Locals)
include measures le nonneg

theorem strict_measures {e : Expr} (callFree : e.Without Expr.isCall) (strict : e.isStrict = true) :
    MeasuresHeight r g higher e (g.slack + 1) (lower.dispatch r locals e) := by
  have inside {o : Operand} (member : o ∈ e.operands) : e.Contains o.expr :=
    Expr.contains_of_operand strict member
  have operand (o : Operand) (member : o ∈ e.operands) :=
    (measures g locals o.expr le (callFree.of_contains (inside member))).bind fun v =>
      .leaf (o.role.use_leaf Fault.not_isTooDeep_admits v)
  have finish (pieces : List Piece) : Measures r g higher True False
      (finish lower.invoke r e pieces) :=
    .leaf (finish_leaf Fault.not_isTooDeep_admits lower.invoke r (callFree e .refl) pieces)
  have high := Expr.height_le_iff_operands strict nonneg
  rw [dispatch_eq lower r locals strict]
  refine ((Measures.mapM e.operands operand).bind finish).mono ?_ ?_
  · rintro ⟨reached, -⟩ straight
    exact high.mpr fun o member => (reached o member).1 (straight.of_contains (inside member))
  · rintro (⟨o, member, exceeded | ⟨⟨⟩⟩⟩ | ⟨⟨⟩⟩)
    by_contra within
    have bound := high.mp (Int.not_lt.mp within) o member
    omega

theorem boolean_measures {op : Connective} {es : List Expr}
    (callFree : (Expr.boolean op es).Without Expr.isCall) :
    MeasuresHeight r g higher (.boolean op es) (g.slack + 1)
      (lower.dispatch r locals (.boolean op es)) := by
  have high := Expr.lt_height_iff (e := .boolean op es) nonneg nofun nofun
  have operand (d : Expr) (member : d ∈ es) :=
    measures g locals d le (callFree.of_child member)
  refine (Render.connect_measures op .none es operand).mono (fun _ straight => ?_) high.mpr
  cases straight _ .refl

theorem conditional_measures {a b c : Expr}
    (callFree : (Expr.conditional a b c).Without Expr.isCall) :
    MeasuresHeight r g higher (.conditional a b c) (g.slack + 1)
      (lower.dispatch r locals (.conditional a b c)) := by
  have high := Expr.lt_height_iff (e := .conditional a b c) nonneg nofun nofun
  have below {d : Expr} (member : d ∈ (Expr.conditional a b c).children) :=
    measures g locals d le (callFree.of_child member)
  have branch (t : Value) : Measures r g higher True (g.slack < b.height ∨ g.slack < c.height)
      (get >>= fun s => lower.eval r locals (if t.truth s.heap then b else c)) := by
    refine .read (fun _ => rfl) fun s => ?_
    split_ifs
    · exact (below (.tail _ (.head _))).mono (fun _ => trivial) .inl
    · exact (below (.tail _ (.tail _ (.head _)))).mono (fun _ => trivial) .inr
  refine ((below (.head _)).bind branch).mono (fun _ straight => ?_) fun exceeded => ?_
  · cases straight _ .refl
  · exact high.mpr (by simpa [Expr.children] using exceeded)

theorem compare_measures {a : Expr} {rest : List (CompareOp × Expr)}
    (callFree : (Expr.compare a rest).Without Expr.isCall) :
    MeasuresHeight r g higher (.compare a rest) (g.slack + 1)
      (lower.dispatch r locals (.compare a rest)) := by
  have high := Expr.lt_height_iff (e := .compare a rest) nonneg nofun nofun
  have below {d : Expr} (member : d ∈ (Expr.compare a rest).children) :=
    measures g locals d le (callFree.of_child member)
  have chain (left : Value) : Measures r g higher
      (∀ c ∈ rest.head?, c.2.Without Expr.isBranching → c.2.height ≤ g.slack)
      (∃ c ∈ rest, g.slack < c.2.height) (Render.compareChain (lower.eval r locals) left rest) :=
    Render.compareChain_measures left rest fun c member =>
      below (.tail _ (List.mem_map_of_mem member))
  have done (b : Bool) : Measures r g higher True False (pure (Value.bool b)) := .leaf (.pure _)
  refine ((below (.head _)).bind fun left => (chain left).bind done).mono ?_ ?_
  · rintro ⟨first, next, -⟩ straight
    refine (Expr.height_le_iff (e := .compare a rest) nonneg nofun nofun).mpr fun d child => ?_
    have inside := straight.of_child child
    rcases List.mem_cons.mp child with rfl | later
    · exact first inside
    · obtain ⟨c, member, rfl⟩ := List.mem_map.mp later
      exact next c (Expr.head?_of_comparison (straight _ .refl) member) inside
  · rintro (exceeded | ⟨c, member, exceeded⟩ | ⟨⟨⟩⟩)
    · exact high.mpr ⟨a, .head _, exceeded⟩
    · exact high.mpr ⟨c.2, .tail _ (List.mem_map_of_mem member), exceeded⟩

theorem dispatch_measures {e : Expr} (callFree : e.Without Expr.isCall) :
    MeasuresHeight r g higher e (g.slack + 1) (lower.dispatch r locals e) := by
  have refused {f : Fault} (shallow : ¬f.IsTooDeep) :
      MeasuresHeight r g higher e (g.slack + 1) (throw f) :=
    (Measures.throw shallow).mono False.elim False.elim
  have alone (leaf : e.height = 1) {m : Render Value} (blind : Measures r g higher True False m) :
      MeasuresHeight r g higher e (g.slack + 1) m := by
    refine blind.mono (fun _ _ => ?_) False.elim
    omega
  cases e with
  | literal l place => exact alone (by simp [Expr.height, Expr.children]) (.leaf (.pure _))
  | name id =>
    exact alone (by simp [Expr.height, Expr.children]) (Render.lookup_measures locals id)
  | lambda params simple body => exact alone (by simp [Expr.height]) (Render.newClosure_measures _)
  | starred e => exact refused (Fault.not_isTooDeep_admits.violation _)
  | foreign f => exact refused (Fault.not_isTooDeep_admits.violation _)
  | boolean => exact boolean_measures measures le nonneg locals callFree
  | conditional => exact conditional_measures measures le nonneg locals callFree
  | compare => exact compare_measures measures le nonneg locals callFree
  | _ => exact strict_measures measures le nonneg locals callFree rfl

end

theorem ofFrames_measures (n : Nat) : (ofFrames n).MeasuresHeights r higher := by
  induction n with
  | zero =>
    intro g locals e le callFree s there
    refine .error ?_
    rintro ⟨report, same⟩
    cases same
  | succ n ih =>
    intro g locals e le callFree
    have below (room : 0 < g.slack) := dispatch_measures ih (g := ⟨g.limit, g.depth + 1⟩) le
      (by simp only [DepthGuard.slack] at *; omega) locals callFree
    have marks (v : Value) : Measures r g higher True False (Render.mark v) :=
      .leaf (Render.mark_leaf Fault.not_isTooDeep_admits v)
    refine Render.checkDeadline_measures.andThen fun _ =>
      ((Render.guarded_measures le below).bind marks).mono ?_ ?_
    · rintro ⟨⟨-, reached⟩, -⟩ straight
      have bound := reached straight
      simp only [DepthGuard.slack] at bound ⊢
      omega
    · have high := e.height_pos
      rintro ((room | exceeded) | ⟨⟨⟩⟩)
      · omega
      · simp only [DepthGuard.slack] at exceeded ⊢
        omega

end Interpreter

namespace Facade

variable (timeout : Duration) (data : OrderedMap Value) (s : RenderState)

/-- A limit above the ceiling is no other than the ceiling, but for a warning. -/
theorem outcome_evaluate_clamp (d : Int) (e : Expr) :
    (evaluate ⟨timeout, Depth.clamp d⟩ e data).outcome s =
      (evaluate ⟨timeout, d⟩ e data).outcome s := by
  have same : (Render.started ⟨timeout, Depth.clamp d⟩ data s).runs =
      (Render.started ⟨timeout, d⟩ data s).runs := by
    rw [Render.started, Render.started, DepthGuard.new, DepthGuard.new, Depth.clamp_clamp]
  have still : (Render.started ⟨timeout, d⟩ data s).Image (.past 0) _ :=
    RenderState.still (.inr rfl)
  have image : (Render.started ⟨timeout, d⟩ data s).Image (.past 0)
      (Render.started ⟨timeout, Depth.clamp d⟩ data s) :=
    { still with runs := same ▸ still.runs }
  have mirrors := (Interpreter.ofFrames_mirrors (ρ := .past 0) rfl Interpreter.frames).eval
    s.runs.size [] e
  have renamed : Value.rename (.past 0) = id := funext fun v => v.still (.inr rfl)
  rw [renamed] at mirrors
  rw [outcome_evaluate, outcome_evaluate]
  exact (Render.Mirrors.run mirrors image).1

section
variable {e : Expr} (callFree : e.Without Expr.isCall)
include callFree

theorem evaluate_ended {depth higher : Int} (le : depth ≤ higher)
    (unclamped : higher ≤ Depth.ceiling Depth.defaultReserve) :
    (∃ v, (evaluate ⟨timeout, depth⟩ e data).outcome s = .ok v ∧
      (e.Without Expr.isBranching → e.height ≤ depth)) ∨
    (∃ f, (evaluate ⟨timeout, depth⟩ e data).outcome s = .error f ∧ ¬f.IsTooDeep ∧
      (evaluate ⟨timeout, higher⟩ e data).outcome s = .error f) ∨
    ∃ f, (evaluate ⟨timeout, depth⟩ e data).outcome s = .error f ∧ f.IsTooDeep ∧
      depth < e.height := by
  have lower : ¬Depth.ceiling Depth.defaultReserve < depth := by omega
  have there : (Render.started ⟨timeout, depth⟩ data s).IsAt s.runs.size ⟨depth, 0⟩ := by
    rw [RenderState.IsAt, Render.started, Array.getElem?_push_size, Option.map_some,
      DepthGuard.new, Depth.clamp, if_neg lower]
  have ended := (Interpreter.ofFrames_measures Interpreter.frames ⟨depth, 0⟩ [] e le callFree).ended
    there
  rw [DepthGuard.slack, Int.sub_zero] at ended
  simp only [outcome_evaluate, (started_beside timeout le unclamped data s).1]
  exact ended

/-- An expression without calls does not exceed a limit that covers its height, where a limit above
the ceiling counts as the ceiling. If besides nothing in it can be left out, and it comes to a value
under some limit, it exceeds every limit that does not cover its height. -/
theorem evaluate_of_height :
    (∀ d, e.height ≤ Depth.clamp d →
      ∀ f, (evaluate ⟨timeout, d⟩ e data).outcome s = .error f → ¬f.IsTooDeep) ∧
    (e.Without Expr.isBranching → ∀ d v, (evaluate ⟨timeout, d⟩ e data).outcome s = .ok v →
      e.height ≤ Depth.clamp d ∧ ∀ d' < (e.height : Int),
        ∃ f, (evaluate ⟨timeout, d'⟩ e data).outcome s = .error f ∧ f.IsTooDeep) := by
  have own (d : Int) := evaluate_ended timeout data s callFree (Int.le_refl _) (Depth.clamp_le d)
  simp only [outcome_evaluate_clamp] at own
  constructor
  · intro d covered f failed
    rcases own d with ⟨v, ended, -⟩ | ⟨g, ended, shallow, -⟩ | ⟨g, -, -, exceeded⟩
    · cases ended.symm.trans failed
    · cases ended.symm.trans failed
      exact shallow
    · omega
  · intro straight d v given
    have covered : e.height ≤ Depth.clamp d := by
      rcases own d with ⟨-, -, reached⟩ | ⟨g, ended, -⟩ | ⟨g, ended, -⟩
      · exact reached straight
      · cases ended.symm.trans given
      · cases ended.symm.trans given
    refine ⟨covered, fun d' below => ?_⟩
    have le : d' ≤ Depth.clamp d := by omega
    rcases evaluate_ended timeout data s callFree le (Depth.clamp_le d) with
      ⟨-, -, reached⟩ | ⟨g, -, -, ended⟩ | ⟨g, ended, deep, -⟩
    · have := reached straight
      omega
    · rw [outcome_evaluate_clamp] at ended
      cases ended.symm.trans given
    · exact ⟨g, ended, deep⟩

end

/-- A starred tuple in a list, and beside it a lambda whose body is not evaluated. -/
theorem evaluate_of_height_three :
    let e : Expr := .list [.starred (.tuple [.literal (.int 1) {}]),
      .lambda ["x"] true (.unary .not (.name "x"))]
    e.Without Expr.isCall ∧ e.Without Expr.isBranching ∧ e.height = 3 ∧
      (∀ d, 3 ≤ Depth.clamp d →
        ∀ f, (evaluate ⟨.whole 1, d⟩ e []).outcome {} = .error f → ¬f.IsTooDeep) ∧
      ∀ d < 3, ∃ f, (evaluate ⟨.whole 1, d⟩ e []).outcome {} = .error f ∧ f.IsTooDeep := by
  intro e
  have clear : e.Without Expr.isCall ∧ e.Without Expr.isBranching := by
    simp [e, Expr.without_iff (e := .list _), Expr.without_iff (e := .starred _),
      Expr.without_iff (e := .tuple _), Expr.without_iff (e := .literal ..),
      Expr.without_iff (e := .lambda ..), Expr.without_iff (e := .unary ..),
      Expr.without_iff (e := .name _), Expr.children, Expr.isCall, Expr.isBranching]
  have high : e.height = 3 := by
    simp [e, Expr.height, Expr.children]
  have given : ((evaluate ⟨.whole 1, 3⟩ e []).outcome {}).toBool = true := by decide +kernel
  obtain ⟨v, given⟩ := Outcome.exists_of_toBool given
  obtain ⟨covered, exceeded⟩ := evaluate_of_height (.whole 1) [] {} clear.1
  rw [high] at covered exceeded
  exact ⟨clear.1, clear.2, high, covered, (exceeded clear.2 3 v given).2⟩

/-- The number of signs before a number. -/
def signs : Expr → Option Nat
  | .literal .. => some 0
  | .unary _ e => (signs e).map (· + 1)
  | _ => none

theorem height_of_signs {e : Expr} {n : Nat} (signed : signs e = some n) :
    e.height = n + 1 ∧ e.Without Expr.isCall := by
  induction e using signs.induct generalizing n with
  | case1 l place =>
    obtain rfl := Option.some.inj signed
    simp [Expr.height, Expr.children, Expr.without_iff (e := .literal ..), Expr.isCall]
  | case2 op e ih =>
    obtain ⟨m, fewer, rfl⟩ := Option.map_eq_some_iff.mp signed
    obtain ⟨high, callFree⟩ := ih fewer
    constructor
    · simp [Expr.height, Expr.children, high]
    · simpa [Expr.without_iff (e := .unary ..), Expr.children, Expr.isCall] using callFree
  | case3 e => simp_all [signs]

/-- A limit above the ceiling may cover the height of an expression and yet be exceeded. -/
theorem exceeded_above_ceiling : ∃ e f, Expr.read (List.replicate 237 45 ++ [49]) = .ok e ∧
    e.Without Expr.isCall ∧ e.height = 238 ∧
    (evaluate ⟨.whole 1, 238⟩ e []).outcome {} = .error f ∧ f.IsTooDeep := by
  have evaluated : ((Expr.read (List.replicate 237 45 ++ [49])).toOption.map fun e =>
      (signs e, (((evaluate ⟨.whole 1, 238⟩ e []).outcome {}).map fun _ => ()).mapError
        Fault.label)) = some (some 237, .error "DepthLimitExceededError") := by
    decide +kernel
  obtain ⟨e, read, ended⟩ := Option.map_eq_some_iff.mp evaluated
  obtain ⟨signed, ended⟩ := Prod.mk.inj ended
  obtain ⟨high, callFree⟩ := height_of_signs signed
  cases failed : (evaluate ⟨.whole 1, 238⟩ e []).outcome {} with
  | ok v =>
    rw [failed] at ended
    cases ended
  | error f =>
    rw [failed] at ended
    exact ⟨e, f, Outcome.eq_ok_of_toOption read, callFree, high, failed,
      Fault.isTooDeep_iff.mpr (Except.error.inj ended)⟩

end Facade
end Phrasebook
