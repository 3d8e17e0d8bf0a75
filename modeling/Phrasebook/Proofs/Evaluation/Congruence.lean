import Phrasebook.Proofs.Expr.Children
import Phrasebook.Proofs.Ordinary.Leaf
import Phrasebook.Render.Invoke
/-!
Relations of computations that go along with how an interpreter puts them together: what holds of the
parts of a node, and of what is called, holds of the node.
-/
namespace Phrasebook

namespace Render

variable {α β : Type} {P : Fault → Prop}

/-- A computation that neither sees nor changes lambdas. -/
structure Steady (P : Fault → Prop) (m : Render α) : Prop where
  apart : ∀ s closures, EStateM.run m { s with closures := closures } =
    match EStateM.run m s with
    | .ok a t => .ok a { t with closures := closures }
    | .error f t => .error f { t with closures := closures }
  stops : Outcome.StopsOnly P m

theorem Leaf.steady {m : Render α} (leaf : Leaf P m) : Steady P m where
  apart s closures := by
    have beside := leaf.blind s closures s.runs s.store
    change EStateM.run m { s with closures := closures } = _ at beside
    rw [beside]
    cases ended : EStateM.run m s with
    | ok a t => rw [leaf.blind.after_ok ended]
    | error f t => rw [leaf.blind.after_error ended]
  stops := leaf.stops

namespace Steady

theorem pure (a : α) : Steady P (Pure.pure a) := (Leaf.pure a).steady

theorem throw {f : Fault} (holds : P f) : Steady P (throwThe Fault f : Render α) :=
  (Leaf.throw holds).steady

theorem bind {m : Render α} {n : α → Render β} (first : Steady P m)
    (second : ∀ a, Steady P (n a)) : Steady P (m >>= n) where
  apart s closures := by
    rw [EStateM.run_bind, EStateM.run_bind, first.apart]
    cases EStateM.run m s with
    | ok a t => exact (second a).apart t closures
    | error f t => rfl
  stops := first.stops.bind fun a => (second a).stops

theorem ite {p : Prop} [Decidable p] {m n : Render α} (yes : Steady P m) (no : Steady P n) :
    Steady P (if p then m else n) := by
  split_ifs
  · exact yes
  · exact no

/-- What is read from the state, but for the lambdas. -/
theorem read {n : RenderState → Render α}
    (apart : ∀ s closures, n { s with closures := closures } = n s)
    (rest : ∀ s, Steady P (n s)) : Steady P (get >>= n) where
  apart s closures := by
    change EStateM.run (n { s with closures := closures }) { s with closures := closures } = _
    rw [apart]
    exact (rest s).apart s closures
  stops := .bind .get fun s => (rest s).stops

theorem modifyGet {f : RenderState → α × RenderState}
    (apart : ∀ s closures, f { s with closures := closures } =
      ((f s).1, { (f s).2 with closures := closures })) : Steady P (MonadStateOf.modifyGet f) where
  apart s closures := by
    change EStateM.Result.ok (f { s with closures := closures }).1
      (f { s with closures := closures }).2 = _
    rw [apart]
    rfl
  stops := .modifyGet f

end Steady
end Render

/-- A relation of computations to others that depend on something. It includes every computation that
keeps off lambdas, and goes along with sequences and with what is done after failures. -/
structure Congruence (ι : Type) where
  Relates : ∀ {α : Type}, Render α → (ι → Render α) → Prop
  admitted : Fault → Prop
  admits : Fault.Admits admitted
  timedOut : ∀ report, admitted (.own (.timedOut report))
  tooDeep : ∀ report, admitted (.own (.tooDeep report))
  same : ∀ {α : Type} {m : Render α}, Render.Steady admitted m → Relates m fun _ => m
  sequence : ∀ {α β : Type} {m : Render α} {m' : ι → Render α} {n : α → Render β}
    {n' : ι → α → Render β}, Relates m m' → (∀ a, Relates (n a) fun i => n' i a) →
      Relates (m >>= n) fun i => m' i >>= n' i
  cleanup : ∀ {α : Type} {m : Render α} {m' : ι → Render α} {after : Render Unit},
    Relates m m' → Render.Steady admitted after →
      Relates (tryCatchThe Fault m fun f => after >>= fun _ => throw f)
        fun i => tryCatchThe Fault (m' i) fun f => after >>= fun _ => throw f

namespace Congruence

variable {ι : Type} {K : Congruence ι}

namespace Relates

open Render (Leaf Steady)

variable {α β γ δ : Type} {m : Render α} {m' : ι → Render α}

theorem steady (steady : Steady K.admitted m) : K.Relates m fun _ => m := K.same steady

theorem leaf (leaf : Leaf K.admitted m) : K.Relates m fun _ => m := .steady leaf.steady

theorem pure (a : α) : K.Relates (Pure.pure a) fun _ => Pure.pure a := .leaf (.pure a)

theorem throw {f : Fault} (ordinary : f.IsOrdinary) :
    K.Relates (throwThe Fault f : Render α) fun _ => throwThe Fault f :=
  .leaf (.throw (K.admits.ordinary ordinary))

theorem ofExcept {x : Except Fault α} (ordinary : Ordinary x) :
    K.Relates (MonadExcept.ofExcept x) fun _ => MonadExcept.ofExcept x :=
  .leaf (Render.ofExcept_leaf K.admits ordinary)

theorem look {x : Heap → Except Fault α} (ordinary : ∀ h, Ordinary (x h)) :
    K.Relates (Render.look x) fun _ => Render.look x :=
  .leaf (Render.look_leaf K.admits ordinary)

theorem ofMemory {x : Memory α} (ordinary : Memory.Ordinary x) :
    K.Relates (Render.ofMemory x) fun _ => Render.ofMemory x :=
  .leaf (Render.ofMemory_leaf K.admits ordinary)

theorem bind {n : α → Render β} {n' : ι → α → Render β} (first : K.Relates m m')
    (second : ∀ a, K.Relates (n a) fun i => n' i a) :
    K.Relates (m >>= n) fun i => m' i >>= n' i :=
  K.sequence first second

theorem ite {p : Prop} [Decidable p] {n : Render α} {n' : ι → Render α} (yes : K.Relates m m')
    (no : K.Relates n n') :
    K.Relates (if p then m else n) fun i => if p then m' i else n' i := by
  split_ifs
  · exact yes
  · exact no

theorem mapM {n : γ → Render β} {n' : ι → δ → Render β} {xs : List γ} {ys : List δ}
    (each : List.Forall₂ (fun x y => K.Relates (n x) fun i => n' i y) xs ys) :
    K.Relates (xs.mapM n) fun i => ys.mapM (n' i) := by
  induction each with
  | nil => exact .pure []
  | cons first _ ih =>
    simp only [List.mapM_cons]
    exact .bind first fun y => .bind ih fun ys => .pure (y :: ys)

/-- What is read from the state is read alike, if it is the heap alone. -/
theorem heap {n : RenderState → Render β} {n' : ι → RenderState → Render β}
    (alone : ∀ s, n s = n { heap := s.heap }) (alone' : ∀ i s, n' i s = n' i { heap := s.heap })
    (rest : ∀ s, K.Relates (n s) fun i => n' i s) :
    K.Relates (get >>= n) fun i => get >>= n' i := by
  have same : (fun i => get >>= n' i) = fun i => get >>= fun s => n' i { heap := s.heap } :=
    funext fun i => congrArg (get >>= ·) (funext (alone' i))
  rw [same, funext alone]
  have looked : K.Relates (Render.look fun h => .ok h) fun _ => Render.look fun h => .ok h :=
    .look fun h => .ok h
  exact looked.bind fun h => rest { heap := h }

end Relates
end Congruence

namespace Render

variable {P : Fault → Prop}

theorem run_steady (r : Nat) : Steady P (run r) := .read (fun _ _ => rfl) fun _ => .pure _

theorem setGuard_steady (r : Nat) (guard : DepthGuard) : Steady P (setGuard r guard) :=
  .modifyGet fun _ _ => rfl

theorem lookup_steady (admits : Fault.Admits P) (r : Nat) (locals : Locals) (name : Text) :
    Steady P (lookup r locals name) := by
  unfold lookup
  split
  · exact .pure _
  · refine .bind (run_steady r) fun run => ?_
    split
    · exact .pure _
    · exact .throw (admits.ordinary (.undefinedName name))

variable {ι : Type} {K : Congruence ι}

theorem checkDeadline_steady (r : Nat) : Steady K.admitted (checkDeadline r) := by
  refine .bind (.modifyGet fun _ _ => rfl) fun _ => .bind (run_steady r) fun run => ?_
  cases run.expires with
  | none => exact .pure ()
  | some t => exact .read (fun _ _ => rfl) fun s => .ite (.throw (K.timedOut _)) (.pure ())

theorem guarded_relates {α : Type} (r : Nat) {m : Render α} {m' : ι → Render α}
    (relates : K.Relates m m') : K.Relates (guarded r m) fun i => guarded r (m' i) := by
  have entered (guard : DepthGuard) : Outcome.FailsOnly K.admitted guard.enter := by
    intro f failed
    unfold DepthGuard.enter at failed
    split at failed
    · cases failed
      exact K.tooDeep _
    · cases failed
  have leave : Steady K.admitted (do setGuard r (← run r).guard.leave) :=
    .bind (run_steady r) fun run => setGuard_steady r _
  refine .bind (.steady (run_steady r)) fun run => ?_
  refine .bind (.leaf (.ofExcept (entered run.guard))) fun guard => ?_
  refine .bind (.steady (setGuard_steady r guard)) fun _ => K.cleanup ?_ leave
  refine .bind relates fun a => .bind (.steady (run_steady r)) fun run => ?_
  exact .bind (.steady (setGuard_steady r _)) fun _ => .pure a

end Render

namespace Congruence

variable {ι : Type} (K : Congruence ι) (lower : Interpreter) (lower' : ι → Interpreter)

/-- Interpreters that call functions alike. -/
def Invokes : Prop := ∀ f c, K.Relates (lower.invoke f c) fun i => (lower' i).invoke f c

/-- Interpreters that also evaluate alike what stands for each other in two scopes. -/
structure Evaluates (r : Nat) (locals locals' : Locals) (R : Expr → Expr → Prop) : Prop where
  item : ∀ {c d}, R c d → Expr.SameOperand R (Operand.item c) (Operand.item d)
  eval : ∀ {c d}, R c d → K.Relates (lower.eval r locals c) fun i => (lower' i).eval r locals' d
  invokes : K.Invokes lower lower'

end Congruence

namespace Interpreter

open Render

variable {ι : Type} {K : Congruence ι} {lower : Interpreter} {lower' : ι → Interpreter} {r : Nat}
  {locals locals' : Locals} {R : Expr → Expr → Prop}

theorem callGiven_relates (invokes : K.Invokes lower lower') (f : Value) (args : List Value)
    (supplied : Entries) :
    K.Relates (callGiven lower.invoke r f args supplied)
      fun i => callGiven (lower' i).invoke r f args supplied := by
  refine .bind (.ofExcept (Limits.checkCall_ordinary f args _)) fun _ => ?_
  refine .bind (.ofExcept (callOf_ordinary args _)) fun c => .bind (invokes f c) fun v => ?_
  exact .bind (.steady (checkDeadline_steady r)) fun _ => .pure v

/-- With others in their places, an expression makes the same of what its operands give, unless it
calls something. -/
theorem finish_withChildren {e : Expr} {ds : List Expr} (strict : e.isStrict = true)
    (uncalled : e.isCall = false) (length : ds.length = e.children.length)
    (invoke invoke' : Value → Call → Render Value) (pieces : List Piece) :
    finish invoke' r (e.withChildren ds) pieces = finish invoke r e pieces := by
  cases e with
  | «attribute» | unary =>
    obtain ⟨d, rfl⟩ := List.length_eq_one_iff.mp length
    rcases pieces with _ | ⟨⟨_ | ⟨v, _ | ⟨w, vs⟩⟩⟩ | t | es, _ | ⟨p, rest⟩⟩ <;> rfl
  | subscript | binary =>
    obtain ⟨c, d, rfl⟩ := List.length_eq_two.mp length
    rcases pieces with _ | ⟨⟨_ | ⟨v, _ | ⟨w, vs⟩⟩⟩ | t | es,
      _ | ⟨⟨_ | ⟨v, _ | ⟨w, vs⟩⟩⟩ | t | es, _ | ⟨p, rest⟩⟩⟩ <;> rfl
  | slice a b c =>
    have present : ds.length = ([a, b, c].filterMap id).length := by
      rw [length]
      cases a <;> cases b <;> cases c <;> rfl
    obtain ⟨a', b', c', filled⟩ := List.length_eq_three.mp (Expr.length_refilled present)
    have bounds := Expr.bounds_refilled present
    rw [filled] at bounds
    rw [Expr.withChildren, filled]
    simp only [finish, bounds]
  | call => cases uncalled
  | formatted e conversion spec =>
    obtain ⟨d, ds, rfl⟩ := List.exists_cons_of_length_eq_add_one length
    rcases pieces with _ | ⟨⟨_ | ⟨v, _ | ⟨w, vs⟩⟩⟩ | t | es, rest⟩ <;> rfl
  | list | tuple | set | dict | joined => rfl
  | _ => cases strict

theorem finish_relates (invokes : K.Invokes lower lower') {e : Expr} {ds : List Expr}
    (strict : e.isStrict = true) (length : ds.length = e.children.length) (pieces : List Piece) :
    K.Relates (finish lower.invoke r e pieces)
      fun i => finish (lower' i).invoke r (e.withChildren ds) pieces := by
  cases called : e.isCall with
  | false =>
    simp only [finish_withChildren strict called length lower.invoke]
    exact .leaf (finish_leaf K.admits lower.invoke r called pieces)
  | true =>
    cases e with
    | call f args keywords =>
      obtain ⟨d, ds, rfl⟩ := List.exists_cons_of_length_eq_add_one length
      rcases pieces with _ | ⟨⟨_ | ⟨v, _ | ⟨w, vs⟩⟩⟩ | t | es, rest⟩
      case cons.values.cons.nil => exact callGiven_relates invokes v _ _
      all_goals exact .throw .type
    | _ => cases called

section
variable (evaluates : K.Evaluates lower lower' r locals locals' R)
include evaluates

theorem operand_relates {o o' : Operand} (same : Expr.SameOperand R o o') :
    K.Relates (o.evaluate (lower.eval r locals))
      fun i => o'.evaluate ((lower' i).eval r locals') := by
  obtain ⟨role, related⟩ := same
  simp only [Operand.evaluate, role]
  exact .bind (evaluates.eval related) fun v => .leaf (o.role.use_leaf K.admits v)

theorem strict_relates {e : Expr} {ds : List Expr} (strict : e.isStrict = true)
    (same : List.Forall₂ R e.children ds) :
    K.Relates (lower.dispatch r locals e)
      fun i => (lower' i).dispatch r locals' (e.withChildren ds) := by
  obtain ⟨strict', operands⟩ := Expr.withChildren_strict evaluates.item strict same
  simp only [dispatch_eq lower r locals strict, dispatch_eq _ r locals' strict', dispatchInOrder]
  have finished := finish_relates evaluates.invokes (r := r) strict same.length_eq.symm
  refine .bind (.mapM ?_) finished
  exact operands.imp fun o o' same => operand_relates evaluates same

theorem connect_relates (op : Connective) (last : Value) {es ds : List Expr}
    (same : List.Forall₂ R es ds) :
    K.Relates (connect (lower.eval r locals) op last es)
      fun i => connect ((lower' i).eval r locals') op last ds := by
  induction same generalizing last with
  | nil => exact .pure last
  | cons first _ ih =>
    refine .bind (evaluates.eval first) fun v => .heap (fun _ => rfl) (fun _ _ => rfl) fun s => ?_
    exact .ite (.pure v) (ih v)

theorem compareChain_relates (left : Value) {rest : List (CompareOp × Expr)} {ds : List Expr}
    (same : List.Forall₂ R (rest.map (·.2)) ds) :
    K.Relates (compareChain (lower.eval r locals) left rest)
      fun i => compareChain ((lower' i).eval r locals') left ((rest.map (·.1)).zip ds) := by
  induction rest generalizing left ds with
  | nil => exact .pure true
  | cons item rest ih =>
    rcases same with _ | ⟨first, later⟩
    refine .bind (evaluates.eval first) fun right => ?_
    refine .bind (.look fun h => Value.holds_ordinary h item.1 left right) fun holds => ?_
    exact .ite (ih right later) (.pure false)

theorem conditional_relates {t a b t' a' b' : Expr} (test : R t t') (body : R a a')
    (orElse : R b b') :
    K.Relates (lower.dispatch r locals (.conditional t a b))
      fun i => (lower' i).dispatch r locals' (.conditional t' a' b') := by
  refine .bind (evaluates.eval test) fun v => .heap (fun _ => rfl) (fun _ _ => rfl) fun s => ?_
  cases v.truth s.heap with
  | true => exact evaluates.eval body
  | false => exact evaluates.eval orElse

/-- Expressions that are neither names nor lambdas, and the same at the root, are evaluated alike if
what is below is. -/
theorem dispatch_relates {e : Expr} {ds : List Expr} (other : e.isScoped = false)
    (same : List.Forall₂ R e.children ds) :
    K.Relates (lower.dispatch r locals e)
      fun i => (lower' i).dispatch r locals' (e.withChildren ds) := by
  have refused (refusal : Refusal) :
      K.Relates (throw refusal.fault : Render Value) fun _ => throw refusal.fault :=
    .leaf (.throw (K.admits.violation _))
  cases strict : e.isStrict with
  | true => exact strict_relates evaluates strict same
  | false =>
    cases e with
    | literal l place => exact .pure _
    | foreign f => exact refused (.construct f.label)
    | boolean op es => exact connect_relates evaluates op .none same
    | compare a rest =>
      rcases same with _ | ⟨first, later⟩
      refine .bind (evaluates.eval first) fun left => ?_
      exact .bind (compareChain_relates evaluates left later) fun b => .pure _
    | conditional t a b =>
      rcases same with _ | ⟨test, _ | ⟨body, _ | ⟨orElse, ⟨⟩⟩⟩⟩
      exact conditional_relates evaluates test body orElse
    | starred e =>
      rcases same with _ | ⟨first, ⟨⟩⟩
      exact refused (.construct "Starred")
    | name | lambda => cases other
    | _ => cases strict

end

theorem node_relates {e e' : Expr}
    (dispatched : K.Relates (lower.dispatch r locals e) fun i => (lower' i).dispatch r locals' e') :
    K.Relates (lower.node r locals e) fun i => (lower' i).node r locals' e' := by
  refine .bind (.steady (checkDeadline_steady r)) fun _ => ?_
  exact .bind (guarded_relates r dispatched) fun v => .leaf (mark_leaf K.admits v)

end Interpreter
end Phrasebook
