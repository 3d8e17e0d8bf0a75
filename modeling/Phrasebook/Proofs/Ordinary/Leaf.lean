import Phrasebook.Proofs.Evaluation.Operand
import Phrasebook.Proofs.Ordinary.Call
import Phrasebook.Proofs.Simulation.State
/-!
Computations on values alone. They neither see nor change evaluations, lambdas and the store, and they
fail as values and limits do. What happens to an operand before the next one is evaluated is of this
kind, and so is what an expression makes of its operands, unless it calls something.
-/
namespace Phrasebook

/-- A sort of faults that includes those of values, and whatever is not allowed. -/
structure Fault.Admits (P : Fault → Prop) : Prop where
  ordinary : ∀ {f : Fault}, f.IsOrdinary → P f
  violation : ∀ detail : Text, P (.violation detail)

def Expr.isCall : Expr → Bool
  | .call .. => true
  | _ => false

namespace Render

variable {α β : Type}

namespace Blind

theorem pure (a : α) : Blind (Pure.pure a) := fun _ _ _ _ => rfl

theorem throw (f : Fault) : Blind (throwThe Fault f : Render α) := fun _ _ _ _ => rfl

theorem bind {m : Render α} {n : α → Render β} (first : Blind m) (second : ∀ a, Blind (n a)) :
    Blind (m >>= n) := by
  intro s closures runs store
  rw [EStateM.run_bind, EStateM.run_bind, first s closures runs store]
  cases EStateM.run m s with
  | ok a t => exact second a t closures runs store
  | error f t => rfl

theorem ofExcept (x : Except Fault α) : Blind (MonadExcept.ofExcept x) := by
  cases x with
  | ok a => exact .pure a
  | error f => exact .throw f

/-- The heap may be looked at. -/
theorem heap {n : Heap → Render β} (rest : ∀ h, Blind (n h)) :
    Blind (get >>= fun s => n s.heap) :=
  fun s => rest s.heap s

end Blind

/-- A computation on values. -/
structure Leaf (P : Fault → Prop) (m : Render α) : Prop where
  blind : Blind m
  stops : Outcome.StopsOnly P m

variable {P : Fault → Prop}

namespace Leaf

theorem pure (a : α) : Leaf P (Pure.pure a) := ⟨.pure a, .pure a⟩

theorem throw {f : Fault} (holds : P f) : Leaf P (throwThe Fault f : Render α) :=
  ⟨.throw f, .throw holds⟩

theorem bind {m : Render α} {n : α → Render β} (first : Leaf P m) (second : ∀ a, Leaf P (n a)) :
    Leaf P (m >>= n) :=
  ⟨first.blind.bind fun a => (second a).blind, first.stops.bind fun a => (second a).stops⟩

theorem mapM {n : α → Render β} (each : ∀ a, Leaf P (n a)) (xs : List α) : Leaf P (xs.mapM n) := by
  induction xs with
  | nil => exact .pure []
  | cons x rest ih =>
    rw [List.mapM_cons]
    exact .bind (each x) fun y => .bind ih fun ys => .pure (y :: ys)

theorem ite {p : Prop} [Decidable p] {m n : Render α} (yes : Leaf P m) (no : Leaf P n) :
    Leaf P (if p then m else n) := by
  split_ifs
  · exact yes
  · exact no

theorem heap {n : Heap → Render β} (rest : ∀ h, Leaf P (n h)) :
    Leaf P (get >>= fun s => n s.heap) :=
  ⟨.heap fun h => (rest h).blind, .bind .get fun s => (rest s.heap).stops⟩

theorem ofExcept {x : Except Fault α} (only : Outcome.FailsOnly P x) :
    Leaf P (MonadExcept.ofExcept x) :=
  ⟨.ofExcept x, .ofExcept only⟩

theorem look {x : Heap → Except Fault α} (only : ∀ h, Outcome.FailsOnly P (x h)) :
    Leaf P (Render.look x) :=
  .heap fun h => .ofExcept (only h)

end Leaf

section
variable (admits : Fault.Admits P)
include admits

theorem ofExcept_leaf {x : Except Fault α} (ordinary : Ordinary x) :
    Leaf P (MonadExcept.ofExcept x) :=
  .ofExcept fun f failed => admits.ordinary (ordinary f failed)

theorem look_leaf {x : Heap → Except Fault α} (ordinary : ∀ h, Ordinary (x h)) : Leaf P (look x) :=
  .look fun h f failed => admits.ordinary (ordinary h f failed)

theorem ofMemory_leaf {m : Memory α} (ordinary : Memory.Ordinary m) : Leaf P (ofMemory m) := by
  refine ⟨ofMemory_blind m, fun s e t failed => ?_⟩
  simp only [EStateM.run, ofMemory] at failed
  cases ended : m s.heap with
  | ok a h =>
    rw [ended] at failed
    cases failed
  | error e' h =>
    rw [ended] at failed
    cases failed
    exact admits.ordinary (ordinary ended)

theorem mark_leaf (v : Value) : Leaf P (mark v) := ofMemory_leaf admits (.modifyGet _)

theorem type_leaf : Leaf P (throwThe Fault .type : Render α) := .throw (admits.ordinary .type)

theorem attributeOf_leaf (target : Value) (attr : Text) : Leaf P (attributeOf target attr) := by
  refine .ite (.throw (admits.violation _)) (.look fun h => ?_)
  exact shownMember_failsOnly admits.ordinary (admits.violation _) h target

theorem plain_leaf (v : Value) : Leaf P (look fun h => Value.plain h v) :=
  look_leaf admits fun h => Value.plain_ordinary h v

theorem shown_leaf (v : Value) : Leaf P (look fun h => Value.shown h v) :=
  look_leaf admits fun h => Value.shown_ordinary h v

theorem converted_leaf (conversion : Option Conversion) (v : Value) :
    Leaf P (converted conversion v) := by
  rcases conversion with _ | _ | _ | _
  · exact .pure v
  · exact shown_leaf admits v
  · exact .bind (look_leaf admits fun h => Value.quoted_ordinary h v) fun t => .pure _
  · exact .bind (look_leaf admits fun h => Value.asciiQuoted_ordinary h v) fun t => .pure _

theorem joined_leaf (texts : List Value) : Leaf P (joined texts) := by
  unfold joined
  split
  · exact .pure _
  · exact .bind (.mapM (plain_leaf admits) texts) fun ts => .pure _

end
end Render

theorem Value.callable_failsOnly {P : Fault → Prop} (admits : Fault.Admits P) (f : Value) :
    Outcome.FailsOnly P f.callable := by
  unfold callable
  split_ifs
  · exact .error (admits.ordinary (.notCallable _))
  · cases f with
    | cls k => exact .error (admits.violation _)
    | _ => exact .ok ()

theorem Value.unpacked_ordinary (h : Heap) (v : Value) : Ordinary (v.unpacked h) := by
  have paired (item : Value) : Ordinary (Value.pair h item) := by
    have items := item.items_ordinary h
    fun_cases Value.pair h item with
    | case4 f failed => exact .error (items f failed)
    | _ => grind
  have all : Ordinary (v.items h >>= fun items => items.mapM (Value.pair h)) :=
    .bind (v.items_ordinary h) fun items => .mapM paired items
  cases v with
  | dict r => exact .ok _
  | _ => exact all

section
variable {P : Fault → Prop} (admits : Fault.Admits P)
include admits

theorem Role.use_leaf (role : Role) (v : Value) : Render.Leaf P (role.use v) := by
  cases role with
  | function => exact .bind (.ofExcept (Value.callable_failsOnly admits v)) fun _ => .pure _
  | plain => exact .pure _
  | starred =>
    refine .bind (Render.look_leaf admits fun h => v.items_ordinary h) fun items => ?_
    exact .bind (Render.ofMemory_leaf admits (.modifyGet _)) fun marked => .pure _
  | part => exact .bind (Render.shown_leaf admits v) fun t => .pure _
  | field conversion => exact .bind (Render.converted_leaf admits conversion v) fun t => .pure _
  | spec => exact .bind (Render.plain_leaf admits v) fun t => .pure _
  | key => exact .ite (.pure _) (Render.type_leaf admits)
  | keyword name => exact .pure _
  | mapping =>
    exact .bind (Render.look_leaf admits fun h => v.unpacked_ordinary h) fun entries => .pure _

theorem Value.binary_leaf (op : BinaryOp) (a b : Value) :
    Render.Leaf P (Render.ofMemory (Value.binary op a b)) := by
  cases allowed : op.isAllowed with
  | true => exact Render.ofMemory_leaf admits (Value.binary_ordinary allowed a b)
  | false =>
    rw [Value.binary_foreign allowed]
    exact .throw (admits.violation _)

/-- Only a call does more with its operands. -/
theorem Interpreter.finish_leaf (invoke : Value → Call → Render Value) (r : Nat) {e : Expr}
    (other : e.isCall = false) (pieces : List Piece) : Render.Leaf P (finish invoke r e pieces) := by
  have misused : Render.Leaf P (throwThe Fault .type : Render Value) := Render.type_leaf admits
  fun_cases finish invoke r e pieces with
  | case1 _ attr v => exact Render.attributeOf_leaf admits v attr
  | case2 _ _ t i => exact Render.ofMemory_leaf admits (t.subscript_ordinary i)
  | case3 => exact .pure _
  | case5 => cases other
  | case6 op _ _ a b => exact Value.binary_leaf admits op a b
  | case7 op _ a => exact Render.look_leaf admits fun h => Value.unary_ordinary h op a
  | case8 => exact Render.ofMemory_leaf admits (Memory.newList_ordinary _)
  | case9 => exact .pure _
  | case10 => exact Render.ofMemory_leaf admits (Memory.newSet_ordinary _)
  | case12 => exact Render.ofMemory_leaf admits (Memory.newDict_ordinary _)
  | case13 => exact Render.joined_leaf admits _
  | case14 _ _ _ v _ spec =>
    refine .bind (Render.ofExcept_leaf admits (Limits.checkSpec_ordinary spec)) fun _ => ?_
    exact Render.look_leaf admits fun h => Value.formatted_ordinary h v spec
  | _ => exact misused

end
end Phrasebook
