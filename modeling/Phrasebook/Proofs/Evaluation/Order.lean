import Phrasebook.Proofs.Evaluation.Operand
import Phrasebook.Proofs.Render.Outcome
import Phrasebook.Proofs.Simulation.State
import Phrasebook.Render.Invoke
/-!
The order in which operands are evaluated: as they are written, but for the entries of a dictionary
display, in which the value goes before its key.
-/
namespace Phrasebook

namespace Expr

/-- The operands as they are written, a key before its value. -/
def written : Expr → List Expr
  | .call f args keywords => f :: (args.map unstarred ++ keywords.map (·.2))
  | .list es | .tuple es | .set es => es.map unstarred
  | .dict items => items.flatMap fun item => item.1.toList ++ [item.2]
  | e => e.children

theorem item_expr (e : Expr) : (Operand.item e).expr = e.unstarred := by
  cases e <;> rfl

theorem argument_expr (k : Option Text × Expr) : (Operand.argument k).expr = k.2 := by
  obtain ⟨_ | name, e⟩ := k <;> rfl

theorem entry_expr (item : Option Expr × Expr) :
    (Operand.entry item).map (·.expr) = item.2 :: item.1.toList := by
  obtain ⟨_ | k, e⟩ := item <;> rfl

theorem operands_of_dict (items : List (Option Expr × Expr)) :
    (dict items).operands.map (·.expr) = items.flatMap fun item => item.2 :: item.1.toList := by
  rw [operands, List.map_flatMap]
  simp only [entry_expr]

theorem operands_of_ne_dict {e : Expr} (strict : e.isStrict = true)
    (other : ∀ items, e ≠ .dict items) : e.operands.map (·.expr) = e.written := by
  cases e with
  | dict items => exact absurd rfl (other items)
  | list | tuple | set => simp [operands, written, item_expr]
  | call f args keywords =>
    simp [operands, written, item_expr, argument_expr, Function.comp_def]
  | «attribute» | subscript | slice | binary | unary | joined | formatted =>
    simp [operands, written, children, Function.comp_def]
  | _ => cases strict

/-- The entries of a display are evaluated as they are written where keys and values are the same. -/
theorem operands_of_dict_iff (items : List (Option Expr × Expr)) :
    (dict items).operands.map (·.expr) = (dict items).written ↔
      ∀ k e, (some k, e) ∈ items → k = e := by
  rw [operands_of_dict, written]
  induction items with
  | nil => simp
  | cons item rest ih =>
    obtain ⟨_ | k, e⟩ := item
    · simpa using ih
    · simp only [List.flatMap_cons, Option.toList_some, List.cons_append, List.nil_append,
        List.cons.injEq, List.mem_cons, Prod.mk.injEq, Option.some.injEq, ih]
      constructor
      · rintro ⟨-, same, later⟩ k' e' (⟨rfl, rfl⟩ | member)
        · exact same
        · exact later k' e' member
      · intro all
        have same := all k e (.inl ⟨rfl, rfl⟩)
        exact ⟨same.symm, same, fun k' e' member => all k' e' (.inr member)⟩

end Expr

namespace Interpreter

variable (lower : Interpreter) (r : Nat) (locals : Locals)

/-- An expression that evaluates all its operands does so from left to right, each in the state that the
one before it left, whatever becomes of them afterwards; a fault is that of the first one that fails.
The order is the written one, with positional arguments before keywords, except that a dictionary
display evaluates each value before its key. -/
theorem dispatch_in_order {e : Expr} (strict : e.isStrict = true) :
    lower.dispatch r locals e = lower.dispatchInOrder r locals e ∧
    (∀ s t f, EStateM.run (lower.dispatch r locals e) s = .error f t ↔
      (∃ front o back pieces u, e.operands = front ++ o :: back ∧
        EStateM.run (front.mapM (Operand.evaluate (lower.eval r locals))) s = .ok pieces u ∧
        EStateM.run (o.evaluate (lower.eval r locals)) u = .error f t) ∨
      ∃ pieces u,
        EStateM.run (e.operands.mapM (Operand.evaluate (lower.eval r locals))) s = .ok pieces u ∧
        EStateM.run (finish lower.invoke r e pieces) u = .error f t) ∧
    ((∀ items, e ≠ .dict items) → e.operands.map (·.expr) = e.written) ∧
    ∀ items, e = .dict items →
      e.operands.map (·.expr) = items.flatMap (fun item => item.2 :: item.1.toList) ∧
      (e.operands.map (·.expr) = e.written ↔ ∀ k v, (some k, v) ∈ items → k = v) := by
  have inOrder := dispatch_eq lower r locals strict
  refine ⟨inOrder, fun s t f => ?_, Expr.operands_of_ne_dict strict, ?_⟩
  · rw [inOrder, dispatchInOrder]
    exact Outcome.run_bind_eq_error.trans (or_congr_left Outcome.run_mapM_eq_error)
  · rintro items rfl
    exact ⟨Expr.operands_of_dict items, Expr.operands_of_dict_iff items⟩

/-- With no data, a display of an undefined key and an undefined value misses the value. -/
theorem dispatch_in_order_of_entry :
    let e : Expr := .dict [(some (.name [97]), .name [98])]
    let s : RenderState := { runs := #[⟨[], .new 9, .whole 1, none⟩] }
    e.isStrict = true ∧ e.written = [.name [97], .name [98]] ∧
    Render.outcome ((ofFrames 2).dispatch 0 [] e) s = .error (.undefinedName [98]) := by
  intro e s
  obtain ⟨-, fails, -, -⟩ := dispatch_in_order (ofFrames 2) 0 [] (e := e) rfl
  obtain ⟨t, failed⟩ : ∃ t, EStateM.run (Operand.evaluate ((ofFrames 2).eval 0 [])
      ⟨.plain, .name [98]⟩) s = .error (.undefinedName [98]) t := ⟨_, rfl⟩
  refine ⟨rfl, rfl, Render.outcome_eq_error_iff.mpr ⟨t, ?_⟩⟩
  exact (fails s t _).mpr (.inl ⟨[], _, [⟨.key, .name [97]⟩], [], s, rfl, rfl, failed⟩)

end Interpreter
end Phrasebook
