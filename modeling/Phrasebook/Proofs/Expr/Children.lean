import Phrasebook.Proofs.Evaluation.Operand
import Phrasebook.Proofs.Expr.Grammar
import Mathlib.Data.List.Forall2
/-!
Expressions with others in the places of those directly below them: what is evaluated of them stands
in the same places, and they make the same of what it comes to.
-/
namespace Phrasebook.Expr

/-- Expressions in the places of those that there are. -/
def refilled : List (Option Expr) → List Expr → List (Option Expr)
  | some _ :: rest, d :: ds => some d :: refilled rest ds
  | none :: rest, ds => none :: refilled rest ds
  | _, _ => []

/-- The same expression with others directly below it. -/
def withChildren : Expr → List Expr → Expr
  | .attribute _ attr, [e] => .attribute e attr
  | .unary op _, [e] => .unary op e
  | .starred _, [e] => .starred e
  | .lambda params simple _, [e] => .lambda params simple e
  | .subscript .., [a, b] => .subscript a b
  | .binary op .., [a, b] => .binary op a b
  | .conditional .., [a, b, c] => .conditional a b c
  | .slice a b c, ds => match refilled [a, b, c] ds with
    | [a, b, c] => .slice a b c
    | _ => .slice a b c
  | .call _ args keywords, f :: ds =>
    .call f (ds.take args.length) ((keywords.map (·.1)).zip (ds.drop args.length))
  | .boolean op _, es => .boolean op es
  | .compare _ rest, a :: ds => .compare a ((rest.map (·.1)).zip ds)
  | .list _, es => .list es
  | .tuple _, es => .tuple es
  | .set _, es => .set es
  | .dict items, ds =>
    let keys := (items.filterMap (·.1)).length
    .dict ((refilled (items.map (·.1)) (ds.take keys)).zip (ds.drop keys))
  | .joined _, es => .joined es
  | .formatted _ conversion spec, e :: ds => .formatted e conversion (spec.bind fun _ => ds.head?)
  | e, _ => e

theorem childInduction {P : Expr → Prop} (step : ∀ e, (∀ d ∈ e.children, P d) → P e) (e : Expr) :
    P e := by
  induction n : e.depth using Nat.strongRecOn generalizing e with
  | ind n ih =>
    subst n
    refine step e fun d child => ih d.depth ?_ d rfl
    have bound := depth_le_depthList child
    have depth := depth_eq e
    omega

theorem refilled_self (keys : List (Option Expr)) :
    refilled keys (keys.filterMap id) = keys := by
  induction keys with
  | nil => rfl
  | cons k rest ih => cases k <;> simpa [refilled] using ih

theorem length_refilled {keys : List (Option Expr)} {ds : List Expr}
    (length : ds.length = (keys.filterMap id).length) :
    (refilled keys ds).length = keys.length := by
  induction keys generalizing ds with
  | nil => rfl
  | cons k rest ih =>
    cases k with
    | none => simpa [refilled] using ih length
    | some k =>
      obtain ⟨d, ds, rfl⟩ := List.exists_cons_of_length_eq_add_one length
      simpa [refilled] using ih (Nat.succ.inj length)

theorem bounds_refilled {keys : List (Option Expr)} {ds : List Expr}
    (length : ds.length = (keys.filterMap id).length) (vs : List Value) :
    bounds (refilled keys ds) vs = bounds keys vs := by
  induction keys generalizing ds vs with
  | nil => rfl
  | cons k rest ih =>
    cases k with
    | none => simpa [refilled, bounds] using ih length vs
    | some k =>
      obtain ⟨d, ds, rfl⟩ := List.exists_cons_of_length_eq_add_one length
      have later (vs : List Value) : bounds (refilled rest ds) vs = bounds rest vs :=
        ih (Nat.succ.inj length) vs
      cases vs <;> simp [refilled, bounds, later]

theorem withChildren_self (e : Expr) : e.withChildren e.children = e := by
  have paired {α : Type} (xs : List (α × Expr)) : (xs.map (·.1)).zip (xs.map (·.2)) = xs :=
    (List.zip_of_prod rfl rfl).symm
  cases e with
  | slice a b c => cases a <;> cases b <;> cases c <;> rfl
  | call f args keywords => simp [withChildren, children, paired]
  | compare a rest => simp [withChildren, children, paired]
  | dict items =>
    have keys := refilled_self (items.map (·.1))
    rw [List.filterMap_map, Function.id_comp] at keys
    simp [withChildren, children, keys, paired]
  | formatted a conversion spec => cases spec <;> rfl
  | _ => rfl

/-- Whether an expression is a name, or binds some. -/
def isScoped : Expr → Bool
  | .name _ | .lambda .. => true
  | _ => false

variable {R : Expr → Expr → Prop} {e : Expr} {ds : List Expr}

/-- Operands in one place of two expressions. -/
def SameOperand (R : Expr → Expr → Prop) (o o' : Operand) : Prop :=
  o'.role = o.role ∧ R o.expr o'.expr

theorem forall₂_item (item : ∀ {c d}, R c d → SameOperand R (Operand.item c) (Operand.item d))
    {es ds : List Expr} (same : List.Forall₂ R es ds) :
    List.Forall₂ (SameOperand R) (es.map Operand.item) (ds.map Operand.item) := by
  rw [List.forall₂_map_left_iff, List.forall₂_map_right_iff]
  exact same.imp fun _ _ same => item same

theorem forall₂_role {es ds : List Expr} (role : Role) (same : List.Forall₂ R es ds) :
    List.Forall₂ (SameOperand R) (es.map (⟨role, ·⟩)) (ds.map (⟨role, ·⟩)) := by
  rw [List.forall₂_map_left_iff, List.forall₂_map_right_iff]
  exact same.imp fun _ _ same => ⟨rfl, same⟩

theorem forall₂_argument {keywords : List (Option Text × Expr)} {ds : List Expr}
    (same : List.Forall₂ R (keywords.map (·.2)) ds) :
    List.Forall₂ (SameOperand R) (keywords.map Operand.argument)
      (((keywords.map (·.1)).zip ds).map Operand.argument) := by
  induction keywords generalizing ds with
  | nil => exact .nil
  | cons k rest ih =>
    cases same with
    | cons first later =>
      refine .cons ?_ (ih later)
      obtain ⟨_ | name, e⟩ := k <;> exact ⟨rfl, first⟩

theorem forall₂_entry {items : List (Option Expr × Expr)} {ks vs : List Expr}
    (keys : List.Forall₂ R (items.filterMap (·.1)) ks)
    (values : List.Forall₂ R (items.map (·.2)) vs) :
    List.Forall₂ (SameOperand R) (items.flatMap Operand.entry)
      (((refilled (items.map (·.1)) ks).zip vs).flatMap Operand.entry) := by
  induction items generalizing ks vs with
  | nil => exact .nil
  | cons item rest ih =>
    obtain ⟨_ | k, e⟩ := item
    · cases values with
      | cons first later => exact .cons ⟨rfl, first⟩ (ih keys later)
    · cases values with
      | cons first later =>
        cases keys with
        | cons key others => exact .cons ⟨rfl, first⟩ (.cons ⟨rfl, key⟩ (ih others later))

/-- What evaluates all its operands does so with others in their places. -/
theorem withChildren_strict (item : ∀ {c d}, R c d → SameOperand R (Operand.item c) (Operand.item d))
    (strict : e.isStrict = true) (same : List.Forall₂ R e.children ds) :
    (e.withChildren ds).isStrict = true ∧
      List.Forall₂ (SameOperand R) e.operands (e.withChildren ds).operands := by
  cases e with
  | «attribute» | unary =>
    rcases same with _ | ⟨first, ⟨⟩⟩
    exact ⟨rfl, .cons ⟨rfl, first⟩ .nil⟩
  | subscript | binary =>
    rcases same with _ | ⟨first, _ | ⟨second, ⟨⟩⟩⟩
    exact ⟨rfl, .cons ⟨rfl, first⟩ (.cons ⟨rfl, second⟩ .nil)⟩
  | slice a b c =>
    have placed := forall₂_role .plain same
    cases a <;> cases b <;> cases c <;> rcases same with _ | ⟨_, _ | ⟨_, _ | ⟨_, ⟨⟩⟩⟩⟩ <;>
      exact ⟨rfl, placed⟩
  | call f args keywords =>
    rw [children, List.cons_append] at same
    rcases same with _ | ⟨first, later⟩
    have given := List.forall₂_take args.length later
    have named := List.forall₂_drop args.length later
    rw [List.take_left] at given
    rw [List.drop_left] at named
    exact ⟨rfl, .cons ⟨rfl, first⟩ (List.rel_append (forall₂_item item given) (forall₂_argument named))⟩
  | list | tuple | set => exact ⟨rfl, forall₂_item item same⟩
  | dict items =>
    have keys := List.forall₂_take (items.filterMap (·.1)).length same
    have values := List.forall₂_drop (items.filterMap (·.1)).length same
    rw [children, List.take_left] at keys
    rw [children, List.drop_left] at values
    exact ⟨rfl, forall₂_entry keys values⟩
  | joined es => exact ⟨rfl, forall₂_role .part same⟩
  | formatted e conversion spec =>
    rcases same with _ | ⟨first, later⟩
    cases spec with
    | none =>
      cases later
      exact ⟨rfl, .cons ⟨rfl, first⟩ .nil⟩
    | some spec =>
      rcases later with _ | ⟨second, ⟨⟩⟩
      exact ⟨rfl, .cons ⟨rfl, first⟩ (.cons ⟨rfl, second⟩ .nil)⟩
  | _ => cases strict

end Phrasebook.Expr
