import Phrasebook.Proofs.Outcome
import Phrasebook.Render.Eval
import Mathlib.Tactic.SplitIfs
/-!
Operands of expressions that evaluate all of them. Such an expression evaluates one operand after the
other and then makes something of what they gave, so that the first fault among them is its fault.
-/
namespace Phrasebook

/-- What becomes of an operand before the next one is evaluated. -/
inductive Role where
  | function
  | plain
  | starred
  | part
  | field (conversion : Option Conversion)
  | spec
  | key
  | keyword (name : Text)
  | mapping

structure Operand where
  role : Role
  expr : Expr

/-- What an operand gives. -/
inductive Piece where
  | values (vs : List Value)
  | text (t : Text)
  | entries (es : Entries)

namespace Piece

def items : Piece → List Value
  | values vs => vs
  | _ => []

def supplied : Piece → Entries
  | entries es => es
  | _ => []

@[simp] theorem flatMap_items_values (vss : List (List Value)) :
    (vss.map values).flatMap items = vss.flatten := by
  rw [List.flatMap_map]
  exact List.flatMap_id'

@[simp] theorem flatMap_items_entries (ess : List Entries) :
    (ess.map entries).flatMap items = [] := by
  simp [items]

@[simp] theorem flatMap_supplied_values (vss : List (List Value)) :
    (vss.map values).flatMap supplied = [] := by
  simp [supplied]

@[simp] theorem flatMap_supplied_entries (ess : List Entries) :
    (ess.map entries).flatMap supplied = ess.flatten := by
  rw [List.flatMap_map]
  exact List.flatMap_id'

/-- The entries of a dictionary display, in which a value comes before its key. -/
def displayed : List Piece → Entries
  | values [v] :: values [k] :: rest => (k, v) :: displayed rest
  | entries es :: rest => es ++ displayed rest
  | _ => []

end Piece

namespace Value

/-- Whether a template may call a value. -/
def callable (f : Value) : Except Fault Unit :=
  if !f.isCallable then .error (.notCallable f.kind.label)
  else match f with
    | .cls _ => .error (.violation "Calling classes is not allowed in templates")
    | _ => .ok ()

/-- The entry that one of the pairs in an update stands for. -/
def pair (h : Heap) (v : Value) : Except Fault (Value × Value) :=
  match v.items h with
  | .ok [key, value] => if key.isHashable then .ok (key, value) else .error .type
  | .ok _ => .error .value
  | .error f => .error f

/-- What a value gives that is unpacked into entries: those of a dictionary, or else pairs. -/
def unpacked (h : Heap) : Value → Except Fault Entries
  | .dict r => .ok (h.dict r)
  | v => do (← v.items h).mapM (pair h)

theorem unpacked_of_ne_dict (h : Heap) {v : Value} (other : ∀ r, v ≠ .dict r) :
    v.unpacked h = v.items h >>= fun items => items.mapM (pair h) := by
  rw [unpacked]
  exact other

end Value

namespace Role

open Render

def use : Role → Value → Render Piece
  | function, f => do
    ofExcept f.callable
    pure (.values [f])
  | plain, v => pure (.values [v])
  | starred, v => do pure (.values (← ofMemory (Memory.markAll (← look fun h => v.items h))))
  | part, v => do pure (.values [← look fun h => Value.shown h v])
  | field conversion, v => do pure (.values [← converted conversion v])
  | spec, v => do pure (.text (← look fun h => Value.plain h v))
  | key, v => if v.isHashable then pure (.values [v]) else throw .type
  | keyword name, v => pure (.entries [(.ofName name, v)])
  | mapping, v => do pure (.entries (← look fun h => v.unpacked h))

end Role

namespace Operand

def item : Expr → Operand
  | .starred e => ⟨.starred, e⟩
  | e => ⟨.plain, e⟩

def argument : Option Text × Expr → Operand
  | (some name, e) => ⟨.keyword name, e⟩
  | (none, e) => ⟨.mapping, e⟩

/-- An entry of a dictionary display: the value first. -/
def entry : Option Expr × Expr → List Operand
  | (some k, e) => [⟨.plain, e⟩, ⟨.key, k⟩]
  | (none, e) => [⟨.mapping, e⟩]

def evaluate (eval : Expr → Render Value) (o : Operand) : Render Piece := do
  o.role.use (← eval o.expr)

end Operand

namespace Expr

/-- Whether all operands of an expression are evaluated, whatever they come to. -/
def isStrict : Expr → Bool
  | .attribute .. | .subscript .. | .slice .. | .call .. | .binary .. | .unary .. | .list _ | .tuple _
  | .set _ | .dict _ | .joined _ | .formatted .. => true
  | _ => false

/-- The operands in the order of their evaluation. -/
def operands : Expr → List Operand
  | .attribute e _ | .unary _ e => [⟨.plain, e⟩]
  | .subscript a b | .binary _ a b => [⟨.plain, a⟩, ⟨.plain, b⟩]
  | .slice a b c => (a.toList ++ b.toList ++ c.toList).map (⟨.plain, ·⟩)
  | .call f args keywords => ⟨.function, f⟩ :: (args.map Operand.item ++ keywords.map Operand.argument)
  | .list es | .tuple es | .set es => es.map Operand.item
  | .dict items => items.flatMap Operand.entry
  | .joined es => es.map (⟨.part, ·⟩)
  | .formatted e conversion spec => ⟨.field conversion, e⟩ :: spec.toList.map (⟨.spec, ·⟩)
  | _ => []

/-- The values of bounds, none for one that is left out. -/
def bounds : List (Option Expr) → List Value → List Value
  | some _ :: rest, v :: vs => v :: bounds rest vs
  | _ :: rest, vs => .none :: bounds rest vs
  | [], _ => []

end Expr

namespace Interpreter

/-- A call, its function and its arguments being given. -/
def callGiven (invoke : Value → Call → Render Value) (r : Nat) (f : Value) (args : List Value)
    (supplied : Entries) : Render Value := do
  let keywords := Entries.insertAll [] supplied
  ofExcept (Limits.checkCall f args (keywords.map (·.2)))
  let call ← ofExcept (Render.callOf args keywords)
  let result ← invoke f call
  Render.checkDeadline r
  pure result

/-- What an expression makes of what its operands gave. -/
def finish (invoke : Value → Call → Render Value) (r : Nat) : Expr → List Piece → Render Value
  | .attribute _ attr, [.values [v]] => Render.attributeOf v attr
  | .subscript .., [.values [t], .values [i]] => Render.ofMemory (t.subscript i)
  | .slice a b c, pieces => match Expr.bounds [a, b, c] (pieces.flatMap Piece.items) with
    | [a, b, c] => pure (.ofBounds a b c)
    | _ => throw .type
  | .call .., .values [f] :: pieces =>
    callGiven invoke r f (pieces.flatMap Piece.items) (pieces.flatMap Piece.supplied)
  | .binary op .., [.values [a], .values [b]] => Render.ofMemory (Value.binary op a b)
  | .unary op _, [.values [a]] => Render.look fun h => Value.unary h op a
  | .list _, pieces => Render.ofMemory (Memory.newList (pieces.flatMap Piece.items))
  | .tuple _, pieces => return .ofItems (pieces.flatMap Piece.items)
  | .set _, pieces =>
    let items := pieces.flatMap Piece.items
    if items.all Value.isHashable then
      Render.ofMemory (Memory.newSet (items.foldl Value.insertItem []))
    else throw .type
  | .dict _, pieces =>
    Render.ofMemory (Memory.newDict (Entries.insertAll [] (Piece.displayed pieces)))
  | .joined _, pieces => Render.joined (pieces.flatMap Piece.items)
  | .formatted .., .values [v] :: pieces => do
    let spec := match pieces with
      | [.text t] => t
      | _ => []
    ofExcept (Limits.checkSpec spec)
    Render.look fun h => Value.formatted h v spec
  | _, _ => throw .type

end Interpreter

namespace Render

variable (eval : Expr → Render Value)

/-- The items that one operand of a display or an argument list gives. -/
def gathered : Expr → Render (List Value)
  | .starred e => do
    let v ← eval e
    ofMemory (Memory.markAll (← look fun h => v.items h))
  | e => return [← eval e]

theorem evaluate_item (e : Expr) :
    (Operand.item e).evaluate eval = Piece.values <$> gathered eval e := by
  cases e <;> simp [Operand.item, Operand.evaluate, Role.use, gathered]

theorem elements_eq (es : List Expr) :
    elements eval es = List.flatten <$> es.mapM (gathered eval) := by
  induction es with
  | nil => rfl
  | cons e rest ih =>
    rw [List.mapM_cons]
    cases e with
    | starred e => simp [elements, gathered, ih]
    | _ => simp [elements, gathered, ih]

/-- The entries that one operand of an argument list gives. -/
def supplied : Option Text × Expr → Render Entries
  | (none, e) => do
    let v ← eval e
    look fun h => v.unpacked h
  | (some name, e) => return [(.ofName name, ← eval e)]

theorem evaluate_argument (k : Option Text × Expr) :
    (Operand.argument k).evaluate eval = Piece.entries <$> supplied eval k := by
  obtain ⟨_ | name, e⟩ := k <;> simp [Operand.argument, Operand.evaluate, Role.use, supplied]

theorem mapM_mapped {α β γ : Type} (g : β → γ) (p : α → Render β) (xs : List α) :
    xs.mapM (fun x => g <$> p x) = List.map g <$> xs.mapM p := by
  induction xs with
  | nil => rfl
  | cons x rest ih => simp [List.mapM_cons, ih]

/-- Entries that were inserted, if all of them were. -/
def complete : Entries × Option Fault → Except Fault Entries
  | (m, none) => .ok m
  | (_, some f) => .error f

theorem complete_pairsOf (h : Heap) (m : Entries) (items : List Value) :
    complete (Method.pairsOf h m items) = (items.mapM (Value.pair h)).map m.insertAll := by
  induction items generalizing m with
  | nil => rfl
  | cons item rest ih =>
    rw [List.mapM_cons, Value.pair, Method.pairsOf]
    rcases item.items h with f | _ | ⟨key, _ | ⟨value, _ | _⟩⟩
    case ok.cons.cons.nil =>
      dsimp only
      split_ifs with hashable
      · rw [ih]
        cases rest.mapM (Value.pair h) <;> rfl
      · rfl
    all_goals rfl

theorem complete_updatePairs (h : Heap) (m : Entries) (v : Value) :
    complete (Method.updatePairs h m v) =
      (v.items h >>= fun items => items.mapM (Value.pair h)).map m.insertAll := by
  rw [Method.updatePairs]
  cases v.items h with
  | error f => rfl
  | ok items => exact complete_pairsOf h m items

theorem complete_updateEntries (h : Heap) (m : Entries) (v : Value) :
    complete (Method.updateEntries h m v) = (v.unpacked h).map m.insertAll := by
  unfold Method.updateEntries
  split
  · rfl
  · rename_i other
    rw [complete_updatePairs, Value.unpacked_of_ne_dict h other]

theorem look_map {α β : Type} (g : α → β) (x : Heap → Except Fault α) :
    look (fun h => (x h).map g) = g <$> look x := by
  refine (bind_congr fun s => ?_).trans (map_bind ..).symm
  dsimp only
  cases x s.heap <;> rfl

theorem updated_eq (m : Entries) (v : Value) :
    updated m v = m.insertAll <$> look fun h => v.unpacked h := by
  have read : updated m v = look fun h => complete (Method.updateEntries h m v) := by
    refine bind_congr fun s => ?_
    dsimp only
    rcases Method.updateEntries s.heap m v with ⟨m, _ | f⟩ <;> rfl
  simp only [read, complete_updateEntries, look_map]

theorem keywordItems_eq (m : Entries) (ks : List (Option Text × Expr)) :
    keywordItems eval m ks = (fun es => m.insertAll es.flatten) <$> ks.mapM (supplied eval) := by
  induction ks generalizing m with
  | nil => rfl
  | cons k rest ih =>
    obtain ⟨_ | name, e⟩ := k
    · simp [keywordItems, supplied, ih, updated_eq, List.mapM_cons, Entries.insertAll]
    · simp [keywordItems, supplied, ih, List.mapM_cons, Entries.insertAll]

theorem dictItems_eq (m : Entries) (items : List (Option Expr × Expr)) :
    dictItems eval m items = (fun pieces => m.insertAll (Piece.displayed pieces)) <$>
      (items.flatMap Operand.entry).mapM (Operand.evaluate eval) := by
  induction items generalizing m with
  | nil => rfl
  | cons item rest ih =>
    obtain ⟨_ | k, e⟩ := item
    · simp [dictItems, Operand.entry, Operand.evaluate, Role.use, ih, updated_eq, List.mapM_cons,
        Entries.insertAll, Piece.displayed]
    · simp only [dictItems, Operand.entry, Operand.evaluate, Role.use, ih, List.mapM_cons,
        List.flatMap_cons, List.cons_append, List.nil_append, bind_assoc, pure_bind, map_bind]
      refine bind_congr fun v => bind_congr fun key => ?_
      split_ifs with hashable
      · simp [Entries.insertAll, Piece.displayed]
      · rfl

theorem mapM_items (es : List Expr) :
    (es.map Operand.item).mapM (Operand.evaluate eval) =
      List.map Piece.values <$> es.mapM (gathered eval) := by
  rw [List.mapM_map, ← mapM_mapped]
  exact congrArg (List.mapM · es) (funext (evaluate_item eval))

theorem mapM_arguments (ks : List (Option Text × Expr)) :
    (ks.map Operand.argument).mapM (Operand.evaluate eval) =
      List.map Piece.entries <$> ks.mapM (supplied eval) := by
  rw [List.mapM_map, ← mapM_mapped]
  exact congrArg (List.mapM · ks) (funext (evaluate_argument eval))

end Render

namespace Interpreter

variable (lower : Interpreter) (r : Nat) (locals : Locals)

/-- An expression with its operands evaluated in their order. -/
def dispatchInOrder (e : Expr) : Render Value := do
  let pieces ← e.operands.mapM (Operand.evaluate (lower.eval r locals))
  finish lower.invoke r e pieces

theorem callWith_eq (g : Value) (args : List Expr) (keywords : List (Option Text × Expr)) :
    lower.callWith r locals g args keywords = (do
      let vss ← args.mapM (Render.gathered (lower.eval r locals))
      let ess ← keywords.mapM (Render.supplied (lower.eval r locals))
      callGiven lower.invoke r g vss.flatten ess.flatten) := by
  simp only [callWith, Render.elements_eq, Render.keywordItems_eq, bind_map_left, callGiven]

theorem dispatch_call (f : Expr) (args : List Expr) (keywords : List (Option Text × Expr)) :
    lower.dispatch r locals (.call f args keywords) = (do
      let g ← lower.eval r locals f
      ofExcept g.callable
      let vss ← args.mapM (Render.gathered (lower.eval r locals))
      let ess ← keywords.mapM (Render.supplied (lower.eval r locals))
      callGiven lower.invoke r g vss.flatten ess.flatten) := by
  change lower.call r locals f args keywords = _
  refine bind_congr fun g => ?_
  rw [← callWith_eq]
  unfold Value.callable
  split_ifs
  · rfl
  · cases g <;> rfl

theorem dispatchInOrder_call (f : Expr) (args : List Expr)
    (keywords : List (Option Text × Expr)) :
    lower.dispatchInOrder r locals (.call f args keywords) =
      lower.dispatch r locals (.call f args keywords) := by
  rw [dispatch_call]
  simp only [dispatchInOrder, Expr.operands, List.mapM_cons, List.mapM_append, Render.mapM_items,
    Render.mapM_arguments, Operand.evaluate, Role.use, bind_assoc, bind_map_left, pure_bind]
  simp [finish]

theorem dispatch_slice (a b c : Option Expr) :
    lower.dispatch r locals (.slice a b c) =
      lower.dispatchInOrder r locals (.slice a b c) := by
  cases a <;> cases b <;> cases c <;>
    simp [dispatch, dispatchInOrder, Expr.operands, Operand.evaluate, Role.use, finish, Expr.bounds,
      Render.optional, Piece.items]

theorem dispatch_joined (parts : List Expr) :
    lower.dispatch r locals (.joined parts) = lower.dispatchInOrder r locals (.joined parts) := by
  have each : Operand.evaluate (lower.eval r locals) ∘ (⟨.part, ·⟩) = fun part =>
      (Piece.values [·]) <$> (lower.eval r locals part >>= fun v => Render.look (Value.shown · v)) := by
    funext part
    simp [Operand.evaluate, Role.use]
  change Render.inRow _ parts = _
  rw [dispatchInOrder, Expr.operands, List.mapM_map, each, Render.mapM_mapped]
  simp [finish, Render.inRow, List.flatMap_map, Piece.items]

theorem dispatch_formatted (e : Expr) (conversion : Option Conversion) (spec : Option Expr) :
    lower.dispatch r locals (.formatted e conversion spec) =
      lower.dispatchInOrder r locals (.formatted e conversion spec) := by
  cases spec <;>
    simp [dispatch, dispatchInOrder, Expr.operands, Operand.evaluate, Role.use, finish,
      Render.specText]

theorem dispatch_eq {e : Expr} (strict : e.isStrict = true) :
    lower.dispatch r locals e = lower.dispatchInOrder r locals e := by
  -- the first four gather pieces of more than one sort and have lemmas of their own
  cases e with
  | call f args keywords => exact (dispatchInOrder_call ..).symm
  | slice a b c => exact dispatch_slice ..
  | joined parts => exact dispatch_joined ..
  | formatted e conversion spec => exact dispatch_formatted ..
  | «attribute» | subscript | binary | unary =>
    simp [dispatch, dispatchInOrder, Expr.operands, Operand.evaluate, Role.use, finish]
  | list | tuple | set =>
    rw [dispatchInOrder, Expr.operands, Render.mapM_items]
    simp only [dispatch, finish, Render.elements_eq, bind_map_left, Piece.flatMap_items_values]
  | dict items =>
    simp [dispatch, dispatchInOrder, Expr.operands, finish, Render.dictItems_eq]
  | _ => cases strict

end Interpreter
end Phrasebook
