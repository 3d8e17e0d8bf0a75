import Phrasebook.Proofs.Renaming.State
import Phrasebook.Render.Eval
/-!
Evaluation of a node in a state and in its image.
-/
namespace Phrasebook

open Value (rename)

variable {ρ : Renaming}

namespace Render

theorem lookup_mirrors (r : Nat) (locals : Locals) (name : Text) :
    Mirrors ρ (rename ρ) (lookup r locals name)
      (lookup (ρ.run r) (OrderedMap.rename ρ locals) name) := by
  have found := OrderedMap.get?_rename ρ locals name
  rw [OrderedMap.get?, OrderedMap.get?] at found
  rw [lookup, lookup, found]
  cases locals.lookup name with
  | some v => exact .pure v
  | none =>
    refine .bind (run_mirrors r) fun run => ?_
    have entry := OrderedMap.get?_rename ρ run.data name
    simp only [Run.rename, entry]
    cases run.data.get? name with
    | some v => exact .pure v
    | none => exact .throw _

theorem shownMember_rename {h h' : Heap} (image : Heap.Image ρ h h') (target : Value)
    (attr : Text) :
    shownMember h' (target.rename ρ) attr = (shownMember h target attr).map (rename ρ) := by
  have member := Value.member_rename image target attr
  cases target with
  | dict r =>
    have found := Entries.find?_rename image.injective (h.dict r) (.ofText attr)
    rw [Value.rename_ofText, ← image.dict] at found
    simp only [shownMember, Value.rename] at member ⊢
    rw [found]
    cases Entries.find? (h.dict r) (.ofText attr) with
    | some v => rfl
    | none => exact member
  | lookup => rfl
  | _ => exact member

theorem attributeOf_mirrors (target : Value) (attr : Text) :
    Mirrors ρ (rename ρ) (attributeOf target attr) (attributeOf (target.rename ρ) attr) :=
  .ite (.throw _) (look_mirrors fun _ _ image => shownMember_rename image target attr)

section
variable {eval eval' : Expr → Render Value}
  (agree : ∀ e, Mirrors ρ (rename ρ) (eval e) (eval' e))
include agree

theorem elements_mirrors (es : List Expr) :
    Mirrors ρ (List.map (rename ρ)) (elements eval es) (elements eval' es) := by
  induction es with
  | nil => exact .pure []
  | cons e rest ih =>
    have other : Mirrors ρ (List.map (rename ρ)) (do pure ((← eval e) :: (← elements eval rest)))
        (do pure ((← eval' e) :: (← elements eval' rest))) :=
      .bind (agree e) fun v => .bind ih fun vs => .pure (v :: vs)
    cases e with
    | starred e =>
      refine .bind (agree e) fun v => ?_
      refine .bind (look_mirrors fun h h' image => Value.items_rename image v) fun xs => ?_
      refine .bind (ofMemory_mirrors (Memory.markAll_mirrors xs)) fun items => ?_
      exact .bind ih fun vs => .pure' (List.map_append ..).symm
    | _ => exact other

omit agree in
theorem updated_mirrors (m : Entries) (source : Value) :
    Mirrors ρ (Entries.rename ρ) (updated m source) (updated (m.rename ρ) (source.rename ρ)) := by
  refine .read fun s s' image => ?_
  rw [Method.updateEntries_rename image.heap]
  rcases Method.updateEntries s.heap m source with ⟨m, _ | f⟩
  · exact .pure m
  · exact .throw f

theorem dictItems_mirrors (m : Entries) (items : List (Option Expr × Expr)) :
    Mirrors ρ (Entries.rename ρ) (dictItems eval m items) (dictItems eval' (m.rename ρ) items) := by
  induction items generalizing m with
  | nil => exact .pure m
  | cons item rest ih =>
    obtain ⟨_ | k, e⟩ := item
    · exact .bind (agree e) fun v => .bind (updated_mirrors m v) fun m => ih m
    · refine .bind (agree e) fun v => .bind (agree k) fun key => ?_
      refine injective_mirrors fun injective => ?_
      rw [Value.isHashable_rename, Entries.insert_rename injective]
      exact .ite (ih _) (.throw _)

theorem keywordItems_mirrors (m : Entries) (items : List (Option Text × Expr)) :
    Mirrors ρ (Entries.rename ρ) (keywordItems eval m items)
      (keywordItems eval' (m.rename ρ) items) := by
  induction items generalizing m with
  | nil => exact .pure m
  | cons item rest ih =>
    obtain ⟨_ | name, e⟩ := item
    · exact .bind (agree e) fun v => .bind (updated_mirrors m v) fun m => ih m
    · refine .bind (agree e) fun v => injective_mirrors fun injective => ?_
      rw [← Value.rename_ofName ρ name, Entries.insert_rename injective]
      exact ih _

theorem connect_mirrors (op : Connective) (last : Value) (es : List Expr) :
    Mirrors ρ (rename ρ) (connect eval op last es) (connect eval' op (last.rename ρ) es) := by
  induction es generalizing last with
  | nil => exact .pure last
  | cons e rest ih =>
    refine .bind (agree e) fun v => .read fun s s' image => ?_
    rw [Value.truth_rename image.heap]
    exact .ite (.pure v) (ih v)

theorem compareChain_mirrors (left : Value) (items : List (CompareOp × Expr)) :
    Mirrors ρ id (compareChain eval left items) (compareChain eval' (left.rename ρ) items) := by
  induction items generalizing left with
  | nil => exact .pure true
  | cons item rest ih =>
    refine .bind (agree item.2) fun right => ?_
    refine .bind (f := id) (look_mirrors fun h h' image => ?_) fun holds => ?_
    · rw [Value.holds_rename image, Outcome.map_id]
    · exact .ite (ih right) (.pure false)

theorem optional_mirrors (e : Option Expr) :
    Mirrors ρ (rename ρ) (optional eval e) (optional eval' e) := by
  cases e with
  | none => exact .pure Value.none
  | some e => exact agree e

omit agree in
theorem plain_mirrors (v : Value) :
    Mirrors ρ id (look fun h => Value.plain h v) (look fun h => Value.plain h (v.rename ρ)) :=
  look_mirrors fun h h' image => by rw [Value.plain_rename image, Outcome.map_id]

omit agree in
theorem shown_mirrors (v : Value) :
    Mirrors ρ (rename ρ) (look fun h => Value.shown h v)
      (look fun h => Value.shown h (v.rename ρ)) :=
  look_mirrors fun _ _ image => Value.shown_rename image v

omit agree in
theorem converted_mirrors (conversion : Option Conversion) (v : Value) :
    Mirrors ρ (rename ρ) (converted conversion v) (converted conversion (v.rename ρ)) := by
  rcases conversion with _ | _ | _ | _
  · exact .pure v
  · exact shown_mirrors v
  · refine .bind (f := id) (look_mirrors fun h h' image => ?_) fun t => ?_
    · rw [Value.quoted_rename image, Outcome.map_id]
    · exact .pure' (Value.rename_builtText ..).symm
  · refine .bind (f := id) (look_mirrors fun h h' image => ?_) fun t => ?_
    · rw [Value.asciiQuoted_rename image, Outcome.map_id]
    · exact .pure' (Value.rename_builtText ..).symm

theorem specText_mirrors (e : Option Expr) :
    Mirrors ρ id (specText eval e) (specText eval' e) := by
  cases e with
  | none => exact .pure []
  | some e => exact .bind (agree e) plain_mirrors

omit agree in
theorem joined_mirrors (texts : List Value) :
    Mirrors ρ (rename ρ) (joined texts) (joined (texts.map (rename ρ))) := by
  have built : Mirrors ρ (rename ρ)
      (do
        let ts ← texts.mapM fun t => look fun h => Value.plain h t
        return Value.builtText ts.flatten)
      (do
        let ts ← (texts.map (rename ρ)).mapM fun t => look fun h => Value.plain h t
        return Value.builtText ts.flatten) :=
    .bind (.mapM texts plain_mirrors) fun ts => .pure' (by simp)
  rcases texts with _ | ⟨t, _ | ⟨u, rest⟩⟩
  · exact built
  · exact .pure t
  · exact built

theorem inRow_mirrors (parts : List Expr) :
    Mirrors ρ (rename ρ) (inRow eval parts) (inRow eval' parts) := by
  have shown : ∀ e, Mirrors ρ (rename ρ)
      (do let v ← eval e; look fun h => Value.shown h v)
      (do let v ← eval' e; look fun h => Value.shown h v) :=
    fun e => .bind (agree e) shown_mirrors
  exact .bind (.eachM parts shown) joined_mirrors

omit agree in
theorem callOf_rename (args : List Value) (keywords : Entries) :
    callOf (args.map (rename ρ)) (keywords.rename ρ) =
      (callOf args keywords).map (Call.rename ρ) := by
  have keyword : ∀ e : Value × Value, keywordOf (e.1.rename ρ, e.2.rename ρ) =
      (keywordOf e).map fun k => (k.1, k.2.rename ρ) := by
    rintro ⟨k, v⟩
    cases k <;> rfl
  have named : (keywords.rename ρ).mapM keywordOf =
      (keywords.mapM keywordOf).map (OrderedMap.rename ρ) :=
    Outcome.mapM_map _ _ keyword keywords
  rw [callOf, named, callOf, Outcome.bind_map, Outcome.map_bind]
  rfl

end
end Render

/-- An interpreter that evaluates alike in a state and in its image, where every helper finds its
context under the one name. -/
structure Interpreter.Mirrors (ρ : Renaming) (lower : Interpreter) : Prop where
  readers : ρ.reader = ρ.context
  eval : ∀ r locals e, Render.Mirrors ρ (rename ρ) (lower.eval r locals e)
    (lower.eval (ρ.run r) (OrderedMap.rename ρ locals) e)
  invoke : ∀ f c, Render.Mirrors ρ (rename ρ) (lower.invoke f c)
    (lower.invoke (f.rename ρ) (c.rename ρ))

namespace Interpreter

variable {lower : Interpreter} (mirrors : lower.Mirrors ρ) (r : Nat) (locals : Locals)
include mirrors

theorem callWith_mirrors (f : Value) (args : List Expr) (keywords : List (Option Text × Expr)) :
    Render.Mirrors ρ (rename ρ) (lower.callWith r locals f args keywords)
      (lower.callWith (ρ.run r) (OrderedMap.rename ρ locals) (f.rename ρ) args keywords) := by
  have eval := mirrors.eval r locals
  refine .bind (Render.elements_mirrors eval args) fun args => ?_
  refine .bind (Render.keywordItems_mirrors eval [] keywords) fun keywords => ?_
  rw [Entries.values_rename, Limits.checkCall_rename]
  refine .bind (.same _) fun _ => .bind (.ofExcept (Render.callOf_rename args keywords)) fun c => ?_
  refine .bind (mirrors.invoke f c) fun v => ?_
  exact .bind (Render.checkDeadline_mirrors r) fun _ => .pure v

theorem call_mirrors (f : Expr) (args : List Expr) (keywords : List (Option Text × Expr)) :
    Render.Mirrors ρ (rename ρ) (lower.call r locals f args keywords)
      (lower.call (ρ.run r) (OrderedMap.rename ρ locals) f args keywords) := by
  refine .bind (mirrors.eval r locals f) fun f => ?_
  rw [Value.isCallable_rename, Value.kind_rename]
  refine .ite (.throw _) ?_
  have called := callWith_mirrors mirrors r locals f args keywords
  cases f with
  | cls k => exact .throw _
  | _ => exact called

theorem dispatch_mirrors (e : Expr) :
    Render.Mirrors ρ (rename ρ) (lower.dispatch r locals e)
      (lower.dispatch (ρ.run r) (OrderedMap.rename ρ locals) e) := by
  have eval := mirrors.eval r locals
  cases e with
  | literal l place => exact .pure' (Value.rename_ofLiteral ρ place l).symm
  | name id => exact Render.lookup_mirrors r locals id
  | «attribute» target attr =>
    exact .bind (eval target) fun v => Render.attributeOf_mirrors v attr
  | subscript target index =>
    refine .bind (eval target) fun t => .bind (eval index) fun i => ?_
    exact Render.ofMemory_mirrors (Value.subscript_mirrors t i)
  | slice lower upper step =>
    refine .bind (Render.optional_mirrors eval lower) fun a => ?_
    refine .bind (Render.optional_mirrors eval upper) fun b => ?_
    exact .bind (Render.optional_mirrors eval step) fun c => .pure (Value.ofBounds a b c)
  | call f args keywords => exact call_mirrors mirrors r locals f args keywords
  | binary op left right =>
    refine .bind (eval left) fun a => .bind (eval right) fun b => ?_
    exact Render.ofMemory_mirrors (Value.binary_mirrors op a b)
  | unary op operand =>
    refine .bind (eval operand) fun a => ?_
    exact Render.look_mirrors fun _ _ image => Value.unary_rename image op a
  | boolean op operands => exact Render.connect_mirrors eval op .none operands
  | compare left rest =>
    refine .bind (eval left) fun a => ?_
    exact .bind (Render.compareChain_mirrors eval a rest) fun b => .pure (Value.bool b)
  | conditional test body orElse =>
    refine .bind (eval test) fun t => .read fun s s' image => ?_
    rw [Value.truth_rename image.heap]
    exact eval _
  | list items =>
    refine .bind (Render.elements_mirrors eval items) fun vs => ?_
    exact Render.ofMemory_mirrors (Memory.newList_mirrors vs)
  | tuple items =>
    refine .bind (Render.elements_mirrors eval items) fun vs => ?_
    exact .pure' (Value.ofItems_map vs)
  | set items =>
    refine .bind (Render.elements_mirrors eval items) fun vs => ?_
    refine Render.injective_mirrors fun injective => ?_
    have hashable : (vs.map (rename ρ)).all Value.isHashable = vs.all Value.isHashable := by
      simp [Function.comp_def]
    have inserted := Value.insertItems_rename injective [] vs
    rw [List.map_nil] at inserted
    rw [hashable, inserted]
    exact .ite (Render.ofMemory_mirrors (Memory.newSet_mirrors _)) (.throw _)
  | dict items =>
    refine .bind (Render.dictItems_mirrors eval [] items) fun m => ?_
    exact Render.ofMemory_mirrors (Memory.newDict_mirrors m)
  | joined parts => exact Render.inRow_mirrors eval parts
  | formatted value conversion spec =>
    refine .bind (eval value) fun v => .bind (Render.converted_mirrors conversion v) fun v => ?_
    refine .bind (Render.specText_mirrors eval spec) fun spec => .bind (.same _) fun _ => ?_
    exact Render.look_mirrors fun _ _ image => Value.formatted_rename image v spec
  | lambda params place body => exact Render.newClosure_mirrors ⟨params, body, locals, r⟩
  | starred e => exact .throw _
  | foreign f => exact .throw _

theorem node_mirrors (e : Expr) :
    Render.Mirrors ρ (rename ρ) (lower.node r locals e)
      (lower.node (ρ.run r) (OrderedMap.rename ρ locals) e) := by
  refine .bind (Render.checkDeadline_mirrors r) fun _ => ?_
  exact .bind (Render.guarded_mirrors r (dispatch_mirrors mirrors r locals e)) Render.mark_mirrors

end Interpreter
end Phrasebook
