import Phrasebook.Proofs.Ordinary.Call
import Phrasebook.Proofs.Renaming.Eval
import Phrasebook.Proofs.Simulation.State
/-!
Nodes evaluated side by side: whatever the form of an expression, the second evaluation goes along with
the first as long as those of the parts do.
-/
namespace Phrasebook

open Value (rename)

theorem OrderedMap.still_get? {ρ : Renaming} {m : OrderedMap Value} (still : m.rename ρ = m)
    {name : Text} {v : Value} (found : m.get? name = some v) : v.rename ρ = v := by
  have image := OrderedMap.get?_rename ρ m name
  rw [still, found] at image
  exact (Option.some.inj image).symm

theorem Entries.still_insert {ρ : Renaming} (injective : ρ.IsInjective) {m : Entries}
    {key v : Value} (stillM : m.rename ρ = m) (stillKey : key.rename ρ = key)
    (still : v.rename ρ = v) : (m.insert key v).rename ρ = m.insert key v := by
  rw [← insert_rename injective, stillM, stillKey, still]

namespace Render

variable {K : Simulation}

theorem lookup_follows {r : Nat} {locals : Locals}
    (still : OrderedMap.rename K.moving locals = locals) {name : Text}
    (scope : K.scope r locals (.name name)) :
    Follows K (rename K.moving) (lookup r locals name) (lookup r locals name) := by
  rw [lookup]
  cases found : locals.lookup name with
  | some v => exact .pure (OrderedMap.still_get? still found)
  | none =>
    refine .read fun s runs store near => ?_
    have data := K.data near.runs scope found
    have image : (Run.entry s.runs r).rename K.moving = Run.entry s.runs r := by
      have entry := near.image.runs.entry r
      change s.runs[r]? = _ at entry
      rw [Run.entry]
      cases held : s.runs[r]? with
      | none => rfl
      | some run =>
        rw [held] at entry
        exact (Option.some.inj entry).symm
    simp only [Run.entry] at data
    dsimp only [RenderState.beside]
    rw [data]
    cases entry : (s.runs[r]?.getD standIn).data.get? name with
    | some v =>
      exact .pure (OrderedMap.still_get? (congrArg Run.data image) entry)
    | none => exact .throw (K.runtime (.ordinary (.undefinedName name)))

theorem attributeOf_follows {r : Nat} {locals : Locals} {target : Value}
    (still : target.rename K.moving = target) {e : Expr} {attr : Text}
    (scope : K.scope r locals (.attribute e attr)) :
    Follows K (rename K.moving) (attributeOf target attr) (attributeOf target attr) := by
  unfold attributeOf
  split
  · rename_i forbidden
    exact .throw (K.refused scope (.attribute e forbidden))
  · exact look_follows (fun _ _ image => shownMember_rename image target attr)
      (by rw [still]) fun h => shownMember_failsOnly .ordinary (.partialAttribute attr) h target

section
variable {eval eval' : Expr → Render Value}

theorem elements_follows {es : List Expr}
    (follows : ∀ e ∈ es, Follows K (rename K.moving) (eval e.unstarred) (eval' e.unstarred)) :
    Follows K (List.map (rename K.moving)) (elements eval es) (elements eval' es) := by
  induction es with
  | nil => exact .pure rfl
  | cons e rest ih =>
    obtain ⟨first, later⟩ := List.forall_mem_cons.mp follows
    have ih := ih later
    have other (same : e.unstarred = e) : Follows K (List.map (rename K.moving))
        (do pure ((← eval e) :: (← elements eval rest)))
        (do pure ((← eval' e) :: (← elements eval' rest))) := by
      rw [same] at first
      refine .bind first fun v still => .bind ih fun vs others => .pure ?_
      rw [List.map_cons, still, others]
    cases e with
    | starred e =>
      refine .bind first fun v still => ?_
      have items := look_follows (fun _ _ image => Value.items_rename image v) (by rw [still])
        fun h => (v.items_ordinary h).runtime
      refine .bind items fun xs stillXs => ?_
      refine .bind (ofMemory_follows (Memory.markAll_mirrors xs) (by rw [stillXs]) (.modifyGet _)) ?_
      intro items stillItems
      refine .bind ih fun vs others => .pure ?_
      rw [List.map_append, stillItems, others]
    | _ => exact other rfl

theorem updated_follows {m : Entries} (stillM : m.rename K.moving = m) {source : Value}
    (still : source.rename K.moving = source) :
    Follows K (Entries.rename K.moving) (updated m source) (updated m source) := by
  refine .read fun s runs store near => ?_
  have image := Method.updateEntries_rename near.image.heap m source
  have ended := Method.updateEntries_endsOrdinary s.heap m source
  rw [stillM, still] at image
  rw [RenderState.beside_heap]
  generalize Method.updateEntries s.heap m source = outcome at image ended ⊢
  obtain ⟨m, _ | f⟩ := outcome
  · exact .pure (congrArg Prod.fst image).symm
  · exact .throw (K.runtime (.ordinary (ended f rfl)))

theorem dictItems_follows {items : List (Option Expr × Expr)}
    (keys : ∀ e ∈ items.filterMap (·.1), Follows K (rename K.moving) (eval e) (eval' e))
    (values : ∀ e ∈ items.map (·.2), Follows K (rename K.moving) (eval e) (eval' e))
    {m : Entries} (stillM : m.rename K.moving = m) :
    Follows K (Entries.rename K.moving) (dictItems eval m items) (dictItems eval' m items) := by
  induction items generalizing m with
  | nil => exact .pure stillM
  | cons item rest ih =>
    obtain ⟨value, later⟩ := List.forall_mem_cons.mp values
    obtain ⟨_ | k, e⟩ := item
    · refine .bind value fun v still => .bind (updated_follows stillM still) fun m => ?_
      exact ih keys later
    · obtain ⟨key, others⟩ := List.forall_mem_cons.mp keys
      refine .bind value fun v still => .bind key fun key stillKey => ?_
      refine .ite (ih others later ?_) (.throw (K.runtime (.ordinary .type)))
      exact Entries.still_insert (Renaming.past_injective _) stillM stillKey still

theorem keywordItems_follows {items : List (Option Text × Expr)}
    (values : ∀ e ∈ items.map (·.2), Follows K (rename K.moving) (eval e) (eval' e))
    {m : Entries} (stillM : m.rename K.moving = m) :
    Follows K (Entries.rename K.moving) (keywordItems eval m items) (keywordItems eval' m items) := by
  induction items generalizing m with
  | nil => exact .pure stillM
  | cons item rest ih =>
    obtain ⟨value, later⟩ := List.forall_mem_cons.mp values
    obtain ⟨_ | name, e⟩ := item
    · refine .bind value fun v still => .bind (updated_follows stillM still) fun m => ?_
      exact ih later
    · refine .bind value fun v still => ih later ?_
      exact Entries.still_insert (Renaming.past_injective _) stillM
        (Value.rename_ofName K.moving name) still

theorem connect_follows (op : Connective) {es : List Expr}
    (each : ∀ e ∈ es, Follows K (rename K.moving) (eval e) (eval' e)) {last : Value}
    (stillLast : last.rename K.moving = last) :
    Follows K (rename K.moving) (connect eval op last es) (connect eval' op last es) := by
  induction es generalizing last with
  | nil => exact .pure stillLast
  | cons e rest ih =>
    obtain ⟨first, later⟩ := List.forall_mem_cons.mp each
    refine .bind first fun v still => ?_
    exact .read fun _ _ _ _ => .ite (.pure still) (ih later still)

theorem compareChain_follows {items : List (CompareOp × Expr)}
    (each : ∀ e ∈ items.map (·.2), Follows K (rename K.moving) (eval e) (eval' e)) (left : Value) :
    Follows K id (compareChain eval left items) (compareChain eval' left items) := by
  induction items generalizing left with
  | nil => exact .pure rfl
  | cons item rest ih =>
    obtain ⟨first, later⟩ := List.forall_mem_cons.mp each
    refine .bind first fun right _ => ?_
    refine .bind (look_follows_id fun h => Value.holds_ordinary h item.1 left right) fun holds _ => ?_
    exact .ite (ih later right) (.pure rfl)

theorem optional_follows {e : Option Expr}
    (each : ∀ d ∈ e.toList, Follows K (rename K.moving) (eval d) (eval' d)) :
    Follows K (rename K.moving) (optional eval e) (optional eval' e) := by
  cases e with
  | none => exact .pure rfl
  | some e => exact each e (List.mem_singleton_self e)

theorem shown_follows {v : Value} (still : v.rename K.moving = v) :
    Follows K (rename K.moving) (look fun h => Value.shown h v) (look fun h => Value.shown h v) :=
  look_follows (fun _ _ image => Value.shown_rename image v) (by rw [still])
    fun h => (Value.shown_ordinary h v).runtime

theorem plain_follows (v : Value) :
    Follows K id (look fun h => Value.plain h v) (look fun h => Value.plain h v) :=
  look_follows_id fun h => Value.plain_ordinary h v

theorem converted_follows (conversion : Option Conversion) {v : Value}
    (still : v.rename K.moving = v) :
    Follows K (rename K.moving) (converted conversion v) (converted conversion v) := by
  rcases conversion with _ | _ | _ | _
  · exact .pure still
  · exact shown_follows still
  · refine .bind (look_follows_id fun h => Value.quoted_ordinary h v) fun t _ => .pure ?_
    exact Value.rename_builtText K.moving t
  · refine .bind (look_follows_id fun h => Value.asciiQuoted_ordinary h v) fun t _ => .pure ?_
    exact Value.rename_builtText K.moving t

theorem specText_follows {e : Option Expr}
    (each : ∀ d ∈ e.toList, Follows K (rename K.moving) (eval d) (eval' d)) :
    Follows K id (specText eval e) (specText eval' e) := by
  cases e with
  | none => exact .pure rfl
  | some e => exact .bind (each e (List.mem_singleton_self e)) fun v _ => plain_follows v

theorem inRow_follows {parts : List Expr}
    (each : ∀ e ∈ parts, Follows K (rename K.moving) (eval e) (eval' e)) :
    Follows K (rename K.moving) (inRow eval parts) (inRow eval' parts) := by
  refine .bind (.mapM parts fun e member => .bind (each e member) fun v => shown_follows) ?_
  intro texts still
  have built : Follows K (rename K.moving)
      (do return Value.builtText (← texts.mapM fun t => look fun h => Value.plain h t).flatten)
      (do return Value.builtText (← texts.mapM fun t => look fun h => Value.plain h t).flatten) :=
    .bind (.mapM texts fun t _ => plain_follows t) fun ts _ => .pure (Value.rename_builtText ..)
  rcases texts with _ | ⟨t, _ | ⟨u, rest⟩⟩
  · exact built
  · exact .pure (List.cons.inj still).1
  · exact built

end
end Render

/-- An interpreter that goes along with another, in what a simulation looks at. -/
structure Interpreter.Follows (K : Simulation) (lower lower' : Interpreter) : Prop where
  eval : ∀ {r locals e}, OrderedMap.rename K.moving locals = locals → K.scope r locals e →
    Render.Follows K (rename K.moving) (lower.eval r locals e) (lower'.eval r locals e)
  invoke : ∀ {f c}, f.rename K.moving = f → c.rename K.moving = c →
    Render.Follows K (rename K.moving) (lower.invoke f c) (lower'.invoke f c)

namespace Interpreter

variable {K : Simulation} {lower lower' : Interpreter} (follows : lower.Follows K lower') {r : Nat}
  {locals : Locals} (still : OrderedMap.rename K.moving locals = locals)
include follows still

theorem call_follows {f : Expr} {args : List Expr} {keywords : List (Option Text × Expr)}
    (scope : K.scope r locals (.call f args keywords)) :
    Render.Follows K (rename K.moving) (lower.call r locals f args keywords)
      (lower'.call r locals f args keywords) := by
  obtain ⟨function, values⟩ := List.forall_mem_cons.mp (K.parts scope)
  refine .bind (follows.eval still function) fun f stillF => ?_
  refine .ite (.throw (K.runtime (.ordinary (.notCallable _)))) ?_
  have called : Render.Follows K (rename K.moving) (lower.callWith r locals f args keywords)
      (lower'.callWith r locals f args keywords) := by
    refine .bind (Render.elements_follows fun e member =>
      follows.eval still (K.items scope e member)) fun args stillArgs => ?_
    refine .bind (Render.keywordItems_follows (fun e member =>
      follows.eval still (values e member)) rfl) fun keywords stillKeywords => ?_
    refine .bind (.same (Limits.checkCall_ordinary f args _)) fun _ _ => ?_
    have call := Render.callOf_rename (ρ := K.moving) args keywords
    refine .bind (.ofExcept call (by rw [stillArgs, stillKeywords])
      (Render.callOf_ordinary args keywords).runtime) fun c stillC => ?_
    refine .bind (follows.invoke stillF stillC) fun v still => ?_
    exact .bind (Render.checkDeadline_follows r) fun _ _ => .pure still
  cases f with
  | cls k => exact .throw (K.runtime .classCalled)
  | _ => exact called

theorem dispatch_follows {e : Expr} (scope : K.scope r locals e) :
    Render.Follows K (rename K.moving) (lower.dispatch r locals e)
      (lower'.dispatch r locals e) := by
  have eval : ∀ d ∈ e.parts, Render.Follows K (rename K.moving) (lower.eval r locals d)
      (lower'.eval r locals d) := fun d member => follows.eval still (K.parts scope d member)
  have items : ∀ d ∈ e.items, Render.Follows K (rename K.moving)
      (lower.eval r locals d.unstarred) (lower'.eval r locals d.unstarred) :=
    fun d member => follows.eval still (K.items scope d member)
  cases e with
  | literal l place => exact .pure (Value.rename_ofLiteral K.moving place l)
  | name id => exact Render.lookup_follows still scope
  | «attribute» target attr =>
    refine .bind (eval target (by simp [Expr.parts, Expr.children])) fun v still => ?_
    exact Render.attributeOf_follows still scope
  | subscript target index =>
    refine .bind (eval target (by simp [Expr.parts, Expr.children])) fun t stillT => ?_
    refine .bind (eval index (by simp [Expr.parts, Expr.children])) fun i stillI => ?_
    exact Render.ofMemory_follows (Value.subscript_mirrors t i) (by rw [stillT, stillI])
      (Value.subscript_ordinary t i)
  | slice lower upper step =>
    obtain ⟨bounds, third⟩ := List.forall_mem_append.mp eval
    obtain ⟨first, second⟩ := List.forall_mem_append.mp bounds
    refine .bind (Render.optional_follows first) fun a stillA => ?_
    refine .bind (Render.optional_follows second) fun b stillB => ?_
    refine .bind (Render.optional_follows third) fun c stillC => .pure ?_
    rw [Value.rename_ofBounds, stillA, stillB, stillC]
  | call f args keywords => exact call_follows follows still scope
  | binary op left right =>
    refine .bind (eval left (by simp [Expr.parts, Expr.children])) fun a stillA => ?_
    refine .bind (eval right (by simp [Expr.parts, Expr.children])) fun b stillB => ?_
    cases allowed : op.isAllowed with
    | true =>
      exact Render.ofMemory_follows (Value.binary_mirrors op a b) (by rw [stillA, stillB])
        (Value.binary_ordinary allowed a b)
    | false =>
      rw [Value.binary_foreign allowed]
      exact .throw (K.refused scope (.operator left right allowed))
  | unary op operand =>
    refine .bind (eval operand (by simp [Expr.parts, Expr.children])) fun a stillA => ?_
    exact Render.look_follows (fun _ _ image => Value.unary_rename image op a) (by rw [stillA])
      fun h => (Value.unary_ordinary h op a).runtime
  | boolean op operands => exact Render.connect_follows op eval rfl
  | compare left rest =>
    obtain ⟨first, later⟩ := List.forall_mem_cons.mp eval
    refine .bind first fun a _ => ?_
    exact .bind (Render.compareChain_follows later a) fun b _ => .pure rfl
  | conditional test body orElse =>
    refine .bind (eval test (by simp [Expr.parts, Expr.children])) fun t _ => ?_
    refine .read fun s _ _ _ => ?_
    rw [RenderState.beside_heap]
    refine eval _ ?_
    split <;> simp [Expr.parts, Expr.children]
  | list es =>
    refine .bind (Render.elements_follows items) fun vs stillVs => ?_
    exact Render.ofMemory_follows (Memory.newList_mirrors vs) (by rw [stillVs])
      (Memory.newList_ordinary vs)
  | tuple es =>
    refine .bind (Render.elements_follows items) fun vs stillVs => .pure ?_
    rw [Value.rename_ofItems, stillVs]
  | set es =>
    refine .bind (Render.elements_follows items) fun vs stillVs => ?_
    have inserted := Value.insertItems_rename (Renaming.past_injective K.shift) [] vs
    rw [List.map_nil, show vs.map (rename (.past K.shift)) = vs from stillVs] at inserted
    refine .ite (Render.ofMemory_follows (Memory.newSet_mirrors _) ?_ (Memory.newSet_ordinary _))
      (.throw (K.runtime (.ordinary .type)))
    rw [Simulation.moving, ← inserted]
  | dict items =>
    obtain ⟨keys, values⟩ := List.forall_mem_append.mp eval
    refine .bind (Render.dictItems_follows keys values rfl) fun m stillM => ?_
    exact Render.ofMemory_follows (Memory.newDict_mirrors m) (by rw [stillM])
      (Memory.newDict_ordinary m)
  | joined parts => exact Render.inRow_follows eval
  | formatted value conversion spec =>
    obtain ⟨first, later⟩ := List.forall_mem_cons.mp eval
    refine .bind first fun v stillV => ?_
    refine .bind (Render.converted_follows conversion stillV) fun v stillV => ?_
    refine .bind (Render.specText_follows later) fun spec _ => ?_
    refine .bind (.same (Limits.checkSpec_ordinary spec)) fun _ _ => ?_
    exact Render.look_follows (fun _ _ image => Value.formatted_rename image v spec)
      (by rw [stillV]) fun h => (Value.formatted_ordinary h v spec).runtime
  | lambda params place body =>
    refine Render.newClosure_follows ?_ (K.body scope)
    rw [Closure.rename, still]
    rfl
  | starred e => exact .throw (K.refused scope (.starred e))
  | foreign f => exact .throw (K.refused scope (.foreign f))

end Interpreter
end Phrasebook
