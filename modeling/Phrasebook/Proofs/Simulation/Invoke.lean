import Phrasebook.Proofs.Renaming.Invoke
import Phrasebook.Proofs.Simulation.Eval
/-!
Calls made side by side. Of the helpers that are bound to a context, those that ask the store are left
to the simulation, unless it moves them.
-/
namespace Phrasebook

open Value (rename)

namespace Render

variable {K : Simulation}

theorem useEngine_follows {α : Type} (owner : EngineOwner)
    {ask : PluralEngine → α × PluralEngine × List LogRecord}
    (same : ∀ e e' : PluralEngine, e.Agrees e' → (ask e').1 = (ask e).1)
    (keeps : ∀ e : PluralEngine, e.Agrees (ask e).2.1) :
    Follows K id (useEngine owner ask) (useEngine owner ask) := by
  refine follows_of_blind (useEngine_mirrors owner same keeps) rfl (fun _ _ _ _ => ?_)
    (.bind ?_ fun _ => .bind ?_ fun _ => .bind (.modify _) fun _ => .pure _)
  · cases owner <;> rfl
  · cases owner <;> exact .bind .get fun _ => .pure _
  · cases owner <;> exact .modify _

end Render

/-- What asks the store does the same beside. -/
def Simulation.Asks (K : Simulation) (lower lower' : Interpreter) : Prop :=
  ∀ (h : Helper) (r : Nat) (o : Origin) (c : Call), h.asksStore = true →
    (Value.boundHelper h r o).rename K.moving = .boundHelper h r o → c.rename K.moving = c →
      Render.Follows K (rename K.moving) (lower.helperResult r h c) (lower'.helperResult r h c)

/-- With a shift nothing asks the store. -/
theorem Simulation.asks_of_shift {K : Simulation} (shifted : K.shift ≠ 0)
    (lower lower' : Interpreter) : K.Asks lower lower' := by
  intro h r o c asks still _
  obtain ⟨-, place, -⟩ := Value.boundHelper.inj still
  rw [Renaming.contextFor, if_pos asks] at place
  exact absurd (Nat.add_eq_left.mp place) shifted

namespace Interpreter

variable {K : Simulation}

theorem formIndex_follows (owner : EngineOwner) (count forms language : Value) :
    Render.Follows K id (formIndex owner count forms language)
      (formIndex owner count forms language) := by
  refine .bind (.same (tagOf_ordinary language)) fun tag _ => ?_
  have rule := Render.useEngine_follows (K := K) owner (fun _ _ agrees => agrees.rule tag)
    fun e => e.agrees_ruleFor tag
  refine .bind rule fun rule _ => .bind (.same (countOf_ordinary count)) fun count _ => ?_
  refine .bind (.same (rule.index_ordinary count)) fun index _ => ?_
  refine .bind (Render.look_follows_id fun h => formsLength_ordinary h forms) fun size _ => ?_
  exact Render.useEngine_follows owner (fun e e' _ => e.clampIndex_fst e' rule index size)
    fun e => e.agrees_clampIndex rule index size

theorem required_follows {c : Call} (still : c.rename K.moving = c) (params : List String) :
    Render.Follows K (List.map (rename K.moving)) (ofExcept (required c params))
      (ofExcept (required c params)) :=
  .ofExcept (required_rename c params) (by rw [still]) (required_ordinary c params).runtime

section
variable {lower lower' : Interpreter} (follows : lower.Follows K lower')
include follows

theorem callBack_follows {f : Value} (stillF : f.rename K.moving = f) {args : List Value}
    (still : args.map (rename K.moving) = args) :
    Render.Follows K (rename K.moving) (lower.callBack f args) (lower'.callBack f args) :=
  .ite (follows.invoke stillF (congrArg (Call.mk · []) still))
    (.throw (K.runtime (.ordinary (.notCallable _))))

theorem callMember_follows {target : Value} (stillTarget : target.rename K.moving = target)
    (name : Text) {args : List Value} (still : args.map (rename K.moving) = args) :
    Render.Follows K (rename K.moving) (lower.callMember target name args)
      (lower'.callMember target name args) := by
  refine .bind (Render.look_follows (fun _ _ image => Value.member_rename image target name)
    (by rw [stillTarget]) fun h => (target.member_ordinary h name).runtime) fun f stillF => ?_
  exact callBack_follows follows stillF still

theorem enter_follows {closure : Closure} (stillClosure : closure.rename K.moving = closure)
    (permits : K.Permits closure) {args : List Value} (still : args.map (rename K.moving) = args) :
    Render.Follows K (rename K.moving) (lower.enter closure args) (lower'.enter closure args) := by
  have locals : OrderedMap.rename K.moving closure.locals = closure.locals :=
    congrArg Closure.locals stillClosure
  have given : OrderedMap.rename K.moving (closure.params.zip args) = closure.params.zip args := by
    rw [← OrderedMap.zip_rename, still]
  unfold enter
  split
  · exact .throw (K.runtime (.ordinary (.lambdaArity ..)))
  · rename_i arity
    refine follows.eval ?_ (permits args (not_not.mp arity))
    rw [OrderedMap.rename] at locals given ⊢
    rw [List.map_append, List.map_reverse, given, locals]

theorem callLambda_follows (r : Nat) {c : Call} (still : c.rename K.moving = c) :
    Render.Follows K (rename K.moving) (lower.callLambda r c) (lower'.callLambda r c) := by
  refine .ite (.throw (K.runtime (.ordinary .type))) (Render.closure_follows ?_)
  intro closure same permits
  cases closure with
  | none => exact .throw (K.runtime (.ordinary .type))
  | some closure =>
    exact enter_follows follows (Option.some.inj same) (permits closure rfl)
      (congrArg Call.args still)

theorem callFunction_follows (f : HostFunction) {c : Call} (still : c.rename K.moving = c) :
    Render.Follows K (rename K.moving) (lower.callFunction f c) (lower'.callFunction f c) := by
  have misused : Render.Follows K (rename K.moving) (throw .type) (throw .type) :=
    .throw (K.runtime (.ordinary .type))
  cases f with
  | upper =>
    refine .bind (required_follows still _) fun args stillArgs => ?_
    rcases args with _ | ⟨s, _ | ⟨t, rest⟩⟩
    · exact misused
    · exact callMember_follows follows (List.cons.inj stillArgs).1 "upper" rfl
    · exact misused
  | join =>
    have sep := separatorOf_rename (ρ := K.moving) c
    refine .bind (.ofExcept sep (by rw [still]) (separatorOf_ordinary c).runtime) ?_
    intro sep stillSep
    have args : c.args.map (rename K.moving) = c.args := congrArg Call.args still
    refine callMember_follows follows stillSep "join" ?_
    rw [List.map_singleton, Value.rename_ofItems, args]
  | boom =>
    exact .bind (.same c.empty_ordinary) fun _ _ => .throw (K.runtime (.ordinary (.raised _)))
  | apply =>
    refine .bind (required_follows still _) fun args stillArgs => ?_
    rcases args with _ | ⟨f, _ | ⟨t, rest⟩⟩
    · exact misused
    · exact callBack_follows follows (List.cons.inj stillArgs).1 rfl
    · exact misused
  | twice =>
    refine .bind (required_follows still _) fun args stillArgs => ?_
    rcases args with _ | ⟨f, _ | ⟨x, _ | ⟨t, rest⟩⟩⟩
    · exact misused
    · exact misused
    · obtain ⟨stillF, stillX⟩ := List.cons.inj stillArgs
      refine .bind (callBack_follows follows stillF stillX) fun y stillY => ?_
      exact callBack_follows follows stillF (congrArg (fun y => [y]) stillY)
    · exact misused
  | keywords =>
    exact Render.ofMemory_follows (keywordLists_mirrors c) (by rw [still]) (keywordLists_ordinary c)
  | length =>
    exact Render.look_follows (fun _ _ image => lengthOf_rename image c) (by rw [still])
      fun h => (lengthOf_ordinary h c).runtime

theorem sortKeys_follows {key : Value} (stillKey : key.rename K.moving = key) {xs : List Value}
    (still : xs.map (rename K.moving) = xs) :
    Render.Follows K (List.map (Value.Keyed.rename K.moving)) (lower.sortKeys key xs)
      (lower'.sortKeys key xs) := by
  have each : ∀ x ∈ xs, x.rename K.moving = x :=
    List.map_inj_left.mp (still.trans (List.map_id xs).symm)
  have called : Render.Follows K (List.map (Value.Keyed.rename K.moving))
      (xs.mapM fun x => do pure ⟨← lower.callBack key [x], x⟩)
      (xs.mapM fun x => do pure ⟨← lower'.callBack key [x], x⟩) := by
    refine .mapM xs fun x member => ?_
    have one := congrArg (fun x => [x]) (each x member)
    refine .bind (callBack_follows follows stillKey one) fun k stillK => .pure ?_
    rw [Value.Keyed.rename, stillK, each x member]
  cases key with
  | none =>
    refine .pure ?_
    rw [List.map_map]
    exact List.map_congr_left fun x member =>
      congrArg₂ Value.Keyed.mk (each x member) (each x member)
  | _ => exact called

theorem sortList_follows (r : Nat) {c : Call} (still : c.rename K.moving = c) :
    Render.Follows K (rename K.moving) (lower.sortList r c) (lower'.sortList r c) := by
  have settings := sortSettings_rename (ρ := K.moving) c
  refine .bind (.ofExcept settings (by rw [still]) (sortSettings_ordinary c).runtime) ?_
  intro settings stillKey
  obtain ⟨key, reverse⟩ := settings
  have stillKey : key.rename K.moving = key := congrArg Prod.fst stillKey
  refine .bind (Render.ofMemory_follows (Memory.beginSort_mirrors r) rfl (.modifyGet _)) ?_
  intro begun stillXs
  obtain ⟨xs, sort⟩ := begun
  have stillXs : xs.map (rename K.moving) = xs := congrArg Prod.fst stillXs
  have ended : ∀ items : List Value, items.map (rename K.moving) = items →
      Render.Follows K id (Render.ofMemory (Memory.endSort sort r items))
        (Render.ofMemory (Memory.endSort sort r items)) := fun items still =>
    Render.ofMemory_follows (Memory.endSort_mirrors sort r items)
      (by rw [still, show K.moving.sorts + sort = sort from Nat.zero_add sort]; rfl)
      (.bind (.modifyGet _) fun _ => .bind (Memory.writeList_ordinary r items) fun _ => .pure _)
  refine .bind (.tryCatch (sortKeys_follows follows stillKey stillXs) ?_ ?_) ?_
  · exact fun f allowed => .bind (ended xs stillXs) fun _ _ => .throw allowed
  · exact fun f excused s => ⟨f, _, rfl, excused⟩
  · refine fun keyed stillKeyed => .read fun s runs store near => ?_
    have sorted := Value.sortKeyed_rename near.image.heap reverse keyed
    rw [stillKeyed] at sorted
    have stillSorted := (congrArg Prod.fst sorted).symm
    have faults := fun f => Value.sortKeyed_faults s.heap reverse keyed (f := f)
    rw [RenderState.beside_heap]
    generalize Value.sortKeyed s.heap reverse keyed = result at stillSorted faults ⊢
    obtain ⟨sorted, fault⟩ := result
    refine .bind (ended sorted stillSorted) fun filled _ => ?_
    cases fault with
    | some f => exact .throw (K.runtime (.ordinary (faults f rfl)))
    | none => exact .ite (.throw (K.runtime (.ordinary .value))) (.pure rfl)

theorem callMethod_follows {v : Value} (stillV : v.rename K.moving = v) (name : Text) {c : Call}
    (still : c.rename K.moving = c) :
    Render.Follows K (rename K.moving) (lower.callMethod v name c) (lower'.callMethod v name c) := by
  have other := Render.ofMemory_follows (Method.call_mirrors v name c) (by rw [stillV, still])
    (Method.call_ordinary v name c)
  cases v with
  | list r => exact .ite (sortList_follows follows r still) other
  | _ => exact other

theorem fillForm_follows {form count : Value} (stillForm : form.rename K.moving = form)
    (still : count.rename K.moving = count) :
    Render.Follows K (rename K.moving) (lower.fillForm form count) (lower'.fillForm form count) := by
  refine .ite (follows.invoke stillForm (congrArg (fun v => Call.mk [v] []) still)) ?_
  refine .bind (Render.plain_follows count) fun shown _ => ?_
  exact .bind (Render.plain_follows form) fun t _ => .pure (Value.rename_builtText ..)

theorem selectForm_follows (owner : EngineOwner) {count forms : Value} (language : Value)
    (stillCount : count.rename K.moving = count) (stillForms : forms.rename K.moving = forms) :
    Render.Follows K (rename K.moving) (lower.selectForm owner count forms language)
      (lower'.selectForm owner count forms language) := by
  refine .read fun s _ _ _ => .ite (Render.shown_follows stillCount) ?_
  refine .bind (formIndex_follows owner count forms language) fun index _ => ?_
  refine .bind (Render.ofMemory_follows (Value.subscript_mirrors forms (.ofInt index))
    (by rw [stillForms, Value.rename_ofInt]) (forms.subscript_ordinary _)) fun form stillForm => ?_
  exact fillForm_follows follows stillForm stillCount

theorem helperResult_follows (r : Nat) {helper : Helper} (quiet : helper.asksStore = false)
    {c : Call} (still : c.rename K.moving = c) :
    Render.Follows K (rename K.moving) (lower.helperResult r helper c)
      (lower'.helperResult r helper c) := by
  cases helper with
  | tag =>
    refine .bind (Render.look_follows_id fun h => taggedText_ordinary h c) fun text _ => ?_
    exact .bind (Render.context_follows r) fun c _ => .pure (Value.rename_builtText ..)
  | translate => cases quiet
  | relocale => cases quiet
  | pluralize =>
    have choice := choiceOf_rename (ρ := K.moving) c
    refine .bind (.ofExcept choice (by rw [still]) (choiceOf_ordinary c).runtime) ?_
    intro choice stillChoice
    obtain ⟨count, forms, language⟩ := choice
    refine .bind (Render.context_follows r) fun c _ => .read fun s _ _ _ => ?_
    exact selectForm_follows follows c.engine _ (congrArg Prod.fst stillChoice)
      (congrArg (·.2.1) stillChoice)

theorem callBeside_follows (helper : Helper) {context : Value}
    (stillContext : context.rename K.moving = context) {c : Call} (still : c.rename K.moving = c) :
    Render.Follows K (rename K.moving) (lower.callBeside helper context c)
      (lower'.callBeside helper context c) := by
  have misused : Render.Follows K (rename K.moving) (throw .type) (throw .type) :=
    .throw (K.runtime (.ordinary .type))
  have member : ∀ name : Text, Render.Follows K (rename K.moving)
      (Render.look fun h => context.member h name) (Render.look fun h => context.member h name) :=
    fun name => Render.look_follows (fun _ _ image => Value.member_rename image context name)
      (by rw [stillContext]) fun h => (context.member_ordinary h name).runtime
  obtain ⟨args, keywords⟩ := c
  obtain ⟨stillArgs, stillKeywords⟩ := Call.mk.inj still
  cases helper with
  | tag =>
    refine .bind (member "language_code") fun language _ => ?_
    refine .bind (member "base_language_code") fun base _ => ?_
    refine .bind (Render.look_follows_id fun h => taggedText_ordinary h _) fun text _ => ?_
    refine .bind (Render.plain_follows language) fun language _ => ?_
    exact .bind (Render.plain_follows base) fun base _ => .pure (Value.rename_builtText ..)
  | translate =>
    rcases args with _ | ⟨key, _ | ⟨t, rest⟩⟩
    · exact misused
    · refine .bind (member "render") fun render stillRender => ?_
      have data := Render.ofMemory_follows (K := K)
        (Memory.newDict_mirrors (keywords.map fun k => (Value.ofName k.1, k.2)))
        (by rw [← OrderedMap.entries_rename, stillKeywords]) (Memory.newDict_ordinary _)
      refine .bind data fun data stillData => callBack_follows follows stillRender ?_
      rw [List.map_cons, List.map_singleton, (List.cons.inj stillArgs).1, stillData]
    · exact misused
  | relocale =>
    rcases args with _ | ⟨tag, _ | ⟨t, rest⟩⟩
    · exact misused
    · exact callMember_follows follows stillContext "locale" stillArgs
    · exact misused
  | pluralize => exact misused

theorem callUnbound_follows (helper : Helper) {c : Call} (still : c.rename K.moving = c) :
    Render.Follows K (rename K.moving) (callUnbound lower helper c)
      (callUnbound lower' helper c) := by
  obtain ⟨_ | ⟨context, args⟩, keywords⟩ := c
  · exact .throw (K.runtime (.ordinary .type))
  · obtain ⟨stillArgs, stillKeywords⟩ := Call.mk.inj still
    obtain ⟨stillContext, stillArgs⟩ := List.cons.inj stillArgs
    refine callBeside_follows follows helper stillContext ?_
    exact congrArg₂ Call.mk stillArgs stillKeywords

variable (asks : K.Asks lower lower')
include asks

theorem callHelper_follows {helper : Helper} {r : Nat} {o : Origin}
    (stillF : (Value.boundHelper helper r o).rename K.moving = .boundHelper helper r o) {c : Call}
    (still : c.rename K.moving = c) :
    Render.Follows K (rename K.moving) (lower.callHelper r helper c)
      (lower'.callHelper r helper c) := by
  refine .ite (.throw (K.runtime (.ordinary .type))) ?_
  cases quiet : helper.asksStore with
  | true => exact asks helper r o c quiet stillF still
  | false => exact helperResult_follows follows r quiet still

theorem applied_follows {f : Value} (stillF : f.rename K.moving = f) {c : Call}
    (still : c.rename K.moving = c) :
    Render.Follows K (rename K.moving) (lower.applied f c) (lower'.applied f c) := by
  have misused {kind : Text} : Render.Follows K (rename K.moving) (throw (.notCallable kind))
      (throw (.notCallable kind)) := .throw (K.runtime (.ordinary (.notCallable kind)))
  cases f with
  | lambda r => exact callLambda_follows follows r still
  | function f => exact callFunction_follows follows f still
  | form before after o =>
    exact Render.look_follows (fun _ _ image => formText_rename image before after c)
      (by rw [still]) fun h => (formText_ordinary h before after c).runtime
  | boundHelper helper r o => exact callHelper_follows follows asks stillF still
  | helper helper => exact callUnbound_follows follows helper still
  | lookup r =>
    exact Render.look_follows (fun _ _ image => entryOf_rename image r c) (by rw [still]; rfl)
      fun h => (Method.getEntry_ordinary _ _).runtime
  | method receiver name o =>
    obtain ⟨stillReceiver, -⟩ := Value.method.inj stillF
    exact callMethod_follows follows stillReceiver name still
  | unbound k name =>
    have receiver := Method.receiverOf_rename (ρ := K.moving) k c
    refine .bind (.ofExcept receiver (by rw [still]) (Method.receiverOf_ordinary k c).runtime) ?_
    intro receiver stillReceiver
    exact callMethod_follows follows (congrArg Prod.fst stillReceiver) name
      (congrArg Prod.snd stillReceiver)
  | cls k =>
    exact Render.ofMemory_follows (Method.construct_mirrors k c) (by rw [still])
      (Method.construct_ordinary k c)
  | _ => exact misused

theorem apply_follows {f : Value} (stillF : f.rename K.moving = f) {c : Call}
    (still : c.rename K.moving = c) :
    Render.Follows K (rename K.moving) (lower.apply f c) (lower'.apply f c) :=
  .bind (applied_follows follows asks stillF still) fun _ => Render.mark_follows

end

theorem exhausted_follows : exhausted.Follows K exhausted where
  eval _ _ := .throw (K.runtime (.ordinary (.unworded .recursion)))
  invoke _ _ := .throw (K.runtime (.ordinary (.unworded .recursion)))

end Interpreter
end Phrasebook
