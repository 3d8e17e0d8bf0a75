import Phrasebook.Proofs.Renaming.Context
import Phrasebook.Proofs.Renaming.Compare
import Phrasebook.Render.Invoke
/-!
Calls in a state and in its image, and from them the interpreter on any stack.
-/
namespace Phrasebook

open Value (rename)

variable {ρ : Renaming}

namespace PluralEngine

variable {e e' : PluralEngine}

theorem Agrees.rule (agrees : e.Agrees e') (tag : Text) :
    (e'.ruleFor tag).1 = (e.ruleFor tag).1 := by
  have entry : entry? e' tag = entry? e tag := by
    unfold entry?
    rw [agrees.1]
  simp only [ruleFor, entry, agrees.2]
  cases entry? e tag with
  | some rule => rfl
  | none => split_ifs <;> rfl

theorem agrees_ruleFor (e : PluralEngine) (tag : Text) : e.Agrees (e.ruleFor tag).2.1 := by
  simp only [ruleFor]
  cases entry? e tag with
  | some rule => exact ⟨rfl, rfl⟩
  | none => split_ifs <;> exact ⟨rfl, rfl⟩

theorem clampIndex_fst (e e' : PluralEngine) (rule : PluralRule) (index forms : Nat) :
    (e'.clampIndex rule index forms).1 = (e.clampIndex rule index forms).1 := by
  simp only [clampIndex]
  split_ifs <;> rfl

theorem agrees_clampIndex (e : PluralEngine) (rule : PluralRule) (index forms : Nat) :
    e.Agrees (e.clampIndex rule index forms).2.1 := by
  simp only [clampIndex]
  split_ifs <;> exact ⟨rfl, rfl⟩

end PluralEngine

namespace Render

theorem useEngine_mirrors {α : Type} (owner : EngineOwner)
    {ask : PluralEngine → α × PluralEngine × List LogRecord}
    (same : ∀ e e' : PluralEngine, e.Agrees e' → (ask e').1 = (ask e).1)
    (keeps : ∀ e : PluralEngine, e.Agrees (ask e).2.1) :
    Mirrors ρ id (useEngine owner ask) (useEngine owner ask) := by
  intro s s' image
  cases owner with
  | facade =>
    change (RenderState.likeness ρ).Alike id s'
      (.ok (ask s.engine).1
        { s with engine := (ask s.engine).2.1, log := (ask s.engine).2.2.reverse ++ s.log })
      (.ok (ask s'.engine).1
        { s' with engine := (ask s'.engine).2.1, log := (ask s'.engine).2.2.reverse ++ s'.log })
    have kept := keeps s'.engine
    have agrees := (keeps s.engine).symm.trans (image.engine.trans kept)
    rw [same s.engine s'.engine image.engine]
    exact .ok _ { image with engine := agrees } { RenderState.Kept.refl ρ s' with engine := kept }
  | shared =>
    change (RenderState.likeness ρ).Alike id s'
      (.ok (ask s.sharedEngine).1
        { s with
          sharedEngine := (ask s.sharedEngine).2.1
          log := (ask s.sharedEngine).2.2.reverse ++ s.log })
      (.ok (ask s'.sharedEngine).1
        { s' with
          sharedEngine := (ask s'.sharedEngine).2.1
          log := (ask s'.sharedEngine).2.2.reverse ++ s'.log })
    have kept := keeps s'.sharedEngine
    have agrees := (keeps s.sharedEngine).symm.trans (image.sharedEngine.trans kept)
    rw [same s.sharedEngine s'.sharedEngine image.sharedEngine]
    exact .ok _ { image with sharedEngine := agrees }
      { RenderState.Kept.refl ρ s' with sharedEngine := kept }

end Render

namespace Interpreter

theorem required_rename (c : Call) (params : List String) :
    required (c.rename ρ) params = (required c params).map (List.map (rename ρ)) := by
  have each : ∀ v : Option Value, present (v.map (rename ρ)) = (present v).map (rename ρ) := by
    rintro (_ | v) <;> rfl
  rw [required, required, Call.named_rename, Outcome.bind_map, Outcome.map_bind]
  congr
  funext given
  exact Outcome.mapM_map _ _ each given

theorem lengthOf_rename {h h' : Heap} (image : Heap.Image ρ h h') (c : Call) :
    lengthOf h' (c.rename ρ) = (lengthOf h c).map (rename ρ) := by
  rw [lengthOf, lengthOf, Call.positional_rename, Outcome.bind_map, Outcome.map_bind]
  congr
  funext args
  rcases args with _ | ⟨v, _ | ⟨w, rest⟩⟩
  · rfl
  · simp only [List.map_cons, List.map_nil, Value.length?_rename image]
    cases v.length? h <;> rfl
  · rfl

theorem separatorOf_rename (c : Call) :
    separatorOf (c.rename ρ) = (separatorOf c).map (rename ρ) := by
  have other := OrderedMap.any_key_rename ρ c.keywords (· != Text.ofString "sep")
  simp only [separatorOf, Call.keywords_rename, OrderedMap.get?_rename, other]
  split_ifs
  · rfl
  · cases c.keywords.get? "sep" with
    | none => simp [Except.map]
    | some v => rfl

theorem formText_rename {h h' : Heap} (image : Heap.Image ρ h h') (before after : Text)
    (c : Call) :
    formText h' before after (c.rename ρ) = (formText h before after c).map (rename ρ) := by
  rw [formText, formText, required_rename, Outcome.bind_map, Outcome.map_bind]
  congr
  funext args
  rcases args with _ | ⟨n, _ | ⟨t, rest⟩⟩
  · rfl
  · simp only [List.map_cons, List.map_nil, Value.shown_rename image, Value.plain_rename image,
      Outcome.bind_map, Outcome.map_bind]
    congr
    funext shown
    split_ifs
    · rfl
    · simp only [Outcome.map_bind, Outcome.map_pure, Value.rename_builtText]
  · rfl

theorem keywordLists_mirrors (c : Call) :
    Memory.Mirrors ρ (rename ρ) (keywordLists c) (keywordLists (c.rename ρ)) := by
  have sorted : (c.keywords.rename ρ).mergeSort (fun a b => !Text.less b.1 a.1) =
      OrderedMap.rename ρ (c.keywords.mergeSort fun a b => !Text.less b.1 a.1) := by
    rw [OrderedMap.rename, OrderedMap.rename]
    refine (List.map_mergeSort ?_).symm
    exact fun _ _ _ _ => rfl
  have args : (c.rename ρ).args.isEmpty = c.args.isEmpty := List.isEmpty_map
  simp only [keywordLists, args, Call.keywords_rename, sorted]
  refine .ite (.throw _) (.bind (.mapM _ fun k => ?_) Memory.newList_mirrors)
  exact Memory.newList_mirrors [.ofName k.1, k.2]

theorem sortSettings_rename (c : Call) :
    sortSettings (c.rename ρ) = (sortSettings c).map (Prod.map (rename ρ) id) := by
  have args : (c.rename ρ).args.isEmpty = c.args.isEmpty := List.isEmpty_map
  simp only [sortSettings, args, Call.named_rename]
  split_ifs
  · rfl
  · rw [Outcome.bind_map, Outcome.map_bind]
    congr
    funext given
    rcases given with _ | ⟨key, _ | ⟨reverse, _ | ⟨t, rest⟩⟩⟩
    · rfl
    · rfl
    · have toInt : ((reverse.map (rename ρ)).getD (.bool false)).toInt =
          (reverse.getD (.bool false)).toInt := by
        cases reverse with
        | none => rfl
        | some v => exact Value.toInt_rename v
      simp only [List.map_cons, List.map_nil, toInt, Outcome.map_bind]
      cases key <;> rfl
    · rfl

theorem tagOf_rename (v : Value) : tagOf (v.rename ρ) = tagOf v := by
  cases v <;> rfl

theorem countOf_rename (v : Value) : countOf (v.rename ρ) = countOf v := by
  rw [countOf, Value.number?_rename, countOf]

theorem formsLength_rename {h h' : Heap} (image : Heap.Image ρ h h') (forms : Value) :
    formsLength h' (forms.rename ρ) = formsLength h forms := by
  rw [formsLength, Value.length?_rename image, formsLength]

theorem formIndex_mirrors (owner : EngineOwner) (count forms language : Value) :
    Render.Mirrors ρ id (formIndex owner count forms language)
      (formIndex owner (count.rename ρ) (forms.rename ρ) (language.rename ρ)) := by
  rw [formIndex, formIndex, tagOf_rename, countOf_rename]
  refine .bind (.same _) fun tag => ?_
  have rule := Render.useEngine_mirrors (ρ := ρ) owner
    (fun _ _ agrees => agrees.rule tag) fun e => e.agrees_ruleFor tag
  refine .bind rule fun rule => ?_
  refine .bind (.same _) fun count => .bind (.same _) fun index => ?_
  refine .bind (f := id) (Render.look_mirrors fun h h' image => ?_) fun size => ?_
  · rw [formsLength_rename image, Outcome.map_id]
  · exact Render.useEngine_mirrors owner
      (fun e e' _ => e.clampIndex_fst e' rule index size)
      fun e => e.agrees_clampIndex rule index size

theorem requestOf_rename {h h' : Heap} (image : Heap.Image ρ h h') (tag : Value) :
    requestOf h' (tag.rename ρ) = requestOf h tag := by
  rw [requestOf, Value.truth_rename image, tagOf_rename, requestOf]

theorem relocate_mirrors (r : Nat) (tag : Value) :
    Render.Mirrors ρ (rename ρ) (relocate r tag) (relocate (ρ.context r) (tag.rename ρ)) := by
  refine .bind (Render.context_mirrors r) fun c => ?_
  have other : Render.Mirrors ρ (rename ρ) (relocateTo r c tag)
      (relocateTo (ρ.context r) (c.rename ρ) (tag.rename ρ)) := by
    refine .bind (f := id) (Render.look_mirrors fun h h' image => ?_) fun request => ?_
    · rw [requestOf_rename image, Outcome.map_id]
    · refine .read fun s s' image => ?_
      have moved : (c.rename ρ).relocated s'.store request =
          Prod.map (Context.rename ρ) id (c.relocated s.store request) := by
        rw [image.store]
        rfl
      rw [id_eq, moved]
      refine .bind (Render.log_mirrors _ _) fun _ => ?_
      refine .bind (Render.setContext_mirrors r _) fun _ => ?_
      exact .pure' (Value.rename_builtText ..).symm
  cases tag with
  | none => exact .pure' (Value.rename_builtText ..).symm
  | _ => exact other

theorem taggedText_rename {h h' : Heap} (image : Heap.Image ρ h h') (c : Call) :
    taggedText h' (c.rename ρ) = taggedText h c := by
  rw [taggedText, taggedText, Call.named_rename, Outcome.bind_map]
  congr
  funext given
  rcases given with _ | ⟨_ | v, _ | ⟨w, rest⟩⟩
  · rfl
  · rfl
  · rfl
  · exact Value.plain_rename image v
  · rfl

theorem taggedText_mirrors (c : Call) :
    Render.Mirrors ρ id (Render.look fun h => taggedText h c)
      (Render.look fun h => taggedText h (c.rename ρ)) :=
  Render.look_mirrors fun h h' image => by rw [taggedText_rename image, Outcome.map_id]

theorem languageOf_rename {h h' : Heap} (image : Heap.Image ρ h h') (c : Context)
    (language : Option Value) :
    languageOf h' (c.rename ρ) (language.map (rename ρ)) =
      (languageOf h c language).rename ρ := by
  cases language with
  | none => exact (Value.rename_builtText ..).symm
  | some v =>
    simp only [languageOf, Option.map_some, Value.truth_rename image]
    split_ifs
    · rfl
    · exact (Value.rename_builtText ..).symm

theorem keyOf_rename (c : Call) :
    keyOf (c.rename ρ) = (keyOf c).map (Prod.map (rename ρ) (OrderedMap.rename ρ)) := by
  have rest : (c.keywords.rename ρ).erase "key" = OrderedMap.rename ρ (c.keywords.erase "key") := by
    simp [OrderedMap.erase, OrderedMap.rename, List.filter_map, Function.comp_def]
  simp only [keyOf, Call.args_rename, Call.keywords_rename, OrderedMap.get?_rename, rest]
  rcases c.args with _ | ⟨v, _ | ⟨w, args⟩⟩ <;> cases c.keywords.get? "key" <;> rfl

theorem entryOf_rename {h h' : Heap} (image : Heap.Image ρ h h') (r : Nat) (c : Call) :
    Method.getEntry (h'.dict (ρ.dict r)) (c.rename ρ) =
      (Method.getEntry (h.dict r) c).map (rename ρ) := by
  rw [image.dict, Method.getEntry_rename image.injective]

theorem choiceOf_rename (c : Call) :
    choiceOf (c.rename ρ) =
      (choiceOf c).map (Prod.map (rename ρ) (Prod.map (rename ρ) (Option.map (rename ρ)))) := by
  rw [choiceOf, choiceOf, Call.named_rename, Outcome.bind_map, Outcome.map_bind]
  congr
  funext given
  rcases given with _ | ⟨_ | count, _ | ⟨_ | forms, _ | ⟨language, _ | ⟨t, rest⟩⟩⟩⟩ <;> rfl

section
variable {lower : Interpreter} (mirrors : lower.Mirrors ρ)
include mirrors

theorem callBack_mirrors (f : Value) (args : List Value) :
    Render.Mirrors ρ (rename ρ) (lower.callBack f args)
      (lower.callBack (f.rename ρ) (args.map (rename ρ))) := by
  rw [callBack, callBack, Value.isCallable_rename, Value.kind_rename]
  exact .ite (mirrors.invoke f ⟨args, []⟩) (.throw _)

theorem callMember_mirrors (target : Value) (name : Text) (args : List Value) :
    Render.Mirrors ρ (rename ρ) (lower.callMember target name args)
      (lower.callMember (target.rename ρ) name (args.map (rename ρ))) := by
  refine .bind (Render.look_mirrors fun _ _ image => Value.member_rename image target name) ?_
  exact fun f => callBack_mirrors mirrors f args

theorem enter_mirrors (closure : Closure) (args : List Value) :
    Render.Mirrors ρ (rename ρ) (lower.enter closure args)
      (lower.enter (closure.rename ρ) (args.map (rename ρ))) := by
  have scope : (closure.params.zip (args.map (rename ρ))).reverse ++
      OrderedMap.rename ρ closure.locals =
        OrderedMap.rename ρ ((closure.params.zip args).reverse ++ closure.locals) := by
    rw [OrderedMap.zip_rename]
    simp [OrderedMap.rename]
  simp only [enter, Closure.rename, List.length_map, scope]
  exact .ite (.throw _) (mirrors.eval closure.run _ closure.body)

theorem callLambda_mirrors (r : Nat) (c : Call) :
    Render.Mirrors ρ (rename ρ) (lower.callLambda r c)
      (lower.callLambda (ρ.lambda r) (c.rename ρ)) := by
  have keywords : (c.rename ρ).keywords.isEmpty = c.keywords.isEmpty := List.isEmpty_map
  rw [callLambda, callLambda, keywords]
  refine .ite (.throw _) (.bind (Render.closure?_mirrors r) fun closure => ?_)
  cases closure with
  | none => exact .throw _
  | some closure => exact enter_mirrors mirrors closure c.args

theorem callFunction_mirrors (f : HostFunction) (c : Call) :
    Render.Mirrors ρ (rename ρ) (lower.callFunction f c) (lower.callFunction f (c.rename ρ)) := by
  cases f with
  | upper =>
    refine .bind (.ofExcept (required_rename c _)) fun args => ?_
    rcases args with _ | ⟨s, _ | ⟨t, rest⟩⟩
    · exact .throw _
    · exact callMember_mirrors mirrors s "upper" []
    · exact .throw _
  | join =>
    refine .bind (.ofExcept (separatorOf_rename c)) fun sep => ?_
    have joined := callMember_mirrors mirrors sep "join" [.ofItems c.args]
    rw [List.map_cons, Value.rename_ofItems] at joined
    exact joined
  | boom =>
    rw [callFunction, callFunction, Call.empty_rename]
    exact .bind (.same _) fun _ => .throw _
  | apply =>
    refine .bind (.ofExcept (required_rename c _)) fun args => ?_
    rcases args with _ | ⟨f, _ | ⟨t, rest⟩⟩
    · exact .throw _
    · exact callBack_mirrors mirrors f [.ofInt 3]
    · exact .throw _
  | twice =>
    refine .bind (.ofExcept (required_rename c _)) fun args => ?_
    rcases args with _ | ⟨f, _ | ⟨x, _ | ⟨t, rest⟩⟩⟩
    · exact .throw _
    · exact .throw _
    · refine .bind (callBack_mirrors mirrors f [x]) fun y => ?_
      exact callBack_mirrors mirrors f [y]
    · exact .throw _
  | keywords => exact Render.ofMemory_mirrors (keywordLists_mirrors c)
  | length => exact Render.look_mirrors fun _ _ image => lengthOf_rename image c

theorem sortKeys_mirrors (key : Value) (xs : List Value) :
    Render.Mirrors ρ (List.map (Value.Keyed.rename ρ)) (lower.sortKeys key xs)
      (lower.sortKeys (key.rename ρ) (xs.map (rename ρ))) := by
  have called : Render.Mirrors ρ (List.map (Value.Keyed.rename ρ))
      (xs.mapM fun x => do pure ⟨← lower.callBack key [x], x⟩)
      ((xs.map (rename ρ)).mapM fun x => do pure ⟨← lower.callBack (key.rename ρ) [x], x⟩) :=
    .mapM xs fun x => .bind (callBack_mirrors mirrors key [x]) fun k => .pure (Value.Keyed.mk k x)
  cases key with
  | none => exact .pure' (by simp [Value.Keyed.rename])
  | _ => exact called

theorem sortList_mirrors (r : Nat) (c : Call) :
    Render.Mirrors ρ (rename ρ) (lower.sortList r c)
      (lower.sortList (ρ.list r) (c.rename ρ)) := by
  refine .bind (.ofExcept (sortSettings_rename c)) fun settings => ?_
  obtain ⟨key, reverse⟩ := settings
  refine .bind (Render.ofMemory_mirrors (Memory.beginSort_mirrors r)) fun begun => ?_
  obtain ⟨xs, sort⟩ := begun
  refine .bind (.tryCatch (sortKeys_mirrors mirrors key xs) fun f => ?_) fun keyed => ?_
  · refine .bind (Render.ofMemory_mirrors (Memory.endSort_mirrors sort r xs)) fun _ => ?_
    exact .throw f
  · refine .read fun s s' image => ?_
    have sorted := Value.sortKeyed_rename image.heap reverse keyed
    dsimp only [id_eq, Prod.map]
    rw [sorted]
    rcases Value.sortKeyed s.heap reverse keyed with ⟨sorted, fault⟩
    refine .bind (Render.ofMemory_mirrors (Memory.endSort_mirrors sort r sorted)) fun filled => ?_
    cases fault with
    | some f => exact .throw f
    | none => exact .ite (.throw _) (.pure Value.none)

theorem callMethod_mirrors (v : Value) (name : Text) (c : Call) :
    Render.Mirrors ρ (rename ρ) (lower.callMethod v name c)
      (lower.callMethod (v.rename ρ) name (c.rename ρ)) := by
  have other := Render.ofMemory_mirrors (Method.call_mirrors (ρ := ρ) v name c)
  cases v with
  | list r => exact .ite (sortList_mirrors mirrors r c) other
  | _ => exact other

theorem fillForm_mirrors (form count : Value) :
    Render.Mirrors ρ (rename ρ) (lower.fillForm form count)
      (lower.fillForm (form.rename ρ) (count.rename ρ)) := by
  rw [fillForm, fillForm, Value.isCallable_rename]
  refine .ite (mirrors.invoke form ⟨[count], []⟩) ?_
  refine .bind (Render.plain_mirrors count) fun shown => ?_
  exact .bind (Render.plain_mirrors form) fun t => .pure' (Value.rename_builtText ..).symm

theorem selectForm_mirrors (owner : EngineOwner) (count forms language : Value) :
    Render.Mirrors ρ (rename ρ) (lower.selectForm owner count forms language)
      (lower.selectForm owner (count.rename ρ) (forms.rename ρ) (language.rename ρ)) := by
  refine .read fun s s' image => ?_
  rw [Value.truth_rename image.heap]
  refine .ite (Render.shown_mirrors count) ?_
  refine .bind (formIndex_mirrors owner count forms language) fun index => ?_
  refine .bind (Render.ofMemory_mirrors (Value.subscript_mirrors forms (.ofInt index))) ?_
  exact fun form => fillForm_mirrors mirrors form count

theorem translate_mirrors (r : Nat) (key : Value) (data : OrderedMap Value) :
    Render.Mirrors ρ (rename ρ) (translate lower r key data)
      (translate lower (ρ.context r) (key.rename ρ) (data.rename ρ)) := by
  cases key with
  | text t o =>
    refine .bind (Render.renderKey_mirrors mirrors r t data) fun shown => ?_
    exact .pure' (Value.rename_builtText ..).symm
  | _ => exact .throw _

theorem helperResult_mirrors (r : Nat) (helper : Helper) (c : Call) :
    Render.Mirrors ρ (rename ρ) (lower.helperResult r helper c)
      (lower.helperResult (ρ.context r) helper (c.rename ρ)) := by
  cases helper with
  | tag =>
    refine .bind (taggedText_mirrors c) fun text => .bind (Render.context_mirrors r) fun c => ?_
    exact .pure' (Value.rename_builtText ..).symm
  | translate =>
    refine .bind (.ofExcept (keyOf_rename c)) fun found => ?_
    exact translate_mirrors mirrors r found.1 found.2
  | relocale =>
    refine .bind (.ofExcept (required_rename c _)) fun args => ?_
    rcases args with _ | ⟨tag, _ | ⟨t, rest⟩⟩
    · exact .throw _
    · exact relocate_mirrors r tag
    · exact .throw _
  | pluralize =>
    refine .bind (.ofExcept (choiceOf_rename c)) fun choice => ?_
    obtain ⟨count, forms, language⟩ := choice
    refine .bind (Render.context_mirrors r) fun c => .read fun s s' image => ?_
    dsimp only [Prod.map]
    rw [languageOf_rename image.heap]
    exact selectForm_mirrors mirrors c.engine count forms _

theorem callHelper_mirrors (r : Nat) (helper : Helper) (c : Call) :
    Render.Mirrors ρ (rename ρ) (lower.callHelper r helper c)
      (lower.callHelper (ρ.context r) helper (c.rename ρ)) := by
  have known : hasKeyword (c.rename ρ) ["self", "ctx"] = hasKeyword c ["self", "ctx"] :=
    OrderedMap.any_key_rename ρ c.keywords fun t =>
      ["self", "ctx"].any fun n => Text.ofString n == t
  rw [callHelper, callHelper, known]
  exact .ite (.throw _) (helperResult_mirrors mirrors r helper c)

theorem callBeside_mirrors (helper : Helper) (context : Value) (c : Call) :
    Render.Mirrors ρ (rename ρ) (lower.callBeside helper context c)
      (lower.callBeside helper (context.rename ρ) (c.rename ρ)) := by
  obtain ⟨args, keywords⟩ := c
  cases helper with
  | tag =>
    have member : ∀ name : Text, Render.Mirrors ρ (rename ρ)
        (Render.look fun h => context.member h name)
        (Render.look fun h => (context.rename ρ).member h name) :=
      fun name => Render.look_mirrors fun _ _ image => Value.member_rename image context name
    refine .bind (member "language_code") fun language => ?_
    refine .bind (member "base_language_code") fun base => ?_
    refine .bind (taggedText_mirrors ⟨args, keywords⟩) fun text => ?_
    refine .bind (Render.plain_mirrors language) fun language => ?_
    refine .bind (Render.plain_mirrors base) fun base => ?_
    exact .pure' (Value.rename_builtText ..).symm
  | translate =>
    rcases args with _ | ⟨key, _ | ⟨t, rest⟩⟩
    · exact .throw _
    · refine .bind (Render.look_mirrors fun _ _ image => Value.member_rename image context "render")
        fun render => ?_
      simp only [Call.keywords_rename, OrderedMap.entries_rename]
      refine .bind (Render.ofMemory_mirrors (Memory.newDict_mirrors _)) fun data => ?_
      exact callBack_mirrors mirrors render [key, data]
    · exact .throw _
  | relocale =>
    rcases args with _ | ⟨tag, _ | ⟨t, rest⟩⟩
    · exact .throw _
    · exact callMember_mirrors mirrors context "locale" [tag]
    · exact .throw _
  | pluralize => exact .throw _

theorem callUnbound_mirrors (helper : Helper) (c : Call) :
    Render.Mirrors ρ (rename ρ) (callUnbound lower helper c)
      (callUnbound lower helper (c.rename ρ)) := by
  obtain ⟨_ | ⟨context, args⟩, keywords⟩ := c
  · exact .throw _
  · exact callBeside_mirrors mirrors helper context ⟨args, keywords⟩

theorem applied_mirrors (f : Value) (c : Call) :
    Render.Mirrors ρ (rename ρ) (lower.applied f c)
      (lower.applied (f.rename ρ) (c.rename ρ)) := by
  cases f with
  | lambda r => exact callLambda_mirrors mirrors r c
  | function f => exact callFunction_mirrors mirrors f c
  | form before after o =>
    exact Render.look_mirrors fun _ _ image => formText_rename image before after c
  | boundHelper helper r o =>
    rw [Value.rename, Renaming.contextFor_eq mirrors.readers]
    exact callHelper_mirrors mirrors r helper c
  | helper helper => exact callUnbound_mirrors mirrors helper c
  | lookup r => exact Render.look_mirrors fun _ _ image => entryOf_rename image r c
  | method receiver name o => exact callMethod_mirrors mirrors receiver name c
  | unbound k name =>
    refine .bind (.ofExcept (Method.receiverOf_rename k c)) fun receiver => ?_
    exact callMethod_mirrors mirrors receiver.1 name receiver.2
  | cls k => exact Render.ofMemory_mirrors (Method.construct_mirrors k c)
  | _ => exact .throw _

theorem next_mirrors : lower.next.Mirrors ρ where
  readers := mirrors.readers
  eval r locals e := node_mirrors mirrors r locals e
  invoke f c := .bind (applied_mirrors mirrors f c) Render.mark_mirrors

end

theorem exhausted_mirrors (readers : ρ.reader = ρ.context) : exhausted.Mirrors ρ where
  readers
  eval _ _ _ := .throw _
  invoke _ _ := .throw _

theorem ofFrames_mirrors (readers : ρ.reader = ρ.context) (n : Nat) : (ofFrames n).Mirrors ρ := by
  induction n with
  | zero => exact exhausted_mirrors readers
  | succ n ih => exact next_mirrors ih

end Interpreter
end Phrasebook
