import Phrasebook.Proofs.Evaluation.Congruence
/-!
Calls that go along with each other: what is called by functions, methods and helpers is called alike,
and nothing else makes a difference. A lambda, and a key that is rendered, depend on more than that.
-/
namespace Phrasebook

namespace Render

variable {P : Fault → Prop}

theorem context_steady (id : Nat) : Steady P (context id) :=
  .read (fun _ _ => rfl) fun _ => .pure _

theorem setContext_steady (id : Nat) (c : Context) : Steady P (setContext id c) :=
  .modifyGet fun _ _ => rfl

theorem log_steady (records : List LogRecord) : Steady P (log records) :=
  .modifyGet fun _ _ => rfl

theorem start_steady (budget : Budget) (data : OrderedMap Value) : Steady P (start budget data) :=
  .bind (log_steady _) fun _ => .modifyGet fun _ _ => rfl

theorem useEngine_steady {α : Type} (owner : EngineOwner)
    (ask : PluralEngine → α × PluralEngine × List LogRecord) : Steady P (useEngine owner ask) := by
  have engine : Steady P (engine owner) := by
    cases owner <;> exact .read (fun _ _ => rfl) fun _ => .pure _
  have setEngine (e : PluralEngine) : Steady P (setEngine owner e) := by
    cases owner <;> exact .modifyGet fun _ _ => rfl
  exact .bind engine fun e => .bind (setEngine _) fun _ => .bind (log_steady _) fun _ => .pure _

end Render

namespace Interpreter

open Render

theorem relocate_steady {P : Fault → Prop} (admits : Fault.Admits P) (id : Nat) (tag : Value) :
    Steady P (relocate id tag) := by
  refine .bind (context_steady id) fun c => ?_
  have moved : Steady P (relocateTo id c tag) := by
    refine .bind (look_leaf admits fun h => requestOf_ordinary h tag).steady fun request => ?_
    refine .read (fun _ _ => rfl) fun s => .bind (log_steady _) fun _ => ?_
    exact .bind (setContext_steady id _) fun _ => .pure _
  cases tag with
  | none => exact .pure _
  | _ => exact moved

variable {ι : Type} {K : Congruence ι}

theorem formIndex_relates (owner : EngineOwner) (count forms language : Value) :
    K.Relates (formIndex owner count forms language)
      fun _ => formIndex owner count forms language := by
  refine .bind (.ofExcept (tagOf_ordinary language)) fun tag => ?_
  refine .bind (.steady (useEngine_steady owner _)) fun rule => ?_
  refine .bind (.ofExcept (countOf_ordinary count)) fun count => ?_
  refine .bind (.ofExcept (rule.index_ordinary count)) fun index => ?_
  refine .bind (.look fun h => formsLength_ordinary h forms) fun size => ?_
  exact .steady (useEngine_steady owner _)

variable {lower : Interpreter} {lower' : ι → Interpreter}

theorem renderParts_relates {r : Nat}
    (eval : ∀ e, K.Relates (lower.eval r [] e) fun i => (lower' i).eval r [] e) (parts : List Part) :
    K.Relates (Template.renderParts lower r parts)
      fun i => Template.renderParts (lower' i) r parts := by
  induction parts with
  | nil => exact .pure []
  | cons part rest ih =>
    cases part with
    | text t => exact .bind ih fun ts => .pure _
    | expr e =>
      refine .bind (eval e) fun v => .bind (.look fun h => Template.partText_ordinary h v) fun t => ?_
      exact .bind ih fun ts => .pure _

section
variable (invokes : K.Invokes lower lower')
include invokes

theorem callBack_relates (f : Value) (args : List Value) :
    K.Relates (lower.callBack f args) fun i => (lower' i).callBack f args :=
  .ite (invokes f ⟨args, []⟩) (.throw (.notCallable _))

theorem callMember_relates (target : Value) (name : Text) (args : List Value) :
    K.Relates (lower.callMember target name args)
      fun i => (lower' i).callMember target name args :=
  .bind (.look fun h => target.member_ordinary h name) fun f => callBack_relates invokes f args

theorem callFunction_relates (f : HostFunction) (c : Call) :
    K.Relates (lower.callFunction f c) fun i => (lower' i).callFunction f c := by
  have misused : K.Relates (throw .type : Render Value) fun _ => throw .type := .throw .type
  cases f with
  | upper =>
    refine .bind (.ofExcept (required_ordinary c ["s"])) fun args => ?_
    rcases args with _ | ⟨s, _ | ⟨t, rest⟩⟩
    · exact misused
    · exact callMember_relates invokes s "upper" []
    · exact misused
  | join =>
    refine .bind (.ofExcept (separatorOf_ordinary c)) fun sep => ?_
    exact callMember_relates invokes sep "join" _
  | boom => exact .bind (.ofExcept c.empty_ordinary) fun _ => .throw (.raised _)
  | apply =>
    refine .bind (.ofExcept (required_ordinary c ["f"])) fun args => ?_
    rcases args with _ | ⟨f, _ | ⟨t, rest⟩⟩
    · exact misused
    · exact callBack_relates invokes f _
    · exact misused
  | twice =>
    refine .bind (.ofExcept (required_ordinary c ["f", "x"])) fun args => ?_
    rcases args with _ | ⟨f, _ | ⟨x, _ | ⟨t, rest⟩⟩⟩
    · exact misused
    · exact misused
    · exact .bind (callBack_relates invokes f [x]) fun y => callBack_relates invokes f [y]
    · exact misused
  | keywords => exact .ofMemory (keywordLists_ordinary c)
  | length => exact .look fun h => lengthOf_ordinary h c

theorem sortKeys_relates (key : Value) (xs : List Value) :
    K.Relates (lower.sortKeys key xs) fun i => (lower' i).sortKeys key xs := by
  have called : K.Relates
      (xs.mapM fun x => do pure (⟨← lower.callBack key [x], x⟩ : Value.Keyed))
      (fun i => xs.mapM fun x => do pure ⟨← (lower' i).callBack key [x], x⟩) := by
    refine .mapM (List.forall₂_same.mpr fun x _ => ?_)
    exact .bind (callBack_relates invokes key [x]) fun k => .pure _
  cases key with
  | none => exact .pure _
  | _ => exact called

theorem sortList_relates (ref : Nat) (c : Call) :
    K.Relates (lower.sortList ref c) fun i => (lower' i).sortList ref c := by
  refine .bind (.ofExcept (sortSettings_ordinary c)) fun settings => ?_
  refine .bind (.ofMemory (.modifyGet _)) fun begun => ?_
  have ended (xs : List Value) : Memory.Ordinary (Memory.endSort begun.2 ref xs) :=
    .bind (.modifyGet _) fun _ => .bind (Memory.writeList_ordinary ref xs) fun _ => .pure _
  have restored : Steady K.admitted (do
      let _ ← ofMemory (Memory.endSort begun.2 ref begun.1)) :=
    .bind (ofMemory_leaf K.admits (ended begun.1)).steady fun _ => .pure ()
  refine .bind (K.cleanup (sortKeys_relates invokes settings.1 begun.1) restored) fun keyed => ?_
  refine .heap (fun _ => rfl) (fun _ _ => rfl) fun s => ?_
  have faults := fun f => Value.sortKeyed_faults s.heap settings.2 keyed (f := f)
  generalize Value.sortKeyed s.heap settings.2 keyed = result at faults ⊢
  obtain ⟨sorted, fault⟩ := result
  refine .bind (.ofMemory (ended sorted)) fun filled => ?_
  cases fault with
  | some f => exact .throw (faults f rfl)
  | none => exact .ite (.throw .value) (.pure Value.none)

theorem callMethod_relates (v : Value) (name : Text) (c : Call) :
    K.Relates (lower.callMethod v name c) fun i => (lower' i).callMethod v name c := by
  have other : K.Relates (ofMemory (Method.call v name c))
      fun _ => ofMemory (Method.call v name c) := .ofMemory (Method.call_ordinary v name c)
  cases v with
  | list r => exact .ite (sortList_relates invokes r c) other
  | _ => exact other

theorem fillForm_relates (form count : Value) :
    K.Relates (lower.fillForm form count) fun i => (lower' i).fillForm form count := by
  refine .ite (invokes form ⟨[count], []⟩) ?_
  refine .bind (.leaf (plain_leaf K.admits count)) fun shown => ?_
  exact .bind (.leaf (plain_leaf K.admits form)) fun t => .pure _

theorem selectForm_relates (owner : EngineOwner) (count forms language : Value) :
    K.Relates (lower.selectForm owner count forms language)
      fun i => (lower' i).selectForm owner count forms language := by
  refine .heap (fun _ => rfl) (fun _ _ => rfl) fun s => ?_
  refine .ite (.leaf (shown_leaf K.admits count)) ?_
  refine .bind (formIndex_relates owner count forms language) fun index => ?_
  refine .bind (.ofMemory (forms.subscript_ordinary _)) fun form => ?_
  exact fillForm_relates invokes form count

theorem callHelper_relates (id : Nat) {helper : Helper} (other : helper ≠ .translate) (c : Call) :
    K.Relates (lower.callHelper id helper c) fun i => (lower' i).callHelper id helper c := by
  refine .ite (.throw .type) ?_
  cases helper with
  | tag =>
    refine .bind (.look fun h => taggedText_ordinary h c) fun text => ?_
    exact .bind (.steady (context_steady id)) fun context => .pure _
  | translate => exact absurd rfl other
  | relocale =>
    refine .bind (.ofExcept (required_ordinary c ["code"])) fun args => ?_
    rcases args with _ | ⟨tag, _ | ⟨t, rest⟩⟩
    · exact .throw .type
    · exact .steady (relocate_steady K.admits id tag)
    · exact .throw .type
  | pluralize =>
    refine .bind (.ofExcept (choiceOf_ordinary c)) fun choice => ?_
    refine .bind (.steady (context_steady id)) fun context => ?_
    refine .heap (fun _ => rfl) (fun _ _ => rfl) fun s => ?_
    exact selectForm_relates invokes context.engine _ _ _

theorem callBeside_relates (helper : Helper) (context : Value) (c : Call) :
    K.Relates (lower.callBeside helper context c)
      fun i => (lower' i).callBeside helper context c := by
  have misused : K.Relates (throw .type : Render Value) fun _ => throw .type := .throw .type
  have member (name : Text) : K.Relates (look fun h => context.member h name)
      fun _ => look fun h => context.member h name :=
    .look fun h => context.member_ordinary h name
  obtain ⟨args, keywords⟩ := c
  cases helper with
  | tag =>
    refine .bind (member "language_code") fun language => ?_
    refine .bind (member "base_language_code") fun base => ?_
    refine .bind (.look fun h => taggedText_ordinary h _) fun text => ?_
    refine .bind (.leaf (plain_leaf K.admits language)) fun language => ?_
    exact .bind (.leaf (plain_leaf K.admits base)) fun base => .pure _
  | translate =>
    rcases args with _ | ⟨key, _ | ⟨t, rest⟩⟩
    · exact misused
    · refine .bind (member "render") fun render => ?_
      refine .bind (.ofMemory (Memory.newDict_ordinary _)) fun data => ?_
      exact callBack_relates invokes render [key, data]
    · exact misused
  | relocale =>
    rcases args with _ | ⟨tag, _ | ⟨t, rest⟩⟩
    · exact misused
    · exact callMember_relates invokes context "locale" [tag]
    · exact misused
  | pluralize => exact misused

theorem callUnbound_relates (helper : Helper) (c : Call) :
    K.Relates (callUnbound lower helper c) fun i => callUnbound (lower' i) helper c := by
  obtain ⟨_ | ⟨context, args⟩, keywords⟩ := c
  · exact .throw .type
  · exact callBeside_relates invokes helper context ⟨args, keywords⟩

/-- A value is called alike, if it is a lambda or renders keys: if that is. -/
theorem apply_relates {f : Value} {c : Call}
    (lambda : ∀ ref, f = .lambda ref →
      K.Relates (lower.callLambda ref c) fun i => (lower' i).callLambda ref c)
    (translated : ∀ id o, f = .boundHelper .translate id o →
      K.Relates (lower.callHelper id .translate c) fun i => (lower' i).callHelper id .translate c) :
    K.Relates (lower.apply f c) fun i => (lower' i).apply f c := by
  suffices applied : K.Relates (lower.applied f c) fun i => (lower' i).applied f c from
    .bind applied fun v => .leaf (mark_leaf K.admits v)
  cases f with
  | lambda ref => exact lambda ref rfl
  | function f => exact callFunction_relates invokes f c
  | form before after o => exact .look fun h => formText_ordinary h before after c
  | boundHelper helper id o =>
    by_cases translates : helper = .translate
    · subst translates
      exact translated id o rfl
    · exact callHelper_relates invokes id translates c
  | helper helper => exact callUnbound_relates invokes helper c
  | lookup r => exact .look fun h => Method.getEntry_ordinary c (h.dict r)
  | method receiver name o => exact callMethod_relates invokes receiver name c
  | unbound k name =>
    refine .bind (.ofExcept (Method.receiverOf_ordinary k c)) fun receiver => ?_
    exact callMethod_relates invokes receiver.1 name receiver.2
  | cls k => exact .ofMemory (Method.construct_ordinary k c)
  | _ => exact .throw (.notCallable _)

end
end Interpreter
end Phrasebook
