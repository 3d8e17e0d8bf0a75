import Phrasebook.Format.Spec
import Phrasebook.Method.Call
import Phrasebook.Proofs.Renaming.Compare
import Phrasebook.Value.Attribute
/-!
What is read off values, in a heap and in its image: their texts, their items and their attributes,
and the arguments of a call.
-/
namespace Phrasebook.Value

variable {ρ : Renaming} {h h' : Heap}

@[simp] theorem atomText_rename (v : Value) : (v.rename ρ).atomText = v.atomText := by
  cases v <;> simp [atomText]

@[simp] theorem dots_rename (v : Value) : (v.rename ρ).dots = v.dots := by
  cases v <;> rfl

@[simp] theorem bound_rename (v : Value) : (v.rename ρ).bound = v.bound := by
  cases v <;> rfl

@[simp] theorem numberPart?_rename (v : Value) (name : Text) :
    (v.rename ρ).numberPart? name = (v.numberPart? name).map (rename ρ) := by
  cases v with
  | int n o | float x o | complex z o | decimal d o =>
    simp only [rename, numberPart?]
    split_ifs <;> rfl
  | _ => rfl

@[simp] theorem slicePart?_rename (a b c : Value) (name : Text) :
    slicePart? (a.rename ρ) (b.rename ρ) (c.rename ρ) name =
      (slicePart? a b c name).map (rename ρ) := by
  simp only [slicePart?]
  split_ifs <;> rfl

theorem classMember_rename (k : Kind) (name : Text) :
    classMember k name = (classMember k name).map (rename ρ) := by
  simp only [classMember]
  split_ifs <;> rfl

theorem methodOf_rename (v : Value) (name : Text) :
    (v.rename ρ).methodOf name = (v.methodOf name).map (rename ρ) := by
  simp only [methodOf, kind_rename]
  split_ifs <;> rfl

theorem sliceItems_map {α β : Type} (f : α → β) (xs : List α) (lower upper : Option Int)
    (step : Int) :
    sliceItems (xs.map f) lower upper step = (sliceItems xs lower upper step).map f := by
  have evenly : ∀ (ys : List α) (n : Int),
      ((ys.map f).zipIdx.filter fun e => (e.2 : Int) % n == 0).map (·.1) =
        ((ys.zipIdx.filter fun e => (e.2 : Int) % n == 0).map (·.1)).map f := by
    intro ys n
    simp [List.zipIdx_map, List.filter_map, Function.comp_def]
  simp only [sliceItems, List.length_map, ← List.map_drop, ← List.map_take, ← List.map_reverse,
    evenly]
  split_ifs <;> rfl

theorem sliceOf?_rename {α β : Type} (f : α → β) (xs : List α) (lower upper step : Value) :
    sliceOf? (xs.map f) (lower.rename ρ) (upper.rename ρ) (step.rename ρ) =
      (sliceOf? xs lower upper step).map (Option.map (List.map f)) := by
  simp only [sliceOf?, bound_rename, sliceItems_map, List.length_map, Outcome.map_bind]
  congr
  funext by_
  split_ifs
  · rfl
  · simp only [Outcome.map_bind]
    congr
    funext first
    congr
    funext last
    split_ifs <;> rfl

theorem sliceOf_rename {α β : Type} (f : α → β) {make : List α → Value} {make' : List β → Value}
    (makes : ∀ ys, make' (ys.map f) = (make ys).rename ρ) (v : Value) (xs : List α)
    (lower upper step : Value) :
    sliceOf (v.rename ρ) make' (xs.map f) (lower.rename ρ) (upper.rename ρ) (step.rename ρ) =
      (sliceOf v make xs lower upper step).map (rename ρ) := by
  simp only [sliceOf, sliceOf?_rename, Outcome.bind_map, Outcome.map_bind]
  congr
  funext ys
  cases ys with
  | none => rfl
  | some ys => simp [makes]

theorem itemAt?_map {α β : Type} (f : α → β) (xs : List α) (i : Int) :
    itemAt? (xs.map f) i = (itemAt? xs i).map f := by
  simp only [itemAt?, List.length_map, List.getElem?_map]
  split_ifs <;> rfl

theorem itemOf_rename {α β : Type} (f : α → β) (missing : Fault) (xs : List α) (index : Value) :
    itemOf missing (xs.map f) (index.rename ρ) = (itemOf missing xs index).map f := by
  rw [itemOf, itemOf, int?_rename]
  cases index.int? with
  | none => rfl
  | some i =>
    simp only [itemAt?_map]
    split_ifs
    · rfl
    · cases itemAt? xs i <;> rfl


variable (image : Heap.Image ρ h h')
include image

theorem quotedWithin_rename (n : Nat) (open_ : List Value) (v : Value) :
    quotedWithin h' n (open_.map (rename ρ)) (v.rename ρ) = quotedWithin h n open_ v := by
  induction n generalizing open_ v with
  | zero => rfl
  | succ n ih =>
    have inner : ∀ x, quotedWithin h' n (v.rename ρ :: open_.map (rename ρ)) (rename ρ x) =
        quotedWithin h n (v :: open_) x := ih (v :: open_)
    have seen : (open_.map (rename ρ)).any (·.identical (v.rename ρ)) =
        open_.any (·.identical v) := by
      simp [Function.comp_def, identical_rename image.injective]
    simp only [quotedWithin]
    rw [seen, dots_rename]
    split_ifs
    · rfl
    · generalize v.rename ρ :: open_.map (rename ρ) = opened' at inner ⊢
      generalize v :: open_ = opened at inner ⊢
      cases v with
      | tuple xs o =>
        rcases xs with _ | ⟨x, _ | ⟨y, ys⟩⟩
        · rfl
        · simp [inner]
        · simp [inner, Function.comp_def]
      | slice a b c o => simp [ih]
      | list r =>
        simp [inner, image.list, Function.comp_def]
      | set r =>
        simp [inner, image.set, Function.comp_def]
      | dict r =>
        simp [inner, image.dict, Entries.rename, Function.comp_def]
      | object r =>
        simp [inner, image.object, OrderedMap.rename, Function.comp_def]
      | view part r o =>
        simp [inner, image.view, Function.comp_def]
      | lookup r =>
        have entries := inner (dict r)
        rw [rename] at entries
        simp [entries]
      | _ => exact atomText_rename _

theorem quoted_rename (v : Value) : quoted h' (v.rename ρ) = quoted h v :=
  quotedWithin_rename image nestingLimit [] v

theorem plain_rename (v : Value) : plain h' (v.rename ρ) = plain h v := by
  have quoted := quoted_rename image v
  cases v with
  | text | decimal | date => rfl
  | _ => exact quoted

theorem shown_rename (v : Value) :
    shown h' (v.rename ρ) = (shown h v).map (rename ρ) := by
  have built : (plain h' (v.rename ρ)).map builtText =
      ((plain h v).map builtText).map (rename ρ) := by
    simp [plain_rename image, Outcome.map_map]
  have named : (quoted h' (v.rename ρ)).map ofName = ((quoted h v).map ofName).map (rename ρ) := by
    simp [quoted_rename image, Outcome.map_map]
  cases v with
  | text t o => rfl
  | bool b => exact named
  | _ => exact built

theorem asciiQuoted_rename (v : Value) : asciiQuoted h' (v.rename ρ) = asciiQuoted h v := by
  rw [asciiQuoted, quoted_rename image, asciiQuoted]

theorem truth_rename (v : Value) : (v.rename ρ).truth h' = v.truth h := by
  cases v with
  | tuple | list | dict | set | view =>
    simp [truth, image.list, image.dict, image.set, Entries.rename]
  | _ => rfl

theorem length?_rename (v : Value) : (v.rename ρ).length? h' = v.length? h := by
  cases v <;> simp [length?, image.list, image.dict, image.set]

theorem items_rename (v : Value) :
    (v.rename ρ).items h' = (v.items h).map (List.map (rename ρ)) := by
  cases v <;> simp [items, Except.map, image.list, image.view, image.set]

theorem entryOf_rename (entries : Entries) (key : Value) :
    entryOf h' (entries.rename ρ) (key.rename ρ) = (entryOf h entries key).map (rename ρ) := by
  rw [entryOf, entryOf, Entries.find?_rename image.injective, quoted_rename image,
    isHashable_rename]
  split_ifs
  · cases entries.find? key with
    | none => simp [Outcome.map_bind]
    | some v => rfl
  · rfl

theorem part?_rename (v : Value) (name : Text) :
    part? h' (v.rename ρ) name = (part? h v name).map (rename ρ) := by
  cases v with
  | object r => simp [part?, image.object, OrderedMap.get?_rename]
  | slice a b c o => simp [part?]
  | bool b => exact numberPart?_rename (.ofInt (if b then 1 else 0)) name
  | int n o => exact numberPart?_rename (.int n o) name
  | float x o => exact numberPart?_rename (.float x o) name
  | complex z o => exact numberPart?_rename (.complex z o) name
  | decimal d o => exact numberPart?_rename (.decimal d o) name
  | _ => rfl

theorem member_rename (v : Value) (name : Text) :
    member h' (v.rename ρ) name = (member h v name).map (rename ρ) := by
  unfold member
  rw [part?_rename image]
  cases part? h v name with
  | some x => rfl
  | none =>
    cases v with
    | cls k => exact classMember_rename k name
    | _ => exact methodOf_rename _ name

theorem format_rename (v : Value) (spec : Text) :
    format h' (v.rename ρ) spec = format h v spec := by
  rw [format, format, plain_rename image]
  cases v <;> rfl

theorem formatted_rename (v : Value) (spec : Text) :
    formatted h' (v.rename ρ) spec = (formatted h v spec).map (rename ρ) := by
  rw [formatted, formatted, shown_rename image, format_rename image]
  split_ifs
  · rfl
  · rw [Outcome.map_bind]
    congr
    funext t
    cases v with
    | text s o => simp only [rename]; split_ifs <;> simp
    | _ => simp

theorem itemAt_rename (target index : Value) :
    itemAt h' (target.rename ρ) (index.rename ρ) = (itemAt h target index).map (rename ρ) := by
  cases target with
  | text t o =>
    have item := itemOf_rename (ρ := ρ) id (.outOfRange .string) t index
    rw [List.map_id, Outcome.map_id] at item
    simp [itemAt, item, Outcome.map_map]
  | bytes bs o =>
    have item := itemOf_rename (ρ := ρ) id (.unworded .index) bs index
    rw [List.map_id, Outcome.map_id] at item
    simp [itemAt, item, Outcome.map_map]
  | tuple xs o => simp [itemAt, itemOf_rename]
  | list r => simp [itemAt, image.list, itemOf_rename]
  | dict r => simp [itemAt, image.dict, entryOf_rename image]
  | _ => rfl

theorem sliceAt_mirrors (target a b c : Value) :
    Memory.Mirrors ρ (rename ρ) (sliceAt h target a b c)
      (sliceAt h' (target.rename ρ) (a.rename ρ) (b.rename ρ) (c.rename ρ)) := by
  cases target with
  | text t o =>
    have makes : ∀ s, ofText (s.map id) = (ofText s).rename ρ := by simp
    have sliced := sliceOf_rename id makes (text t o) t a b c
    rw [List.map_id] at sliced
    exact .ofExcept sliced
  | bytes bs o =>
    have makes : ∀ s, ofBytes (s.map id) = (ofBytes s).rename ρ := by simp
    have sliced := sliceOf_rename id makes (bytes bs o) bs a b c
    rw [List.map_id] at sliced
    exact .ofExcept sliced
  | tuple xs o =>
    have sliced :=
      sliceOf_rename (rename ρ) (fun ys => (rename_ofItems ρ ys).symm) (tuple xs o) xs a b c
    rw [← renameAll_eq] at sliced
    exact .ofExcept sliced
  | list r =>
    have sliced := sliceOf?_rename (ρ := ρ) (rename ρ) (h.list r) a b c
    rw [← image.list] at sliced
    refine .bind (.ofExcept sliced) fun ys => ?_
    have items : (ys.map (List.map (rename ρ))).getD (h'.list (ρ.list r)) =
        (ys.getD (h.list r)).map (rename ρ) := by
      cases ys with
      | none => exact image.list r
      | some ys => rfl
    rw [items]
    exact Memory.newList_mirrors _
  | _ => exact .throw _

omit image in
theorem subscript_mirrors (target index : Value) :
    Memory.Mirrors ρ (rename ρ) (subscript target index)
      (subscript (target.rename ρ) (index.rename ρ)) := by
  refine .read fun h h' image => ?_
  cases index with
  | slice a b c o => exact sliceAt_mirrors image target a b c
  | _ => exact .ofExcept (itemAt_rename image target _)

end Phrasebook.Value

namespace Phrasebook

def Call.rename (ρ : Renaming) (c : Call) : Call :=
  ⟨c.args.map (Value.rename ρ), c.keywords.rename ρ⟩

variable {ρ : Renaming}

namespace Call

@[simp] theorem args_rename (c : Call) : (c.rename ρ).args = c.args.map (Value.rename ρ) := rfl

@[simp] theorem keywords_rename (c : Call) : (c.rename ρ).keywords = c.keywords.rename ρ := rfl

theorem positional_rename (c : Call) (least most : Nat) :
    (c.rename ρ).positional least most =
      (c.positional least most).map (List.map (Value.rename ρ)) := by
  have keywords : (c.keywords.rename ρ).isEmpty = c.keywords.isEmpty := List.isEmpty_map
  simp only [positional, args_rename, keywords_rename, keywords, List.length_map]
  split_ifs <;> rfl

theorem named_rename (c : Call) (params : List Text) :
    (c.rename ρ).named params =
      (c.named params).map (List.map (Option.map (Value.rename ρ))) := by
  simp only [named, args_rename, keywords_rename, List.length_map, OrderedMap.get?_rename]
  simp only [OrderedMap.rename, List.any_map, Function.comp_def]
  split_ifs
  · rfl
  · rfl
  · simp [Except.map, Function.comp_def]

@[simp] theorem empty_rename (c : Call) : (c.rename ρ).empty = c.empty := by
  rw [empty, empty, positional_rename, Outcome.map_map]

end Call

namespace Value

@[simp] theorem toInt_rename (v : Value) : (v.rename ρ).toInt = v.toInt := by
  rw [toInt, toInt, int?_rename]

@[simp] theorem toPosition_rename (v : Value) : (v.rename ρ).toPosition = v.toPosition := by
  rw [toPosition, toPosition, int?_rename]

@[simp] theorem toBound_rename (v : Option Value) : toBound (v.map (rename ρ)) = toBound v := by
  cases v with
  | none => rfl
  | some v =>
    cases v <;> rfl

@[simp] theorem toLimit_rename (v : Option Value) : toLimit (v.map (rename ρ)) = toLimit v := by
  cases v with
  | none => rfl
  | some v => simp [toLimit]

end Value
end Phrasebook
