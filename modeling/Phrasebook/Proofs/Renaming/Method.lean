import Phrasebook.Method.Construct
import Phrasebook.Method.Dispatch
import Phrasebook.Proofs.Renaming.Container
import Phrasebook.Proofs.Renaming.Operator
import Phrasebook.Proofs.Renaming.Text
/-!
Methods of sets, tuples and whatever other value, and classes that are called, in a heap and in its
image.
-/
namespace Phrasebook.Method

open Value (rename)

variable {ρ : Renaming} {h h' : Heap}

section
variable (injective : ρ.IsInjective)
include injective

theorem any_sameKey_rename (xs : List Value) (y : Value) :
    (xs.map (rename ρ)).any (·.sameKey (y.rename ρ)) = xs.any (·.sameKey y) := by
  simp only [List.any_map, Function.comp_def, Value.sameKey_rename injective]

theorem addItems_rename (xs ys : List Value) :
    addItems (xs.map (rename ρ)) (ys.map (rename ρ)) =
      Prod.map (List.map (rename ρ)) id (addItems xs ys) := by
  induction ys generalizing xs with
  | nil => rfl
  | cons y rest ih =>
    simp only [List.map_cons, addItems, Value.isHashable_rename, Value.insertItem_rename injective,
      ih]
    split_ifs <;> rfl

theorem dropItem_rename (xs : List Value) (y : Value) :
    dropItem (xs.map (rename ρ)) (y.rename ρ) = (dropItem xs y).map (rename ρ) := by
  simp only [dropItem, List.filter_map, Function.comp_def, Value.sameKey_rename injective]

theorem dropItems_rename (xs ys : List Value) :
    dropItems (xs.map (rename ρ)) (ys.map (rename ρ)) =
      Prod.map (List.map (rename ρ)) id (dropItems xs ys) := by
  induction ys generalizing xs with
  | nil => rfl
  | cons y rest ih =>
    simp only [List.map_cons, dropItems, Value.isHashable_rename, dropItem_rename injective, ih]
    split_ifs <;> rfl

theorem commonItems_rename (xs ys : List Value) :
    commonItems (xs.map (rename ρ)) (ys.map (rename ρ)) =
      Prod.map (List.map (rename ρ)) id (commonItems xs ys) := by
  have sameKey := Value.sameKey_rename injective
  simp only [commonItems, List.all_map, Function.comp_def, Value.isHashable_rename, List.filter_map,
    List.any_map, sameKey]
  split_ifs <;> rfl

theorem toggledItems_rename (xs ys : List Value) :
    toggledItems (xs.map (rename ρ)) (ys.map (rename ρ)) =
      Prod.map (List.map (rename ρ)) id (toggledItems xs ys) := by
  have sameKey := Value.sameKey_rename injective
  have fresh := Value.insertItems_rename injective [] ys
  rw [List.map_nil] at fresh
  simp only [toggledItems, List.all_map, Function.comp_def, Value.isHashable_rename, fresh,
    List.filter_map, List.any_map, sameKey, ← List.map_append]
  split_ifs <;> rfl

theorem withoutItem_rename (xs : List Value) (x : Value) :
    withoutItem (xs.map (rename ρ)) (x.rename ρ) =
      (withoutItem xs x).map (List.map (rename ρ)) := by
  simp only [withoutItem, Value.isSet_rename, Value.isHashable_rename, dropItem_rename injective]
  split_ifs <;> rfl

theorem allIn_rename (xs ys : List Value) (wanted : Bool) :
    allIn (xs.map (rename ρ)) wanted (ys.map (rename ρ)) = allIn xs wanted ys := by
  induction ys with
  | nil => rfl
  | cons y rest ih =>
    simp only [List.map_cons, allIn, Value.isHashable_rename, any_sameKey_rename injective, ih]

end

theorem combined_rename (image : Heap.Image ρ h h')
    {step : List Value → List Value → List Value × Option Fault}
    (stepped : ∀ xs ys, step (xs.map (rename ρ)) (ys.map (rename ρ)) =
      Prod.map (List.map (rename ρ)) id (step xs ys)) (xs sources : List Value) :
    combined h' step (xs.map (rename ρ)) (sources.map (rename ρ)) =
      Prod.map (List.map (rename ρ)) id (combined h step xs sources) := by
  induction sources generalizing xs with
  | nil => rfl
  | cons source rest ih =>
    rw [List.map_cons, combined, combined, Value.items_rename image]
    cases source.items h with
    | error f => rfl
    | ok ys =>
      dsimp only [Except.map]
      rw [stepped]
      rcases step xs ys with ⟨xs, _ | f⟩
      · exact ih xs
      · rfl

theorem intersected_rename (image : Heap.Image ρ h h') (xs sources : List Value) :
    intersected h' (xs.map (rename ρ)) (sources.map (rename ρ)) =
      Prod.map (List.map (rename ρ)) id (intersected h xs sources) := by
  rw [intersected, intersected, combined_rename image (commonItems_rename image.injective)]
  rcases combined h commonItems xs sources with ⟨common, _ | f⟩ <;> rfl

theorem isSubset_rename (image : Heap.Image ρ h h') (xs : List Value) (source : Value) :
    isSubset h' (xs.map (rename ρ)) (source.rename ρ) = isSubset h xs source := by
  simp only [isSubset, Value.items_rename image, Outcome.bind_map, List.all_map,
    Function.comp_def, Value.isHashable_rename, allIn_rename image.injective]

theorem changeSet_mirrors (r : Nat) {outcome outcome' : List Value × Option Fault}
    (mapped : outcome' = Prod.map (List.map (rename ρ)) id outcome) :
    Memory.Mirrors ρ (rename ρ) (changeSet r outcome) (changeSet (ρ.set r) outcome') := by
  subst mapped
  obtain ⟨xs, _ | f⟩ := outcome
  · exact .bind (Memory.writeSet_mirrors r xs) fun _ => .pure Value.none
  · exact .bind (Memory.writeSet_mirrors r xs) fun _ => .throw f

theorem freshSet_mirrors {outcome outcome' : List Value × Option Fault}
    (mapped : outcome' = Prod.map (List.map (rename ρ)) id outcome) :
    Memory.Mirrors ρ (rename ρ) (freshSet outcome) (freshSet outcome') := by
  subst mapped
  obtain ⟨xs, _ | f⟩ := outcome
  · exact Memory.newSet_mirrors xs
  · exact .throw f

theorem popFirst_mirrors (r : Nat) (xs : List Value) :
    Memory.Mirrors ρ (rename ρ) (popFirst r xs) (popFirst (ρ.set r) (xs.map (rename ρ))) := by
  cases xs with
  | nil => exact .throw _
  | cons x rest => exact .bind (Memory.writeSet_mirrors r rest) fun _ => .pure x

theorem removeFrom_mirrors (image : Heap.Image ρ h h') (r : Nat) (xs : List Value) (x : Value) :
    Memory.Mirrors ρ (rename ρ) (removeFrom h r xs x)
      (removeFrom h' (ρ.set r) (xs.map (rename ρ)) (x.rename ρ)) := by
  refine .bind (.ofExcept (withoutItem_rename image.injective xs x)) fun rest => ?_
  rw [List.length_map, List.length_map, Value.quoted_rename image]
  exact .ite (.bind (.same _) fun _ => .throw _) (changeSet_mirrors r rfl)

theorem ofSet_mirrors (r : Nat) (name : Text) (c : Call) :
    Memory.Mirrors ρ (rename ρ) (ofSet r name c) (ofSet (ρ.set r) name (c.rename ρ)) := by
  refine .read fun h h' image => ?_
  have injective := image.injective
  dsimp only
  rw [image.set, Call.args_rename, List.length_map, Call.empty_rename]
  refine .bind (.ofExcept (Call.positional_rename c 0 _)) fun args => ?_
  refine .ite (changeSet_mirrors r (combined_rename image (addItems_rename injective) _ _)) ?_
  refine .ite (changeSet_mirrors r (combined_rename image (dropItems_rename injective) _ _)) ?_
  refine .ite (changeSet_mirrors r (intersected_rename image _ _)) ?_
  refine .ite (freshSet_mirrors (combined_rename image (addItems_rename injective) _ _)) ?_
  refine .ite (freshSet_mirrors (combined_rename image (dropItems_rename injective) _ _)) ?_
  refine .ite (freshSet_mirrors (combined_rename image (commonItems_rename injective) _ _)) ?_
  refine .ite (.bind (.same _) fun _ => popFirst_mirrors r _) ?_
  refine .ite (.bind (.same _) fun _ => changeSet_mirrors r rfl) ?_
  refine .ite (.bind (.same _) fun _ => Memory.newSet_mirrors _) ?_
  refine .bind (.ofExcept (one_rename c)) fun x => ?_
  refine .ite (changeSet_mirrors r (addItems_rename injective _ [x])) ?_
  refine .ite (.bind (.ofExcept (withoutItem_rename injective _ x)) fun rest =>
    changeSet_mirrors r rfl) ?_
  refine .ite (removeFrom_mirrors image r _ x) ?_
  refine .ite (changeSet_mirrors r (combined_rename image (toggledItems_rename injective) _ [x])) ?_
  refine .ite (freshSet_mirrors (combined_rename image (toggledItems_rename injective) _ [x])) ?_
  have within : ∀ wanted, (x.rename ρ).items h' >>= allIn ((h.set r).map (rename ρ)) wanted =
      x.items h >>= allIn (h.set r) wanted := by
    intro wanted
    rw [Value.items_rename image, Outcome.bind_map]
    simp only [allIn_rename injective]
  rw [within, within, isSubset_rename image]
  refine .ite (.bind (.same _) fun _ => .pure _) ?_
  refine .ite (.bind (.same _) fun _ => .pure _) ?_
  exact .ite (.bind (.same _) fun _ => .pure _) (.throw _)

theorem ofTuple_mirrors (xs : List Value) (name : Text) (c : Call) :
    Memory.Mirrors ρ (rename ρ) (ofTuple xs name c)
      (ofTuple (xs.map (rename ρ)) name (c.rename ρ)) := by
  refine .read fun h h' image => ?_
  exact .ite (.ofExcept (countOf_rename image xs c)) (.ite (.ofExcept (indexOf_rename image xs c))
    (.throw _))

@[simp] theorem rename_ratio (num den : Nat) (negative : Bool) :
    (ratio num den negative).rename ρ = ratio num den negative := by
  simp [ratio]

theorem ofInt_rename (v : Value) (n : Int) (name : Text) :
    ofInt (v.rename ρ) n name = (ofInt v n name).map (rename ρ) := by
  simp only [ofInt]
  split_ifs
  · rfl
  · rfl
  · rfl
  · simp [Except.map]
  · rfl

theorem ofFloat_rename (v : Value) (x : Float) (name : Text) :
    ofFloat (v.rename ρ) x name = (ofFloat v x name).map (rename ρ) := by
  simp only [ofFloat]
  split_ifs
  · rfl
  · rfl
  · cases Binary.decode x <;> simp [Except.map]
  · rfl

theorem numberMethod_rename (v : Value) (name : Text) :
    numberMethod (v.rename ρ) name = (numberMethod v name).map (rename ρ) := by
  cases v with
  | bool b => exact ofInt_rename (.ofInt (if b then 1 else 0)) _ name
  | int n o => exact ofInt_rename (.int n o) n name
  | float x o => exact ofFloat_rename (.float x o) x name
  | complex z o =>
    simp only [Value.rename, numberMethod]
    split_ifs <;> rfl
  | _ => rfl

theorem ofNumber_rename (v : Value) (name : Text) (c : Call) :
    ofNumber (v.rename ρ) name (c.rename ρ) = (ofNumber v name c).map (rename ρ) := by
  rw [ofNumber, ofNumber, Call.empty_rename, numberMethod_rename, Outcome.map_bind]

theorem call_mirrors (v : Value) (name : Text) (c : Call) :
    Memory.Mirrors ρ (rename ρ) (call v name c) (call (v.rename ρ) name (c.rename ρ)) := by
  have other : Memory.Mirrors ρ (rename ρ) (ofExcept (ofNumber v name c))
      (ofExcept (ofNumber (v.rename ρ) name (c.rename ρ))) :=
    .ofExcept (ofNumber_rename v name c)
  cases v with
  | text t o => exact ofText_mirrors (.text t o) t c name
  | bytes bs o => exact ofBytes_mirrors c o bs name
  | list r => exact ofList_mirrors name c
  | tuple xs o =>
    have items := ofTuple_mirrors (ρ := ρ) xs name c
    rw [← Value.renameAll_eq] at items
    exact items
  | dict r => exact ofDict_mirrors name c
  | set r => exact ofSet_mirrors r name c
  | _ => exact other

theorem receiverOf_rename (k : Kind) (c : Call) :
    receiverOf k (c.rename ρ) = (receiverOf k c).map (Prod.map (rename ρ) (Call.rename ρ)) := by
  obtain ⟨_ | ⟨v, rest⟩, keywords⟩ := c
  · rfl
  · have same : isInstance (v.rename ρ) k = isInstance v k := by simp [isInstance]
    simp only [receiverOf, Call.rename, List.map_cons, same]
    split_ifs <;> rfl

theorem integerOf_rename (v : Value) :
    integerOf (v.rename ρ) = (integerOf v).map (rename ρ) := by
  have cut : (Printf.truncated (v.rename ρ)).map Value.ofInt =
      ((Printf.truncated v).map Value.ofInt).map (rename ρ) := by
    simp [Outcome.map_map]
  cases v with
  | int n o => rfl
  | text t o => simp [integerOf, Outcome.map_map]
  | bytes bs o => simp [integerOf, Outcome.map_map]
  | _ => exact cut

theorem toInteger_rename (c : Call) :
    toInteger (c.rename ρ) = (toInteger c).map (rename ρ) := by
  rw [toInteger, toInteger, Call.positional_rename, Outcome.bind_map, Outcome.map_bind]
  congr
  funext args
  cases args with
  | nil => rfl
  | cons v rest => exact integerOf_rename v

theorem toText_rename (image : Heap.Image ρ h h') (c : Call) :
    toText h' (c.rename ρ) = (toText h c).map (rename ρ) := by
  rw [toText, toText, Call.positional_rename, Outcome.bind_map, Outcome.map_bind]
  congr
  funext args
  cases args with
  | nil => simp
  | cons v rest => exact Value.shown_rename image v

theorem toDict_mirrors (c : Call) :
    Memory.Mirrors ρ (rename ρ) (toDict c) (toDict (c.rename ρ)) := by
  refine .read fun h h' image => ?_
  have sources := Call.positional_rename (ρ := ρ) { c with keywords := [] } 0 1
  refine .bind (.ofExcept sources) fun sources => ?_
  have updated := updateFrom_rename image [] sources
  rw [Entries.rename_nil] at updated
  rw [updated]
  rcases updateFrom h [] sources with ⟨entries, _ | f⟩
  · have all := withKeywords_rename image entries c
    simp only [Prod.map, id, all]
    exact Memory.newDict_mirrors _
  · exact .throw f

theorem construct_mirrors (k : Kind) (c : Call) :
    Memory.Mirrors ρ (rename ρ) (construct k c) (construct k (c.rename ρ)) := by
  cases k with
  | int => exact .ofExcept (toInteger_rename c)
  | text => exact .read fun h h' image => .ofExcept (toText_rename image c)
  | dict => exact toDict_mirrors c
  | _ => exact .throw _

end Phrasebook.Method
