import Phrasebook.Proofs.OrderedMap
import Phrasebook.Proofs.Renaming.Heap
import Phrasebook.Value.Compare
/-!
Equality, order, membership and sorting in a heap and in its image.
-/
namespace Phrasebook

theorem OrderedMap.get?_rename (ρ : Renaming) (m : OrderedMap Value) (key : Text) :
    (m.rename ρ).get? key = (m.get? key).map (Value.rename ρ) := by
  induction m with
  | nil => rfl
  | cons e rest ih =>
    rw [rename_cons, get?_cons, get?_cons, ih]
    split_ifs <;> rfl

theorem Heap.Image.view {ρ : Renaming} {h h' : Heap} (image : Image ρ h h') (part : DictPart)
    (r : Nat) : h'.view part (ρ.dict r) = (h.view part r).map (Value.rename ρ) := by
  cases part <;> simp [Heap.view, image.dict, Entries.rename]

namespace Value

section
variable {ρ : Renaming} (injective : ρ.IsInjective)

theorem allM_map (f : Value → Value) (p : Value → Except Fault Bool) (xs : List Value) :
    allM p (xs.map f) = allM (fun x => p (f x)) xs := by
  induction xs with
  | nil => rfl
  | cons x rest ih => rw [List.map_cons, allM, allM, ih]

theorem anyM_map (f : Value → Value) (p : Value → Except Fault Bool) (xs : List Value) :
    anyM p (xs.map f) = anyM (fun x => p (f x)) xs := by
  induction xs with
  | nil => rfl
  | cons x rest ih => rw [List.map_cons, anyM, anyM, ih]

theorem allPairs_map (f : Value → Value) (p : Value → Value → Except Fault Bool)
    (xs ys : List Value) :
    allPairs p (xs.map f) (ys.map f) = allPairs (fun x y => p (f x) (f y)) xs ys := by
  induction xs generalizing ys with
  | nil => cases ys <;> rfl
  | cons x rest ih =>
    cases ys with
    | nil => rfl
    | cons y ys => rw [List.map_cons, List.map_cons, allPairs, allPairs, ih]

@[simp] theorem isSet_rename (v : Value) : (v.rename ρ).isSet = v.isSet := by
  cases v <;> simp [isSet]

variable {same same' : Value → Value → Except Fault Bool}
  (agree : ∀ a b, same' (a.rename ρ) (b.rename ρ) = same a b)
include injective agree

theorem sameItemBy_rename (a b : Value) :
    sameItemBy same' (a.rename ρ) (b.rename ρ) = sameItemBy same a b := by
  rw [sameItemBy, identical_rename injective, agree, sameItemBy]

theorem sameEntries_rename (m n entries : Entries) :
    sameEntries same' (m.rename ρ) (n.rename ρ) (entries.rename ρ) =
      sameEntries same m n entries := by
  induction entries with
  | nil => simp [sameEntries]
  | cons e rest ih =>
    rw [Entries.rename_cons, sameEntries, sameEntries, Entries.find?_rename injective]
    cases n.find? e.1 with
    | none => rfl
    | some v => simp only [Option.map_some, sameItemBy_rename injective agree, ih]

theorem sameFields_rename (m n fields : OrderedMap Value) :
    sameFields same' (m.rename ρ) (n.rename ρ) (fields.rename ρ) = sameFields same m n fields := by
  induction fields with
  | nil => simp [sameFields]
  | cons e rest ih =>
    rw [OrderedMap.rename_cons, sameFields, sameFields, OrderedMap.get?_rename]
    cases n.get? e.1 with
    | none => rfl
    | some v => simp only [Option.map_some, sameItemBy_rename injective agree, ih]

end

section
variable {ρ : Renaming} {h h' : Heap} (image : Heap.Image ρ h h')
include image

theorem setItems?_rename (v : Value) :
    (v.rename ρ).setItems? h' = (v.setItems? h).map (List.map (rename ρ)) := by
  cases v with
  | set r => simp [setItems?, image.set]
  | view part r o => cases part <;> simp [setItems?, image.view]
  | _ => rfl

variable {same same' : Value → Value → Except Fault Bool}
  (agree : ∀ a b, same' (a.rename ρ) (b.rename ρ) = same a b)
include agree

theorem setHolds_rename (container item : Value) :
    setHolds same' h' (container.rename ρ) (item.rename ρ) = setHolds same h container item := by
  have injective := image.injective
  cases container with
  | set r =>
    simp [setHolds, image.set, Function.comp_def, sameKey_rename injective]
  | view part r o =>
    cases part with
    | keys => simp [setHolds, image.dict, Entries.has_rename injective]
    | values => rfl
    | items =>
      cases item with
      | tuple xs p =>
        rcases xs with _ | ⟨key, _ | ⟨value, _ | ⟨x, rest⟩⟩⟩
        · rfl
        · rfl
        · simp only [rename, renameAll_eq, List.map_cons, List.map_nil, setHolds,
            isHashable_rename, image.dict, Entries.find?_rename injective]
          cases Entries.find? (h.dict r) key with
          | none => rfl
          | some v => simp only [Option.map_some, sameItemBy_rename injective agree]
        · rfl
      | _ => rfl
  | _ => rfl

theorem sameSets_rename (a b : Value) :
    sameSets same' h' (a.rename ρ) (b.rename ρ) = sameSets same h a b := by
  have identical := identical_rename image.injective a b
  rw [sameSets, sameSets, setItems?_rename image, setItems?_rename image]
  cases a.setItems? h with
  | none => simp [identical]
  | some xs =>
    cases b.setItems? h with
    | none => simp [identical]
    | some ys => simp [allM_map, setHolds_rename image agree]

theorem sameOther_rename (a b : Value) :
    sameOther same' h' (a.rename ρ) (b.rename ρ) = sameOther same h a b := by
  have sets := sameSets_rename image agree
  rw [sameOther, sameOther, number?_rename, number?_rename, isSet_rename, isSet_rename, sets, sets]

end

section
variable {ρ : Renaming} {h h' : Heap} (image : Heap.Image ρ h h')
include image

theorem sameWithin_rename (n : Nat) (a b : Value) :
    sameWithin h' n (a.rename ρ) (b.rename ρ) = sameWithin h n a b := by
  induction n generalizing a b with
  | zero => rfl
  | succ n ih =>
    have injective := image.injective
    have other := sameOther_rename image ih a b
    have pairs := allPairs_map (rename ρ) (sameItemBy (sameWithin h' n))
    simp only [sameItemBy_rename injective ih] at pairs
    cases a with
    | text t o | bytes bs o | date y m d => cases b <;> first | exact other | rfl
    | tuple xs o =>
      cases b with
      | tuple ys p => simp [sameWithin, pairs]
      | _ => exact other
    | list r =>
      cases b with
      | list s => simp [sameWithin, image.list, pairs]
      | _ => exact other
    | dict r =>
      cases b with
      | dict s => simp [sameWithin, image.dict, sameEntries_rename injective ih]
      | _ => exact other
    | object r =>
      cases b with
      | object s =>
        simp [sameWithin, image.object, injective.object.eq_iff, sameFields_rename injective ih]
      | _ => exact other
    | slice lower upper step o =>
      cases b with
      | slice x y z p => exact pairs [lower, upper, step] [x, y, z]
      | _ => exact other
    | method x name o =>
      cases b with
      | method y other p => simp [sameWithin, identical_rename injective]
      | _ => exact other
    | _ => exact other

theorem same_rename (a b : Value) : same h' (a.rename ρ) (b.rename ρ) = same h a b :=
  sameWithin_rename image nestingLimit a b

theorem sameItem_rename (a b : Value) :
    sameItem h' (a.rename ρ) (b.rename ρ) = sameItem h a b :=
  sameItemBy_rename image.injective (same_rename image) a b

theorem dropCommon_rename (xs ys : List Value) :
    dropCommon h' (xs.map (rename ρ)) (ys.map (rename ρ)) =
      (dropCommon h xs ys).map (Prod.map (List.map (rename ρ)) (List.map (rename ρ))) := by
  induction xs generalizing ys with
  | nil => rfl
  | cons x rest ih =>
    cases ys with
    | nil => rfl
    | cons y ys =>
      simp only [List.map_cons, dropCommon, sameItem_rename image, Outcome.map_bind]
      congr
      funext same
      cases same with
      | true => exact ih ys
      | false => rfl

theorem compareSets_rename (op : Comparison) (a b : Value) (xs ys : List Value) :
    compareSets h' op (a.rename ρ) (b.rename ρ) (xs.map (rename ρ)) (ys.map (rename ρ)) =
      compareSets h op a b xs ys := by
  cases op <;> simp [compareSets, allM_map, setHolds_rename image (same_rename image)]

theorem compareOther_rename (op : Comparison) (a b : Value) :
    compareOther h' op (a.rename ρ) (b.rename ρ) = compareOther h op a b := by
  have sets : ∀ xs ys, _ := compareSets_rename image op a b
  rw [compareOther, compareOther, number?_rename, number?_rename, setItems?_rename image,
    setItems?_rename image]
  cases a.setItems? h <;> cases b.setItems? h <;> simp [sets]

theorem compareSequences_rename {compared compared' : Value → Value → Except Fault Bool}
    (agree : ∀ a b, compared' (a.rename ρ) (b.rename ρ) = compared a b) (op : Comparison)
    (xs ys : List Value) :
    compareSequences compared' h' op (xs.map (rename ρ)) (ys.map (rename ρ)) =
      compareSequences compared h op xs ys := by
  simp only [compareSequences, dropCommon_rename image, Outcome.bind_map]
  congr
  funext rest
  obtain ⟨_ | ⟨x, xs⟩, _ | ⟨y, ys⟩⟩ := rest <;> simp [agree]

theorem compareWithin_rename (op : Comparison) (n : Nat) (a b : Value) :
    compareWithin h' op n (a.rename ρ) (b.rename ρ) = compareWithin h op n a b := by
  induction n generalizing a b with
  | zero => rfl
  | succ n ih =>
    have other := compareOther_rename image op a b
    cases a with
    | text t o | bytes bs o => cases b <;> first | exact other | rfl
    | tuple xs o =>
      cases b with
      | tuple ys p => simp [compareWithin, compareSequences_rename image ih]
      | _ => exact other
    | list r =>
      cases b with
      | list s => simp [compareWithin, image.list, compareSequences_rename image ih]
      | _ => exact other
    | _ => exact other

theorem compareBy_rename (op : Comparison) (a b : Value) :
    compareBy h' op (a.rename ρ) (b.rename ρ) = compareBy h op a b :=
  compareWithin_rename image op nestingLimit a b

theorem contains_rename (container item : Value) :
    contains h' (container.rename ρ) (item.rename ρ) = contains h container item := by
  have injective := image.injective
  have holds := setHolds_rename image (same_rename image) container item
  have items : ∀ x, sameItem h' (item.rename ρ) (rename ρ x) = sameItem h item x :=
    sameItem_rename image item
  cases container with
  | text t o => cases item <;> rfl
  | bytes bs o => cases item <;> rfl
  | tuple xs o => simp [contains, anyM_map, items]
  | list r => simp [contains, image.list, anyM_map, items]
  | dict r => simp [contains, image.dict, Entries.has_rename injective]
  | set r =>
    cases item with
    | set s =>
      have identical : ∀ x, (rename ρ x).identical (set (ρ.set s)) = x.identical (set s) :=
        fun x => identical_rename injective x (set s)
      simp [contains, image.set, Function.comp_def, identical]
    | _ => exact holds
  | view part r o =>
    cases part with
    | values => simp [contains, image.view, anyM_map, items]
    | _ => exact holds
  | _ => exact holds

end

section
variable {ρ : Renaming}

def Keyed.rename (ρ : Renaming) (k : Keyed) : Keyed := ⟨k.key.rename ρ, k.value.rename ρ⟩

theorem itemAtPosition_rename (xs : List Value) (i : Nat) :
    itemAtPosition (xs.map (rename ρ)).toArray i = (itemAtPosition xs.toArray i).rename ρ := by
  simp only [itemAtPosition, List.getElem?_toArray, List.getElem?_map]
  cases xs[i]? with
  | none => rfl
  | some x => rfl

theorem sortKeyed_rename {h h' : Heap} (image : Heap.Image ρ h h') (reverse : Bool)
    (xs : List Keyed) :
    sortKeyed h' reverse (xs.map (Keyed.rename ρ)) =
      ((sortKeyed h reverse xs).1.map (rename ρ), (sortKeyed h reverse xs).2) := by
  have keys : (xs.map (Keyed.rename ρ)).map Keyed.key = (xs.map Keyed.key).map (rename ρ) := by
    simp [Keyed.rename]
  have values : (xs.map (Keyed.rename ρ)).map Keyed.value =
      (xs.map Keyed.value).map (rename ρ) := by
    simp [Keyed.rename]
  have items : ∀ positions : List Nat,
      positions.map (itemAtPosition ((xs.map Keyed.value).map (rename ρ)).toArray) =
        (positions.map (itemAtPosition (xs.map Keyed.value).toArray)).map (rename ρ) := by
    intro positions
    induction positions with
    | nil => rfl
    | cons i rest ih => rw [List.map_cons, ih, itemAtPosition_rename, List.map_cons, List.map_cons]
  simp only [sortKeyed, keys, values, itemAtPosition_rename, compareBy_rename image, items,
    List.length_map]

end
end Value
end Phrasebook
