import Phrasebook.Method.Container
import Phrasebook.Proofs.Renaming.Reading
import Mathlib.Data.List.InsertIdx
/-!
Methods of containers in a heap and in its image.
-/
namespace Phrasebook.Method

open Value (rename)

variable {ρ : Renaming} {h h' : Heap}

theorem one_rename (c : Call) : one (c.rename ρ) = (one c).map (rename ρ) := by
  rw [one, one, Call.positional_rename, Outcome.bind_map, Outcome.map_bind]
  congr
  funext args
  rcases args with _ | ⟨x, _ | ⟨y, rest⟩⟩ <;> rfl

theorem takeAt_rename (xs : List Value) (i : Int) :
    takeAt (xs.map (rename ρ)) i =
      (takeAt xs i).map (Prod.map (rename ρ) (List.map (rename ρ))) := by
  simp only [takeAt, List.length_map, List.getElem?_map]
  generalize (if i < 0 then i + xs.length else i) = i
  split_ifs
  · rfl
  · cases xs[i.toNat]? with
    | none => rfl
    | some x => simp [Except.map, List.eraseIdx_map]

theorem popItem_rename (xs : List Value) (c : Call) :
    popItem (xs.map (rename ρ)) (c.rename ρ) =
      (popItem xs c).map (Prod.map (rename ρ) (List.map (rename ρ))) := by
  simp only [popItem, Call.positional_rename, Outcome.bind_map, Outcome.map_bind, takeAt_rename]
  congr
  funext args
  rcases args with _ | ⟨x, _ | ⟨y, rest⟩⟩
  · rfl
  · simp only [List.map_cons, List.map_nil, Value.toInt_rename, Outcome.map_bind]
  · rfl

theorem insertItem_rename (xs : List Value) (c : Call) :
    insertItem (xs.map (rename ρ)) (c.rename ρ) = (insertItem xs c).map (List.map (rename ρ)) := by
  rw [insertItem, insertItem, Call.positional_rename, Outcome.bind_map, Outcome.map_bind]
  congr
  funext args
  rcases args with _ | ⟨i, _ | ⟨x, _ | ⟨y, rest⟩⟩⟩
  · rfl
  · rfl
  · simp only [List.map_cons, List.map_nil, Value.toInt_rename, List.length_map, Outcome.map_bind]
    congr
    funext i
    simp
  · rfl

theorem keyed_rename (c : Call) :
    keyed (c.rename ρ) = (keyed c).map (Prod.map (rename ρ) (Option.map (rename ρ))) := by
  rw [keyed, keyed, Call.positional_rename, Outcome.bind_map, Outcome.map_bind]
  congr
  funext args
  cases args with
  | nil => rfl
  | cons key rest =>
    simp only [List.map_cons, Value.isHashable_rename, List.head?_map]
    split_ifs <;> rfl

section
variable (injective : ρ.IsInjective)
include injective

theorem getEntry_rename (entries : Entries) (c : Call) :
    getEntry (entries.rename ρ) (c.rename ρ) = (getEntry entries c).map (rename ρ) := by
  rw [getEntry, getEntry, keyed_rename, Outcome.bind_map, Outcome.map_bind]
  congr
  funext r
  obtain ⟨key, default⟩ := r
  simp only [Prod.map, Entries.find?_rename injective]
  cases entries.find? key <;> cases default <;> rfl

end

section
variable (image : Heap.Image ρ h h')
include image

theorem pairsOf_rename (out : Entries) (items : List Value) :
    pairsOf h' (out.rename ρ) (items.map (rename ρ)) =
      Prod.map (Entries.rename ρ) id (pairsOf h out items) := by
  induction items generalizing out with
  | nil => rfl
  | cons item rest ih =>
    rw [List.map_cons, pairsOf, pairsOf, Value.items_rename image]
    cases item.items h with
    | error f => rfl
    | ok pair =>
      rcases pair with _ | ⟨key, _ | ⟨value, _ | ⟨x, more⟩⟩⟩
      · rfl
      · rfl
      · simp only [Except.map, List.map_cons, List.map_nil, Value.isHashable_rename,
          Entries.insert_rename image.injective, ih]
        split_ifs <;> rfl
      · rfl

theorem updatePairs_rename (m : Entries) (source : Value) :
    updatePairs h' (m.rename ρ) (source.rename ρ) =
      Prod.map (Entries.rename ρ) id (updatePairs h m source) := by
  rw [updatePairs, updatePairs, Value.items_rename image]
  cases source.items h with
  | error f => rfl
  | ok items => exact pairsOf_rename image m items

theorem updateEntries_rename (m : Entries) (source : Value) :
    updateEntries h' (m.rename ρ) (source.rename ρ) =
      Prod.map (Entries.rename ρ) id (updateEntries h m source) := by
  have pairs := updatePairs_rename image m source
  cases source with
  | dict r => simp [updateEntries, image.dict, Entries.insertAll_rename image.injective]
  | _ => exact pairs

theorem occurrences_rename (x : Value) (xs : List Value) :
    occurrences h' (x.rename ρ) (xs.map (rename ρ)) = occurrences h x xs := by
  induction xs with
  | nil => rfl
  | cons y rest ih => rw [List.map_cons, occurrences, occurrences, ih, Value.sameItem_rename image]

theorem indexFrom_rename (x : Value) (at_ last : Nat) (xs : List Value) :
    indexFrom h' (x.rename ρ) at_ last (xs.map (rename ρ)) = indexFrom h x at_ last xs := by
  induction xs generalizing at_ with
  | nil => rfl
  | cons y rest ih =>
    rw [List.map_cons, indexFrom, indexFrom, ih, Value.sameItem_rename image]

theorem indexOf_rename (xs : List Value) (c : Call) :
    indexOf h' (xs.map (rename ρ)) (c.rename ρ) = (indexOf h xs c).map (rename ρ) := by
  rw [indexOf, indexOf, Call.positional_rename, Outcome.bind_map, Outcome.map_bind]
  congr
  funext args
  cases args with
  | nil => rfl
  | cons x bounds =>
    have positions : (bounds.map (rename ρ)).mapM Value.toPosition =
        bounds.mapM Value.toPosition := by
      simp [Function.comp_def]
    simp only [List.map_cons, positions, List.length_map, ← List.map_drop, indexFrom_rename image,
      Outcome.map_bind]
    rfl

theorem countOf_rename (xs : List Value) (c : Call) :
    countOf h' (xs.map (rename ρ)) (c.rename ρ) = (countOf h xs c).map (rename ρ) := by
  rw [countOf, countOf, Call.positional_rename, Outcome.bind_map, Outcome.map_bind]
  congr
  funext args
  rcases args with _ | ⟨x, _ | ⟨y, rest⟩⟩
  · rfl
  · simp only [List.map_cons, List.map_nil, occurrences_rename image, Outcome.map_bind]
    rfl
  · rfl

theorem removeItem_rename (x : Value) (xs : List Value) :
    removeItem h' (x.rename ρ) (xs.map (rename ρ)) =
      (removeItem h x xs).map (List.map (rename ρ)) := by
  induction xs with
  | nil => rfl
  | cons y rest ih =>
    simp only [List.map_cons, removeItem, Value.sameItem_rename image, ih, Outcome.map_bind]
    congr
    funext same
    cases same with
    | true => rfl
    | false => cases removeItem h x rest <;> rfl

theorem takeEntry_rename (entries : Entries) (key : Value) (default : Option Value) :
    takeEntry h' (entries.rename ρ) (key.rename ρ) (default.map (rename ρ)) =
      (takeEntry h entries key default).map (Prod.map (rename ρ) (Entries.rename ρ)) := by
  unfold takeEntry
  rw [Entries.find?_rename image.injective, Value.quoted_rename image]
  cases entries.find? key with
  | some v => simp [Except.map, Entries.erase_rename image.injective]
  | none =>
    cases default with
    | some v => rfl
    | none => simp [Outcome.map_bind]

theorem popEntry_rename (entries : Entries) (c : Call) :
    popEntry h' (entries.rename ρ) (c.rename ρ) =
      (popEntry h entries c).map (Prod.map (rename ρ) (Entries.rename ρ)) := by
  have entry := takeEntry_rename image entries
  have isEmpty : (entries.rename ρ).isEmpty = entries.isEmpty := List.isEmpty_map
  simp only [popEntry, isEmpty, keyed_rename, Call.positional_rename, Outcome.bind_map]
  split_ifs
  · rw [Outcome.map_bind]
    congr
    funext args
    have key : (args.map (rename ρ)).head?.getD Value.none =
        (args.head?.getD Value.none).rename ρ := by
      cases args <;> rfl
    rw [key, List.getElem?_map, entry]
  · rw [Outcome.map_bind]
    congr
    funext k
    exact entry k.1 k.2

theorem updateFrom_rename (entries : Entries) (sources : List Value) :
    updateFrom h' (entries.rename ρ) (sources.map (rename ρ)) =
      Prod.map (Entries.rename ρ) id (updateFrom h entries sources) := by
  cases sources with
  | nil => rfl
  | cons v rest => exact updateEntries_rename image entries v

theorem withKeywords_rename (entries : Entries) (c : Call) :
    withKeywords (entries.rename ρ) (c.rename ρ) = (withKeywords entries c).rename ρ := by
  rw [withKeywords, withKeywords, Call.keywords_rename, OrderedMap.entries_rename,
    Entries.insertAll_rename image.injective]

theorem updateDict_mirrors (r : Nat) (entries : Entries) (c : Call) :
    Memory.Mirrors ρ (rename ρ) (updateDict h r entries c)
      (updateDict h' (ρ.dict r) (entries.rename ρ) (c.rename ρ)) := by
  have sources := Call.positional_rename (ρ := ρ) { c with keywords := [] } 0 1
  refine .bind (.ofExcept sources) fun sources => ?_
  rw [updateFrom_rename image]
  rcases updateFrom h entries sources with ⟨updated, _ | f⟩
  · have all := withKeywords_rename image updated c
    simp only [Prod.map, id, all]
    exact .bind (Memory.writeDict_mirrors r _) fun _ => .pure _
  · exact .bind (Memory.writeDict_mirrors r updated) fun _ => .throw f

theorem ensureEntry_mirrors (r : Nat) (entries : Entries) (key value : Value) :
    Memory.Mirrors ρ (rename ρ) (ensureEntry r entries key value)
      (ensureEntry (ρ.dict r) (entries.rename ρ) (key.rename ρ) (value.rename ρ)) := by
  rw [ensureEntry, ensureEntry, Entries.find?_rename image.injective,
    Entries.insert_rename image.injective]
  cases entries.find? key with
  | some v => exact .pure v
  | none => exact .bind (Memory.writeDict_mirrors r _) fun _ => .pure value

end

theorem popLast_mirrors (r : Nat) (entries : Entries) :
    Memory.Mirrors ρ (rename ρ) (popLast r entries) (popLast (ρ.dict r) (entries.rename ρ)) := by
  have last : (entries.rename ρ).getLast? =
      entries.getLast?.map fun e => (e.1.rename ρ, e.2.rename ρ) := List.getLast?_map
  have others : (entries.rename ρ).dropLast = Entries.rename ρ entries.dropLast :=
    List.map_dropLast.symm
  rw [popLast, popLast, last, others]
  cases entries.getLast? with
  | none => exact .throw _
  | some e => exact .bind (Memory.writeDict_mirrors r _) fun _ => .pure' (by simp)

section
variable {r : Nat}

/-- A list is given new items, and the call gives nothing. -/
theorem change_mirrors {x x' : Except Fault (List Value)}
    (mapped : x' = x.map (List.map (rename ρ))) :
    Memory.Mirrors ρ (rename ρ)
      (do Memory.writeList r (← ofExcept x); pure Value.none)
      (do Memory.writeList (ρ.list r) (← ofExcept x'); pure Value.none) :=
  .bind (.ofExcept mapped) fun xs => .bind (Memory.writeList_mirrors r xs) fun _ => .pure Value.none

theorem ofList_mirrors (name : Text) (c : Call) :
    Memory.Mirrors ρ (rename ρ) (ofList r name c) (ofList (ρ.list r) name (c.rename ρ)) := by
  refine .read fun h h' image => ?_
  dsimp only
  rw [image.list]
  refine .ite (change_mirrors ?_) (.ite (change_mirrors ?_) (.ite (change_mirrors ?_)
    (.ite (change_mirrors ?_) (.ite (change_mirrors ?_) (.ite (change_mirrors ?_) (.ite ?_
    (.ite ?_ (.ite (.ofExcept (countOf_rename image _ c))
    (.ite (.ofExcept (indexOf_rename image _ c)) (.throw _))))))))))
  · simp [one_rename, Outcome.map_map]
  · simp only [one_rename, Outcome.bind_map, Value.items_rename image, ← List.map_append,
      Outcome.map_bind]
    rfl
  · exact insertItem_rename _ c
  · simp only [one_rename, Outcome.bind_map, removeItem_rename image, Outcome.map_bind]
  · simp [Outcome.map_map]
  · simp [Outcome.map_map]
  · refine .bind (.ofExcept (popItem_rename _ c)) fun taken => ?_
    exact .bind (Memory.writeList_mirrors r taken.2) fun _ => .pure _
  · rw [Call.empty_rename]
    exact .bind (.same _) fun _ => Memory.newList_mirrors _

theorem view_mirrors (part : DictPart) (c : Call) :
    Memory.Mirrors ρ (rename ρ)
      (do ofExcept c.empty; pure (Value.view part r .unmarked))
      (do ofExcept (c.rename ρ).empty; pure (Value.view part (ρ.dict r) .unmarked)) := by
  rw [Call.empty_rename]
  exact .bind (.same _) fun _ => .pure _

theorem ofDict_mirrors (name : Text) (c : Call) :
    Memory.Mirrors ρ (rename ρ) (ofDict r name c) (ofDict (ρ.dict r) name (c.rename ρ)) := by
  refine .read fun h h' image => ?_
  dsimp only
  rw [image.dict]
  have injective := image.injective
  refine .ite (.ofExcept (getEntry_rename injective _ c)) (.ite (view_mirrors _ c)
    (.ite (view_mirrors _ c) (.ite (view_mirrors _ c) (.ite ?_ (.ite ?_ (.ite ?_ (.ite ?_ (.ite ?_
    (.ite (updateDict_mirrors image r _ c) (.throw _))))))))))
  · refine .bind (.ofExcept (popEntry_rename image _ c)) fun taken => ?_
    exact .bind (Memory.writeDict_mirrors r taken.2) fun _ => .pure _
  · rw [Call.empty_rename]
    exact .bind (.same _) fun _ => popLast_mirrors r _
  · refine .bind (.ofExcept (keyed_rename c)) fun k => ?_
    have default : (k.2.map (rename ρ)).getD Value.none = (k.2.getD Value.none).rename ρ := by
      cases k.2 <;> rfl
    dsimp only [Prod.map]
    rw [default]
    exact ensureEntry_mirrors image r _ k.1 _
  · rw [Call.empty_rename]
    exact .bind (.same _) fun _ => Memory.newDict_mirrors _
  · rw [Call.empty_rename]
    refine .bind (.same _) fun _ => .bind (Memory.writeDict_mirrors r []) fun _ => .pure _

end
end Phrasebook.Method
