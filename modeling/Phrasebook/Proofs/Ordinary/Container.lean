import Phrasebook.Method.Construct
import Phrasebook.Method.Dispatch
import Phrasebook.Proofs.Ordinary.Method
/-!
Methods of lists, tuples, dictionaries and sets, and what classes make, fail with ordinary faults only.
-/
namespace Phrasebook.Method

/-- What was reached before a fault, which is ordinary. -/
def EndsOrdinary {α : Type} (outcome : α × Option Fault) : Prop :=
  ∀ f, outcome.2 = some f → f.IsOrdinary

namespace EndsOrdinary

@[grind .] theorem complete {α : Type} (a : α) : EndsOrdinary (a, none) := fun _ failed => nomatch failed

@[grind ←] theorem stopped {α : Type} {a : α} {f : Fault} (ordinary : f.IsOrdinary) :
    EndsOrdinary (a, some f) := by
  rintro _ ⟨⟩
  exact ordinary

end EndsOrdinary

@[grind .] theorem pairsOf_endsOrdinary (h : Heap) (out : Entries) (items : List Value) :
    EndsOrdinary (pairsOf h out items) := by
  induction items generalizing out with
  | nil => exact .complete out
  | cons item rest ih =>
    have read := item.items_ordinary h
    rw [pairsOf]
    split
    · grind
    · exact .stopped .value
    · rename_i f failed
      exact .stopped (read f failed)

@[grind .] theorem updateEntries_endsOrdinary (h : Heap) (m : Entries) (source : Value) :
    EndsOrdinary (updateEntries h m source) := by
  have pairs : EndsOrdinary (updatePairs h m source) := by
    have read := source.items_ordinary h
    rw [updatePairs]
    split
    · exact pairsOf_endsOrdinary h m _
    · rename_i f failed
      exact .stopped (read f failed)
  cases source with
  | dict r => exact .complete _
  | _ => exact pairs

section
variable (h : Heap) (c : Call) (xs : List Value)

@[grind .] theorem occurrences_ordinary (x : Value) : Ordinary (occurrences h x xs) := by
  induction xs with
  | nil => exact .ok 0
  | cons y rest ih => grind [occurrences]

@[grind .] theorem indexFrom_ordinary (x : Value) (at_ last : Nat) :
    Ordinary (indexFrom h x at_ last xs) := by
  induction xs generalizing at_ with
  | nil => exact .error .value
  | cons y rest ih => grind [indexFrom]

@[grind .] theorem indexOf_ordinary : Ordinary (indexOf h xs c) := by
  have bounds (vs : List Value) : Ordinary (vs.mapM Value.toPosition) :=
    .mapM Value.toPosition_ordinary vs
  grind [indexOf]

@[grind .] theorem countOf_ordinary : Ordinary (countOf h xs c) := by
  grind [countOf]

@[grind .] theorem takeAt_ordinary (i : Int) : Ordinary (takeAt xs i) := by
  grind [takeAt]

@[grind .] theorem popItem_ordinary : Ordinary (popItem xs c) := by
  grind [popItem]

@[grind .] theorem insertItem_ordinary : Ordinary (insertItem xs c) := by
  grind [insertItem]

@[grind .] theorem removeItem_ordinary (x : Value) : Ordinary (removeItem h x xs) := by
  induction xs with
  | nil => exact .error .value
  | cons y rest ih => grind [removeItem]

@[grind .] theorem one_ordinary : Ordinary (one c) := by
  grind [one]

@[grind .] theorem ofList_ordinary (r : Nat) (name : Text) : Memory.Ordinary (ofList r name c) := by
  refine .bind .get fun h => ?_
  repeat' refine .ite ?_ ?_
  all_goals grind

@[grind .] theorem ofTuple_ordinary (name : Text) : Memory.Ordinary (ofTuple xs name c) := by
  grind [ofTuple]

@[grind .] theorem keyed_ordinary : Ordinary (keyed c) := by
  grind [keyed]

@[grind .] theorem getEntry_ordinary (entries : Entries) : Ordinary (getEntry entries c) := by
  grind [getEntry]

@[grind .] theorem takeEntry_ordinary (entries : Entries) (key : Value) (default : Option Value) :
    Ordinary (takeEntry h entries key default) := by
  fun_cases takeEntry h entries key default <;> grind

@[grind .] theorem popEntry_ordinary (entries : Entries) : Ordinary (popEntry h entries c) := by
  grind [popEntry]

@[grind .] theorem updateFrom_endsOrdinary (entries : Entries) (vs : List Value) :
    EndsOrdinary (updateFrom h entries vs) := by
  cases vs <;> grind [updateFrom]

@[grind .] theorem updateDict_ordinary (r : Nat) (entries : Entries) :
    Memory.Ordinary (updateDict h r entries c) := by
  refine .bind (.ofExcept (Call.positional_ordinary _ 0 1)) fun sources => ?_
  have ended := updateFrom_endsOrdinary h entries sources
  generalize updateFrom h entries sources = outcome at ended ⊢
  obtain ⟨updated, _ | f⟩ := outcome
  · grind
  · exact .bind (Memory.writeDict_ordinary r updated) fun _ => .throw (ended f rfl)

@[grind .] theorem popLast_ordinary (r : Nat) (entries : Entries) :
    Memory.Ordinary (popLast r entries) := by
  grind [popLast]

@[grind .] theorem ensureEntry_ordinary (r : Nat) (entries : Entries) (key value : Value) :
    Memory.Ordinary (ensureEntry r entries key value) := by
  grind [ensureEntry]

@[grind .] theorem ofDict_ordinary (r : Nat) (name : Text) : Memory.Ordinary (ofDict r name c) := by
  refine .bind .get fun h => ?_
  repeat' refine .ite ?_ ?_
  all_goals grind

end

section
variable (xs ys : List Value)

@[grind .] theorem addItems_endsOrdinary : EndsOrdinary (addItems xs ys) := by
  induction ys generalizing xs with
  | nil => exact .complete xs
  | cons y rest ih => grind [addItems]

@[grind .] theorem dropItems_endsOrdinary : EndsOrdinary (dropItems xs ys) := by
  induction ys generalizing xs with
  | nil => exact .complete xs
  | cons y rest ih => grind [dropItems]

@[grind .] theorem commonItems_endsOrdinary : EndsOrdinary (commonItems xs ys) := by
  grind [commonItems]

@[grind .] theorem toggledItems_endsOrdinary : EndsOrdinary (toggledItems xs ys) := by
  grind [toggledItems]

@[grind ←] theorem combined_endsOrdinary (h : Heap)
    {step : List Value → List Value → List Value × Option Fault}
    (each : ∀ xs ys, EndsOrdinary (step xs ys)) (sources : List Value) :
    EndsOrdinary (combined h step xs sources) := by
  induction sources generalizing xs with
  | nil => exact .complete xs
  | cons source rest ih =>
    have read := source.items_ordinary h
    rw [combined]
    split
    · rename_i ys _
      have ended := each xs ys
      split
      · exact ih _
      · rename_i f stopped
        exact .stopped (ended f (congrArg Prod.snd stopped))
    · rename_i f failed
      exact .stopped (read f failed)

@[grind .] theorem intersected_endsOrdinary (h : Heap) (sources : List Value) :
    EndsOrdinary (intersected h xs sources) := by
  have ended := combined_endsOrdinary xs h commonItems_endsOrdinary sources
  grind [intersected, EndsOrdinary]

@[grind .] theorem withoutItem_ordinary (x : Value) : Ordinary (withoutItem xs x) := by
  grind [withoutItem]

@[grind .] theorem allIn_ordinary (wanted : Bool) : Ordinary (allIn xs wanted ys) := by
  induction ys with
  | nil => exact .ok true
  | cons y rest ih => grind [allIn]

@[grind ←] theorem changeSet_ordinary (r : Nat) {outcome : List Value × Option Fault}
    (ended : EndsOrdinary outcome) : Memory.Ordinary (changeSet r outcome) := by
  grind [changeSet, EndsOrdinary]

@[grind ←] theorem freshSet_ordinary {outcome : List Value × Option Fault}
    (ended : EndsOrdinary outcome) : Memory.Ordinary (freshSet outcome) := by
  grind [freshSet, EndsOrdinary]

@[grind .] theorem popFirst_ordinary (r : Nat) : Memory.Ordinary (popFirst r xs) := by
  cases xs <;> grind [popFirst]

@[grind .] theorem removeFrom_ordinary (h : Heap) (r : Nat) (x : Value) :
    Memory.Ordinary (removeFrom h r xs x) := by
  grind [removeFrom]

@[grind .] theorem isSubset_ordinary (h : Heap) (source : Value) :
    Ordinary (isSubset h xs source) := by
  grind [isSubset]

@[grind .] theorem ofSet_ordinary (r : Nat) (name : Text) (c : Call) :
    Memory.Ordinary (ofSet r name c) := by
  refine .bind .get fun h => .bind (.ofExcept (c.positional_ordinary 0 _)) fun args => ?_
  repeat' refine .ite ?_ ?_
  all_goals grind

end

@[grind .] theorem call_ordinary (v : Value) (name : Text) (c : Call) :
    Memory.Ordinary (call v name c) := by
  fun_cases call v name c <;> grind

@[grind .] theorem receiverOf_ordinary (k : Kind) (c : Call) : Ordinary (receiverOf k c) := by
  grind [receiverOf]

@[grind .] theorem readInt_ordinary (t : Text) : Ordinary (readInt t) := by
  grind [readInt]

@[grind .] theorem integerOf_ordinary (v : Value) : Ordinary (integerOf v) := by
  fun_cases integerOf v <;> grind

@[grind .] theorem toInteger_ordinary (c : Call) : Ordinary (toInteger c) := by
  grind [toInteger]

@[grind .] theorem toText_ordinary (h : Heap) (c : Call) : Ordinary (toText h c) := by
  grind [toText]

@[grind .] theorem toDict_ordinary (c : Call) : Memory.Ordinary (toDict c) := by
  refine .bind .get fun h => .bind (.ofExcept (Call.positional_ordinary _ 0 1)) fun sources => ?_
  have ended := updateFrom_endsOrdinary h [] sources
  generalize updateFrom h [] sources = outcome at ended ⊢
  obtain ⟨entries, _ | f⟩ := outcome
  · exact Memory.newDict_ordinary _
  · exact .throw (ended f rfl)

@[grind .] theorem construct_ordinary (k : Kind) (c : Call) : Memory.Ordinary (construct k c) := by
  cases k <;> grind [construct]

end Phrasebook.Method
