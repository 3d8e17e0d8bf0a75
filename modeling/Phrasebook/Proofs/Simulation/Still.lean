import Phrasebook.Proofs.OrderedMap
import Phrasebook.Proofs.Renaming.State
/-!
Values and states in which no helper asks the store. What asks the store does so through the reader of
a context, so that moving the readers leaves the others as they are.
-/
namespace Phrasebook

/-- Moves the readers of contexts on, and nothing else. What asks the store moves unless the shift is
none. -/
def Renaming.past (shift : Nat) : Renaming where
  list := id
  dict := id
  set := id
  object := id
  lambda := id
  run := id
  context := id
  reader := (· + shift)
  serial := id
  sorts := 0
  delay := 0

open Renaming (past)

theorem Renaming.past_injective (shift : Nat) : (past shift).IsInjective where
  list := Function.injective_id
  dict := Function.injective_id
  set := Function.injective_id
  object := Function.injective_id
  lambda := Function.injective_id
  run := Function.injective_id
  context := Function.injective_id
  reader := fun _ _ same => Nat.add_right_cancel same
  serial := Function.injective_id

namespace Value

mutual

/-- Whether a value, outside of containers, is or holds a helper that asks the store. -/
def asksStore : Value → Bool
  | helper h | boundHelper h _ _ => h.asksStore
  | tuple items _ => anyAsks items
  | slice a b c _ => asksStore a || asksStore b || asksStore c
  | method x _ _ => asksStore x
  | _ => false

def anyAsks : List Value → Bool
  | [] => false
  | x :: xs => asksStore x || anyAsks xs

end

variable {shift : Nat}

theorem rename_origin (o : Origin) : o.rename (past shift) = o := by
  cases o <;> rfl

mutual

theorem still (v : Value) (quiet : v.asksStore = false ∨ shift = 0) : v.rename (past shift) = v := by
  cases v with
  | tuple items o => rw [rename, renameAll_eq, all_still items quiet, rename_origin]
  | slice a b c o =>
    simp only [asksStore, Bool.or_eq_false_iff] at quiet
    rw [rename, still a (quiet.imp_left (·.1.1)), still b (quiet.imp_left (·.1.2)),
      still c (quiet.imp_left (·.2)), rename_origin]
  | method x name o => rw [rename, still x quiet, rename_origin]
  | boundHelper h r o =>
    rw [rename, rename_origin, Renaming.contextFor]
    split_ifs with asks
    · rw [quiet.resolve_left fun silent => Bool.false_ne_true (silent.symm.trans asks)]
      rfl
    · rfl
  | view part r o => exact congrArg (view part r) (rename_origin o)
  | int _ o | float _ o | complex _ o | text _ o | bytes _ o | decimal _ o | form _ _ o =>
    rw [rename, rename_origin]
  | _ => rfl

theorem all_still (xs : List Value) (quiet : anyAsks xs = false ∨ shift = 0) :
    xs.map (rename (past shift)) = xs := by
  cases xs with
  | nil => rfl
  | cons x xs =>
    simp only [anyAsks, Bool.or_eq_false_iff] at quiet
    rw [List.map_cons, still x (quiet.imp_left (·.1)), all_still xs (quiet.imp_left (·.2))]

end

theorem map_still {xs : List Value} (quiet : (∀ v ∈ xs, v.asksStore = false) ∨ shift = 0) :
    xs.map (rename (past shift)) = xs :=
  (List.map_congr_left fun v member => still v (quiet.imp_left fun quiet => quiet v member)).trans
    (List.map_id xs)

end Value

/-- No value of a map asks the store. -/
def OrderedMap.IsQuiet (m : OrderedMap Value) : Prop := ∀ e ∈ m, e.2.asksStore = false

variable {shift : Nat}

theorem OrderedMap.still {m : OrderedMap Value} (quiet : m.IsQuiet ∨ shift = 0) :
    m.rename (past shift) = m := by
  refine (List.map_congr_left fun e member => ?_).trans (List.map_id m)
  rw [Value.still e.2 (quiet.imp_left fun quiet => quiet e member)]
  rfl

theorem OrderedMap.IsQuiet.insertAll {m more : OrderedMap Value} (quiet : m.IsQuiet)
    (others : more.IsQuiet) : (m.insertAll more).IsQuiet :=
  forall_insertAll (α := Value) (P := fun v => v.asksStore = false) quiet others

theorem Context.still {c : Context}
    (quiet : c.config.templateData.IsQuiet ∧ c.templateData.IsQuiet ∨ shift = 0) :
    c.rename (past shift) = c := by
  rw [rename, Config.rename, OrderedMap.still (quiet.imp_left (·.1)),
    OrderedMap.still (quiet.imp_left (·.2))]

/-- Nothing that a state holds asks the store. -/
structure RenderState.IsQuiet (s : RenderState) : Prop where
  lists : ∀ xs ∈ s.heap.lists, ∀ v ∈ xs, v.asksStore = false
  dicts : ∀ m ∈ s.heap.dicts, ∀ e ∈ m, e.1.asksStore = false ∧ e.2.asksStore = false
  sets : ∀ xs ∈ s.heap.sets, ∀ v ∈ xs, v.asksStore = false
  objects : ∀ m ∈ s.heap.objects, m.IsQuiet
  closures : ∀ c ∈ s.closures, OrderedMap.IsQuiet c.locals
  runs : ∀ r ∈ s.runs, r.data.IsQuiet
  contexts : ∀ c ∈ s.contexts, c.config.templateData.IsQuiet ∧ c.templateData.IsQuiet

theorem TableImage.of_still {α : Type} {g : α → α} {table : Array α} (still : ∀ a ∈ table, g a = a) :
    TableImage id g table table where
  injective := Function.injective_id
  entry r := by
    cases found : table[r]? with
    | none => simp [found]
    | some a => simp [found, still a (Array.mem_of_getElem? found)]
  aligned := fun _ => rfl

namespace RenderState

variable {s : RenderState} (quiet : s.IsQuiet ∨ shift = 0)
include quiet

theorem heap_still : Heap.Image (past shift) s.heap s.heap where
  injective := Renaming.past_injective shift
  lists := .of_still fun xs member =>
    Value.map_still (quiet.imp_left fun quiet => quiet.lists xs member)
  dicts := .of_still fun m member => by
    refine (List.map_congr_left fun e inside => ?_).trans (List.map_id m)
    have entry := quiet.imp_left fun quiet => quiet.dicts m member e inside
    rw [Value.still e.1 (entry.imp_left (·.1)), Value.still e.2 (entry.imp_left (·.2))]
    rfl
  sets := .of_still fun xs member =>
    Value.map_still (quiet.imp_left fun quiet => quiet.sets xs member)
  objects := .of_still fun m member =>
    OrderedMap.still (quiet.imp_left fun quiet => quiet.objects m member)
  origins := fun _ => rfl
  sorting := ⟨[], rfl, by simp [past]⟩

theorem still : s.Image (past shift) s where
  heap := heap_still quiet
  closures := .of_still fun c member => by
    rw [Closure.rename, OrderedMap.still (quiet.imp_left fun quiet => quiet.closures c member)]
    rfl
  runs := .of_still fun r member => by
    rw [Run.rename, OrderedMap.still (quiet.imp_left fun quiet => quiet.runs r member)]
    simp [past]
  contexts := .of_still fun c member =>
    Context.still (quiet.imp_left fun quiet => quiet.contexts c member)
  clock := rfl
  store := rfl
  engine := ⟨rfl, rfl⟩
  sharedEngine := ⟨rfl, rfl⟩

end RenderState
end Phrasebook
