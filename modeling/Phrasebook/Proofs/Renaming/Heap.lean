import Phrasebook.Proofs.Outcome
import Phrasebook.Proofs.Renaming.Value
import Phrasebook.Proofs.Renaming.Mirror
import Mathlib.Data.Set.Operations
import Mathlib.Logic.Function.Basic
import Mathlib.Tactic.SplitIfs
/-!
Tables under a renaming of their places, and heaps under a renaming: one is the image of another, with
entries and containers of its own besides.
-/
namespace Phrasebook

/-- From some name on, names keep their distance. -/
def Aligned (f : Nat → Nat) (n n' : Nat) : Prop := ∀ i, f (n + i) = n' + i

namespace Aligned

variable {f : Nat → Nat} {n n' : Nat}

theorem add (aligned : Aligned f n n') (k : Nat) : Aligned f (n + k) (n' + k) := by
  intro i
  rw [Nat.add_assoc, aligned, Nat.add_assoc]

theorem start (aligned : Aligned f n n') : f n = n' := aligned 0

theorem lt_iff (aligned : Aligned f n n') (injective : Function.Injective f) (r : Nat) :
    f r < n' ↔ r < n := by
  constructor
  · intro below
    by_contra beyond
    obtain ⟨i, rfl⟩ := Nat.exists_eq_add_of_le (Nat.le_of_not_lt beyond)
    have image := aligned i
    omega
  · intro below
    by_contra beyond
    obtain ⟨i, place⟩ := Nat.exists_eq_add_of_le (Nat.le_of_not_lt beyond)
    have same : r = n + i := injective (place.trans (aligned i).symm)
    omega

end Aligned

/-- The entries of a table are images of those in another. -/
structure TableImage {α : Type} (f : Nat → Nat) (g : α → α) (table table' : Array α) : Prop where
  injective : Function.Injective f
  entry : ∀ r, table'[f r]? = table[r]?.map g
  aligned : Aligned f table.size table'.size

/-- A table has not shrunk, and its entries that are no images are as before. -/
structure TableKept {α : Type} (f : Nat → Nat) (table later : Array α) : Prop where
  entry : ∀ r, r ∉ Set.range f → later[r]? = table[r]?
  size : table.size ≤ later.size

namespace TableKept

variable {α : Type} {f : Nat → Nat} {table later last : Array α}

theorem refl (f : Nat → Nat) (table : Array α) : TableKept f table table :=
  ⟨fun _ _ => rfl, Nat.le_refl _⟩

theorem trans (first : TableKept f table later) (second : TableKept f later last) :
    TableKept f table last where
  entry r outside := (second.entry r outside).trans (first.entry r outside)
  size := Nat.le_trans first.size second.size

theorem set (table : Array α) (r : Nat) (a : α) :
    TableKept f table (table.setIfInBounds (f r) a) where
  entry s outside := by
    have other : f r ≠ s := fun same => outside ⟨r, same⟩
    rw [Array.getElem?_setIfInBounds_ne other]
  size := by simp

end TableKept

namespace TableImage

variable {α : Type} {f : Nat → Nat} {g : α → α} {table table' : Array α}

theorem push (image : TableImage f g table table') (a : α) :
    TableImage f g (table.push a) (table'.push (g a)) where
  injective := image.injective
  entry r := by
    have same : f r = table'.size ↔ r = table.size := by
      rw [← image.aligned.start]
      exact image.injective.eq_iff
    rw [Array.getElem?_push, Array.getElem?_push, image.entry]
    simp only [same]
    split_ifs <;> rfl
  aligned := by
    rw [Array.size_push, Array.size_push]
    exact image.aligned.add 1

theorem kept_push (image : TableImage f g table table') (a : α) :
    TableKept f table' (table'.push a) where
  entry r outside := by
    have other : r ≠ table'.size := fun last => outside ⟨_, image.aligned.start.trans last.symm⟩
    rw [Array.getElem?_push, if_neg other]
  size := by simp

theorem modify (image : TableImage f g table table') (r : Nat) (u u' : α → α)
    (agree : ∀ a, u' (g a) = g (u a)) :
    TableImage f g (table.modify r u) (table'.modify (f r) u') where
  injective := image.injective
  entry s := by
    rw [Array.getElem?_modify, Array.getElem?_modify, image.entry]
    simp only [image.injective.eq_iff]
    split_ifs
    · cases table[s]? <;> simp [agree]
    · rfl
  aligned := by
    rw [Array.size_modify, Array.size_modify]
    exact image.aligned

theorem set (image : TableImage f g table table') (r : Nat) (a : α) :
    TableImage f g (table.setIfInBounds r a) (table'.setIfInBounds (f r) (g a)) where
  injective := image.injective
  entry s := by
    rw [Array.getElem?_setIfInBounds, Array.getElem?_setIfInBounds, image.entry]
    simp only [image.injective.eq_iff, image.aligned.lt_iff image.injective]
    split_ifs <;> rfl
  aligned := by
    rw [Array.size_setIfInBounds, Array.size_setIfInBounds]
    exact image.aligned

end TableImage

namespace Value

variable {ρ : Renaming}

mutual

/-- Marking gives as many serials to the image of a value. -/
theorem markFrom_rename {n n' : Nat} (aligned : Aligned ρ.serial n n') (v : Value) :
    ∃ w k, v.markFrom n = (w, n + k) ∧ (v.rename ρ).markFrom n' = (w.rename ρ, n' + k) := by
  have start := aligned.start
  cases v with
  | tuple xs o =>
    cases o with
    | unmarked =>
      obtain ⟨ws, k, left, right⟩ := markAllFrom_rename aligned [] xs
      refine ⟨tuple ws (.made (n + k)), k + 1, ?_, ?_⟩
      · simp [markFrom, left, Nat.add_assoc]
      · simp [markFrom, Origin.rename] at right ⊢
        simp [right, aligned k, Nat.add_assoc]
    | _ => exact ⟨_, 0, rfl, rfl⟩
  | slice a b c o =>
    cases o with
    | unmarked =>
      obtain ⟨a', i, leftA, rightA⟩ := markFrom_rename aligned a
      obtain ⟨b', j, leftB, rightB⟩ := markFrom_rename (aligned.add i) b
      obtain ⟨c', k, leftC, rightC⟩ := markFrom_rename ((aligned.add i).add j) c
      refine ⟨slice a' b' c' (.made (n + i + j + k)), i + j + k + 1, ?_, ?_⟩
      · simp only [markFrom, leftA, leftB, leftC]
        simp [Nat.add_assoc]
      · have last := (aligned.add i).add j k
        simp only [rename, Origin.rename, markFrom, rightA, rightB, rightC, last]
        simp [Nat.add_assoc]
    | _ => exact ⟨_, 0, rfl, rfl⟩
  | method x name o =>
    cases o with
    | unmarked =>
      obtain ⟨x', k, left, right⟩ := markFrom_rename aligned x
      refine ⟨method x' name (.made (n + k)), k + 1, ?_, ?_⟩
      · simp [markFrom, left, Nat.add_assoc]
      · simp [markFrom, Origin.rename, right, aligned k, Nat.add_assoc]
    | _ => exact ⟨_, 0, rfl, rfl⟩
  | int _ o | float _ o | complex _ o | text _ o | bytes _ o | decimal _ o | view _ _ o
  | boundHelper _ _ o | form _ _ o =>
    cases o with
    | unmarked => exact ⟨_, 1, rfl, by simp [markFrom, Origin.rename, start]⟩
    | _ => exact ⟨_, 0, rfl, rfl⟩
  | _ => exact ⟨_, 0, rfl, rfl⟩

theorem markAllFrom_rename {n n' : Nat} (aligned : Aligned ρ.serial n n')
    (marked xs : List Value) : ∃ ws k, markAllFrom n marked xs = (ws, n + k) ∧
      markAllFrom n' (marked.map (rename ρ)) (xs.map (rename ρ)) =
        (ws.map (rename ρ), n' + k) := by
  cases xs with
  | nil => exact ⟨marked.reverse, 0, by simp [markAllFrom], by simp [markAllFrom]⟩
  | cons x xs =>
    obtain ⟨w, i, left, right⟩ := markFrom_rename aligned x
    obtain ⟨ws, k, leftRest, rightRest⟩ := markAllFrom_rename (aligned.add i) (w :: marked) xs
    refine ⟨ws, i + k, ?_, ?_⟩
    · simp [markAllFrom, left, leftRest, Nat.add_assoc]
    · rw [List.map_cons] at rightRest
      simp [markAllFrom, right, rightRest, Nat.add_assoc]

end

end Value

namespace Heap

/-- One heap is the image of another, apart from containers of its own and sorts outside. -/
structure Image (ρ : Renaming) (h h' : Heap) : Prop where
  injective : ρ.IsInjective
  lists : TableImage ρ.list (List.map (Value.rename ρ)) h.lists h'.lists
  dicts : TableImage ρ.dict (Entries.rename ρ) h.dicts h'.dicts
  sets : TableImage ρ.set (List.map (Value.rename ρ)) h.sets h'.sets
  objects : TableImage ρ.object (OrderedMap.rename ρ) h.objects h'.objects
  origins : Aligned ρ.serial h.origins h'.origins
  sorting : ∃ outer : List (Nat × Bool), outer.length = ρ.sorts ∧
    h'.sorting = outer ++ h.sorting.map fun s => (ρ.list s.1, s.2)

namespace Image

variable {ρ : Renaming} {h h' : Heap} (image : Image ρ h h') (r : Nat)
include image

theorem list : h'.list (ρ.list r) = (h.list r).map (Value.rename ρ) := by
  rw [Heap.list, Heap.list, image.lists.entry]
  cases h.lists[r]? <;> rfl

theorem dict : h'.dict (ρ.dict r) = (h.dict r).rename ρ := by
  rw [Heap.dict, Heap.dict, image.dicts.entry]
  cases h.dicts[r]? <;> rfl

theorem set : h'.set (ρ.set r) = (h.set r).map (Value.rename ρ) := by
  rw [Heap.set, Heap.set, image.sets.entry]
  cases h.sets[r]? <;> rfl

theorem object : h'.object (ρ.object r) = (h.object r).rename ρ := by
  rw [Heap.object, Heap.object, image.objects.entry]
  cases h.objects[r]? <;> rfl

end Image

/-- Containers that are no images are as before, and no name is given twice. -/
structure Kept (ρ : Renaming) (h k : Heap) : Prop where
  lists : TableKept ρ.list h.lists k.lists
  dicts : TableKept ρ.dict h.dicts k.dicts
  sets : TableKept ρ.set h.sets k.sets
  objects : TableKept ρ.object h.objects k.objects
  origins : h.origins ≤ k.origins

theorem Kept.refl (ρ : Renaming) (h : Heap) : Kept ρ h h :=
  ⟨.refl .., .refl .., .refl .., .refl .., Nat.le_refl _⟩

theorem Kept.trans {ρ : Renaming} {h k l : Heap} (first : Kept ρ h k) (second : Kept ρ k l) :
    Kept ρ h l where
  lists := first.lists.trans second.lists
  dicts := first.dicts.trans second.dicts
  sets := first.sets.trans second.sets
  objects := first.objects.trans second.objects
  origins := Nat.le_trans first.origins second.origins

def likeness (ρ : Renaming) : Likeness Heap := ⟨Image ρ, Kept ρ, .refl ρ, .trans⟩

end Heap

namespace Memory

/-- Computations end alike on a heap and its image. -/
abbrev Mirrors {α β : Type} (ρ : Renaming) (f : α → β) (m : Memory α) (m' : Memory β) : Prop :=
  (Heap.likeness ρ).Mirrors f m m'

section
variable {ρ : Renaming}

theorem mark_mirrors (v : Value) :
    Mirrors ρ (Value.rename ρ) (mark v) (mark (v.rename ρ)) := by
  intro h h' image
  obtain ⟨w, k, left, right⟩ := Value.markFrom_rename image.origins v
  rw [mark, EStateM.run_modifyGet, left, mark, EStateM.run_modifyGet, right]
  exact .ok w { image with origins := image.origins.add k }
    { Heap.Kept.refl ρ h' with origins := Nat.le_add_right _ _ }

theorem markAll_mirrors (items : List Value) :
    Mirrors ρ (List.map (Value.rename ρ)) (markAll items)
      (markAll (items.map (Value.rename ρ))) := by
  intro h h' image
  obtain ⟨ws, k, left, right⟩ := Value.markAllFrom_rename image.origins [] items
  rw [List.map_nil] at right
  rw [markAll, EStateM.run_modifyGet, left, markAll, EStateM.run_modifyGet, right]
  exact .ok ws { image with origins := image.origins.add k }
    { Heap.Kept.refl ρ h' with origins := Nat.le_add_right _ _ }

theorem markEntries_mirrors (entries : Entries) :
    Mirrors ρ (Entries.rename ρ) (markEntries entries) (markEntries (entries.rename ρ)) := by
  rw [markEntries, markEntries, Entries.keys_rename, Entries.values_rename]
  refine (markAll_mirrors _).bind fun ks => (markAll_mirrors _).bind fun vs => ?_
  have pairs : (ks.map (Value.rename ρ)).zip (vs.map (Value.rename ρ)) =
      Entries.rename ρ (ks.zip vs) := by
    simp [Entries.rename, List.zip_map]
  rw [pairs]
  exact .pure _

theorem newList_mirrors (items : List Value) :
    Mirrors ρ (Value.rename ρ) (newList items) (newList (items.map (Value.rename ρ))) := by
  refine (markAll_mirrors items).bind fun items h h' image => ?_
  change (Heap.likeness ρ).Alike _ h'
    (.ok (Value.list h.lists.size) { h with lists := h.lists.push items })
    (.ok (Value.list h'.lists.size) { h' with lists := h'.lists.push (items.map (Value.rename ρ)) })
  rw [← image.lists.aligned.start]
  exact .ok (Value.list h.lists.size) { image with lists := image.lists.push items }
    { Heap.Kept.refl ρ h' with lists := image.lists.kept_push _ }

theorem newDict_mirrors (entries : Entries) :
    Mirrors ρ (Value.rename ρ) (newDict entries) (newDict (entries.rename ρ)) := by
  refine (markEntries_mirrors entries).bind fun entries h h' image => ?_
  change (Heap.likeness ρ).Alike _ h'
    (.ok (Value.dict h.dicts.size) { h with dicts := h.dicts.push entries })
    (.ok (Value.dict h'.dicts.size) { h' with dicts := h'.dicts.push (entries.rename ρ) })
  rw [← image.dicts.aligned.start]
  exact .ok (Value.dict h.dicts.size) { image with dicts := image.dicts.push entries }
    { Heap.Kept.refl ρ h' with dicts := image.dicts.kept_push _ }

theorem newSet_mirrors (items : List Value) :
    Mirrors ρ (Value.rename ρ) (newSet items) (newSet (items.map (Value.rename ρ))) := by
  refine (markAll_mirrors items).bind fun items h h' image => ?_
  change (Heap.likeness ρ).Alike _ h'
    (.ok (Value.set h.sets.size) { h with sets := h.sets.push items })
    (.ok (Value.set h'.sets.size) { h' with sets := h'.sets.push (items.map (Value.rename ρ)) })
  rw [← image.sets.aligned.start]
  exact .ok (Value.set h.sets.size) { image with sets := image.sets.push items }
    { Heap.Kept.refl ρ h' with sets := image.sets.kept_push _ }

theorem writeDict_mirrors (r : Nat) (entries : Entries) :
    Mirrors ρ id (writeDict r entries) (writeDict (ρ.dict r) (entries.rename ρ)) := by
  refine (markEntries_mirrors entries).bind fun entries h h' image => ?_
  change (Heap.likeness ρ).Alike _ h'
    (.ok () { h with dicts := h.dicts.setIfInBounds r entries })
    (.ok () { h' with dicts := h'.dicts.setIfInBounds (ρ.dict r) (entries.rename ρ) })
  exact .ok () { image with dicts := image.dicts.set r entries }
    { Heap.Kept.refl ρ h' with dicts := .set _ r _ }

theorem writeSet_mirrors (r : Nat) (items : List Value) :
    Mirrors ρ id (writeSet r items) (writeSet (ρ.set r) (items.map (Value.rename ρ))) := by
  refine (markAll_mirrors items).bind fun items h h' image => ?_
  change (Heap.likeness ρ).Alike _ h'
    (.ok () { h with sets := h.sets.setIfInBounds r items })
    (.ok () { h' with sets := h'.sets.setIfInBounds (ρ.set r) (items.map (Value.rename ρ)) })
  exact .ok () { image with sets := image.sets.set r items }
    { Heap.Kept.refl ρ h' with sets := .set _ r _ }

/-- The lists being sorted, with the flag of one that is given items. -/
def flagged (sorting : List (Nat × Bool)) (r : Nat) (items : List Value) : List (Nat × Bool) :=
  sorting.map fun s => (s.1, s.2 || (s.1 == r && !items.isEmpty))

theorem flagged_rename (injective : Function.Injective ρ.list)
    {sorting sorting' : List (Nat × Bool)}
    (image : ∃ outer : List (Nat × Bool), outer.length = ρ.sorts ∧
      sorting' = outer ++ sorting.map fun s => (ρ.list s.1, s.2))
    (r : Nat) (items : List Value) :
    ∃ outer : List (Nat × Bool), outer.length = ρ.sorts ∧
      flagged sorting' (ρ.list r) (items.map (Value.rename ρ)) =
        outer ++ (flagged sorting r items).map fun s => (ρ.list s.1, s.2) := by
  obtain ⟨outer, length, rfl⟩ := image
  refine ⟨flagged outer (ρ.list r) (items.map (Value.rename ρ)), ?_, ?_⟩
  · rw [flagged, List.length_map, length]
  · simp [flagged, Function.comp_def, Renaming.beq_eq injective]

theorem writeList_mirrors (r : Nat) (items : List Value) :
    Mirrors ρ id (writeList r items) (writeList (ρ.list r) (items.map (Value.rename ρ))) := by
  refine (markAll_mirrors items).bind fun items h h' image => ?_
  change (Heap.likeness ρ).Alike _ h'
    (.ok () { h with
      lists := h.lists.setIfInBounds r items
      sorting := flagged h.sorting r items })
    (.ok () { h' with
      lists := h'.lists.setIfInBounds (ρ.list r) (items.map (Value.rename ρ))
      sorting := flagged h'.sorting (ρ.list r) (items.map (Value.rename ρ)) })
  have sorting := flagged_rename image.injective.list image.sorting r items
  exact .ok () { image with lists := image.lists.set r items, sorting := sorting }
    { Heap.Kept.refl ρ h' with lists := .set _ r _ }

theorem beginSort_mirrors (r : Nat) :
    Mirrors ρ (Prod.map (List.map (Value.rename ρ)) (ρ.sorts + ·)) (beginSort r)
      (beginSort (ρ.list r)) := by
  intro h h' image
  obtain ⟨outer, length, sorting⟩ := image.sorting
  change (Heap.likeness ρ).Alike _ h'
    (.ok (h.list r, h.sorting.length) { h with
      lists := h.lists.setIfInBounds r []
      sorting := h.sorting ++ [(r, false)] })
    (.ok (h'.list (ρ.list r), h'.sorting.length) { h' with
      lists := h'.lists.setIfInBounds (ρ.list r) []
      sorting := h'.sorting ++ [(ρ.list r, false)] })
  have depth : h'.sorting.length = ρ.sorts + h.sorting.length := by
    rw [sorting, List.length_append, List.length_map, length]
  rw [image.list, depth]
  refine .ok (h.list r, h.sorting.length)
    { image with lists := image.lists.set r [], sorting := ⟨outer, length, ?_⟩ }
    { Heap.Kept.refl ρ h' with lists := .set _ r _ }
  rw [sorting, List.map_append, List.append_assoc, List.map_singleton]

theorem endSort_mirrors (sort r : Nat) (items : List Value) :
    Mirrors ρ id (endSort sort r items)
      (endSort (ρ.sorts + sort) (ρ.list r) (items.map (Value.rename ρ))) := by
  have flag : Mirrors ρ id
      (modifyGet fun h => (h.sorting[sort]?.any (·.2), { h with sorting := h.sorting.take sort }))
      (modifyGet fun h => (h.sorting[ρ.sorts + sort]?.any (·.2),
        { h with sorting := h.sorting.take (ρ.sorts + sort) })) := by
    intro h h' image
    obtain ⟨outer, length, sorting⟩ := image.sorting
    have entry : h'.sorting[ρ.sorts + sort]?.any (·.2) = h.sorting[sort]?.any (·.2) := by
      rw [sorting, ← length, List.getElem?_append_right (Nat.le_add_right _ _), List.getElem?_map,
        Nat.add_sub_cancel_left]
      cases h.sorting[sort]? <;> rfl
    have taken : h'.sorting.take (ρ.sorts + sort) =
        outer ++ (h.sorting.take sort).map fun s => (ρ.list s.1, s.2) := by
      rw [sorting, ← length, List.take_length_add_append, List.map_take]
    rw [EStateM.run_modifyGet, EStateM.run_modifyGet, entry]
    exact .ok _ { image with sorting := ⟨outer, length, taken⟩ }
      { Heap.Kept.refl ρ h' with origins := Nat.le_refl _ }
  exact .bind flag fun wasFilled => .bind (writeList_mirrors r items) fun _ => .pure wasFilled

end
end Memory
end Phrasebook
