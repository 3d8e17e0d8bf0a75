import Phrasebook.Proofs.Resource.Paths
import Mathlib.Data.List.Chain
import Mathlib.Logic.Relation
/-!
How deep resources nest. Compiled data nest no deeper than their guard allows, merged trees no deeper
than the trees merged, and the recursions over trees go no deeper than these.
-/
namespace Phrasebook

namespace DepthGuard

/-- The levels that may still be entered. -/
def room (g : DepthGuard) : Nat := (g.limit - g.depth).toNat

theorem room_of_enter {g inner : DepthGuard} (entered : g.enter = .ok inner) :
    g.room = inner.room + 1 := by
  rw [enter] at entered
  split_ifs at entered with full
  cases entered
  simp only [room]
  omega

end DepthGuard

theorem Template.source_of_compile {budget : Budget} {t : Text} {template : Template}
    (compiled : compile budget t = .ok template) : template.source = t := by
  rw [compile] at compiled
  split_ifs at compiled
  · cases compiled
    rfl
  · obtain ⟨segments, -, compiled⟩ := Outcome.bind_eq_ok.mp compiled
    obtain ⟨parts, -, compiled⟩ := Outcome.bind_eq_ok.mp compiled
    cases compiled
    rfl

namespace Resource

/-- What stands directly inside a value. -/
inductive Holds : Resource → Resource → Prop
  | entry {entries : List (Text × Resource)} {e : Text × Resource} (member : e ∈ entries) :
      Holds (.tree entries) e.2
  | item {items : List Resource} {r : Resource} (member : r ∈ items) : Holds (.sequence items) r

theorem holds_of_child? {segment : Text} {r v : Resource}
    (found : child? segment r = .ok (some v)) : Holds r v := by
  cases r with
  | leaf template => cases found
  | tree entries => exact .entry (OrderedMap.mem_of_get?_eq_some _ _ _ (Except.ok.inj found))
  | sequence items =>
    obtain ⟨i, -, found⟩ := Outcome.bind_eq_ok.mp found
    cases i with
    | none => cases found
    | some i => exact .item (List.mem_of_getElem? (Except.ok.inj found))

/-- What is found under a key stands in the value. -/
theorem reaches_of_find {key : Text} {r v : Resource} (found : find key (some r) = .ok (some v)) :
    Relation.ReflTransGen Holds r v := by
  rw [find] at found
  split_ifs at found
  · cases found
    exact .refl
  · generalize Text.splitAt separator key = path at found
    induction path generalizing r with
    | nil =>
      cases found
      exact .refl
    | cons segment rest ih =>
      obtain ⟨child, held, later⟩ := Outcome.bind_eq_ok.mp found
      cases child with
      | none => simp [findFrom_none] at later
      | some c => exact .head (holds_of_child? held) (ih later)

/-- A value with at most so many levels inside, whose leaves are what their sources compile to. -/
inductive Fits (budget : Budget) : Nat → Resource → Prop
  | leaf {n : Nat} {template : Template}
      (compiled : Template.compile budget template.source = .ok template) :
      Fits budget n (.leaf template)
  | sequence {n : Nat} {items : List Resource} (room : items ≠ [] → 0 < n)
      (each : ∀ r ∈ items, Fits budget (n - 1) r) : Fits budget n (.sequence items)
  | tree {n : Nat} {entries : List (Text × Resource)} (room : entries ≠ [] → 0 < n)
      (each : ∀ e ∈ entries, Fits budget (n - 1) e.2) : Fits budget n (.tree entries)

variable {budget : Budget} {n : Nat}

theorem fits_sequence_iff {items : List Resource} :
    Fits budget n (.sequence items) ↔ ∀ r ∈ items, 0 < n ∧ Fits budget (n - 1) r := by
  constructor
  · rintro (_ | ⟨room, each⟩) r member
    exact ⟨room (List.ne_nil_of_mem member), each r member⟩
  · intro each
    refine .sequence (fun nonempty => ?_) fun r member => (each r member).2
    obtain ⟨r, member⟩ := List.exists_mem_of_ne_nil _ nonempty
    exact (each r member).1

theorem fits_tree_iff {entries : List (Text × Resource)} :
    Fits budget n (.tree entries) ↔ ∀ e ∈ entries, 0 < n ∧ Fits budget (n - 1) e.2 := by
  constructor
  · rintro (_ | _ | ⟨room, each⟩) e member
    exact ⟨room (List.ne_nil_of_mem member), each e member⟩
  · intro each
    refine .tree (fun nonempty => ?_) fun e member => (each e member).2
    obtain ⟨e, member⟩ := List.exists_mem_of_ne_nil _ nonempty
    exact (each e member).1

namespace Fits

theorem empty : Fits budget n (.tree []) := fits_tree_iff.mpr (by simp)

theorem get? {entries : ResourceTree} {key : Text} {r : Resource}
    (fits : Fits budget n (.tree entries)) (found : entries.get? key = some r) :
    0 < n ∧ Fits budget (n - 1) r :=
  fits_tree_iff.mp fits _ (OrderedMap.mem_of_get?_eq_some _ _ _ found)

theorem insert {entries : ResourceTree} {key : Text} {r : Resource}
    (fits : Fits budget n (.tree entries)) (fitsValue : 0 < n ∧ Fits budget (n - 1) r) :
    Fits budget n (.tree (OrderedMap.insert entries key r)) := by
  refine fits_tree_iff.mpr fun e member => ?_
  rcases OrderedMap.mem_insert _ _ _ member with rfl | old
  · exact fitsValue
  · exact fits_tree_iff.mp fits e old

theorem inside {r v : Resource} (fits : Fits budget n r) (holds : Holds r v) :
    0 < n ∧ Fits budget (n - 1) v := by
  cases holds with
  | entry member => exact fits_tree_iff.mp fits _ member
  | item member => exact fits_sequence_iff.mp fits _ member

/-- A chain of values, each standing in the one before, is no longer than there are levels. -/
theorem length_le {r : Resource} {chain : List Resource} (fits : Fits budget n r)
    (nested : List.IsChain Holds (r :: chain)) : chain.length ≤ n := by
  induction chain generalizing r n with
  | nil => exact Nat.zero_le n
  | cons v rest ih =>
    obtain ⟨holds, nested⟩ := List.isChain_cons_cons.mp nested
    obtain ⟨room, fits⟩ := fits.inside holds
    have shorter := ih fits nested
    rw [List.length_cons]
    omega

theorem compiled_of_reaches {r : Resource} {template : Template} (fits : Fits budget n r)
    (reaches : Relation.ReflTransGen Holds r (.leaf template)) :
    Template.compile budget template.source = .ok template := by
  induction reaches using Relation.ReflTransGen.head_induction_on generalizing n with
  | refl =>
    cases fits with
    | leaf compiled => exact compiled
  | head holds _ ih => exact ih (fits.inside holds).2

end Fits

variable {site : Site}

mutual

theorem Compiles.fits {guard : DepthGuard} {path : Text} {d : Datum} {r : Resource} :
    Compiles site guard path d r → 0 < guard.room ∧ Fits site.budget (guard.room - 1) r
  | .text entered fromSource => by
    rw [DepthGuard.room_of_enter entered]
    refine ⟨Nat.succ_pos _, .leaf ?_⟩
    rwa [Template.source_of_compile fromSource]
  | .map entered compiled => by
    rw [DepthGuard.room_of_enter entered]
    exact ⟨Nat.succ_pos _, compiled.fits .empty⟩
  | .list entered compiled | .tuple entered compiled => by
    rw [DepthGuard.room_of_enter entered]
    exact ⟨Nat.succ_pos _, fits_sequence_iff.mpr compiled.fits⟩
  | .shared compiled => compiled.fits

theorem CompilesEntries.fits {guard : DepthGuard} {path : Text} {done tree : ResourceTree}
    {entries : List (Value × Datum)} : CompilesEntries site guard path done entries tree →
    Fits site.budget guard.room (.tree done) → Fits site.budget guard.room (.tree tree)
  | .nil, fitsDone => fitsDone
  | .cons _ compiled later, fitsDone => later.fits (fitsDone.insert compiled.fits)

theorem CompilesItems.fits {guard : DepthGuard} {path : Text} {index : Nat} {items : List Datum}
    {values : List Resource} : CompilesItems site guard path index items values →
    ∀ r ∈ values, 0 < guard.room ∧ Fits site.budget (guard.room - 1) r
  | .nil => by simp
  | .cons _ compiled later => List.forall_mem_cons.mpr ⟨compiled.fits, later.fits⟩

end

theorem compile_fits {maxDepth : Int} {data : Datum} {tree : ResourceTree}
    (compiled : compile site maxDepth data = .ok tree) :
    Fits site.budget (Depth.clamp maxDepth).toNat (.tree tree) := by
  obtain ⟨entries, -, compiled⟩ := compile_eq_ok_iff.mp compiled
  have fits := compiled.fits .empty
  simpa [DepthGuard.room, DepthGuard.new] using fits

mutual

theorem mergeValue_fits {n : Nat} {old : Option Resource} (fitsOld : ∀ r ∈ old, Fits budget n r) :
    ∀ new : Resource, Fits budget n new → Fits budget n (mergeValue old new)
  | .leaf template, fits => by
    rwa [mergeValue]
  | .sequence items, fits => by
    rwa [mergeValue]
  | .tree entries, fits => by
    rcases old with _ | (template | items | before)
    · exact fits
    · exact fits
    · exact fits
    · rw [mergeValue]
      exact mergeEntries_fits entries (fitsOld _ rfl) (fits_tree_iff.mp fits)

theorem mergeEntries_fits {n : Nat} {old : ResourceTree} : ∀ new : List (Text × Resource),
    Fits budget n (.tree old) → (∀ e ∈ new, 0 < n ∧ Fits budget (n - 1) e.2) →
    Fits budget n (.tree (mergeEntries old new))
  | [], fitsOld, _ => fitsOld
  | (key, value) :: rest, fitsOld, each => by
    obtain ⟨⟨room, fitsValue⟩, each⟩ := List.forall_mem_cons.mp each
    have fitsBefore : ∀ r ∈ OrderedMap.get? old key, Fits budget (n - 1) r :=
      fun r found => (fitsOld.get? found).2
    have merged := mergeValue_fits fitsBefore value fitsValue
    exact mergeEntries_fits rest (fitsOld.insert ⟨room, merged⟩) each

end

theorem merge_fits {old new : ResourceTree} (fitsOld : Fits budget n (.tree old))
    (fitsNew : Fits budget n (.tree new)) : Fits budget n (.tree (merge old new)) :=
  mergeEntries_fits new fitsOld (fits_tree_iff.mp fitsNew)

mutual

/-- `mergeValue` as long as merges inside each other are no more than `levels`. -/
def mergeValueWithin (levels : Nat) : Option Resource → Resource → Option Resource
  | some (.tree old), .tree new =>
    match levels with
    | 0 => none
    | levels + 1 => (mergeEntriesWithin levels old new).map .tree
  | _, .tree new => some (.tree new)
  | _, .leaf t => some (.leaf t)
  | _, .sequence items => some (.sequence items)

def mergeEntriesWithin (levels : Nat) (old : List (Text × Resource)) :
    List (Text × Resource) → Option (List (Text × Resource))
  | [] => some old
  | (key, value) :: rest => do
    let merged ← mergeValueWithin levels (OrderedMap.get? old key) value
    mergeEntriesWithin levels (OrderedMap.insert old key merged) rest

end

/-- Merging with at most `levels` merges under way inside the first one. -/
def mergeWithin (levels : Nat) (old new : ResourceTree) : Option ResourceTree :=
  mergeEntriesWithin levels old new

mutual

theorem mergeValueWithin_eq {n : Nat} {old : Option Resource} (room : 0 < n) :
    ∀ new : Resource, Fits budget (n - 1) new →
      mergeValueWithin n old new = some (mergeValue old new)
  | .leaf template, _ => by
    rw [mergeValueWithin, mergeValue]
  | .sequence items, _ => by
    rw [mergeValueWithin, mergeValue]
  | .tree entries, fits => by
    rcases old with _ | (template | items | before)
    · rfl
    · rfl
    · rfl
    · obtain ⟨n, rfl⟩ : ∃ k, n = k + 1 := ⟨n - 1, by omega⟩
      have inner : mergeEntriesWithin n before entries = some (mergeEntries before entries) :=
        mergeEntriesWithin_eq entries (fits_tree_iff.mp fits)
      rw [mergeValueWithin, mergeValue, inner]
      rfl

theorem mergeEntriesWithin_eq {n : Nat} {old : ResourceTree} : ∀ new : List (Text × Resource),
    (∀ e ∈ new, 0 < n ∧ Fits budget (n - 1) e.2) →
    mergeEntriesWithin n old new = some (mergeEntries old new)
  | [], _ => rfl
  | (key, value) :: rest, each => by
    obtain ⟨⟨room, fitsValue⟩, each⟩ := List.forall_mem_cons.mp each
    rw [mergeEntriesWithin, mergeEntries, mergeValueWithin_eq room value fitsValue]
    exact mergeEntriesWithin_eq rest each

end

theorem mergeWithin_eq {old new : ResourceTree} (fits : Fits budget n (.tree new)) :
    mergeWithin n old new = some (merge old new) :=
  mergeEntriesWithin_eq new (fits_tree_iff.mp fits)

/-- Trees under one key are merged inside the first merge, also if they are empty. -/
example : (mergeWithin 0 [("a", .tree [])] [("a", .tree [])]).isNone ∧
    (mergeWithin 1 [("a", .tree [])] [("a", .tree [])]).isSome := by
  decide

mutual

/-- `keysOf` as long as trees inside each other are no more than `levels`. -/
def keysOfWithin (levels : Nat) (path : Text) : Resource → Option (List Text)
  | .tree entries =>
    match levels with
    | 0 => none
    | levels + 1 => keysFromWithin levels path entries
  | .leaf _ | .sequence _ => some [path]

def keysFromWithin (levels : Nat) (path : Text) : List (Text × Resource) → Option (List Text)
  | [] => some []
  | (key, value) :: rest => do
    let here ← keysOfWithin levels (join path key) value
    let later ← keysFromWithin levels path rest
    pure (here ++ later)

end

/-- Listing the keys of a tree with at most `levels` trees being listed inside it. -/
def keysWithin (levels : Nat) (tree : ResourceTree) : Option (List Text) :=
  keysFromWithin levels [] tree

mutual

theorem keysOfWithin_eq {n : Nat} {path : Text} (room : 0 < n) : ∀ r : Resource,
    Fits budget (n - 1) r → keysOfWithin n path r = some (keysOf path r)
  | .leaf template, _ => rfl
  | .sequence items, _ => rfl
  | .tree entries, fits => by
    obtain ⟨n, rfl⟩ : ∃ k, n = k + 1 := ⟨n - 1, by omega⟩
    rw [keysOfWithin, keysOf]
    exact keysFromWithin_eq entries (fits_tree_iff.mp fits)

theorem keysFromWithin_eq {n : Nat} {path : Text} : ∀ entries : List (Text × Resource),
    (∀ e ∈ entries, 0 < n ∧ Fits budget (n - 1) e.2) →
    keysFromWithin n path entries = some (keysFrom path entries)
  | [], _ => rfl
  | (key, value) :: rest, each => by
    obtain ⟨⟨room, fitsValue⟩, each⟩ := List.forall_mem_cons.mp each
    rw [keysFromWithin, keysFrom, keysOfWithin_eq room value fitsValue,
      keysFromWithin_eq rest each]
    rfl

end

theorem keysWithin_eq {tree : ResourceTree} (fits : Fits budget n (.tree tree)) :
    keysWithin n tree = some (keys tree) :=
  keysFromWithin_eq tree (fits_tree_iff.mp fits)

end Resource
end Phrasebook
