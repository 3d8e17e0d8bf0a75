import Phrasebook.Proofs.Renaming.Reference
import Phrasebook.Proofs.Renaming.State
/-!
Compaction: a state that holds a selection of the containers of another and nothing else, and that
the other is an image of.
-/
namespace Phrasebook

/-- Kept positions in their order, and after them those beyond the end of a table. -/
def stretch (kept : List Nat) (size i : Nat) : Nat := (kept[i]?).getD (size + (i - kept.length))

section
variable {kept : List Nat} {size : Nat}

theorem aligned_stretch (kept : List Nat) (size : Nat) :
    Aligned (stretch kept size) kept.length size := by
  intro i
  simp [stretch]

theorem stretch_idxOf (size : Nat) {r : Nat} (member : r ∈ kept) :
    stretch kept size (kept.idxOf r) = r := by
  have place := List.idxOf_lt_length_of_mem member
  rw [stretch, List.getElem?_eq_getElem place, List.getElem_idxOf]
  rfl

theorem stretch_cases (kept : List Nat) (size i : Nat) :
    (∃ place : i < kept.length, stretch kept size i = kept[i]) ∨
      kept.length ≤ i ∧ stretch kept size i = size + (i - kept.length) := by
  rcases Nat.lt_or_ge i kept.length with place | beyond
  · exact .inl ⟨place, by rw [stretch, List.getElem?_eq_getElem place]; rfl⟩
  · exact .inr ⟨beyond, by rw [stretch, List.getElem?_eq_none beyond]; rfl⟩

theorem mem_of_stretch {i r : Nat} (bound : r < size) (named : stretch kept size i = r) :
    r ∈ kept := by
  rcases stretch_cases kept size i with ⟨place, same⟩ | ⟨_, same⟩
  · rw [← named, same]
    exact List.getElem_mem place
  · omega

theorem stretch_injective (distinct : kept.Nodup) (bounds : ∀ r ∈ kept, r < size) :
    Function.Injective (stretch kept size) := by
  intro i j same
  rcases stretch_cases kept size i with ⟨left, first⟩ | ⟨left, first⟩ <;>
    rcases stretch_cases kept size j with ⟨right, second⟩ | ⟨right, second⟩
  · rw [first, second] at same
    exact (distinct.getElem_inj_iff).mp same
  · have bound := bounds _ (List.getElem_mem left)
    omega
  · have bound := bounds _ (List.getElem_mem right)
    omega
  · omega

theorem TableImage.ofKept {α : Type} {g : α → α} {table : Array α} (entries : Nat → α)
    (distinct : kept.Nodup) (same : ∀ r ∈ kept, table[r]? = some (g (entries r))) :
    TableImage (stretch kept table.size) g (kept.map entries).toArray table where
  injective := by
    refine stretch_injective distinct fun r member => ?_
    have found := same r member
    rw [Array.getElem?_eq_some_iff] at found
    exact found.1
  entry i := by
    rcases stretch_cases kept table.size i with ⟨place, named⟩ | ⟨beyond, named⟩
    · rw [named, same _ (List.getElem_mem place)]
      simp [place]
    · rw [named, Array.getElem?_eq_none (Nat.le_add_right _ _)]
      simp [beyond]
  aligned := by
    have aligned := aligned_stretch kept table.size
    simpa using aligned

theorem TableImage.ofEmpty {α : Type} {g : α → α} (table : Array α) :
    TableImage (stretch [] table.size) g #[] table where
  injective := stretch_injective .nil (by simp)
  entry i := by simp [stretch]
  aligned := aligned_stretch [] table.size

end

namespace Heap

/-- What a container holds. -/
def content? (h : Heap) : Ref → Option Content
  | .list r => h.lists[r]?.map .items
  | .dict r => h.dicts[r]?.map .entries
  | .set r => h.sets[r]?.map .items
  | .object r => h.objects[r]?.map .fields
  | _ => none

/-- Whether a reference is to a container of the heap, or a serial that has been given. -/
def Owns (h : Heap) : Ref → Prop
  | .serial n => n < h.origins
  | x => (h.content? x).isSome

theorem Image.content? {ρ : Renaming} {h h' : Heap} (image : Image ρ h h') (x : Ref) :
    h'.content? (x.rename ρ) = (h.content? x).map (Content.rename ρ) := by
  cases x with
  | list r => simp [Ref.rename, Heap.content?, image.lists.entry, Function.comp_def, Content.rename]
  | dict r => simp [Ref.rename, Heap.content?, image.dicts.entry, Function.comp_def, Content.rename]
  | set r => simp [Ref.rename, Heap.content?, image.sets.entry, Function.comp_def, Content.rename]
  | object r =>
    simp [Ref.rename, Heap.content?, image.objects.entry, Function.comp_def, Content.rename]
  | _ => rfl

theorem Kept.content? {ρ : Renaming} {h k : Heap} (kept : Kept ρ h k) (x : Ref)
    (outside : ∀ y : Ref, y.rename ρ ≠ x) : k.content? x = h.content? x := by
  cases x with
  | list r =>
    have other : r ∉ Set.range ρ.list := fun ⟨i, same⟩ => outside (.list i) (congrArg _ same)
    rw [Heap.content?, Heap.content?, kept.lists.entry r other]
  | dict r =>
    have other : r ∉ Set.range ρ.dict := fun ⟨i, same⟩ => outside (.dict i) (congrArg _ same)
    rw [Heap.content?, Heap.content?, kept.dicts.entry r other]
  | set r =>
    have other : r ∉ Set.range ρ.set := fun ⟨i, same⟩ => outside (.set i) (congrArg _ same)
    rw [Heap.content?, Heap.content?, kept.sets.entry r other]
  | object r =>
    have other : r ∉ Set.range ρ.object := fun ⟨i, same⟩ => outside (.object i) (congrArg _ same)
    rw [Heap.content?, Heap.content?, kept.objects.entry r other]
  | _ => rfl

end Heap

/-- Containers of each kind, and the serials below a bound. -/
structure Selection where
  lists : List Nat
  dicts : List Nat
  sets : List Nat
  objects : List Nat
  origins : Nat

namespace Selection

/-- The new place of what is kept. -/
def back (k : Selection) : Renaming where
  list := k.lists.idxOf
  dict := k.dicts.idxOf
  set := k.sets.idxOf
  object := k.objects.idxOf
  lambda := id
  run := id
  context := id
  reader := id
  serial := id
  sorts := 0
  delay := 0

/-- Where all that is kept stands in a state, and where it goes on. -/
def into (k : Selection) (s : RenderState) : Renaming where
  list := stretch k.lists s.heap.lists.size
  dict := stretch k.dicts s.heap.dicts.size
  set := stretch k.sets s.heap.sets.size
  object := stretch k.objects s.heap.objects.size
  lambda := stretch [] s.closures.size
  run := stretch [] s.runs.size
  context := stretch [] s.contexts.size
  reader := stretch [] s.contexts.size
  serial := stretch (List.range k.origins) s.heap.origins
  sorts := s.heap.sorting.length
  delay := s.clock

def Has (k : Selection) : Ref → Prop
  | .list r => r ∈ k.lists
  | .dict r => r ∈ k.dicts
  | .set r => r ∈ k.sets
  | .object r => r ∈ k.objects
  | .serial n => n < k.origins
  | .lambda _ | .context _ => False

theorem restored (k : Selection) (s : RenderState) {x : Ref} (kept : k.Has x) :
    x.Restored k.back (k.into s) := by
  refine ⟨?_, fun r same => by subst same; exact kept.elim⟩
  cases x with
  | list r => exact congrArg Ref.list (stretch_idxOf _ kept)
  | dict r => exact congrArg Ref.dict (stretch_idxOf _ kept)
  | set r => exact congrArg Ref.set (stretch_idxOf _ kept)
  | object r => exact congrArg Ref.object (stretch_idxOf _ kept)
  | serial n =>
    have bound : n < k.origins := kept
    have same : stretch (List.range k.origins) s.heap.origins n = n := by
      simp [stretch, bound]
    exact congrArg Ref.serial same
  | lambda r => exact kept.elim
  | context r => exact kept.elim

/-- The state that holds what is kept. -/
def twin (k : Selection) (s : RenderState) : RenderState where
  heap :=
    { lists := (k.lists.map fun r => (s.heap.list r).map (Value.rename k.back)).toArray
      dicts := (k.dicts.map fun r => (s.heap.dict r).rename k.back).toArray
      sets := (k.sets.map fun r => (s.heap.set r).map (Value.rename k.back)).toArray
      objects := (k.objects.map fun r => (s.heap.object r).rename k.back).toArray
      origins := k.origins }
  store := s.store
  engine := s.engine
  sharedEngine := s.sharedEngine

/-- A selection of different containers that refer to nothing else. -/
structure IsClosed (k : Selection) (h : Heap) : Prop where
  lists : k.lists.Nodup
  dicts : k.dicts.Nodup
  sets : k.sets.Nodup
  objects : k.objects.Nodup
  owned : ∀ x, k.Has x → h.Owns x
  within : ∀ x c, k.Has x → h.content? x = some c → ∀ y ∈ c.refs, k.Has y

/-- A state in which what is kept of another is as it was. -/
structure Follows (k : Selection) (s s' : RenderState) : Prop where
  content : ∀ x, k.Has x → s'.heap.content? x = s.heap.content? x
  origins : k.origins ≤ s'.heap.origins
  store : s'.store = s.store
  engine : s.engine.Agrees s'.engine
  sharedEngine : s.sharedEngine.Agrees s'.sharedEngine

variable {k : Selection} {s s' : RenderState}

theorem Follows.refl (bound : k.origins ≤ s.heap.origins) : k.Follows s s :=
  ⟨fun _ _ => rfl, bound, rfl, ⟨rfl, rfl⟩, ⟨rfl, rfl⟩⟩

/-- What is kept is found again behind its renaming. -/
theorem IsClosed.content (closed : k.IsClosed s.heap) {x : Ref} (kept : k.Has x) {c : Content}
    (found : s.heap.content? x = some c) : (c.rename k.back).rename (k.into s') = c :=
  c.rename_rename fun y member => k.restored s' (closed.within x c kept found y member)

theorem kept_content (closed : k.IsClosed s.heap) (follows : k.Follows s s') {x : Ref}
    (kept : k.Has x) : s'.heap.content? x =
      (s.heap.content? x).map fun c => (c.rename k.back).rename (k.into s') := by
  rw [follows.content x kept]
  cases found : s.heap.content? x with
  | none => rfl
  | some c => exact congrArg some (closed.content kept found).symm

/-- Different containers of a heap, and serials that it has given. -/
structure Picks (k : Selection) (h : Heap) : Prop where
  lists : k.lists.Nodup
  dicts : k.dicts.Nodup
  sets : k.sets.Nodup
  objects : k.objects.Nodup
  owned : ∀ x, k.Has x → h.Owns x

theorem IsClosed.picks {h : Heap} (closed : k.IsClosed h) : k.Picks h :=
  ⟨closed.lists, closed.dicts, closed.sets, closed.objects, closed.owned⟩

/-- The heap that holds what is kept of another, under new names. -/
def cut (k : Selection) (back : Renaming) (h : Heap) : Heap where
  lists := (k.lists.map fun r => (h.list r).map (Value.rename back)).toArray
  dicts := (k.dicts.map fun r => (h.dict r).rename back).toArray
  sets := (k.sets.map fun r => (h.set r).map (Value.rename back)).toArray
  objects := (k.objects.map fun r => (h.object r).rename back).toArray
  origins := k.origins

section
variable {back ρ : Renaming} {h : Heap}

/-- Containers of one kind, which a table holds. -/
theorem tableImage {h' : Heap}
    (content : ∀ x, k.Has x →
      h'.content? x = (h.content? x).map fun c => (c.rename back).rename ρ) {β : Type}
    {table : Heap → Array (List β)} {f : Nat → Ref} {make : List β → Content}
    {g : Renaming → List β → List β} (injective : Function.Injective make)
    (reads : ∀ h r, h.content? (f r) = (table h)[r]?.map make)
    (maps : ∀ ρ xs, (make xs).rename ρ = make (g ρ xs)) {kept : List Nat}
    (distinct : kept.Nodup) (has : ∀ r ∈ kept, k.Has (f r))
    (owned : ∀ r ∈ kept, (h.content? (f r)).isSome) :
    TableImage (stretch kept (table h').size) (g ρ)
      (kept.map fun r => g back (((table h)[r]?).getD [])).toArray (table h') := by
  refine .ofKept _ distinct fun r member => ?_
  have content := content _ (has r member)
  obtain ⟨c, found⟩ := Option.isSome_iff_exists.mp (owned r member)
  rw [found, reads, Option.map_some] at content
  rw [reads] at found
  obtain ⟨xs, entry, rfl⟩ := Option.map_eq_some_iff.mp found
  obtain ⟨ys, place, same⟩ := Option.map_eq_some_iff.mp content
  rw [maps, maps] at same
  rw [place, entry, injective same]
  rfl

/-- What has been cut out of a heap has its image wherever it is found again. -/
theorem heapImage (picks : k.Picks h)
    (like : ρ = { k.into s' with run := ρ.run, context := ρ.context, reader := ρ.reader })
    (runs : Function.Injective ρ.run) (contexts : Function.Injective ρ.context)
    (readers : Function.Injective ρ.reader) (bound : k.origins ≤ s'.heap.origins)
    (content : ∀ x, k.Has x →
      s'.heap.content? x = (h.content? x).map fun c => (c.rename back).rename ρ) :
    Heap.Image ρ (k.cut back h) s'.heap := by
  have lists : TableImage ρ.list (List.map (Value.rename ρ)) (k.cut back h).lists s'.heap.lists := by
    rw [show ρ.list = stretch k.lists s'.heap.lists.size by rw [like]; rfl]
    exact tableImage content (fun _ _ => Content.items.inj) (f := .list) (fun _ _ => rfl)
      (fun _ _ => rfl) picks.lists (fun _ kept => kept) fun r kept => picks.owned (.list r) kept
  have dicts : TableImage ρ.dict (Entries.rename ρ) (k.cut back h).dicts s'.heap.dicts := by
    rw [show ρ.dict = stretch k.dicts s'.heap.dicts.size by rw [like]; rfl]
    exact tableImage content (fun _ _ => Content.entries.inj) (f := .dict) (fun _ _ => rfl)
      (fun _ _ => rfl) picks.dicts (fun _ kept => kept) fun r kept => picks.owned (.dict r) kept
  have sets : TableImage ρ.set (List.map (Value.rename ρ)) (k.cut back h).sets s'.heap.sets := by
    rw [show ρ.set = stretch k.sets s'.heap.sets.size by rw [like]; rfl]
    exact tableImage content (fun _ _ => Content.items.inj) (f := .set) (fun _ _ => rfl)
      (fun _ _ => rfl) picks.sets (fun _ kept => kept) fun r kept => picks.owned (.set r) kept
  have objects : TableImage ρ.object (OrderedMap.rename ρ) (k.cut back h).objects
      s'.heap.objects := by
    rw [show ρ.object = stretch k.objects s'.heap.objects.size by rw [like]; rfl]
    exact tableImage content (fun _ _ => Content.fields.inj) (f := .object) (fun _ _ => rfl)
      (fun _ _ => rfl) picks.objects (fun _ kept => kept) fun r kept => picks.owned (.object r) kept
  have closures : Function.Injective ρ.lambda := by
    rw [show ρ.lambda = stretch [] s'.closures.size by rw [like]; rfl]
    exact stretch_injective .nil (by simp)
  have serial : ρ.serial = stretch (List.range k.origins) s'.heap.origins := by rw [like]; rfl
  have serials : Function.Injective ρ.serial := by
    rw [serial]
    exact stretch_injective List.nodup_range fun n below =>
      Nat.lt_of_lt_of_le (List.mem_range.mp below) bound
  have origins : Aligned ρ.serial k.origins s'.heap.origins := by
    have aligned := aligned_stretch (List.range k.origins) s'.heap.origins
    rwa [List.length_range, ← serial] at aligned
  have sorts : ρ.sorts = s'.heap.sorting.length := by rw [like]; rfl
  exact
    { injective :=
        ⟨lists.injective, dicts.injective, sets.injective, objects.injective, closures, runs,
          contexts, readers, serials⟩
      lists := lists
      dicts := dicts
      sets := sets
      objects := objects
      origins := origins
      sorting := ⟨s'.heap.sorting, sorts.symm, (List.append_nil _).symm⟩ }

end

theorem image (closed : k.IsClosed s.heap) (follows : k.Follows s s') :
    RenderState.Image (k.into s') (k.twin s) s' := by
  have closures := TableImage.ofEmpty (g := Closure.rename (k.into s')) s'.closures
  have runs := TableImage.ofEmpty (g := Run.rename (k.into s')) s'.runs
  have contexts := TableImage.ofEmpty (g := Context.rename (k.into s')) s'.contexts
  exact
    { heap := heapImage closed.picks rfl runs.injective contexts.injective contexts.injective
        follows.origins fun _ kept => kept_content closed follows kept
      closures := closures
      runs := runs
      contexts := contexts
      clock := (Nat.zero_add _).symm
      store := follows.store
      engine := follows.engine
      sharedEngine := follows.sharedEngine }

/-- What is not kept is no image. -/
theorem outside {x : Ref} (owned : (s.heap.content? x).isSome) (other : ¬k.Has x) (y : Ref) :
    y.rename (k.into s) ≠ x := by
  rintro rfl
  cases y with
  | list r =>
    have bound : (k.into s).list r < s.heap.lists.size := by
      simpa [Heap.content?, Ref.rename] using owned
    exact other (mem_of_stretch bound rfl)
  | dict r =>
    have bound : (k.into s).dict r < s.heap.dicts.size := by
      simpa [Heap.content?, Ref.rename] using owned
    exact other (mem_of_stretch bound rfl)
  | set r =>
    have bound : (k.into s).set r < s.heap.sets.size := by
      simpa [Heap.content?, Ref.rename] using owned
    exact other (mem_of_stretch bound rfl)
  | object r =>
    have bound : (k.into s).object r < s.heap.objects.size := by
      simpa [Heap.content?, Ref.rename] using owned
    exact other (mem_of_stretch bound rfl)
  | _ => exact absurd owned Bool.false_ne_true

end Selection
end Phrasebook
