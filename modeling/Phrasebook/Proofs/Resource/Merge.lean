import Phrasebook.Proofs.Resource.Paths
/-!
The law of merging three trees. What a merge has under a key depends on what the two trees have
there, and a value that is no tree hides what was merged before it.
-/
namespace Phrasebook.Resource
open OrderedMap (get?)

theorem mergeValue_of_not_tree {v : Resource} (old : Option Resource) (isEnd : v.isTree = false) :
    mergeValue old v = v := by
  cases v with
  | leaf template => rw [mergeValue]
  | sequence items => rw [mergeValue]
  | tree entries => cases isEnd

theorem mergeValue_over_not_tree {v : Resource} (new : Resource) (isEnd : v.isTree = false) :
    mergeValue (some v) new = new := by
  cases new with
  | leaf template => rw [mergeValue]
  | sequence items => rw [mergeValue]
  | tree entries =>
    cases v with
    | leaf | sequence => rfl
    | tree => cases isEnd

theorem eq_tree_of_isTree {r : Resource} (isTree : r.isTree = true) : ∃ t, r = .tree t := by
  cases r with
  | leaf | sequence => cases isTree
  | tree t => exact ⟨t, rfl⟩

theorem walk_of_not_tree {r v : Resource} {path : List Text} (isEnd : r.isTree = false)
    (found : walk path r = some v) : path = [] ∧ v = r := by
  by_cases root : path = []
  · subst root
    cases found
    exact ⟨rfl, rfl⟩
  · obtain ⟨t, rfl⟩ := isTree_of_walk root found
    cases isEnd

/-- What two values make that may be absent. -/
def mergeAt (old new : Option Resource) : Option Resource :=
  match new with
  | none => old
  | some v => some (mergeValue old v)

theorem get?_merge {old new : ResourceTree} (distinct : new.keys.Nodup) (key : Text) :
    get? (merge old new) key = mergeAt (get? old key) (get? new key) := by
  rw [merge]
  induction new generalizing old with
  | nil => rw [mergeEntries]; rfl
  | cons e rest ih =>
    obtain ⟨first, value⟩ := e
    obtain ⟨fresh, distinct⟩ : first ∉ OrderedMap.keys rest ∧ (OrderedMap.keys rest).Nodup :=
      List.nodup_cons.mp distinct
    rw [mergeEntries, ih distinct, OrderedMap.get?_insert, OrderedMap.get?_cons]
    by_cases here : first = key
    · have later : get? rest key = none := by
        rwa [here, OrderedMap.mem_keys_iff, Option.not_isSome_iff_eq_none] at fresh
      rw [if_pos here, if_pos here, later, ← here]
      rfl
    · rw [if_neg here, if_neg here]

/-- The keys of the new tree that the old one lacks come after those of the old one. -/
theorem keys_merge {old new : ResourceTree} (distinct : new.keys.Nodup) :
    OrderedMap.keys (merge old new) =
      old.keys ++ new.keys.filter fun key => decide (key ∉ old.keys) := by
  rw [merge]
  induction new generalizing old with
  | nil => rw [mergeEntries]; simp [OrderedMap.keys]
  | cons e rest ih =>
    obtain ⟨first, value⟩ := e
    obtain ⟨fresh, distinct⟩ : first ∉ OrderedMap.keys rest ∧ (OrderedMap.keys rest).Nodup :=
      List.nodup_cons.mp distinct
    rw [mergeEntries, ih distinct, OrderedMap.keys_insert]
    change _ = old.keys ++ (first :: OrderedMap.keys rest).filter _
    by_cases present : first ∈ old.keys
    · rw [if_pos present, List.filter_cons_of_neg (by simpa using present)]
    · rw [if_neg present, List.filter_cons_of_pos (by simpa using present), List.append_assoc,
        List.singleton_append]
      congr 2
      refine List.filter_congr fun key member => ?_
      have other : key ≠ first := fun same => fresh (same ▸ member)
      simp [other]

theorem keys_merge_assoc {a b c : ResourceTree} (distinctB : b.keys.Nodup)
    (distinctC : c.keys.Nodup) (distinctBC : OrderedMap.keys (merge b c) |>.Nodup) :
    OrderedMap.keys (merge (merge a b) c) = OrderedMap.keys (merge a (merge b c)) := by
  rw [keys_merge distinctC, keys_merge distinctB, keys_merge distinctBC, keys_merge distinctC,
    List.filter_append, List.filter_filter, List.append_assoc]
  congr 2
  refine List.filter_congr fun key _ => ?_
  simp only [List.mem_append, List.mem_filter]
  by_cases key ∈ a.keys <;> by_cases key ∈ b.keys <;> simp [*]

/-- A way to compare what may be absent, for which trees with the same keys are compared key by
key. -/
structure Keywise (Same : Option Resource → Option Resource → Prop) : Prop where
  refl : ∀ r, Same r r
  tree : ∀ {m n : ResourceTree}, m.keys.Nodup → m.keys = n.keys →
    (Same (some (.tree m)) (some (.tree n)) ↔ ∀ key, Same (get? m key) (get? n key))

/-- Wherever the second of three values has something else between trees of the others, the first
one's tree adds nothing to the third one's. -/
def HidesNothingAt (Same : Option Resource → Option Resource → Prop)
    (a b c : Option Resource) : Prop :=
  ∀ path old v new, a.bind (walk path) = some (.tree old) → b.bind (walk path) = some v →
    v.isTree = false → c.bind (walk path) = some (.tree new) →
    Same (some (.tree new)) (some (.tree (merge old new)))

namespace HidesNothingAt

variable {Same : Option Resource → Option Resource → Prop} {a b c : ResourceTree}

/-- Trees hide what they hide under their keys. -/
theorem tree_iff : HidesNothingAt Same (some (.tree a)) (some (.tree b)) (some (.tree c)) ↔
    ∀ key, HidesNothingAt Same (get? a key) (get? b key) (get? c key) := by
  constructor
  · intro hides key path old v new first second isEnd third
    exact hides (key :: path) old v new first second isEnd third
  · intro hides path old v new first second isEnd third
    cases path with
    | nil =>
      cases second
      cases isEnd
    | cons key rest => exact hides key rest old v new first second isEnd third

theorem of_first {r : Resource} {b c : Option Resource} (isEnd : r.isTree = false) :
    HidesNothingAt Same (some r) b c := by
  intro path old v new first
  obtain ⟨-, same⟩ := walk_of_not_tree isEnd first
  rw [← same] at isEnd
  cases isEnd

theorem of_third {a b : Option Resource} {r : Resource} (isEnd : r.isTree = false) :
    HidesNothingAt Same a b (some r) := by
  intro path old v new _ _ _ third
  obtain ⟨-, same⟩ := walk_of_not_tree isEnd third
  rw [← same] at isEnd
  cases isEnd

theorem between {v : Resource} (isEnd : v.isTree = false) :
    HidesNothingAt Same (some (.tree a)) (some v) (some (.tree c)) ↔
      Same (some (.tree c)) (some (.tree (merge a c))) := by
  constructor
  · intro hides
    exact hides [] a v c rfl rfl isEnd rfl
  · intro same path old w new first second _ third
    obtain ⟨rfl, rfl⟩ := walk_of_not_tree isEnd second
    cases first
    cases third
    exact same

end HidesNothingAt

variable {Same : Option Resource → Option Resource → Prop}

/-- The law under one key, if it holds of three trees there. -/
theorem Keywise.mergeAt_assoc_iff (keywise : Keywise Same) {x y z : Option Resource}
    (inner : ∀ a b c, x = some (.tree a) → y = some (.tree b) → z = some (.tree c) →
      (Same (some (.tree (merge (merge a b) c))) (some (.tree (merge a (merge b c)))) ↔
        HidesNothingAt Same x y z)) :
    Same (mergeAt (mergeAt x y) z) (mergeAt x (mergeAt y z)) ↔ HidesNothingAt Same x y z := by
  rcases z with _ | r
  · exact iff_of_true (keywise.refl _) (by rintro path old v new - - - ⟨⟩)
  by_cases last : r.isTree = false
  · simp only [mergeAt, mergeValue_of_not_tree _ last]
    exact iff_of_true (keywise.refl _) (.of_third last)
  obtain ⟨c, rfl⟩ := eq_tree_of_isTree (by simpa using last)
  rcases y with _ | w
  · simp only [mergeAt, mergeValue_none]
    exact iff_of_true (keywise.refl _) (by rintro path old v new - ⟨⟩)
  rcases x with _ | v
  · simp only [mergeAt, mergeValue_none]
    exact iff_of_true (keywise.refl _) (by rintro path old v new ⟨⟩)
  by_cases middle : w.isTree = false
  · simp only [mergeAt, mergeValue_of_not_tree _ middle, mergeValue_over_not_tree _ middle]
    by_cases here : v.isTree = false
    · rw [mergeValue_over_not_tree _ here]
      exact iff_of_true (keywise.refl _) (.of_first here)
    · obtain ⟨a, rfl⟩ := eq_tree_of_isTree (by simpa using here)
      exact (HidesNothingAt.between middle).symm
  · obtain ⟨b, rfl⟩ := eq_tree_of_isTree (by simpa using middle)
    by_cases here : v.isTree = false
    · simp only [mergeAt, mergeValue_over_not_tree _ here]
      exact iff_of_true (keywise.refl _) (.of_first here)
    · obtain ⟨a, rfl⟩ := eq_tree_of_isTree (by simpa using here)
      exact inner a b c rfl rfl rfl

/-- Three trees, up to a way to compare: it matters not which two are merged first, exactly if the
second hides nothing. -/
theorem Keywise.merge_assoc_iff (keywise : Keywise Same) {first : Resource} (sound : Sound first) :
    ∀ {a b c : ResourceTree}, first = .tree a → Sound (.tree b) → Sound (.tree c) →
      (Same (some (.tree (merge (merge a b) c))) (some (.tree (merge a (merge b c)))) ↔
        HidesNothingAt Same (some (.tree a)) (some (.tree b)) (some (.tree c))) := by
  induction sound with
  | leaf | sequence => rintro _ _ _ ⟨⟩
  | tree a distinct segments soundA ih =>
    rintro _ b c ⟨⟩ soundB soundC
    have soundAll := merge_sound (merge_sound (.tree a distinct segments soundA) soundB) soundC
    have soundBC := merge_sound soundB soundC
    have sameKeys : OrderedMap.keys (merge (merge a b) c) =
        OrderedMap.keys (merge a (merge b c)) :=
      keys_merge_assoc soundB.distinct soundC.distinct soundBC.distinct
    rw [keywise.tree soundAll.distinct sameKeys, HidesNothingAt.tree_iff]
    refine forall_congr' fun key => ?_
    rw [get?_merge soundC.distinct, get?_merge soundB.distinct, get?_merge soundBC.distinct,
      get?_merge soundC.distinct]
    refine keywise.mergeAt_assoc_iff fun a' b' c' hereA hereB hereC => ?_
    rw [hereA, hereB, hereC]
    exact ih _ (OrderedMap.mem_of_get?_eq_some _ _ _ hereA) rfl (soundB.get? hereB).2
      (soundC.get? hereC).2

theorem keywise_eq : Keywise (· = ·) where
  refl _ := rfl
  tree {m n} distinct sameKeys := by
    constructor
    · rintro ⟨⟩
      exact fun _ => rfl
    · intro same
      rw [OrderedMap.ext_get? distinct sameKeys same]

/-- What is seen of a value from outside: of a tree, only that it is one. -/
def face : Resource → Resource
  | .tree _ => .tree []
  | r => r

/-- Two values have the same under each path, whatever the order of keys. -/
def Alike (r s : Resource) : Prop := ∀ path, (walk path r).map face = (walk path s).map face

theorem keywise_face : Keywise fun x y =>
    ∀ path, (x.bind (walk path)).map face = (y.bind (walk path)).map face where
  refl _ _ := rfl
  tree {m n} _ _ := by
    constructor
    · intro same key path
      exact same (key :: path)
    · intro same path
      cases path with
      | nil => rfl
      | cons key rest => exact same key rest

/-- Wherever the second of three trees has something else between trees of the others, the first
one's tree adds nothing to the third one's. -/
def HidesNothing (Same : Resource → Resource → Prop) (a b c : ResourceTree) : Prop :=
  ∀ path old v new, walk path (.tree a) = some (.tree old) → walk path (.tree b) = some v →
    v.isTree = false → walk path (.tree c) = some (.tree new) →
    Same (.tree new) (.tree (merge old new))

/-- A tree hides nothing for any other if the third one has no tree where it has something else. -/
theorem hidesNothing_of_paths {Same : Resource → Resource → Prop} {b c : ResourceTree}
    (sound : Sound (.tree b))
    (apart : ∀ path ∈ pathsOf (.tree b), ∀ new, walk path (.tree c) ≠ some (.tree new))
    (a : ResourceTree) : HidesNothing Same a b c := by
  intro path old v new _ second isEnd third
  have listed : path ∈ pathsOf (.tree b) := (mem_pathsOf sound path).mpr ⟨v, second, isEnd⟩
  exact absurd third (apart path listed new)

section
variable {a b c : ResourceTree} (soundA : Sound (.tree a)) (soundB : Sound (.tree b))
  (soundC : Sound (.tree c))
include soundA soundB soundC

/-- Order of keys included, it matters not which two of three trees are merged first, exactly if the
second hides nothing. -/
theorem merge_assoc_iff :
    merge (merge a b) c = merge a (merge b c) ↔ HidesNothing (· = ·) a b c := by
  have law := keywise_eq.merge_assoc_iff soundA rfl soundB soundC
  simpa only [HidesNothingAt, HidesNothing, Option.bind_some, Option.some.injEq,
    Resource.tree.injEq] using law

/-- The law whatever the order of keys. -/
theorem merge_assoc_alike_iff :
    Alike (.tree (merge (merge a b) c)) (.tree (merge a (merge b c))) ↔
      HidesNothing Alike a b c := by
  have law := keywise_face.merge_assoc_iff soundA rfl soundB soundC
  simp only [HidesNothingAt, Option.bind_some] at law
  exact law

end

end Phrasebook.Resource
