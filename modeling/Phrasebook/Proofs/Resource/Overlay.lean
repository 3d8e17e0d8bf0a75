import Phrasebook.Proofs.Resource.Merge
/-!
What a merge has at each path. Both trees are followed at once, and an end of the new one hides what
the old one has beyond it. What a tree has made of another one it does not change again, down to the
order of keys.
-/
namespace Phrasebook.Resource
open OrderedMap (get?)

/-- No tree that a path leads to has a key twice. -/
def IsKeyed (r : Resource) : Prop :=
  ∀ path t, walk path r = some (.tree t) → (OrderedMap.keys t).Nodup

/-- A strict prefix of a path leads to something that is no tree. -/
def Ends (path : List Text) (r : Resource) : Prop :=
  ∃ front segment back v, path = front ++ segment :: back ∧ walk front r = some v ∧
    v.isTree = false

variable {old new : ResourceTree} {segment : Text} {rest path : List Text} {r : Resource}

theorem Sound.isKeyed (sound : Sound r) : IsKeyed r := by
  intro path t found
  induction path generalizing r with
  | nil =>
    cases found
    exact sound.distinct
  | cons segment rest ih =>
    obtain ⟨entries, rfl⟩ := isTree_of_walk (List.cons_ne_nil segment rest) found
    obtain ⟨value, here, found⟩ := Option.bind_eq_some_iff.mp found
    exact ih (sound.get? here).2 found

theorem IsKeyed.distinct (keyed : IsKeyed (.tree new)) : (OrderedMap.keys new).Nodup :=
  keyed [] new rfl

theorem walk_cons_of_get? (here : get? new segment = some r) (path : List Text) :
    walk (segment :: path) (.tree new) = walk path r := by
  rw [walk, here, Option.bind_some]

theorem IsKeyed.below (keyed : IsKeyed (.tree new)) (here : get? new segment = some r) :
    IsKeyed r := by
  intro path t found
  exact keyed (segment :: path) t ((walk_cons_of_get? here path).trans found)

theorem ends_of_not_tree (isEnd : r.isTree = false) : Ends (segment :: rest) r :=
  ⟨[], segment, rest, r, rfl, rfl, isEnd⟩

theorem Ends.above (here : get? new segment = some r) (ends : Ends rest r) :
    Ends (segment :: rest) (.tree new) := by
  obtain ⟨front, next, back, v, rfl, found, isEnd⟩ := ends
  exact ⟨segment :: front, next, back, v, rfl, (walk_cons_of_get? here front).trans found, isEnd⟩

/-- There is nothing behind an end. -/
theorem Ends.walk_eq_none (ends : Ends path r) : walk path r = none := by
  obtain ⟨front, segment, back, v, rfl, found, isEnd⟩ := ends
  rw [walk_append, found, Option.bind_some]
  cases v with
  | leaf | sequence => rfl
  | tree => cases isEnd

theorem not_ends_of_walk {v : Resource} (found : walk path r = some v) : ¬Ends path r := by
  intro ends
  rw [ends.walk_eq_none] at found
  cases found

theorem isTree_of_ne_tree (noTree : ∀ u, r ≠ .tree u) : r.isTree = false := by
  cases r with
  | leaf | sequence => rfl
  | tree u => exact absurd rfl (noTree u)

theorem mergeAt_over_not_tree {x y : Option Resource} (noTree : ∀ u, x ≠ some (.tree u))
    (covers : y = none → x = none) : mergeAt x y = y := by
  rcases y with _ | v
  · rw [covers rfl]
    rfl
  · rcases x with _ | w
    · rw [mergeAt, mergeValue_none]
    · have isEnd : w.isTree = false := isTree_of_ne_tree fun u same => noTree u (by rw [same])
      rw [mergeAt, mergeValue_over_not_tree v isEnd]

theorem get?_of_walk_cons {v : Resource} (noTree : ∀ u, get? old segment ≠ some (.tree u))
    (found : walk (segment :: rest) (.tree old) = some v) :
    rest = [] ∧ get? old segment = some v := by
  obtain ⟨w, here, found⟩ := Option.bind_eq_some_iff.mp found
  have isEnd : w.isTree = false := isTree_of_ne_tree fun u same => noTree u (same ▸ here)
  obtain ⟨last, rfl⟩ := walk_of_not_tree isEnd found
  exact ⟨last, here⟩

theorem walk_merge_cons (distinct : (OrderedMap.keys new).Nodup) :
    walk (segment :: rest) (.tree (merge old new)) =
      (mergeAt (get? old segment) (get? new segment)).bind (walk rest) := by
  rw [walk, get?_merge distinct]

/-- Up to an end of the new tree, a merge has at a path what the two trees make there. -/
theorem walk_merge (keyed : IsKeyed (.tree new)) (goesOn : ¬Ends path (.tree new)) :
    walk path (.tree (merge old new)) = mergeAt (walk path (.tree old)) (walk path (.tree new)) := by
  induction path generalizing old new with
  | nil => rfl
  | cons segment rest ih =>
    rw [walk_merge_cons keyed.distinct]
    rcases here : get? new segment with _ | v
    · simp only [walk, here, Option.bind_none]
      rfl
    rw [walk_cons_of_get? here]
    have goesOn : ¬Ends rest v := fun ends => goesOn (ends.above here)
    cases v with
    | leaf template | sequence items =>
      obtain rfl : rest = [] := by
        cases rest with
        | nil => rfl
        | cons => exact absurd (ends_of_not_tree rfl) goesOn
      change some (mergeValue _ _) = some (mergeValue _ _)
      rw [mergeValue_of_not_tree _ rfl, mergeValue_of_not_tree _ rfl]
    | tree t =>
      by_cases inside : ∃ u, get? old segment = some (.tree u)
      · obtain ⟨u, before⟩ := inside
        rw [before, walk_cons_of_get? before]
        exact ih (keyed.below here) goesOn
      · have noTree : ∀ u, get? old segment ≠ some (.tree u) := fun u found => inside ⟨u, found⟩
        have there : mergeAt (get? old segment) (some (.tree t)) = some (.tree t) :=
          mergeAt_over_not_tree noTree fun absent => by cases absent
        rw [there, Option.bind_some]
        refine (mergeAt_over_not_tree (fun u found => ?_) fun absent => ?_).symm
        · exact noTree u (get?_of_walk_cons noTree found).2
        · by_contra found
          obtain ⟨v, found⟩ := Option.ne_none_iff_exists'.mp found
          obtain ⟨rfl, -⟩ := get?_of_walk_cons noTree found
          cases absent

theorem walk_merge_of_not_tree {v : Resource} (keyed : IsKeyed (.tree new))
    (found : walk path (.tree new) = some v) (isEnd : v.isTree = false) :
    walk path (.tree (merge old new)) = some v := by
  rw [walk_merge keyed (not_ends_of_walk found), found, mergeAt, mergeValue_of_not_tree _ isEnd]

/-- A merge of two trees along any path. Keys of sequences are no part of paths: a sequence is an
end, and behind an end of the new tree a key finds what it finds in the new tree alone. -/
theorem merge_along (keyed : IsKeyed (.tree new)) (path : List Text) :
    let merged : Resource := .tree (merge old new)
    (∀ v, walk path (.tree new) = some v → v.isTree = false → walk path merged = some v) ∧
    (walk path (.tree new) = none → ¬Ends path (.tree new) →
      walk path merged = walk path (.tree old)) ∧
    (∀ t, walk path (.tree new) = some (.tree t) →
      (∀ u, walk path (.tree old) = some (.tree u) →
        ∃ m, walk path merged = some (.tree m) ∧ m = merge u t ∧
          OrderedMap.keys m =
            OrderedMap.keys u ++ (OrderedMap.keys t).filter fun key => key ∉ OrderedMap.keys u) ∧
      ((∀ u, walk path (.tree old) ≠ some (.tree u)) → walk path merged = some (.tree t))) ∧
    (∀ front segment back v, path = front ++ segment :: back →
      walk front (.tree new) = some v → v.isTree = false →
        walk front merged = some v ∧ walk path merged = none ∧
          findFrom path (some merged) = findFrom path (some (.tree new))) := by
  intro merged
  refine ⟨fun v found isEnd => ?_, fun absent goesOn => ?_, fun t found => ?_,
    fun front segment back v split found isEnd => ?_⟩
  · exact walk_merge_of_not_tree keyed found isEnd
  · rw [walk_merge keyed goesOn, absent, mergeAt]
  · have distinct : (OrderedMap.keys t).Nodup := keyed path t found
    have here : walk path merged = mergeAt (walk path (.tree old)) (some (.tree t)) := by
      rw [walk_merge keyed (not_ends_of_walk found), found]
    refine ⟨fun u before => ?_, fun noTree => ?_⟩
    · rw [before] at here
      exact ⟨merge u t, here, rfl, keys_merge distinct⟩
    · rw [here]
      exact mergeAt_over_not_tree noTree fun absent => by cases absent
  · have kept : walk front merged = some v := walk_merge_of_not_tree keyed found isEnd
    have ends : Ends path merged := ⟨front, segment, back, v, split, kept, isEnd⟩
    refine ⟨kept, ends.walk_eq_none, ?_⟩
    rw [split, findFrom_append kept, findFrom_append found]

/-- A label takes the place of a menu. -/
theorem merge_along_menu :
    let menu : ResourceTree := [("menu", .tree [("title", .leaf (.constant "Start"))])]
    let label : ResourceTree := [("menu", .leaf (.constant "Menu"))]
    IsKeyed (.tree label) ∧
      walk ["menu"] (.tree (merge menu label)) = some (.leaf (.constant "Menu")) ∧
      walk ["menu", "title"] (.tree (merge menu label)) = none := by
  intro menu label
  have sound : Sound (.tree label) := by
    refine .tree label (by decide) (fun e member => ?_) fun e member => ?_
    · obtain rfl := List.mem_singleton.mp member
      exact ⟨by decide, by decide⟩
    · obtain rfl := List.mem_singleton.mp member
      exact .leaf _
  have keyed := sound.isKeyed
  refine ⟨keyed, ?_, ?_⟩
  · exact (merge_along keyed ["menu"]).1 _ rfl rfl
  · obtain ⟨-, -, -, behind⟩ := @merge_along menu label keyed ["menu", "title"]
    exact (behind ["menu"] "title" [] _ rfl rfl rfl).2.1

section Again

variable {a b : ResourceTree}

/-- What holds of a tree if it holds of the trees under its keys holds of every tree. -/
theorem tree_induction {P : ResourceTree → Prop}
    (step : ∀ t : ResourceTree, (∀ key u, get? t key = some (.tree u) → P u) → P t)
    (t : ResourceTree) : P t := by
  refine step t fun key u found => ?_
  have smaller : sizeOf u < sizeOf t := by
    have inside := List.sizeOf_lt_of_mem (OrderedMap.mem_of_get?_eq_some t key _ found)
    simp only [Prod.mk.sizeOf_spec, Resource.tree.sizeOf_spec] at inside
    omega
  exact tree_induction step u
termination_by sizeOf t

theorem nodup_keys_merge (distinctA : a.keys.Nodup) (distinctB : b.keys.Nodup) :
    (OrderedMap.keys (merge a b)).Nodup := by
  rw [keys_merge distinctB]
  refine distinctA.append (distinctB.filter _) fun key here there => ?_
  simp only [List.mem_filter, decide_eq_true_eq] at there
  exact there.2 here

/-- The second merge brings no key that the first one did not. -/
theorem keys_merge_merge (distinct : b.keys.Nodup) :
    OrderedMap.keys (merge (merge a b) b) = OrderedMap.keys (merge a b) := by
  have nothing : b.keys.filter (fun key => decide (key ∉ OrderedMap.keys (merge a b))) = [] := by
    refine List.filter_eq_nil_iff.mpr fun key member => ?_
    rw [keys_merge distinct]
    by_cases before : key ∈ a.keys <;> simp [before, member]
  rw [keys_merge distinct, nothing, List.append_nil]

/-- A value merged in twice, where trees are no obstacle. -/
theorem mergeAt_mergeAt {x y : Option Resource}
    (trees : ∀ old new, x = some (.tree old) → y = some (.tree new) →
      merge (merge old new) new = merge old new)
    (alone : ∀ new, y = some (.tree new) → merge new new = new) :
    mergeAt (mergeAt x y) y = mergeAt x y := by
  rcases y with _ | v
  · rfl
  by_cases isEnd : v.isTree = false
  · simp only [mergeAt, mergeValue_of_not_tree _ isEnd]
  obtain ⟨new, rfl⟩ := eq_tree_of_isTree (by simpa using isEnd)
  by_cases inside : ∃ old, x = some (.tree old)
  · obtain ⟨old, rfl⟩ := inside
    exact congrArg (some ∘ Resource.tree) (trees old new rfl rfl)
  · have replaced : mergeAt x (some (.tree new)) = some (.tree new) :=
      mergeAt_over_not_tree (fun u same => inside ⟨u, same⟩) (by simp)
    rw [replaced]
    exact congrArg (some ∘ Resource.tree) (alone new rfl)

theorem merge_merge_self (keyedB : IsKeyed (.tree b)) :
    ∀ {a : ResourceTree}, IsKeyed (.tree a) → merge (merge a b) b = merge a b := by
  induction b using tree_induction with
  | step b ih =>
    intro a keyedA
    have distinct := keyedB.distinct
    have distinctAll := nodup_keys_merge (nodup_keys_merge keyedA.distinct distinct) distinct
    refine OrderedMap.ext_get? distinctAll (keys_merge_merge distinct) fun key => ?_
    rw [get?_merge distinct, get?_merge distinct]
    refine mergeAt_mergeAt (fun old new hereA hereB => ?_) fun new here => ?_
    · exact ih key new hereB (keyedB.below hereB) (keyedA.below hereA)
    · have distinctNew := (keyedB.below here).distinct
      have fromNothing := ih key new here (keyedB.below here) Sound.empty.isKeyed
      rwa [show merge [] new = new from mergeEntries_of_nodup distinctNew] at fromNothing

/-- Merging again what was merged in changes nothing; in particular a tree merged with itself is
itself, and the empty tree is neutral on both sides. -/
theorem merge_idempotent (keyedA : IsKeyed (.tree a)) (keyedB : IsKeyed (.tree b)) :
    merge (merge a b) b = merge a b ∧ merge b b = b ∧ merge [] b = b ∧ merge b [] = b := by
  have neutral : merge [] b = b := mergeEntries_of_nodup keyedB.distinct
  have itself := merge_merge_self keyedB Sound.empty.isKeyed
  rw [neutral] at itself
  refine ⟨merge_merge_self keyedB keyedA, itself, neutral, ?_⟩
  rw [merge, mergeEntries]

end Again

end Phrasebook.Resource
