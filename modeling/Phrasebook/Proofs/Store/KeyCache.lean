import Phrasebook.Proofs.Locale.NormalForm
import Phrasebook.Proofs.Resource.KeyCache
import Phrasebook.Proofs.Store.Run
/-!
The cache of keys never lags behind the trees. Each write drops the one entry that it makes stale,
each question fills in what is so at the time.
-/
namespace Phrasebook

namespace ResourceStore

theorem treeOf_add (s : ResourceStore) (code other : Text) (tree : ResourceTree) :
    (s.add code tree).1.treeOf other =
      if code = other then Resource.merge (s.treeOf code) tree else s.treeOf other := by
  change ((s.trees.insert code _).get? other).getD [] = _
  rw [OrderedMap.get?_insert]
  split_ifs <;> rfl

theorem treeOf_remove (s : ResourceStore) (tag other : Text) :
    (s.remove tag).1.treeOf other = if Locale.normalize tag = other then [] else s.treeOf other := by
  change ((s.trees.erase _).get? other).getD [] = _
  rw [OrderedMap.get?_erase]
  split_ifs <;> rfl

/-- Each entry of the cache stands under a normal form and tells the keys as they are. -/
structure Coherent (s : ResourceStore) : Prop where
  normal : ∀ e ∈ s.cache.entries, Locale.normalize e.1 = e.1
  current : ∀ e ∈ s.cache.entries, e.2 = Resource.keys (s.treeOf e.1)

/-- Question and answer: from the cache, or from the tree and into the cache. -/
private theorem keys_cases (s : ResourceStore) (tag : Text) :
    (∃ e ∈ s.cache.entries, e.1 = Locale.normalize tag ∧ (s.keys tag).1 = e.2 ∧
        (s.keys tag).2 = { s with cache := { s.cache with hits := s.cache.hits + 1 } }) ∨
      ((s.keys tag).1 = Resource.keys (s.treeOf (Locale.normalize tag)) ∧
        (s.keys tag).2.trees = s.trees ∧
        (s.keys tag).2.cache.entries =
          s.cache.entries.insert (Locale.normalize tag) (s.keys tag).1) := by
  rcases found : s.cache.entries.get? (Locale.normalize tag) with _ | known
  · refine .inr ?_
    simp [keys, KeyCache.get, KeyCache.put, found]
  · refine .inl ⟨(Locale.normalize tag, known), OrderedMap.mem_of_get?_eq_some _ _ _ found, rfl, ?_⟩
    simp [keys, KeyCache.get, found]

namespace Coherent

variable {s : ResourceStore}

theorem keys_eq (coherent : Coherent s) (tag : Text) :
    (s.keys tag).1 = Resource.keys (s.treeOf (Locale.normalize tag)) := by
  rcases keys_cases s tag with ⟨e, member, place, answer, -⟩ | ⟨answer, -⟩
  · rw [answer, ← place]
    exact coherent.current e member
  · exact answer

theorem keys (coherent : Coherent s) (tag : Text) : Coherent (s.keys tag).2 := by
  rcases keys_cases s tag with ⟨e, -, -, -, same⟩ | ⟨answer, sameTrees, entries⟩
  · rw [same]
    exact ⟨coherent.normal, coherent.current⟩
  · constructor
    · intro e member
      rw [entries] at member
      rcases OrderedMap.mem_insert _ _ _ member with rfl | old
      · exact Locale.normalize_normalize tag
      · exact coherent.normal e old
    · intro e member
      rw [entries] at member
      rw [treeOf, sameTrees]
      rcases OrderedMap.mem_insert _ _ _ member with rfl | old
      · exact answer
      · exact coherent.current e old

theorem asked (coherent : Coherent s) {t : ResourceStore} (asked : Asked s t) : Coherent t := by
  induction asked with
  | start => exact coherent
  | keys tag _ ih => exact ih.keys tag

theorem add (coherent : Coherent s) (code : Text) (tree : ResourceTree) :
    Coherent (s.add code tree).1 := by
  constructor
  · intro e member
    exact coherent.normal e (KeyCache.mem_invalidate.mp member).1
  · intro e member
    obtain ⟨old, other⟩ := KeyCache.mem_invalidate.mp member
    rw [treeOf_add, if_neg (Ne.symm other)]
    exact coherent.current e old

theorem remove (coherent : Coherent s) (tag : Text) : Coherent (s.remove tag).1 := by
  constructor
  · intro e member
    exact coherent.normal e (KeyCache.mem_invalidate.mp member).1
  · intro e member
    obtain ⟨old, other⟩ := KeyCache.mem_invalidate.mp member
    rw [treeOf_remove, if_neg (Ne.symm other)]
    exact coherent.current e old

theorem step {t : ResourceStore} {call : StoreCall} (step : Step s call t)
    (coherent : Coherent s) : Coherent t := by
  cases step with
  | loaded tag data tree compiled => exact coherent.add _ tree
  | refused => exact coherent
  | cleared => exact ⟨by simp [clear, KeyCache.clear], by simp [clear, KeyCache.clear]⟩
  | removed tag => exact coherent.remove tag
  | asked _ _ _ asked => exact coherent.asked asked

end Coherent

theorem coherent_run (budget : Budget) (maxDepth : Int) (s : RenderState) (calls : List StoreCall) :
    Coherent (StoreCall.run { s with store := fresh budget maxDepth } calls).store := by
  rw [StoreCall.store_run]
  exact foldl_next ⟨by simp [fresh], by simp [fresh]⟩ Coherent.step calls

/-- After any calls on a fresh store, each cached answer stands under a normal form and is what the
tree of that locale gives; so is the answer to a caller, whatever the spelling of the tag. -/
theorem keys_after_calls (budget : Budget) (maxDepth : Int) (s : RenderState)
    (calls : List StoreCall) :
    let t := StoreCall.run { s with store := fresh budget maxDepth } calls
    (∀ locale keys, (locale, keys) ∈ t.store.cache.entries →
      Locale.normalize locale = locale ∧ keys = Resource.keys (t.store.treeOf locale)) ∧
    ∀ tag, ∃ t', Facade.askStore (fun s => s.keys tag) t =
      .ok (Resource.keys (t.store.treeOf (Locale.normalize tag))) t' := by
  intro t
  have coherent : Coherent t.store := coherent_run budget maxDepth s calls
  refine ⟨fun locale keys member => ⟨coherent.normal _ member, coherent.current _ member⟩, ?_⟩
  intro tag
  refine ⟨{ t with store := (t.store.keys tag).2 }, ?_⟩
  rw [← coherent.keys_eq]
  rfl

end ResourceStore
end Phrasebook
