import Phrasebook.Proofs.Resource.Paths
import Phrasebook.Proofs.Store.KeyCache
/-!
What a store lists against what it finds. All its trees are sound, whatever has been asked of it.
-/
namespace Phrasebook.ResourceStore

/-- The trees of all locales are sound. -/
def AllSound (s : ResourceStore) : Prop := ∀ locale, Resource.Sound (.tree (s.treeOf locale))

namespace AllSound

variable {s : ResourceStore}

theorem add (sound : AllSound s) (code : Text) {tree : ResourceTree}
    (soundTree : Resource.Sound (.tree tree)) : AllSound (s.add code tree).1 := by
  intro locale
  rw [treeOf_add]
  split_ifs
  · exact Resource.merge_sound (sound code) soundTree
  · exact sound locale

theorem remove (sound : AllSound s) (tag : Text) : AllSound (s.remove tag).1 := by
  intro locale
  rw [treeOf_remove]
  split_ifs
  · exact .empty
  · exact sound locale

theorem step {t : ResourceStore} {call : StoreCall} (step : Step s call t) (sound : AllSound s) :
    AllSound t := by
  cases step with
  | loaded tag data tree compiled => exact sound.add _ (Resource.compile_sound compiled)
  | refused => exact sound
  | cleared => exact fun _ => .empty
  | removed tag => exact sound.remove tag
  | asked _ _ _ asked =>
    rw [asked.frame]
    exact sound

end AllSound

theorem allSound_run (budget : Budget) (maxDepth : Int) (s : RenderState) (calls : List StoreCall) :
    AllSound (StoreCall.run { s with store := fresh budget maxDepth } calls).store := by
  rw [StoreCall.store_run]
  exact foldl_next (fun _ => .empty) AllSound.step calls

/-- Where there is no tree, nothing is found. -/
theorem find_absent {s : ResourceStore} {tag : Text}
    (absent : s.trees.get? (Locale.normalize tag) = none) (key : Text) :
    s.find tag key = .ok none := by
  rw [find, absent, Option.map_none, Resource.find]
  split_ifs
  · rfl
  · exact Resource.findFrom_none _

theorem find_present {s : ResourceStore} {tag : Text} {tree : ResourceTree}
    (present : s.trees.get? (Locale.normalize tag) = some tree) (key : Text) :
    s.find tag key = Resource.find key (some (.tree tree)) := by
  rw [find, present, Option.map_some]

/-- After any calls on a fresh store, the keys of a locale are those that name a template or a
sequence and whose shorter parts all name trees; none is listed twice. -/
theorem mem_keys_after_calls (budget : Budget) (maxDepth : Int) (s : RenderState)
    (calls : List StoreCall) (tag : Text) :
    let t := (StoreCall.run { s with store := fresh budget maxDepth } calls).store
    (∀ key, key ∈ (t.keys tag).1 ↔
      ((∃ template, t.find tag key = .ok (some (.leaf template))) ∨
        ∃ items, t.find tag key = .ok (some (.sequence items))) ∧
      ∀ front rest, key = front ++ Resource.separator :: rest →
        ∃ tree, t.find tag front = .ok (some (.tree tree))) ∧
    (t.keys tag).1.Nodup := by
  intro t
  have sound : Resource.Sound (.tree (t.treeOf (Locale.normalize tag))) :=
    allSound_run budget maxDepth s calls _
  have coherent : Coherent t := coherent_run budget maxDepth s calls
  rw [coherent.keys_eq]
  refine ⟨fun key => ?_, Resource.nodup_keys sound⟩
  rcases stored : t.trees.get? (Locale.normalize tag) with _ | tree
  · have nothing : Resource.keys (t.treeOf (Locale.normalize tag)) = [] := by
      rw [treeOf, stored]
      rfl
    simp [nothing, find_absent stored]
  · have same : t.treeOf (Locale.normalize tag) = tree := by
      rw [treeOf, stored]
      rfl
    rw [same] at sound ⊢
    simp only [find_present stored]
    rw [Resource.mem_keys_iff sound]
    refine and_congr_left fun _ => ⟨?_, ?_⟩
    · rintro ⟨r, found, isEnd⟩
      cases r with
      | leaf template => exact .inl ⟨template, found⟩
      | sequence items => exact .inr ⟨items, found⟩
      | tree entries => cases isEnd
    · rintro (⟨template, found⟩ | ⟨items, found⟩)
      · exact ⟨_, found, rfl⟩
      · exact ⟨_, found, rfl⟩

end Phrasebook.ResourceStore
