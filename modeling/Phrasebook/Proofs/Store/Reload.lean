import Phrasebook.Proofs.Resource.Overlay
import Phrasebook.Proofs.Store.Together
/-!
Loading a document once more. A store that loads what it has just loaded stays as it is, down to its
cache, and lists the same keys in the same order.
-/
namespace Phrasebook.ResourceStore
open Resource (compile merge)

variable {s : ResourceStore} {code : Text} {tree : ResourceTree}

/-- Whether a load of the locale has nothing to say about its code. -/
def Noted (s : ResourceStore) (code : Text) : Prop :=
  (!s.unrecognized.contains code && !Locale.isKnown code) = false

theorem unrecognized_add_of_noted (noted : Noted s code) :
    (s.add code tree).1.unrecognized = s.unrecognized :=
  if_neg (Bool.eq_false_iff.mp noted)

theorem noted_add : Noted (s.add code tree).1 code := by
  by_cases noted : Noted s code
  · rwa [Noted, unrecognized_add_of_noted noted]
  · have added : (s.add code tree).1.unrecognized = code :: s.unrecognized :=
      if_pos (by simpa [Noted] using noted)
    simp [Noted, added]

theorem add_add (keyedS : Resource.IsKeyed (.tree (s.treeOf code)))
    (keyed : Resource.IsKeyed (.tree tree)) :
    ((s.add code tree).1.add code tree).1 = (s.add code tree).1 := by
  have again : merge ((s.add code tree).1.treeOf code) tree = merge (s.treeOf code) tree := by
    rw [treeOf_add, if_pos rfl, Resource.merge_merge_self keyed keyedS]
  have sameTrees : ((s.add code tree).1.add code tree).1.trees = (s.add code tree).1.trees := by
    change (s.add code tree).1.trees.insert code (merge _ tree) = _
    rw [again]
    exact OrderedMap.insert_insert s.trees code _ _
  have sameCache : ((s.add code tree).1.add code tree).1.cache = (s.add code tree).1.cache :=
    s.cache.invalidate_invalidate code
  have sameUnrecognized : ((s.add code tree).1.add code tree).1.unrecognized =
      (s.add code tree).1.unrecognized := unrecognized_add_of_noted noted_add
  calc ((s.add code tree).1.add code tree).1
      = { (s.add code tree).1 with
          trees := ((s.add code tree).1.add code tree).1.trees
          cache := ((s.add code tree).1.add code tree).1.cache
          unrecognized := ((s.add code tree).1.add code tree).1.unrecognized } := rfl
    _ = (s.add code tree).1 := by rw [sameTrees, sameCache, sameUnrecognized]

/-- A document that is loaded again, under any spelling of its locale, changes nothing. -/
theorem next_load_load {tag again : Text} (same : Locale.normalize again = Locale.normalize tag)
    (data : Datum) (keyed : Resource.IsKeyed (.tree (s.treeOf (Locale.normalize tag)))) :
    (s.next (.load tag data)).next (.load again data) = s.next (.load tag data) := by
  rcases compiled : compile ⟨Locale.normalize tag, s.budget⟩ s.maxDepth data with f | tree
  · rw [next_load_of_error compiled, next_load_of_error (same ▸ compiled)]
  · have added := next_load_of_ok compiled
    -- the document is compiled under the same limits again
    have compiledAgain : compile ⟨Locale.normalize again, (s.next (.load tag data)).budget⟩
        (s.next (.load tag data)).maxDepth data = .ok tree := by
      rw [same, added]
      exact compiled
    rw [next_load_of_ok compiledAgain, same, added,
      add_add keyed (Resource.compile_sound compiled).isKeyed]

/-- Merging a tree twice is merging it once, order of keys included; a tree merged with itself or
with the empty tree is itself. So after any calls on a fresh store, loading a document twice in a row
leaves the store that loading it once leaves, and the keys of each locale are listed alike. -/
theorem loads_idempotent (budget : Budget) (maxDepth : Int) (s : RenderState)
    (calls : List StoreCall) (data : Datum) :
    let t calls := (StoreCall.run { s with store := fresh budget maxDepth } calls).store
    (∀ a b : ResourceTree, Resource.IsKeyed (.tree a) → Resource.IsKeyed (.tree b) →
      merge (merge a b) b = merge a b ∧ merge b b = b ∧ merge [] b = b ∧ merge b [] = b) ∧
    ∀ tag again, Locale.normalize again = Locale.normalize tag →
      let once := t (calls ++ [.load tag data])
      let twice := t (calls ++ [.load tag data, .load again data])
      twice = once ∧
        ∀ locale, (twice.keys locale).1 = Resource.keys (once.treeOf (Locale.normalize locale)) := by
  intro t
  refine ⟨fun a b keyedA keyedB => Resource.merge_idempotent keyedA keyedB, ?_⟩
  intro tag again same once twice
  have keyed : Resource.IsKeyed (.tree ((t calls).treeOf (Locale.normalize tag))) :=
    (allSound_run budget maxDepth s calls _).isKeyed
  have split : calls ++ [.load tag data, .load again data] =
      calls ++ [.load tag data] ++ [.load again data] := by simp
  have unchanged : twice = once := by
    calc twice = ((t calls).next (.load tag data)).next (.load again data) := by
          rw [show twice = _ from congrArg t split, show t _ = _ from run_concat .., run_concat]
      _ = (t calls).next (.load tag data) := next_load_load same data keyed
      _ = once := (run_concat ..).symm
  refine ⟨unchanged, fun locale => ?_⟩
  rw [unchanged]
  exact (coherent_run budget maxDepth s (calls ++ [.load tag data])).keys_eq locale

/-- A panel over a label, loaded under two spellings of the locale. -/
theorem panel_loaded_twice :
    let t calls := (StoreCall.run { store := fresh .standard 100 } calls).store
    let before : List StoreCall := [.load "en" (.map [(.ofText "view", .text "View")])]
    let once := t (before ++ [.load "en" (panel "open" "Open")])
    let twice := t (before ++ [.load "en" (panel "open" "Open"), .load "EN" (panel "open" "Open")])
    merge (merge [("view", .leaf (.constant "View"))] (panelTree "open" "Open"))
        (panelTree "open" "Open") = panelTree "open" "Open" ∧
      twice = once ∧ (twice.keys "en").1 = ["view.open"] := by
  intro t before once twice
  obtain ⟨trees, loads⟩ := loads_idempotent .standard 100 {} before (panel "open" "Open")
  have fromLabel : compile ⟨"en", .standard⟩ 100 (.map [(.ofText "view", .text "View")]) =
      .ok [("view", .leaf (.constant "View"))] := rfl
  have fromPanel : compile ⟨"en", .standard⟩ 100 (panel "open" "Open") =
      .ok (panelTree "open" "Open") := rfl
  have keyedLabel := (Resource.compile_sound fromLabel).isKeyed
  have keyedPanel := (Resource.compile_sound fromPanel).isKeyed
  obtain ⟨unchanged, keys⟩ := loads "en" "EN" (by decide)
  refine ⟨?_, unchanged, (keys "en").trans rfl⟩
  rw [(trees _ _ keyedLabel keyedPanel).1]
  rfl

end Phrasebook.ResourceStore
