import Phrasebook.Proofs.Resource.Depth
import Phrasebook.Proofs.Store.Lookup
/-!
How deep the trees of a store nest: whatever has been loaded, merged and dropped, no deeper than one
load may.
-/
namespace Phrasebook.ResourceStore

open Resource (Holds Fits)

/-- A store under given limits whose trees keep to them. -/
structure Bounded (budget : Budget) (maxDepth : Int) (s : ResourceStore) : Prop where
  limits : s.budget = budget ∧ s.maxDepth = maxDepth
  fits : ∀ locale, Fits budget (Depth.clamp maxDepth).toNat (.tree (s.treeOf locale))

namespace Bounded

variable {budget : Budget} {maxDepth : Int} {s : ResourceStore}

theorem add (bounded : Bounded budget maxDepth s) (code : Text) {tree : ResourceTree}
    (fitsTree : Fits budget (Depth.clamp maxDepth).toNat (.tree tree)) :
    Bounded budget maxDepth (s.add code tree).1 := by
  refine ⟨bounded.limits, fun locale => ?_⟩
  rw [treeOf_add]
  split_ifs
  · exact Resource.merge_fits (bounded.fits code) fitsTree
  · exact bounded.fits locale

theorem remove (bounded : Bounded budget maxDepth s) (tag : Text) :
    Bounded budget maxDepth (s.remove tag).1 := by
  refine ⟨bounded.limits, fun locale => ?_⟩
  rw [treeOf_remove]
  split_ifs
  · exact .empty
  · exact bounded.fits locale

theorem step {t : ResourceStore} {call : StoreCall} (step : Step s call t)
    (bounded : Bounded budget maxDepth s) : Bounded budget maxDepth t := by
  cases step with
  | loaded tag data tree compiled =>
    obtain ⟨sameBudget, sameDepth⟩ := bounded.limits
    rw [sameBudget, sameDepth] at compiled
    exact bounded.add _ (Resource.compile_fits compiled)
  | refused => exact bounded
  | cleared => exact ⟨bounded.limits, fun _ => .empty⟩
  | removed tag => exact bounded.remove tag
  | asked _ _ _ asked =>
    rw [asked.frame]
    exact ⟨bounded.limits, bounded.fits⟩

/-- What is found under a key is what its own source compiles to. -/
theorem compiled_of_lookup (bounded : Bounded budget maxDepth s) {tag key : Text} {t : Template}
    (found : s.lookup tag key = .ok (some t)) : Template.compile budget t.source = .ok t := by
  obtain ⟨r, held, leaf⟩ := Outcome.bind_eq_ok.mp found
  cases stored : s.trees.get? (Locale.normalize tag) with
  | none =>
    rw [find_absent stored] at held
    cases held
    cases leaf
  | some tree =>
    have fits := bounded.fits (Locale.normalize tag)
    rw [treeOf, stored] at fits
    rw [find_present stored] at held
    split at leaf
    · cases leaf
      exact fits.compiled_of_reaches (Resource.reaches_of_find held)
    · cases leaf

end Bounded

theorem bounded_run (budget : Budget) (maxDepth : Int) (s : RenderState) (calls : List StoreCall) :
    Bounded budget maxDepth (StoreCall.run { s with store := fresh budget maxDepth } calls).store := by
  rw [StoreCall.store_run]
  exact foldl_next ⟨⟨rfl, rfl⟩, fun _ => .empty⟩ Bounded.step calls

/-- In a sound value every tree, however deep, has segments for its keys. -/
theorem isSegment_of_reaches {r : Resource} {entries : List (Text × Resource)}
    (sound : Resource.Sound r) (reaches : Relation.ReflTransGen Holds r (.tree entries)) :
    ∀ e ∈ entries, Resource.IsSegment e.1 := by
  induction reaches using Relation.ReflTransGen.head_induction_on with
  | refl =>
    cases sound with
    | tree _ _ segments _ => exact segments
  | head holds _ ih =>
    apply ih
    cases holds with
    | entry member =>
      cases sound with
      | tree _ _ _ sound => exact sound _ member
    | item member =>
      cases sound with
      | sequence _ sound => exact sound _ member

/-- After any calls on a fresh store: in the tree of a locale all keys are segments, all leaves are
compiled templates, and values stand inside each other no deeper than the limit. Listing the keys of a
locale, and merging what a load brings, go through no more levels below the first one. -/
theorem depth_after_calls (budget : Budget) (maxDepth : Int) (s : RenderState)
    (calls : List StoreCall) :
    let t := (StoreCall.run { s with store := fresh budget maxDepth } calls).store
    let limit := Depth.clamp maxDepth
    (∀ locale tree, t.trees.get? locale = some tree →
      (∀ entries, Relation.ReflTransGen Holds (.tree tree) (.tree entries) →
        ∀ e ∈ entries, e.1 ≠ [] ∧ Resource.separator ∉ e.1) ∧
      (∀ template, Relation.ReflTransGen Holds (.tree tree) (.leaf template) →
        Template.compile budget template.source = .ok template) ∧
      ∀ chain, List.IsChain Holds (.tree tree :: chain) → chain ≠ [] → chain.length ≤ limit) ∧
    (∀ locale, Resource.keysWithin limit.toNat (t.treeOf locale) =
      some (Resource.keys (t.treeOf locale))) ∧
    ∀ tag data changed, (t.load tag data).1 = .ok changed →
      ∃ new, Resource.compile ⟨Locale.normalize tag, t.budget⟩ t.maxDepth data = .ok new ∧
        Resource.mergeWithin limit.toNat (t.treeOf (Locale.normalize tag)) new =
          some (changed.treeOf (Locale.normalize tag)) := by
  intro t limit
  have bounded : Bounded budget maxDepth t := bounded_run budget maxDepth s calls
  have sound : AllSound t := allSound_run budget maxDepth s calls
  refine ⟨fun locale tree stored => ?_, fun locale => Resource.keysWithin_eq (bounded.fits locale),
    fun tag data changed loaded => ?_⟩
  · have same : t.treeOf locale = tree := by
      rw [treeOf, stored]
      rfl
    have fits := bounded.fits locale
    have soundTree := sound locale
    rw [same] at fits soundTree
    refine ⟨fun entries reaches => isSegment_of_reaches soundTree reaches,
      fun template reaches => fits.compiled_of_reaches reaches, fun chain nested nonempty => ?_⟩
    have inside : chain.length ≤ limit.toNat := fits.length_le nested
    have some_ : 0 < chain.length := List.length_pos_iff.mpr nonempty
    omega
  · obtain ⟨new, compiled, rfl⟩ := compiled_of_load loaded
    refine ⟨new, compiled, ?_⟩
    obtain ⟨sameBudget, sameDepth⟩ := bounded.limits
    rw [sameBudget, sameDepth] at compiled
    rw [treeOf_add, if_pos rfl]
    exact Resource.mergeWithin_eq (Resource.compile_fits compiled)

end Phrasebook.ResourceStore
