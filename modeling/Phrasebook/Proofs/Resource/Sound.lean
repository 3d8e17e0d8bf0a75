import Phrasebook.Proofs.OrderedMap
import Phrasebook.Proofs.Resource.Judgment
/-!
Sound resources: each tree has distinct segments, none of them empty or with a separator in it.
Compiled resources are sound, and merging keeps them so.
-/
namespace Phrasebook.Resource

/-- Whether a text can stand between the separators of a key. -/
def IsSegment (t : Text) : Prop := t ≠ [] ∧ separator ∉ t

inductive Sound : Resource → Prop
  | leaf (template : Template) : Sound (.leaf template)
  | sequence (items : List Resource) (sound : ∀ r ∈ items, Sound r) : Sound (.sequence items)
  | tree (entries : ResourceTree) (distinct : entries.keys.Nodup)
      (segments : ∀ e ∈ entries, IsSegment e.1) (sound : ∀ e ∈ entries, Sound e.2) :
      Sound (.tree entries)

namespace Sound

theorem empty : Sound (.tree []) := .tree [] List.nodup_nil (by simp) (by simp)

theorem distinct {entries : ResourceTree} (sound : Sound (.tree entries)) : entries.keys.Nodup := by
  cases sound with
  | tree _ distinct _ _ => exact distinct

theorem get? {entries : ResourceTree} {segment : Text} {r : Resource} (sound : Sound (.tree entries))
    (found : entries.get? segment = some r) : IsSegment segment ∧ Sound r := by
  have member := OrderedMap.mem_of_get?_eq_some _ _ _ found
  cases sound with
  | tree _ _ segments sound => exact ⟨segments _ member, sound _ member⟩

theorem insert {entries : ResourceTree} {segment : Text} {r : Resource}
    (sound : Sound (.tree entries)) (isSegment : IsSegment segment) (soundValue : Sound r) :
    Sound (.tree (OrderedMap.insert entries segment r)) := by
  cases sound with
  | tree _ distinct segments sound =>
    refine .tree _ (OrderedMap.nodup_insert _ _ _ distinct) ?_ ?_
    · intro e member
      rcases OrderedMap.mem_insert _ _ _ member with rfl | old
      · exact isSegment
      · exact segments e old
    · intro e member
      rcases OrderedMap.mem_insert _ _ _ member with rfl | old
      · exact soundValue
      · exact sound e old

end Sound

theorem textSegment_ok {site : Site} {path segment : Text} {key : Value}
    (found : textSegment site path key = .ok segment) : IsSegment segment := by
  simp only [textSegment] at found
  split at found
  · split_ifs at found with refused
    · obtain ⟨_, -, thrown⟩ := Outcome.bind_eq_ok.mp found
      cases thrown
    · cases found
      simpa [IsSegment] using refused
  · obtain ⟨_, -, thrown⟩ := Outcome.bind_eq_ok.mp found
    cases thrown

theorem segmentOf_ok {site : Site} {path segment : Text} {key : Value}
    (found : segmentOf site path key = .ok segment) : IsSegment segment := by
  cases key with
  | int n origin =>
    obtain ⟨numeral, -, found⟩ := Outcome.bind_eq_ok.mp found
    exact textSegment_ok found
  | _ =>
    rw [segmentOf] at found
    · exact textSegment_ok found
    · simp

variable {site : Site}

mutual

theorem Compiles.sound {guard : DepthGuard} {path : Text} {d : Datum} {r : Resource} :
    Compiles site guard path d r → Sound r
  | .text _ _ => .leaf _
  | .map _ compiled => compiled.sound .empty
  | .list _ compiled | .tuple _ compiled => .sequence _ compiled.sound
  | .shared compiled => compiled.sound

theorem CompilesEntries.sound {guard : DepthGuard} {path : Text} {done tree : ResourceTree}
    {entries : List (Value × Datum)} : CompilesEntries site guard path done entries tree →
    Sound (.tree done) → Sound (.tree tree)
  | .nil, soundDone => soundDone
  | .cons found compiled later, soundDone =>
    later.sound (soundDone.insert (segmentOf_ok found) compiled.sound)

theorem CompilesItems.sound {guard : DepthGuard} {path : Text} {index : Nat} {items : List Datum}
    {values : List Resource} : CompilesItems site guard path index items values →
    ∀ r ∈ values, Sound r
  | .nil => by simp
  | .cons _ compiled later => List.forall_mem_cons.mpr ⟨compiled.sound, later.sound⟩

end

theorem compile_sound {maxDepth : Int} {data : Datum} {tree : ResourceTree}
    (compiled : compile site maxDepth data = .ok tree) : Sound (.tree tree) := by
  obtain ⟨entries, -, compiled⟩ := compile_eq_ok_iff.mp compiled
  exact compiled.sound .empty

mutual

theorem mergeValue_sound {old : Option Resource} (soundOld : ∀ r ∈ old, Sound r) :
    ∀ new : Resource, Sound new → Sound (mergeValue old new)
  | .leaf template, sound => by
    rwa [mergeValue]
  | .sequence items, sound => by
    rwa [mergeValue]
  | .tree entries, sound => by
    rcases old with _ | (template | items | before)
    · exact sound
    · exact sound
    · exact sound
    · rw [mergeValue]
      cases sound with
      | tree _ _ segments sound =>
        exact mergeEntries_sound entries (soundOld _ rfl) segments sound

theorem mergeEntries_sound {old : ResourceTree} : ∀ new : List (Text × Resource),
    Sound (.tree old) → (∀ e ∈ new, IsSegment e.1) → (∀ e ∈ new, Sound e.2) →
    Sound (.tree (mergeEntries old new))
  | [], soundOld, _, _ => soundOld
  | (key, value) :: rest, soundOld, segments, sound => by
    obtain ⟨isSegment, segments⟩ := List.forall_mem_cons.mp segments
    obtain ⟨soundValue, sound⟩ := List.forall_mem_cons.mp sound
    have soundBefore : ∀ r ∈ OrderedMap.get? old key, Sound r :=
      fun r found => (soundOld.get? found).2
    have merged := mergeValue_sound soundBefore value soundValue
    exact mergeEntries_sound rest (soundOld.insert isSegment merged) segments sound

end

theorem merge_sound {old new : ResourceTree} (soundOld : Sound (.tree old))
    (soundNew : Sound (.tree new)) : Sound (.tree (merge old new)) := by
  cases soundNew with
  | tree _ _ segments sound => exact mergeEntries_sound new soundOld segments sound

theorem mergeValue_none (new : Resource) : mergeValue none new = new := by
  cases new with
  | tree entries => rfl
  | leaf template => rw [mergeValue]
  | sequence items => rw [mergeValue]

theorem mergeEntries_of_nodup {old new : ResourceTree}
    (distinct : (OrderedMap.keys (old ++ new)).Nodup) : mergeEntries old new = old ++ new := by
  induction new generalizing old with
  | nil => rw [mergeEntries, List.append_nil]
  | cons e rest ih =>
    obtain ⟨key, value⟩ := e
    have cut : old ++ (key, value) :: rest = (old ++ [(key, value)]) ++ rest := by simp
    have fresh : key ∉ OrderedMap.keys old := by
      intro present
      rw [OrderedMap.keys, List.map_append, List.nodup_append] at distinct
      exact distinct.2.2 key present key List.mem_cons_self rfl
    have absent : OrderedMap.get? old key = none := by
      rw [← Option.not_isSome_iff_eq_none, ← OrderedMap.mem_keys_iff]
      exact fresh
    rw [cut] at distinct
    rw [mergeEntries, absent, mergeValue_none, OrderedMap.insert_of_not_mem _ _ _ fresh, ih distinct,
      cut]

/-- What is merged into nothing stays as it is. -/
theorem merge_nil {tree : ResourceTree} (sound : Sound (.tree tree)) : merge [] tree = tree := by
  cases sound with
  | tree _ distinct _ _ => exact mergeEntries_of_nodup distinct

end Phrasebook.Resource
