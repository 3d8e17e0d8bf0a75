import Phrasebook.Proofs.OrderedMap
import Phrasebook.Proofs.Store.Run
import Mathlib.Data.List.DropRight
/-!
What a store holds after any calls: for each locale the merged documents of the loads that succeeded
since the locale was dropped last, the locales in the order of the first such load. Loads that fail
leave no trace.
-/
namespace Phrasebook

namespace StoreCall

/-- Whether a call drops the tree of a locale. -/
def drops (locale : Text) : StoreCall → Bool
  | reset none => true
  | reset (some tag) => Locale.normalize tag == locale
  | _ => false

variable (budget : Budget) (maxDepth : Int) (locale : Text)

/-- What a call adds to a locale: the compiled data of a load, if they can be compiled. -/
def document? : StoreCall → Option ResourceTree
  | load tag data =>
    if Locale.normalize tag = locale then
      (Resource.compile ⟨locale, budget⟩ maxDepth data).toOption
    else none
  | _ => none

/-- The calls behind the last one that drops a locale. -/
def sinceDrop (history : List StoreCall) : List StoreCall :=
  history.rtakeWhile fun call => !call.drops locale

/-- The documents that a locale has been given since it was dropped last. -/
def documents (history : List StoreCall) : List ResourceTree :=
  (sinceDrop locale history).filterMap (document? budget maxDepth locale)

/-- The place in a history of the first of these documents. -/
def firstLoad? (history : List StoreCall) : Option Nat :=
  ((sinceDrop locale history).findIdx? fun call =>
      (call.document? budget maxDepth locale).isSome).map
    (· + (history.length - (sinceDrop locale history).length))

private theorem sinceDrop_concat (history : List StoreCall) (call : StoreCall) :
    sinceDrop locale (history ++ [call]) =
      if call.drops locale then [] else sinceDrop locale history ++ [call] := by
  rw [sinceDrop, List.rtakeWhile_concat]
  cases call.drops locale <;> rfl

private theorem documents_concat (history : List StoreCall) (call : StoreCall) :
    documents budget maxDepth locale (history ++ [call]) =
      if call.drops locale then []
      else documents budget maxDepth locale history
        ++ (call.document? budget maxDepth locale).toList := by
  rw [documents, sinceDrop_concat]
  split_ifs
  · rfl
  · cases added : call.document? budget maxDepth locale <;> simp [documents, added]

private theorem firstLoad_concat (history : List StoreCall) (call : StoreCall) :
    firstLoad? budget maxDepth locale (history ++ [call]) =
      if call.drops locale then none
      else (firstLoad? budget maxDepth locale history).or
        (if (call.document? budget maxDepth locale).isSome then some history.length else none) := by
  have bound : (sinceDrop locale history).length ≤ history.length :=
    (List.rtakeWhile_suffix _ _).length_le
  rw [firstLoad?, sinceDrop_concat]
  split_ifs with dropped added
  · rfl
  · rw [List.findIdx?_append, firstLoad?]
    cases (sinceDrop locale history).findIdx? _ <;> simp [added]
    omega
  · rw [List.findIdx?_append, firstLoad?]
    cases (sinceDrop locale history).findIdx? _ <;> simp [added]

private theorem firstLoad_isSome (history : List StoreCall) :
    (firstLoad? budget maxDepth locale history).isSome ↔
      documents budget maxDepth locale history ≠ [] := by
  simp [firstLoad?, documents, List.filterMap_eq_nil_iff, Option.isSome_iff_ne_none]

private theorem firstLoad_lt {history : List StoreCall} {i : Nat}
    (found : firstLoad? budget maxDepth locale history = some i) : i < history.length := by
  have bound : (sinceDrop locale history).length ≤ history.length :=
    (List.rtakeWhile_suffix _ _).length_le
  obtain ⟨j, place, rfl⟩ := Option.map_eq_some_iff.mp found
  have inside := (List.findIdx?_eq_some_iff_getElem.mp place).1
  omega

private theorem firstLoad_keep {history : List StoreCall} {call : StoreCall} {i : Nat}
    (found : firstLoad? budget maxDepth locale history = some i)
    (kept : call.drops locale = false) :
    firstLoad? budget maxDepth locale (history ++ [call]) = some i := by
  simp [firstLoad_concat, kept, found]

/-- One locale got its first document before another did. -/
def LoadedBefore (history : List StoreCall) (first second : Text) : Prop :=
  ∃ i j, firstLoad? budget maxDepth first history = some i ∧
    firstLoad? budget maxDepth second history = some j ∧ i < j

private theorem loadedBefore_concat {history : List StoreCall} {call : StoreCall}
    {first second : Text} (before : LoadedBefore budget maxDepth history first second)
    (keepFirst : call.drops first = false) (keepSecond : call.drops second = false) :
    LoadedBefore budget maxDepth (history ++ [call]) first second := by
  obtain ⟨i, j, atFirst, atSecond, less⟩ := before
  exact ⟨i, j, firstLoad_keep budget maxDepth first atFirst keepFirst,
    firstLoad_keep budget maxDepth second atSecond keepSecond, less⟩

end StoreCall

namespace Resource

/-- What documents come to when they are merged one after the other; none at all make no tree. -/
def merged (documents : List ResourceTree) : Option ResourceTree :=
  if documents.isEmpty then none else some (documents.foldl merge [])

theorem merged_concat (documents : List ResourceTree) (document : ResourceTree) :
    merged (documents ++ [document]) =
      some (merge ((merged documents).getD []) document) := by
  cases documents <;> simp [merged]

end Resource

namespace ResourceStore
open StoreCall

variable {budget : Budget} {maxDepth : Int}

/-- A store holds what a history has given it. -/
structure Recorded (budget : Budget) (maxDepth : Int) (history : List StoreCall)
    (s : ResourceStore) : Prop where
  limits : s.budget = budget ∧ s.maxDepth = maxDepth
  trees : ∀ locale, s.trees.get? locale = Resource.merged (documents budget maxDepth locale history)
  distinct : s.locales.Nodup
  ordered : s.locales.Pairwise (LoadedBefore budget maxDepth history)

theorem mem_locales_iff (s : ResourceStore) (locale : Text) :
    locale ∈ s.locales ↔ (s.trees.get? locale).isSome :=
  s.trees.mem_keys_iff locale

private theorem Recorded.firstLoad {history : List StoreCall} {s : ResourceStore}
    (recorded : Recorded budget maxDepth history s) (locale : Text) :
    locale ∈ s.locales ↔ (firstLoad? budget maxDepth locale history).isSome := by
  rw [mem_locales_iff, recorded.trees, firstLoad_isSome, Resource.merged]
  cases documents budget maxDepth locale history <;> simp

/-- A call that neither drops nor adds anything. -/
private theorem Recorded.idle {history : List StoreCall} {call : StoreCall} {s : ResourceStore}
    (recorded : Recorded budget maxDepth history s) (keep : ∀ locale, call.drops locale = false)
    (nothing : ∀ locale, call.document? budget maxDepth locale = none) :
    Recorded budget maxDepth (history ++ [call]) s where
  limits := recorded.limits
  trees locale := by simp [recorded.trees, documents_concat, keep, nothing]
  distinct := recorded.distinct
  ordered := recorded.ordered.imp fun before =>
    loadedBefore_concat budget maxDepth before (keep _) (keep _)

private theorem Recorded.loaded {history : List StoreCall} {s : ResourceStore} {tag : Text}
    {data : Datum} {tree : ResourceTree} (recorded : Recorded budget maxDepth history s)
    (compiled : Resource.compile ⟨Locale.normalize tag, s.budget⟩ s.maxDepth data = .ok tree) :
    Recorded budget maxDepth (history ++ [.load tag data]) (s.add (Locale.normalize tag) tree).1 := by
  obtain ⟨rfl, rfl⟩ := recorded.limits
  have added (locale : Text) : (StoreCall.load tag data).document? s.budget s.maxDepth locale =
      if Locale.normalize tag = locale then some tree else none := by
    simp only [document?]
    split_ifs with same
    · rw [← same, compiled]
      rfl
    · rfl
  have ordered : s.locales.Pairwise
      (LoadedBefore s.budget s.maxDepth (history ++ [.load tag data])) :=
    recorded.ordered.imp fun before => loadedBefore_concat _ _ before rfl rfl
  refine ⟨⟨rfl, rfl⟩, fun locale => ?_, s.trees.nodup_insert _ _ recorded.distinct, ?_⟩
  · change (s.trees.insert _ _).get? locale = _
    rw [OrderedMap.get?_insert, documents_concat, added]
    split_ifs with same dropped dropped
    · cases dropped
    · subst same
      rw [treeOf, recorded.trees]
      exact (Resource.merged_concat _ _).symm
    · cases dropped
    · simpa using recorded.trees locale
  · change (s.trees.insert _ _).keys.Pairwise _
    rw [OrderedMap.keys_insert]
    split_ifs with present
    · exact ordered
    · refine List.pairwise_append.mpr ⟨ordered, List.pairwise_singleton _ _, ?_⟩
      intro first member second isNew
      rw [List.mem_singleton] at isNew
      subst isNew
      obtain ⟨i, place⟩ := Option.isSome_iff_exists.mp ((recorded.firstLoad first).mp member)
      have absent : firstLoad? s.budget s.maxDepth (Locale.normalize tag) history = none := by
        rw [← Option.not_isSome_iff_eq_none, ← recorded.firstLoad]
        exact present
      exact ⟨i, history.length, firstLoad_keep _ _ _ place rfl,
        by simp [firstLoad_concat, drops, absent, added], firstLoad_lt _ _ _ place⟩

private theorem Recorded.cleared {history : List StoreCall} {s : ResourceStore}
    (recorded : Recorded budget maxDepth history s) :
    Recorded budget maxDepth (history ++ [.reset none]) s.clear.1 where
  limits := recorded.limits
  trees locale := by simp [clear, documents_concat, drops, Resource.merged]
  distinct := List.nodup_nil
  ordered := List.Pairwise.nil

private theorem Recorded.removed {history : List StoreCall} {s : ResourceStore}
    (recorded : Recorded budget maxDepth history s) (tag : Text) :
    Recorded budget maxDepth (history ++ [.reset (some tag)]) (s.remove tag).1 := by
  have dropped (locale : Text) : (StoreCall.reset (some tag)).drops locale =
      (Locale.normalize tag == locale) := rfl
  refine ⟨recorded.limits, fun locale => ?_, s.trees.nodup_erase _ recorded.distinct, ?_⟩
  · change (s.trees.erase _).get? locale = _
    rw [OrderedMap.get?_erase, documents_concat, dropped]
    by_cases same : Locale.normalize tag = locale
    · simp [same, Resource.merged]
    · simpa [same, document?] using recorded.trees locale
  · change (s.trees.erase _).keys.Pairwise _
    rw [OrderedMap.keys_erase]
    refine (recorded.ordered.filter _).imp_of_mem ?_
    intro first second memberFirst memberSecond before
    have kept {locale : Text} (member : locale ∈ s.locales.filter (· != Locale.normalize tag)) :
        (StoreCall.reset (some tag)).drops locale = false := by
      have other := (List.mem_filter.mp member).2
      rw [dropped, beq_eq_false_iff_ne]
      exact fun same => by simp [same] at other
    exact loadedBefore_concat _ _ before (kept memberFirst) (kept memberSecond)

private theorem Recorded.step {history : List StoreCall} {call : StoreCall} {s t : ResourceStore}
    (step : Step s call t) (recorded : Recorded budget maxDepth history s) :
    Recorded budget maxDepth (history ++ [call]) t := by
  cases step with
  | loaded tag data tree compiled => exact recorded.loaded compiled
  | refused tag data f failed =>
    obtain ⟨rfl, rfl⟩ := recorded.limits
    refine recorded.idle (fun _ => rfl) fun locale => ?_
    simp only [document?]
    split_ifs with same
    · rw [← same, failed]
      rfl
    · rfl
  | cleared => exact recorded.cleared
  | removed tag => exact recorded.removed tag
  | asked _ t isQuery asked =>
    have idle : Recorded budget maxDepth (history ++ [call]) s := by
      refine recorded.idle (fun locale => ?_) fun locale => ?_ <;> cases call <;>
        first | rfl | cases isQuery
    rw [asked.frame]
    exact ⟨idle.limits, idle.trees, idle.distinct, idle.ordered⟩

theorem recorded_foldl (budget : Budget) (maxDepth : Int) (history : List StoreCall) :
    Recorded budget maxDepth history (history.foldl next (fresh budget maxDepth)) := by
  induction history using List.reverseRecOn with
  | nil => exact ⟨⟨rfl, rfl⟩, fun _ => rfl, List.nodup_nil, List.Pairwise.nil⟩
  | append_singleton history call ih =>
    rw [List.foldl_append]
    exact ih.step (step_next _ call)

/-- After any calls on a fresh store: a locale has the merged documents of the loads that succeeded
since it was dropped last, and no tree without one; a load succeeds if its data can be compiled; the
locales are those with a tree, each once and in the order of their first such load; and a load that
fails leaves the store as it is. -/
theorem trees_after_history (budget : Budget) (maxDepth : Int) (s : RenderState)
    (history : List StoreCall) :
    let t := StoreCall.run { s with store := fresh budget maxDepth } history
    (∀ locale, t.store.trees.get? locale =
      Resource.merged (documents budget maxDepth locale history)) ∧
    (∀ tag data, ((∃ t', Facade.load tag data t = .ok () t') ↔
      ((StoreCall.load tag data).document? budget maxDepth (Locale.normalize tag)).isSome)) ∧
    (∀ locale, locale ∈ t.store.locales ↔ (t.store.trees.get? locale).isSome) ∧
    t.store.locales.Nodup ∧
    t.store.locales.Pairwise (LoadedBefore budget maxDepth history) ∧
    ∀ tag data f t', Facade.load tag data t = .error f t' → t'.store = t.store := by
  intro t
  have recorded : Recorded budget maxDepth history t.store := by
    rw [StoreCall.store_run]
    exact recorded_foldl budget maxDepth history
  refine ⟨recorded.trees, fun tag data => ?_, mem_locales_iff _, recorded.distinct,
    recorded.ordered, fun tag data f t' failed => StoreCall.load_error failed⟩
  obtain ⟨sameBudget, sameDepth⟩ := recorded.limits
  simp only [document?, if_true, ← sameBudget, ← sameDepth]
  rw [StoreCall.load_ok_iff]
  cases Resource.compile ⟨Locale.normalize tag, t.store.budget⟩ t.store.maxDepth data <;>
    simp [Except.toOption]

end ResourceStore
end Phrasebook
