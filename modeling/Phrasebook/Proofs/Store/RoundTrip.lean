import Phrasebook.Proofs.Resource.Leaves
import Phrasebook.Proofs.Store.Run
/-!
What has been loaded is found again: each text of the data under the key that its way through the data
spells.
-/
namespace Phrasebook.ResourceStore

theorem get?_of_hasLocale {s : ResourceStore} {tag : Text} (absent : s.hasLocale tag = false) :
    s.trees.get? (Locale.normalize tag) = none := by
  rw [hasLocale, OrderedMap.has_eq] at absent
  simpa using absent

/-- Data loaded for a locale without a tree, none of whose mappings has an integer and its numeral as
keys: under the dotted key of each text there is a template with that text as its source, and no two
texts have one key. -/
theorem lookup_after_load {s changed : ResourceStore} {tag : Text} {data : Datum}
    (absent : s.hasLocale tag = false)
    (distinct : ∀ m ∈ data.mappings, m.Pairwise fun a b => a.1.sameKey b.1 = false)
    (unlike : ∀ m ∈ data.mappings, ∀ a ∈ m, ∀ b ∈ m, ∀ n origin other,
      a.1 = .int n origin → b.1 ≠ .text (Text.ofInt n) other)
    (loaded : (s.load tag data).1 = .ok changed) :
    (∀ leaf ∈ data.leaves, ∃ key template, Resource.keyOf leaf.1 = .ok key ∧
      changed.lookup tag key = .ok (some template) ∧ template.source = leaf.2) ∧
    (data.leaves.map fun leaf => Resource.keyOf leaf.1).Nodup := by
  obtain ⟨tree, compiled, rfl⟩ := compiled_of_load loaded
  have stored : (s.add (Locale.normalize tag) tree).1.trees.get? (Locale.normalize tag) =
      some tree := by
    have nothing : s.treeOf (Locale.normalize tag) = [] := by
      rw [treeOf, get?_of_hasLocale absent]
      rfl
    change (s.trees.insert _ (Resource.merge (s.treeOf _) tree)).get? _ = _
    rw [OrderedMap.get?_insert, if_pos rfl, nothing,
      Resource.merge_nil (Resource.compile_sound compiled)]
  have apart : ∀ m ∈ data.mappings, m.Pairwise fun a b => Resource.Apart a.1 b.1 :=
    fun m member => (distinct m member).imp_of_mem fun {a b} isFirst isSecond different =>
      ⟨different, unlike m member a isFirst b isSecond, unlike m member b isSecond a isFirst⟩
  obtain ⟨traced, nonempty⟩ := Resource.compile_traced compiled apart
  refine ⟨fun leaf member => ?_, traced.nodup_keys nonempty⟩
  obtain ⟨template, found, source⟩ := traced.found leaf member
  refine ⟨_, template, traced.keyOf member, ?_, source⟩
  have segments := traced.segments member
  have some_ : leaf.1.map Resource.label ≠ [] := by simpa using nonempty leaf member
  have followed : ResourceStore.find (s.add (Locale.normalize tag) tree).1 tag
      (Resource.dotted (leaf.1.map Resource.label)) = .ok (some (.leaf template)) := by
    rw [ResourceStore.find, stored, Option.map_some,
      Resource.find_eq (Resource.dotted_ne_nil some_ segments),
      Resource.splitAt_dotted some_ segments]
    exact found
  rw [lookup, followed]
  rfl

/-- Error texts by their numbers, and the steps of a menu. -/
def menu : Datum :=
  .map [(.ofInt 404, .text "Not found"),
    (.ofText "menu", .map [(.ofText "title", .text "Menu"),
      (.ofText "steps", .list [.text "one", .tuple [.text "$\x7bname\x7d"]])])]

theorem lookup_menu_after_load : ∃ changed, ((fresh .standard 100).load "en" menu).1 = .ok changed ∧
    (∀ leaf ∈ menu.leaves, ∃ key template, Resource.keyOf leaf.1 = .ok key ∧
      changed.lookup "en" key = .ok (some template) ∧ template.source = leaf.2) ∧
    (menu.leaves.map fun leaf => Resource.keyOf leaf.1).Nodup := by
  obtain ⟨changed, loaded⟩ := Outcome.exists_of_toBool
    (x := ((fresh .standard 100).load "en" menu).1) (by decide +kernel)
  have mappings : ∀ m ∈ menu.mappings, ∀ e ∈ m,
      e.1 = .ofInt 404 ∨ e.1 ∈ [Value.ofText "menu", .ofText "title", .ofText "steps"] := by
    simp only [menu, Datum.mappings, Datum.mappingsOfEntries, Datum.mappingsOfItems,
      List.nil_append, List.append_nil, List.forall_mem_cons]
    simp
  refine ⟨changed, loaded, lookup_after_load (by decide +kernel) (by decide +kernel) ?_ loaded⟩
  intro m member a isFirst b isSecond n origin other number numeral
  have numbered : n = 404 := by
    rcases mappings m member a isFirst with same | same <;>
      simp_all [Value.ofInt, Value.ofText]
  subst numbered
  have named : Text.ofInt 404 ∉ (["menu", "title", "steps"] : List Text) := by decide +kernel
  rcases mappings m member b isSecond with same | same <;>
    simp_all [Value.ofInt, Value.ofText]

end Phrasebook.ResourceStore
