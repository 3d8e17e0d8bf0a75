import Phrasebook.Proofs.OrderedMap
import Phrasebook.Proofs.Renaming.Compact
/-!
What data reach on a heap, through the containers they hold, as a selection of these containers.
-/
namespace Phrasebook

namespace Heap

/-- What named data reach. -/
inductive Reaches (h : Heap) (data : OrderedMap Value) : Ref → Prop
  | data {x : Ref} (member : x ∈ Value.refsAll (data.map (·.2))) : Reaches h data x
  | content {x y : Ref} {c : Content} (outer : Reaches h data x) (found : h.content? x = some c)
      (member : y ∈ c.refs) : Reaches h data y

theorem reaches_of_get? {h : Heap} {data : OrderedMap Value} {name : Text} {v : Value} {x : Ref}
    (found : data.get? name = some v) (member : x ∈ v.refs) : h.Reaches data x :=
  have entry := data.mem_of_get?_eq_some name v found
  .data (Value.mem_refsAll.mpr ⟨v, List.mem_map_of_mem entry, member⟩)

/-- Data that reach containers of the heap only, and no lambda and no function of a context. -/
def Placed (h : Heap) (data : OrderedMap Value) : Prop := ∀ x, h.Reaches data x → h.Owns x

theorem placed_of_closed {h : Heap} {data : OrderedMap Value} {P : Ref → Prop}
    (start : ∀ x ∈ Value.refsAll (data.map (·.2)), P x)
    (within : ∀ x, P x → ∀ c, h.content? x = some c → ∀ y ∈ c.refs, P y)
    (owned : ∀ x, P x → h.Owns x) : h.Placed data := by
  intro x reaches
  refine owned x ?_
  induction reaches with
  | data member => exact start _ member
  | content _ found member ih => exact within _ ih _ found _ member

/-- What is owned and holds nothing is a serial, and so never holds anything. -/
theorem content?_of_none {h : Heap} {x : Ref} (owned : h.Owns x) (bare : h.content? x = none)
    (k : Heap) : k.content? x = none := by
  cases x with
  | list r | dict r | set r | object r =>
    have found : (h.content? _).isSome := owned
    rw [bare] at found
    exact absurd found Bool.false_ne_true
  | _ => rfl

section
open Classical

/-- The containers that data reach. -/
noncomputable def reached (h : Heap) (data : OrderedMap Value) : Selection where
  lists := (List.range h.lists.size).filter fun r => h.Reaches data (.list r)
  dicts := (List.range h.dicts.size).filter fun r => h.Reaches data (.dict r)
  sets := (List.range h.sets.size).filter fun r => h.Reaches data (.set r)
  objects := (List.range h.objects.size).filter fun r => h.Reaches data (.object r)
  origins := h.origins

variable {h : Heap} {data : OrderedMap Value}

theorem has_reached (placed : h.Placed data) {x : Ref} (reaches : h.Reaches data x) :
    (h.reached data).Has x := by
  have owned := placed x reaches
  cases x with
  | list r => simpa [Selection.Has, reached, Owns, content?, reaches] using owned
  | dict r => simpa [Selection.Has, reached, Owns, content?, reaches] using owned
  | set r => simpa [Selection.Has, reached, Owns, content?, reaches] using owned
  | object r => simpa [Selection.Has, reached, Owns, content?, reaches] using owned
  | serial n => exact owned
  | _ => exact absurd owned Bool.false_ne_true

theorem reaches_of_has {x : Ref} (kept : (h.reached data).Has x) {c : Content}
    (found : h.content? x = some c) : h.Reaches data x := by
  cases x with
  | list r => simpa using (List.mem_filter.mp kept).2
  | dict r => simpa using (List.mem_filter.mp kept).2
  | set r => simpa using (List.mem_filter.mp kept).2
  | object r => simpa using (List.mem_filter.mp kept).2
  | _ => exact absurd found (Option.some_ne_none c).symm

theorem owned_of_has {x : Ref} (kept : (h.reached data).Has x) : h.Owns x := by
  cases x with
  | list r => simpa [Owns, content?] using List.mem_range.mp (List.mem_filter.mp kept).1
  | dict r => simpa [Owns, content?] using List.mem_range.mp (List.mem_filter.mp kept).1
  | set r => simpa [Owns, content?] using List.mem_range.mp (List.mem_filter.mp kept).1
  | object r => simpa [Owns, content?] using List.mem_range.mp (List.mem_filter.mp kept).1
  | serial n => exact kept
  | _ => exact kept.elim

theorem reached_isClosed (placed : h.Placed data) : (h.reached data).IsClosed h where
  lists := List.nodup_range.filter _
  dicts := List.nodup_range.filter _
  sets := List.nodup_range.filter _
  objects := List.nodup_range.filter _
  owned _ kept := owned_of_has kept
  within _ _ kept found _ member :=
    has_reached placed (.content (reaches_of_has kept found) found member)

end
end Heap
end Phrasebook
