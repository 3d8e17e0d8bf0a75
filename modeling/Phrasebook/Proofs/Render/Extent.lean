import Phrasebook.Proofs.Evaluation.Restored
import Phrasebook.Proofs.Render.Isolation
import Phrasebook.Proofs.Renaming.Excerpt
/-!
What data reach in a state, through containers and through the contexts of helpers. A computation
that sees nothing else does the same in every state where all this is as it was.
-/
namespace Phrasebook

namespace RenderState

/-- What named data reach. -/
inductive Reaches (s : RenderState) (data : OrderedMap Value) : Ref → Prop
  | data {x : Ref} (member : x ∈ Value.refsAll (data.map (·.2))) : Reaches s data x
  | held {x y : Ref} {h : Held} (outer : Reaches s data x) (found : s.held? x = some h)
      (member : y ∈ h.refs) : Reaches s data y

/-- Whether a reference is to a container or a context of the state, or a serial that has been
given. -/
def Owns (s : RenderState) : Ref → Prop
  | .serial n => n < s.heap.origins
  | x => (s.held? x).isSome

/-- Data that reach what there is in a state, and no lambda. -/
def Placed (s : RenderState) (data : OrderedMap Value) : Prop := ∀ x, s.Reaches data x → s.Owns x

/-- Data that reach nothing that can change: no container and no context. -/
def Bare (s : RenderState) (data : OrderedMap Value) : Prop :=
  ∀ x, s.Reaches data x → s.held? x = none

variable {s : RenderState} {data : OrderedMap Value}

/-- Data of nothing but serials that have been given. -/
theorem placed_bare_of_serials
    (serials : ∀ x ∈ Value.refsAll (data.map (·.2)), ∃ n < s.heap.origins, x = .serial n) :
    s.Placed data ∧ s.Bare data := by
  have only : ∀ x, s.Reaches data x → ∃ n < s.heap.origins, x = .serial n := by
    intro x reaches
    induction reaches with
    | data member => exact serials _ member
    | held _ found _ ih =>
      obtain ⟨n, -, rfl⟩ := ih
      cases found
  refine ⟨fun x reaches => ?_, fun x reaches => ?_⟩
  · obtain ⟨n, below, rfl⟩ := only x reaches
    exact below
  · obtain ⟨n, -, rfl⟩ := only x reaches
    rfl

/-- What is owned and holds nothing is a serial, and so never holds anything. -/
theorem held?_of_none {x : Ref} (owned : s.Owns x) (bare : s.held? x = none) (t : RenderState) :
    t.held? x = none := by
  cases x with
  | serial n => rfl
  | _ =>
    have found : (s.held? _).isSome := owned
    rw [bare] at found
    exact absurd found Bool.false_ne_true

section
open Classical

/-- What data reach, with evaluations besides. -/
noncomputable def reached (s : RenderState) (data : OrderedMap Value) (runs : List Nat) :
    Excerpt where
  lists := (List.range s.heap.lists.size).filter fun r => s.Reaches data (.list r)
  dicts := (List.range s.heap.dicts.size).filter fun r => s.Reaches data (.dict r)
  sets := (List.range s.heap.sets.size).filter fun r => s.Reaches data (.set r)
  objects := (List.range s.heap.objects.size).filter fun r => s.Reaches data (.object r)
  origins := s.heap.origins
  contexts := (List.range s.contexts.size).filter fun c => s.Reaches data (.context c)
  runs := runs

variable {runs : List Nat}

theorem has_reached (placed : s.Placed data) {x : Ref} (reaches : s.Reaches data x) :
    (s.reached data runs).Has x := by
  have owned := placed x reaches
  cases x with
  | serial n => exact owned
  | lambda r => exact absurd owned Bool.false_ne_true
  | _ =>
    simpa [Excerpt.Has, Selection.Has, reached, Owns, held?, Heap.content?, reaches] using owned

theorem owns_of_has {x : Ref} (kept : (s.reached data runs).Has x) : s.Owns x := by
  cases x with
  | serial n => exact kept
  | lambda r => exact kept.elim
  | _ => simpa [Owns, held?, Heap.content?] using List.mem_range.mp (List.mem_filter.mp kept).1

theorem reaches_of_has {x : Ref} (kept : (s.reached data runs).Has x) {h : Held}
    (found : s.held? x = some h) : s.Reaches data x := by
  cases x with
  | serial n => cases found
  | lambda r => cases found
  | _ => simpa using (List.mem_filter.mp kept).2

theorem reached_isClosed (placed : s.Placed data) (distinct : runs.Nodup)
    (begun : ∀ r ∈ runs, ∃ run, s.runs[r]? = some run ∧ run.expires = none ∧ run.data = data) :
    (s.reached data runs).IsClosed s where
  picks :=
    { lists := List.nodup_range.filter _
      dicts := List.nodup_range.filter _
      sets := List.nodup_range.filter _
      objects := List.nodup_range.filter _
      owned := fun x kept => by
        have owned := owns_of_has (Excerpt.has_of_selection kept)
        cases x with
        | serial n => exact owned
        | context c => exact kept.elim
        | lambda r => exact kept.elim
        | _ => simpa [Heap.Owns, Owns, held?] using owned }
  contexts := List.nodup_range.filter _
  runs := distinct
  held x h kept found y member := has_reached placed (.held (reaches_of_has kept found) found member)
  context c kept := List.mem_range.mp (List.mem_filter.mp kept).1
  run r member := by
    obtain ⟨run, found, endless, rfl⟩ := begun r member
    exact ⟨run, found, endless, fun x member => has_reached placed (.data member)⟩

end
end RenderState

namespace Excerpt

variable {k : Excerpt} {α : Type} {m m₀ : Render α} {s s' : RenderState} (closed : k.IsClosed s)
  (bound : k.origins ≤ s.heap.origins) (follows : k.Follows s s')
  (mirrors : ∀ t, Render.Mirrors (k.into t) id m₀ m)
include closed bound follows mirrors

/-- What sees nothing but an excerpt ends alike wherever the excerpt is found. -/
theorem outcome_eq : m.outcome s' = m.outcome s := by
  rw [((mirrors s').run (image closed follows)).1,
    ((mirrors s).run (image closed (.refl bound))).1]

omit bound in
theorem after_held {x : Ref} (kept : k.Has x) : (m.stateAfter s').held? x =
    ((m₀.stateAfter (k.twin s)).held? (x.rename k.back)).map (Held.rename (k.into s')) := by
  obtain ⟨-, after, -⟩ := (mirrors s').run (image closed follows)
  rw [← after.held?, (k.restored s' kept).1]

/-- What leaves an excerpt as it was in one state leaves it wherever it is found. -/
theorem follows_after (leaves : ∀ x, k.Has x → (m.stateAfter s).held? x = s.held? x)
    (unchanged : Run.Unchanged s'.runs (m.stateAfter s').runs) :
    k.Follows s (m.stateAfter s') := by
  have start : k.Follows s s := .refl bound
  obtain ⟨-, -, after⟩ := (mirrors s').run (image closed follows)
  have injective := (image closed start).heap.injective
  refine ⟨fun x kept => ?_, fun r member => ?_, Nat.le_trans follows.origins after.heap.origins,
    after.store.trans follows.store, follows.engine.trans after.engine,
    follows.sharedEngine.trans after.sharedEngine⟩
  · have twin : (m₀.stateAfter (k.twin s)).held? (x.rename k.back) =
        (s.held? x).map (Held.rename k.back) := by
      apply Option.map_injective (Held.rename_injective injective)
      rw [← after_held closed start mirrors kept, leaves x kept, Option.map_map]
      exact kept_held closed start kept
    rw [after_held closed follows mirrors kept, twin, Option.map_map]
    exact (kept_held closed follows kept).symm.trans (follows.held x kept)
  · obtain ⟨run, found, -⟩ := closed.run r member
    rw [found]
    exact unchanged r run ((follows.runs r member).trans found)

end Excerpt
end Phrasebook
