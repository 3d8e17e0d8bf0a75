import Phrasebook.Proofs.Renaming.Invoke
import Phrasebook.Proofs.Render.Change
import Phrasebook.Proofs.Render.Outcome
import Phrasebook.Proofs.Render.Reach
import Mathlib.Logic.Function.Iterate
/-!
What a render leaves behind: nothing but what it does to the containers that its data reach. If it
leaves these as they were, so does every later render over the same data, and all end alike.
-/
namespace Phrasebook

theorem Render.Mirrors.run {α : Type} {ρ : Renaming} {m m' : Render α} {s s' : RenderState}
    (mirrors : Mirrors ρ id m m') (image : RenderState.Image ρ s s') :
    outcome m' s' = outcome m s ∧ RenderState.Image ρ (m.stateAfter s) (m'.stateAfter s') ∧
      RenderState.Kept ρ s' (m'.stateAfter s') := by
  have alike := mirrors image
  unfold outcome stateAfter
  rw [EStateM.run, EStateM.run] at alike
  generalize m s = left at alike ⊢
  generalize m' s' = right at alike ⊢
  cases alike with
  | ok a image kept => exact ⟨rfl, image, kept⟩
  | error e image kept => exact ⟨rfl, image, kept⟩

theorem Render.Ends.after {α : Type} {m : Render α} {s : RenderState}
    {P : α → RenderState → Prop} (ends : m.Ends s P) : ∃ a, P a (m.stateAfter s) := by
  obtain ⟨a, t, run, holds⟩ := ends
  rw [EStateM.run] at run
  refine ⟨a, ?_⟩
  rw [stateAfter, run]
  exact holds

namespace Template

/-- How a render over data ends. -/
def outcome (t : Template) (data : OrderedMap Value) (s : RenderState) : Except Fault Text :=
  (Facade.renderTemplate t data).outcome s

/-- The state that a render over data leaves. -/
def after (t : Template) (data : OrderedMap Value) (s : RenderState) : RenderState :=
  (Facade.renderTemplate t data).stateAfter s

/-- A render that leaves the containers its data reach as they were. -/
def Leaves (t : Template) (data : OrderedMap Value) (s : RenderState) : Prop :=
  ∀ x, s.heap.Reaches data x → (t.after data s).heap.content? x = s.heap.content? x

section
variable {k : Selection} {data : OrderedMap Value} {s s' : RenderState}
  (closed : k.IsClosed s.heap) (kept : ∀ x ∈ Value.refsAll (data.map (·.2)), k.Has x)
  (follows : k.Follows s s') (t : Template)
include closed kept follows

/-- A render is the image of one in which there is nothing but what its data reach. -/
theorem run_twin :
    t.outcome data s' = t.outcome (data.rename k.back) (k.twin s) ∧
      RenderState.Image (k.into s') (t.after (data.rename k.back) (k.twin s)) (t.after data s') ∧
      RenderState.Kept (k.into s') s' (t.after data s') := by
  have restored : (data.rename k.back).rename (k.into s') = data :=
    Content.fields.inj
      ((Content.fields data).rename_rename fun x member => k.restored s' (kept x member))
  have mirrors := render_mirrors (ρ := k.into s')
    (Interpreter.ofFrames_mirrors rfl Interpreter.frames) t (data.rename k.back)
  rw [restored] at mirrors
  exact mirrors.run (k.image closed follows)

theorem after_content {x : Ref} (has : k.Has x) :
    (t.after data s').heap.content? x =
      ((t.after (data.rename k.back) (k.twin s)).heap.content? (x.rename k.back)).map
        (Content.rename (k.into s')) := by
  have content := (run_twin closed kept follows t).2.1.heap.content? (x.rename k.back)
  rwa [(k.restored s' has).1] at content

/-- If a render leaves what is kept as it was, so does every render that follows. -/
theorem follows_after (bound : k.origins ≤ s.heap.origins)
    (leaves : ∀ x, k.Has x → (t.after data s).heap.content? x = s.heap.content? x) :
    k.Follows s (t.after data s') := by
  have start := Selection.Follows.refl bound
  obtain ⟨-, -, after⟩ := run_twin closed kept follows t
  have injective := (k.image closed start).heap.injective
  have content : ∀ x, k.Has x → (t.after data s').heap.content? x = s.heap.content? x := by
    intro x has
    have twin : (t.after (data.rename k.back) (k.twin s)).heap.content? (x.rename k.back) =
        (s.heap.content? x).map (Content.rename k.back) := by
      apply Option.map_injective (Content.rename_injective injective)
      rw [← after_content closed kept start t has, leaves x has, Option.map_map]
      exact Selection.kept_content closed start has
    rw [after_content closed kept follows t has, twin, Option.map_map]
    exact (Selection.kept_content closed follows has).symm.trans (follows.content x has)
  exact
    { content := content
      origins := Nat.le_trans follows.origins after.heap.origins
      store := after.store.trans follows.store
      engine := follows.engine.trans after.engine
      sharedEngine := follows.sharedEngine.trans after.sharedEngine }

end

section
variable {data : OrderedMap Value} {s : RenderState} (placed : s.heap.Placed data) (t : Template)
include placed

theorem follows_renders (leaves : t.Leaves data s) (n : Nat) :
    (s.heap.reached data).Follows s ((t.after data)^[n] s) := by
  have closed := Heap.reached_isClosed placed
  have kept : ∀ x ∈ Value.refsAll (data.map (·.2)), (s.heap.reached data).Has x :=
    fun x member => Heap.has_reached placed (.data member)
  have untouched : ∀ x, (s.heap.reached data).Has x →
      (t.after data s).heap.content? x = s.heap.content? x := by
    intro x has
    cases found : s.heap.content? x with
    | some c => rw [← found, leaves x (Heap.reaches_of_has has found)]
    | none => exact Heap.content?_of_none (Heap.owned_of_has has) found _
  induction n with
  | zero => exact .refl (Nat.le_refl s.heap.origins)
  | succ n ih =>
    rw [Function.iterate_succ_apply']
    exact follows_after closed kept ih t (Nat.le_refl _) untouched

omit placed in
theorem appendTo_changes {name : Text} {r : Nat} (found : data.get? name = some (.list r))
    (owned : (s.heap.content? (.list r)).isSome) : ¬(appendTo name).Leaves data s := by
  intro leaves
  have reaches := Heap.reaches_of_get? (h := s.heap) found (List.mem_singleton_self _)
  obtain ⟨c, content⟩ := Option.isSome_iff_exists.mp owned
  obtain ⟨xs, held, rfl⟩ := Option.map_eq_some_iff.mp content
  obtain ⟨-, ys, longer, length⟩ := (appendTo_ends found held).after
  have same : some (Content.items ys) = some (Content.items xs) := by
    rw [← content, ← leaves _ reaches]
    exact (congrArg (Option.map Content.items) longer).symm
  simp only [Option.some.injEq, Content.items.injEq] at same
  subst same
  omega

/-- A render changes nothing that its data do not reach. It leaves what they reach if and only if
every later render over these data ends as it does and leaves it, too. Where there is no container
to reach, every render does; where there is a list under a name, some render does not. -/
theorem renders_isolated :
    (∀ (t : Template) (x : Ref), ¬s.heap.Reaches data x → (s.heap.content? x).isSome →
      (t.after data s).heap.content? x = s.heap.content? x) ∧
    (∀ t : Template, t.Leaves data s ↔
      ∀ n, t.outcome data ((t.after data)^[n] s) = t.outcome data s ∧
        ∀ x, s.heap.Reaches data x →
          ((t.after data)^[n] s).heap.content? x = s.heap.content? x) ∧
    ((∀ x, s.heap.Reaches data x → s.heap.content? x = none) → ∀ t : Template, t.Leaves data s) ∧
    (∀ name r, data.get? name = some (.list r) → ∃ t : Template, ¬t.Leaves data s) := by
  have closed := Heap.reached_isClosed placed
  have kept : ∀ x ∈ Value.refsAll (data.map (·.2)), (s.heap.reached data).Has x :=
    fun x member => Heap.has_reached placed (.data member)
  have start : (s.heap.reached data).Follows s s := .refl (Nat.le_refl s.heap.origins)
  refine ⟨fun t x apart found => ?_, fun t => ⟨fun leaves n => ?_, fun later => ?_⟩,
    fun bare t => ?_, fun name r found => ⟨appendTo name, ?_⟩⟩
  · obtain ⟨-, -, after⟩ := run_twin closed kept start t
    refine after.heap.content? x (Selection.outside found fun has => apart ?_)
    obtain ⟨c, found⟩ := Option.isSome_iff_exists.mp found
    exact Heap.reaches_of_has has found
  · have follows := follows_renders placed t leaves n
    refine ⟨?_, fun x reaches => follows.content x (Heap.has_reached placed reaches)⟩
    rw [(run_twin closed kept follows t).1, (run_twin closed kept start t).1]
  · exact (later 1).2
  · intro x reaches
    rw [bare x reaches]
    exact Heap.content?_of_none (placed x reaches) (bare x reaches) _
  · have reaches := Heap.reaches_of_get? (h := s.heap) found (List.mem_singleton_self _)
    exact appendTo_changes found (placed _ reaches)

end

theorem flags_not_isolated :
    Heap.Placed { lists := #[[.bool true]] } [("flags", .list 0)] ∧
      ∃ t : Template, ¬t.Leaves [("flags", .list 0)] { heap := { lists := #[[.bool true]] } } := by
  have placed : Heap.Placed { lists := #[[.bool true]] } [("flags", .list 0)] := by
    refine Heap.placed_of_closed (P := (· = .list 0)) (by decide) ?_ ?_
    · rintro x rfl c found
      cases found
      decide
    · rintro x rfl
      rfl
  exact ⟨placed, (renders_isolated placed).2.2.2 "flags" 0 rfl⟩

end Template
end Phrasebook
