import Phrasebook.Proofs.Renaming.Compact
/-!
Excerpts of a state: containers, contexts and evaluations that refer to nothing else, in a state of
their own that the whole is an image of.
-/
namespace Phrasebook

/-- What a container or a context holds. -/
inductive Held where
  | content (c : Content)
  | context (c : Context)

namespace Held

def rename (ρ : Renaming) : Held → Held
  | content c => content (c.rename ρ)
  | context c => context (c.rename ρ)

def refs : Held → List Ref
  | content c => c.refs
  | context c =>
    Value.refsAll (c.config.templateData.map (·.2)) ++ Value.refsAll (c.templateData.map (·.2))

theorem rename_rename {back forth : Renaming} (x : Held)
    (restored : ∀ y ∈ x.refs, y.Restored back forth) : (x.rename back).rename forth = x := by
  cases x with
  | content c => exact congrArg content (c.rename_rename restored)
  | context c =>
    simp only [refs, List.mem_append] at restored
    have config := (Content.fields c.config.templateData).rename_rename fun y mem =>
      restored y (.inl mem)
    have own := (Content.fields c.templateData).rename_rename fun y mem => restored y (.inr mem)
    simp only [Content.rename, Content.fields.injEq] at config own
    simp only [rename, Context.rename, Config.rename, config, own]

theorem rename_injective {ρ : Renaming} (injective : ρ.IsInjective) :
    Function.Injective (rename ρ) := by
  obtain ⟨back, restored⟩ := injective.undone
  intro x y same
  rw [← rename_rename x fun y _ => restored y, same, rename_rename y fun z _ => restored z]

end Held

namespace RenderState

/-- What a container or a context holds in a state. -/
def held? (s : RenderState) : Ref → Option Held
  | .context c => s.contexts[c]?.map .context
  | x => (s.heap.content? x).map .content

theorem Image.held? {ρ : Renaming} {s s' : RenderState} (image : s.Image ρ s') (x : Ref) :
    s'.held? (x.rename ρ) = (s.held? x).map (Held.rename ρ) := by
  have content := image.heap.content? x
  cases x with
  | context c =>
    simp [RenderState.held?, Ref.rename, image.contexts.entry, Function.comp_def, Held.rename]
  | _ =>
    simp only [Ref.rename] at content
    simp [RenderState.held?, Ref.rename, content, Function.comp_def, Held.rename]

end RenderState

/-- Contexts and evaluations besides a selection of containers. -/
structure Excerpt extends Selection where
  contexts : List Nat
  runs : List Nat

namespace Excerpt

/-- The new place of what is kept. -/
def back (k : Excerpt) : Renaming :=
  { k.toSelection.back with
    run := k.runs.idxOf
    context := k.contexts.idxOf
    reader := k.contexts.idxOf }

/-- Where all that is kept stands in a state, and where it goes on. -/
def into (k : Excerpt) (s : RenderState) : Renaming :=
  { k.toSelection.into s with
    run := stretch k.runs s.runs.size
    context := stretch k.contexts s.contexts.size
    reader := stretch k.contexts s.contexts.size }

def Has (k : Excerpt) : Ref → Prop
  | .context c => c ∈ k.contexts
  | x => k.toSelection.Has x

/-- The state that holds what is kept. -/
def twin (k : Excerpt) (s : RenderState) : RenderState where
  heap := k.cut k.back s.heap
  runs := (k.runs.map fun r => ((s.runs[r]?).getD Render.standIn).rename k.back).toArray
  contexts := (k.contexts.map fun c =>
    ((s.contexts[c]?).getD ⟨{}, .shared, [], [], []⟩).rename k.back).toArray
  store := s.store
  engine := s.engine
  sharedEngine := s.sharedEngine

/-- An excerpt that refers to nothing else, of evaluations without a deadline. -/
structure IsClosed (k : Excerpt) (s : RenderState) : Prop where
  picks : k.Picks s.heap
  contexts : k.contexts.Nodup
  runs : k.runs.Nodup
  held : ∀ x h, k.Has x → s.held? x = some h → ∀ y ∈ h.refs, k.Has y
  context : ∀ c ∈ k.contexts, c < s.contexts.size
  run : ∀ r ∈ k.runs, ∃ run, s.runs[r]? = some run ∧ run.expires = none ∧
    ∀ x ∈ Value.refsAll (run.data.map (·.2)), k.Has x

/-- A state in which what is kept of another is as it was. -/
structure Follows (k : Excerpt) (s s' : RenderState) : Prop where
  held : ∀ x, k.Has x → s'.held? x = s.held? x
  runs : ∀ r ∈ k.runs, s'.runs[r]? = s.runs[r]?
  origins : k.origins ≤ s'.heap.origins
  store : s'.store = s.store
  engine : s.engine.Agrees s'.engine
  sharedEngine : s.sharedEngine.Agrees s'.sharedEngine

variable {k : Excerpt} {s s' : RenderState}

theorem Follows.refl (bound : k.origins ≤ s.heap.origins) : k.Follows s s :=
  ⟨fun _ _ => rfl, fun _ _ => rfl, bound, rfl, ⟨rfl, rfl⟩, ⟨rfl, rfl⟩⟩

theorem restored (k : Excerpt) (s : RenderState) {x : Ref} (kept : k.Has x) :
    x.Restored k.back (k.into s) := by
  cases x with
  | context c =>
    have same := stretch_idxOf s.contexts.size kept
    refine ⟨congrArg Ref.context same, fun r named => ?_⟩
    cases named
    exact same
  | list r => exact ⟨(k.toSelection.restored s (x := .list r) kept).1, nofun⟩
  | dict r => exact ⟨(k.toSelection.restored s (x := .dict r) kept).1, nofun⟩
  | set r => exact ⟨(k.toSelection.restored s (x := .set r) kept).1, nofun⟩
  | object r => exact ⟨(k.toSelection.restored s (x := .object r) kept).1, nofun⟩
  | serial n => exact ⟨(k.toSelection.restored s (x := .serial n) kept).1, nofun⟩
  | lambda r => exact kept.elim

theorem restored_data (k : Excerpt) (s : RenderState) {data : OrderedMap Value}
    (kept : ∀ x ∈ Value.refsAll (data.map (·.2)), k.Has x) :
    (data.rename k.back).rename (k.into s) = data :=
  Content.fields.inj
    ((Content.fields data).rename_rename fun x member => k.restored s (kept x member))

/-- What is kept is found again behind its renaming. -/
theorem kept_held (closed : k.IsClosed s) (follows : k.Follows s s') {x : Ref} (kept : k.Has x) :
    s'.held? x = (s.held? x).map fun h => (h.rename k.back).rename (k.into s') := by
  rw [follows.held x kept]
  cases found : s.held? x with
  | none => rfl
  | some h =>
    exact congrArg some (h.rename_rename fun y member =>
      k.restored s' (closed.held x h kept found y member)).symm

theorem has_of_selection {x : Ref} (kept : k.toSelection.Has x) : k.Has x := by
  cases x with
  | context c => exact kept.elim
  | _ => exact kept

theorem kept_content (closed : k.IsClosed s) (follows : k.Follows s s') {x : Ref}
    (kept : k.toSelection.Has x) : s'.heap.content? x =
      (s.heap.content? x).map fun c => (c.rename k.back).rename (k.into s') := by
  have held := kept_held closed follows (has_of_selection kept)
  cases x with
  | context c => exact kept.elim
  | _ =>
    simp only [RenderState.held?] at held
    refine Option.map_injective (fun _ _ => Held.content.inj) (held.trans ?_)
    rw [Option.map_map, Option.map_map]
    rfl

theorem contextImage (closed : k.IsClosed s) (follows : k.Follows s s') :
    TableImage (k.into s').context (Context.rename (k.into s')) (k.twin s).contexts
      s'.contexts := by
  refine .ofKept _ closed.contexts fun c member => ?_
  have there := Array.getElem?_eq_getElem (closed.context c member)
  have held := kept_held closed follows (x := .context c) member
  simp only [RenderState.held?, there, Option.map_some] at held
  obtain ⟨context, found, same⟩ := Option.map_eq_some_iff.mp held
  rw [found, Held.context.inj same, there]
  rfl

theorem runImage (closed : k.IsClosed s) (follows : k.Follows s s') :
    TableImage (k.into s').run (Run.rename (k.into s')) (k.twin s).runs s'.runs := by
  refine .ofKept _ closed.runs fun r member => ?_
  obtain ⟨run, found, endless, kept⟩ := closed.run r member
  rw [follows.runs r member, found, Option.getD_some]
  have same : (run.rename k.back).rename (k.into s') = run := by
    simp only [Run.rename, endless, Option.map_none, k.restored_data s' kept]
    rw [← endless]
  exact congrArg some same.symm

theorem image (closed : k.IsClosed s) (follows : k.Follows s s') :
    RenderState.Image (k.into s') (k.twin s) s' := by
  have contexts := contextImage closed follows
  have runs := runImage closed follows
  exact
    { heap := Selection.heapImage closed.picks rfl runs.injective contexts.injective
        contexts.injective follows.origins fun _ kept => kept_content closed follows kept
      closures := .ofEmpty s'.closures
      runs := runs
      contexts := contexts
      clock := (Nat.zero_add _).symm
      store := follows.store
      engine := follows.engine
      sharedEngine := follows.sharedEngine }

end Excerpt
end Phrasebook
