import Mathlib
import Phrasebook.Proofs.Evaluation.Limit
import Phrasebook.Proofs.Expr.Reading
import Phrasebook.Proofs.Store.Depth
/-!
Evaluation refuses nothing that reading let through: within the grammar no construct, attribute name
or operator is missing.
-/
namespace Phrasebook

open Outcome (FailsOnly)

theorem Expr.Sound.of_other {e d : Expr} (sound : e.Sound) (member : d ∈ e.others) : d.Sound where
  inside := sound.inside.of_child (mem_children_iff.mpr (.inl member))
  stars := ⟨sound.stars.inside e .refl d member,
    sound.stars.inside.of_child (mem_children_iff.mpr (.inl member))⟩

theorem Expr.Sound.of_item {e d : Expr} (sound : e.Sound) (member : d ∈ e.items) :
    d.unstarred.Sound := by
  have child := mem_children_iff.mpr (.inr member)
  have inside := sound.inside.of_child child
  have stars := sound.stars.inside.of_child child
  cases d with
  | starred x =>
    have below : x ∈ (Expr.starred x).children := List.mem_singleton_self x
    exact ⟨inside.of_child below, stars _ .refl x below, stars.of_child below⟩
  | _ => exact ⟨inside, rfl, stars⟩

theorem Expr.Sound.not_refuses {e : Expr} (sound : e.Sound) {r : Refusal} : ¬e.Refuses r := by
  intro refuses
  cases refuses with
  | starred e => cases sound.stars.unstarred
  | foreign f => exact sound.inside _ .refl _ (.foreign f)
  | «attribute» e forbidden => exact sound.inside _ .refl _ (.attribute e forbidden)
  | operator a b foreign => exact sound.inside _ .refl _ (.operator a b foreign)

/-- All templates of a store are sound. -/
def ResourceStore.Sound (s : ResourceStore) : Prop :=
  ∀ tag key t, s.lookup tag key = .ok (some t) → t.Sound

theorem ResourceStore.Bounded.sound {budget : Budget} {maxDepth : Int} {s : ResourceStore}
    (bounded : Bounded budget maxDepth s) : s.Sound :=
  fun _ _ _ found => Template.sound_of_compile (bounded.compiled_of_lookup found)

/-- Lambdas and templates of a state are sound. -/
structure RenderState.Sound (s : RenderState) : Prop where
  closures : ∀ c ∈ s.closures, c.body.Sound
  store : s.store.Sound

/-- A run of sound expressions and templates, beside itself. -/
def Simulation.sound : Simulation where
  shift := 0
  runs first second := second = first
  stores first second := second = first ∧ first.Sound
  kept _ _ := True
  scope _ _ e := e.Sound
  template := Template.Sound
  allowed := Fault.IsRuntime
  excused _ := False
  refl _ := trivial
  trans _ _ := trivial
  runtime := id
  refused sound refuses := absurd refuses sound.not_refuses
  parts sound _ member := sound.of_other (Expr.others_of_parts member)
  items sound _ member := sound.of_item member
  body sound _ _ := sound.of_other (List.mem_singleton_self _)
  timing := @Run.timing_of_eq
  data same _ _ _ _ _ := by rw [same]

theorem Simulation.sound_renders : sound.Renders where
  unexcused _ := id
  size same := congrArg Array.size same
  push _ _ _ same := congrArg (Array.push · _) same
  kept _ _ := trivial
  parts sound _ e member := sound e member
  shift := rfl
  stores same := same.1
  constant _ := trivial
  found stores found := stores.2 _ _ _ found

theorem Refusal.head_message (r : Refusal) :
    r.message.head? = some 85 ∨ r.message.head? = some 65 ∨ r.message.head? = some 84 := by
  cases r with
  | construct label => exact .inl rfl
  | «attribute» name => exact .inr (.inl rfl)
  | lambdaParameters => exact .inr (.inr rfl)

theorem Limits.Denies.head {detail : Text} (denies : Limits.Denies detail) :
    detail.head? = some 73 ∨ detail.head? = some 82 ∨ detail.head? = some 83 ∨
      detail.head? = some 69 := by
  cases denies with
  | bits => exact .inl rfl
  | length => exact .inr (.inl rfl)
  | repetition => exact .inr (.inr (.inl rfl))
  | exponent shown => exact .inr (.inr (.inr rfl))

/-- Both texts name an attribute, but end differently. -/
theorem Refusal.message_ne_partial (r : Refusal) (attr : Text) :
    "Access to attribute '" ++ attr ++ "' of a partial function is not allowed" ≠ r.message := by
  intro same
  cases r with
  | construct label =>
    have first : some 65 = some 85 := congrArg List.head? same
    cases first
  | lambdaParameters =>
    have first : some 65 = some 84 := congrArg List.head? same
    cases first
  | «attribute» name =>
    have fromBack (t : Text) {ending : Text} (long : 15 < ending.length) :
        (t ++ ending).reverse[15]? = ending.reverse[15]? := by
      rw [List.reverse_append, List.getElem?_append_left (by rwa [List.length_reverse])]
    have last := congrArg (fun t : Text => t.reverse[15]?) same
    dsimp only [message] at last
    rw [fromBack _ (by decide), fromBack _ (by decide)] at last
    revert last
    decide

theorem Fault.violation_inj {a b : Text} (same : violation a = violation b) : a = b := by
  injection same with same
  injection same with same
  injection same with same
  exact congrArg Diagnostic.message same

/-- What an evaluation within the grammar fails with is no refusal of the grammar. -/
theorem Fault.IsRuntime.ne_refusal {f : Fault} (runtime : f.IsRuntime) (r : Refusal) :
    f ≠ r.fault := by
  rintro rfl
  generalize given : r.fault = f at runtime
  cases runtime with
  | ordinary ordinary =>
    cases ordinary with
    | limit denies =>
      have same := violation_inj given
      have refusal := r.head_message
      have limit := denies.head
      rw [← same] at limit
      rcases refusal with first | first | first <;> simp [first] at limit
    | _ => cases given
  | classCalled =>
    have refusal := r.head_message
    rw [violation_inj given] at refusal
    revert refusal
    decide
  | partialAttribute attr => exact r.message_ne_partial attr (violation_inj given).symm
  | _ => cases given

namespace Facade

/-- An evaluation from a sound state leaves a sound state, and fails with no refusal. -/
theorem evaluate_sound {e : Expr} (sound : e.Sound) (budget : Budget) (data : OrderedMap Value)
    {s : RenderState} (before : s.Sound) :
    ((evaluate budget e data).stateAfter s).Sound ∧
      ∀ f, (evaluate budget e data).outcome s = .error f → f.IsRuntime := by
  have image := (Render.start_mirrors budget data (RenderState.still (.inr rfl) : s.Image (.past 0) s)).of_ok.2
  rw [OrderedMap.still (.inr rfl)] at image
  have near : Simulation.sound.Near (Render.started budget data s)
      (Render.started budget data s).runs s.store :=
    ⟨image, fun c member _ _ => before.closures c member, rfl, rfl, before.store⟩
  have follows : Interpreter.full.Follows Simulation.sound Interpreter.full :=
    Interpreter.ofFrames_follows (Simulation.guards_of_same Iff.rfl fun _ _ => trivial)
      (fun follows => Interpreter.asks_of_renders Simulation.sound_renders follows)
      Interpreter.frames
  have empty : OrderedMap.rename (.past 0) ([] : Locals) = [] := rfl
  have run := follows.eval (r := s.runs.size) (e := e) empty sound
  rw [outcome_evaluate, stateAfter_evaluate]
  obtain ⟨-, -, runs, store, later, -⟩ := run.ended near fun _ _ => id
  refine ⟨⟨fun c member => ?_, later.stores.2⟩, fun f failed => ?_⟩
  · exact later.closures c member (List.replicate c.params.length .none) List.length_replicate
  · exact (run.allowed near failed).resolve_right id

theorem read_plain_attribute : Expr.read "f.func" = .ok (.attribute (.name "f") "func") := by
  have parsed : Parser.parse "f.func" = .ok (.attribute (.name "f") "func") := by cbv
  rw [Expr.read, parsed]
  rfl

end Facade
end Phrasebook
