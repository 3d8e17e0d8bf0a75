import Phrasebook.Proofs.Nesting.Label
/-!
The render that a failure comes from. Along a chain of renders, each of which stops because the next one
fails, the fault of the last one's template is told with its own source and key, and passed on as it is.
-/
namespace Phrasebook

namespace Interpreter

/-- The interpreter on a stack of so many frames goes along with its twin; the renders that are asked
for run on fewer. -/
theorem ofFrames_tracks (n : Nat) :
    (ofFrames n).Tracks (RenderCall.Below n) fun label => labelled label n := by
  induction n with
  | zero => exact exhausted_tracks
  | succ n ih =>
    have within (d : RenderCall) (below : d.Below n) : d.Below (n + 1) := by
      obtain ⟨k, fewer, framed⟩ := below
      exact ⟨k, by omega, framed⟩
    have ih : (ofFrames n).Tracks (RenderCall.Below (n + 1)) fun label => labelled label n :=
      ⟨fun r locals e => Render.Tracks.mono (ih.eval r locals e) within,
        fun f c => Render.Tracks.mono (ih.invokes f c) within⟩
    refine ⟨fun r locals e => node_relates (dispatch_tracks ih r locals e), fun f c => ?_⟩
    change (tracking _).Relates ((ofFrames n).apply f c) _
    cases asked : asked? f c with
    | none =>
      simp only [labelled, asked]
      exact apply_tracks ih asked
    | some request =>
      obtain ⟨id, key, data⟩ := request
      simp only [labelled, asked]
      intro s
      cases ended : EStateM.run ((ofFrames n).apply f c) s with
      | ok v t => exact .ok fun label => Outcome.run_tryCatch_ok ended
      | error g t =>
        have raised := raises_of_asked asked (Render.outcome_eq_error_iff.mpr ⟨t, ended⟩)
        refine .passed ⟨n, Nat.lt_succ_self n, rfl⟩ raised fun label => ?_
        exact (Outcome.run_tryCatch_error ended).trans rfl

end Interpreter

namespace RenderCall

open Template Relation

theorem evaluation_tracks {nested : RenderCall → Prop} {lower : Interpreter}
    {twin : (RenderCall → Fault) → Interpreter} (tracks : lower.Tracks nested twin)
    (c : RenderCall) (parts : List Part) (budget : Budget) :
    (tracking nested).Relates (c.evaluation lower parts budget)
      fun label => c.evaluation (twin label) parts budget := by
  refine .bind (.ofMemory (.modifyGet _)) fun values => ?_
  refine .bind (.steady (Render.start_steady budget _)) fun r => ?_
  exact Interpreter.renderParts_relates (fun e => tracks.eval r [] e) parts

/-- The template of a render stops because a render that it asks for fails. Whatever label the latter
has, it would come out instead. -/
inductive Passes (c d : RenderCall) : Prop
  | intro {n : Nat} {source : Text} {parts : List Part} {budget : Budget} {records : List LogRecord}
    {f : Fault} (framed : c.lower = .ofFrames n) (below : d.Below n)
    (finds : c.Finds source parts budget records) (raised : d.Raises f)
    (stops : (c.evaluation c.lower parts budget).outcome (c.begun records) = .error f)
    (labelled : ∀ label, (c.evaluation (.labelled label n) parts budget).outcome
      (c.begun records) = .error (label d)) : Passes c d

variable {c d e : RenderCall} {source : Text} {f g : Fault} {n : Nat}

theorem Passes.carries (passes : c.Passes d) : c.Carries d := by
  obtain ⟨-, -, finds, raised, stops, -⟩ := passes
  exact ⟨_, _, ⟨_, _, _, finds, stops⟩, raised⟩

theorem carries_of_passes (chain : ReflTransGen Passes c e) : ReflTransGen Carries c e :=
  ReflTransGen.mono (fun _ _ => Passes.carries) _ _ chain

/-- A fault that renders end with comes from a render that is asked for. -/
theorem passes_of_stops (framed : c.lower = .ofFrames n) (stops : c.Stops source f)
    (rendered : f.isPlain = false) : ∃ d, c.Passes d ∧ d.Below n ∧ d.Raises f := by
  obtain ⟨parts, budget, records, finds, stopped⟩ := stops
  have tracks := Interpreter.ofFrames_tracks n
  rw [← framed] at tracks
  obtain ⟨t, ended⟩ := Render.outcome_eq_error_iff.mp stopped
  have agreed := evaluation_tracks tracks c parts budget (c.begun records)
  rw [ended] at agreed
  cases agreed with
  | plain plain => rw [plain] at rendered; cases rendered
  | @passed d _ _ _ below raised labels =>
    refine ⟨d, ⟨framed, below, finds, raised, stopped, fun label => ?_⟩, below, raised⟩
    exact Render.outcome_eq_error_iff.mpr ⟨t, labels label⟩

/-- Every fault of a template that leaves a render has an origin: a render whose own template fails,
along a chain of renders that each ask for the next. -/
theorem exists_innermost (framed : c.lower = .ofFrames n) (raised : c.Raises f)
    (execution : f.isExecution = true) :
    ∃ e k source g, ReflTransGen Passes c e ∧ e.lower = .ofFrames k ∧ e.Stops source g ∧
      g.isExecution = false := by
  -- A render that is asked for runs on fewer frames.
  induction n using Nat.strongRecOn generalizing c f with
  | ind n ih =>
    rcases stops_of_raises raised with missing | ⟨source, g, -, stops, -⟩
    · rcases found_eq_error missing with rfl | ⟨report, locale, rfl⟩ <;> cases execution
    cases own : g.isExecution with
    | false => exact ⟨c, n, source, g, .refl, framed, stops, own⟩
    | true =>
      obtain ⟨d, passes, ⟨k, fewer, below⟩, inner⟩ :=
        passes_of_stops framed stops (Fault.not_isPlain_of_isExecution own)
      obtain ⟨e, l, source, g, chain, rest⟩ := ih k fewer below inner own
      exact ⟨e, l, source, g, .head passes chain, rest⟩

/-- A missing key that stops a template is the key of a render that the template asks for. -/
theorem asks_of_keyNotFound {report : Report} {locale key : Text} (framed : c.lower = .ofFrames n)
    (stops : c.Stops source (.own (.keyNotFound report locale key))) :
    ∃ d, c.Passes d ∧ d.key = key ∧ d.found = .error (.own (.keyNotFound report locale key)) := by
  obtain ⟨d, passes, -, raised⟩ := passes_of_stops framed stops rfl
  rcases stops_of_raises raised with missing | ⟨source, g, language, -, told⟩
  · rcases found_eq_error missing with same | ⟨report, locale, same⟩
    · cases same
    · cases same
      exact ⟨d, passes, rfl, missing⟩
  · -- What a template stops with is told as a fault of the template.
    have execution := Fault.isExecution_of_isTold (told_isTold source language d.key g)
    rw [← told] at execution
    cases execution

/-- Texts that ask for each other. The last of three names nothing, and the second of two asks for a key
that is missing. -/
def nestedTexts : Datum :=
  .map [(.ofText "outer", .text "${tr(middle)}"), (.ofText "middle", .text "${tr(inner)}"),
    (.ofText "inner", .text "${oops}"), (.ofText "first", .text "${tr(second)}"),
    (.ofText "second", .text "${tr(absent)}")]

/-- What the texts name: a helper that renders others, and their keys. -/
def nestedData : OrderedMap Value :=
  ("tr", .helper .translate) ::
    ["middle", "inner", "second", "absent"].map fun name : String => (name, .ofText name)

/-- A render of a text. -/
def nestedCall (key : Text) : RenderCall where
  lower := .ofFrames 8
  context := 0
  key := key
  data := []
  state :=
    { contexts := #[⟨{ allowMissing := false }, .facade, "en", "en", nestedData⟩]
      store := match (ResourceStore.load {} "en" nestedTexts).1 with
        | .ok store => store
        | .error _ => {} }

/-- Source, cause and key of what a render tells. -/
def attribution : Except Fault Text → Option (Text × Text × Text)
  | .error (.own (.execution _ source cause _ (some key))) => some (source, cause, key)
  | _ => none

theorem raises_of_attribution {a : Text × Text × Text} (told : attribution c.outcome = some a) :
    ∃ f, c.Raises f ∧ f.isExecution = true ∧ attribution (.error f) = some a := by
  unfold Raises
  cases raised : c.outcome with
  | ok text =>
    rw [raised] at told
    cases told
  | error f =>
    rw [raised] at told
    refine ⟨f, rfl, ?_, told⟩
    unfold attribution at told
    split at told
    · rename_i same
      cases same
      rfl
    · cases told

end RenderCall
end Phrasebook
