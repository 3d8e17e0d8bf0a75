import Phrasebook.Proofs.Evaluation.Calls
import Phrasebook.Proofs.Nesting.Call
/-!
Renders that are asked for in a template. A twin of the interpreter lets each of them fail with a label
of its own. Side by side, both come to the same values; and where the twin fails with a label, the
interpreter fails with the fault of the render that the label belongs to.
-/
namespace Phrasebook

/-- Whether a fault can come up without a render: it is neither one of a template nor a missing key. -/
def Fault.isPlain : Fault → Bool
  | .own (.execution ..) | .own (.keyNotFound ..) => false
  | _ => true

theorem Fault.not_isPlain_of_isExecution {f : Fault} (execution : f.isExecution = true) :
    f.isPlain = false := by
  unfold isExecution at execution
  split at execution
  · rfl
  · cases execution

theorem Fault.IsOrdinary.isPlain {f : Fault} (ordinary : f.IsOrdinary) : f.isPlain = true := by
  cases ordinary <;> rfl

theorem Fault.isPlain_admits : Fault.Admits fun f => f.isPlain = true where
  ordinary := IsOrdinary.isPlain
  violation _ := rfl

namespace Interpreter

/-- The render that a call asks for: its context, its key and its data. -/
def asked? (f : Value) (c : Call) : Option (Nat × Text × OrderedMap Value) :=
  match f with
  | .boundHelper .translate id _ =>
    if hasKeyword c ["self", "ctx"] then none
    else match keyOf c with
      | .ok (.text key _, data) => some (id, key, data)
      | _ => none
  | _ => none

/-- The interpreter with a label in place of the fault of each render that is asked for. -/
def labelled (label : RenderCall → Fault) : Nat → Interpreter
  | 0 => exhausted
  | n + 1 => ⟨(labelled label n).node, fun f c =>
    match asked? f c with
    | some (id, key, data) => do
      let s ← get
      try (ofFrames n).apply f c catch _ => throw (label ⟨.ofFrames n, id, key, data, s⟩)
    | none => (labelled label n).apply f c⟩

end Interpreter

/-- A render that runs on fewer frames. -/
def RenderCall.Below (n : Nat) (d : RenderCall) : Prop := ∃ k < n, d.lower = .ofFrames k

/-- How an evaluation and its twin end alike: renders that have been asked for fail as they are. -/
inductive Agreed {α : Type} (nested : RenderCall → Prop) :
    EStateM.Result Fault RenderState α →
    ((RenderCall → Fault) → EStateM.Result Fault RenderState α) → Prop
  | ok {a : α} {t : RenderState}
    {twin : (RenderCall → Fault) → EStateM.Result Fault RenderState α}
    (same : ∀ label, twin label = .ok a t) : Agreed nested (.ok a t) twin
  | plain {f : Fault} {t : RenderState}
    {twin : (RenderCall → Fault) → EStateM.Result Fault RenderState α}
    (plain : f.isPlain = true) (same : ∀ label, twin label = .error f t) :
    Agreed nested (.error f t) twin
  | passed {d : RenderCall} {f : Fault} {t : RenderState}
    {twin : (RenderCall → Fault) → EStateM.Result Fault RenderState α}
    (asked : nested d) (raised : d.Raises f) (labels : ∀ label, twin label = .error (label d) t) :
    Agreed nested (.error f t) twin

namespace Render

/-- A computation goes along with its twin, for every choice of labels. -/
def Tracks {α : Type} (nested : RenderCall → Prop) (m : Render α)
    (twin : (RenderCall → Fault) → Render α) : Prop :=
  ∀ s, Agreed nested (EStateM.run m s) fun label => EStateM.run (twin label) s

namespace Tracks

variable {α β : Type} {nested : RenderCall → Prop} {m : Render α}
  {twin : (RenderCall → Fault) → Render α}

/-- What asks for no render is its own twin. -/
theorem same (plain : Outcome.StopsOnly (fun f => f.isPlain = true) m) :
    Tracks nested m fun _ => m := by
  intro s
  cases ended : EStateM.run m s with
  | ok a t => exact .ok fun _ => ended
  | error f t => exact .plain (plain ended) fun _ => ended

theorem bind {n : α → Render β} {later : (RenderCall → Fault) → α → Render β}
    (first : Tracks nested m twin) (second : ∀ a, Tracks nested (n a) fun label => later label a) :
    Tracks nested (m >>= n) fun label => twin label >>= later label := by
  intro s
  have agreed := first s
  simp only [EStateM.run_bind]
  generalize EStateM.run m s = ended at agreed ⊢
  cases agreed with
  | ok same =>
    simp only [same]
    exact second _ _
  | plain plain same => exact .plain plain fun label => by simp only [same]
  | passed asked raised labels => exact .passed asked raised fun label => by simp only [labels]

/-- What is done after a failure does not look at the fault. -/
theorem cleanup {after : Render Unit} (tracks : Tracks nested m twin)
    (plain : Outcome.StopsOnly (fun f => f.isPlain = true) after) :
    Tracks nested (tryCatchThe Fault m fun f => after >>= fun _ => throw f)
      fun label => tryCatchThe Fault (twin label) fun f => after >>= fun _ => throw f := by
  intro s
  have agreed := tracks s
  cases ended : EStateM.run m s with
  | ok a t =>
    rw [ended] at agreed
    rw [Outcome.run_tryCatch_ok ended]
    cases agreed with
    | ok same => exact .ok fun label => Outcome.run_tryCatch_ok (same label)
  | error f t =>
    rw [ended] at agreed
    rw [Outcome.run_tryCatch_error ended]
    cases later : EStateM.run after t with
    | ok a u =>
      have through (g : Fault) :
          EStateM.run (after >>= fun _ => (throw g : Render α)) t = .error g u := by
        rw [EStateM.run_bind, later]
        rfl
      rw [through]
      cases agreed with
      | plain plain same =>
        exact .plain plain fun label => by rw [Outcome.run_tryCatch_error (same label), through]
      | passed asked raised labels =>
        refine .passed asked raised fun label => ?_
        rw [Outcome.run_tryCatch_error (labels label), through]
    | error g u =>
      have failed (f : Fault) :
          EStateM.run (after >>= fun _ => (throw f : Render α)) t = .error g u := by
        rw [EStateM.run_bind, later]
      rw [failed]
      refine .plain (plain later) fun label => ?_
      cases agreed with
      | plain _ same => rw [Outcome.run_tryCatch_error (same label), failed]
      | passed _ _ labels => rw [Outcome.run_tryCatch_error (labels label), failed]

theorem mono {wider : RenderCall → Prop} (tracks : Tracks nested m twin)
    (within : ∀ d, nested d → wider d) : Tracks wider m twin := by
  intro s
  have agreed := tracks s
  generalize EStateM.run m s = ended at agreed ⊢
  cases agreed with
  | ok same => exact .ok same
  | plain plain same => exact .plain plain same
  | passed asked raised labels => exact .passed (within _ asked) raised labels

end Tracks
end Render

/-- Going along with a twin, as a relation. -/
def tracking (nested : RenderCall → Prop) : Congruence (RenderCall → Fault) where
  Relates := Render.Tracks nested
  admitted f := f.isPlain = true
  admits := Fault.isPlain_admits
  timedOut _ := rfl
  tooDeep _ := rfl
  same steady := .same steady.stops
  sequence first second := first.bind second
  cleanup tracks after := tracks.cleanup after.stops

/-- An interpreter goes along with its twin. -/
structure Interpreter.Tracks (nested : RenderCall → Prop) (lower : Interpreter)
    (twin : (RenderCall → Fault) → Interpreter) : Prop where
  eval : ∀ r locals e, (tracking nested).Relates (lower.eval r locals e)
    fun label => (twin label).eval r locals e
  invokes : (tracking nested).Invokes lower twin

namespace Interpreter

variable {nested : RenderCall → Prop} {lower : Interpreter}
  {twin : (RenderCall → Fault) → Interpreter}

/-- A call of the helper that renders goes along if it asks for no render. -/
theorem callHelper_tracks {id : Nat} {o : Origin} {c : Call}
    (unasked : asked? (.boundHelper .translate id o) c = none) :
    (tracking nested).Relates (lower.callHelper id .translate c)
      fun label => (twin label).callHelper id .translate c := by
  have keyed := keyOf_ordinary c
  unfold callHelper
  cases named : hasKeyword c ["self", "ctx"] with
  | true => exact .throw .type
  | false =>
    simp only [asked?, named] at unasked
    simp only [helperResult]
    cases given : keyOf c with
    | error f =>
      rw [given] at keyed
      exact .throw (keyed f rfl)
    | ok found =>
      obtain ⟨key, data⟩ := found
      rw [given] at unasked
      cases key with
      | text key o => cases unasked
      | bytes => exact .throw .type
      | _ => exact .throw (.noAttribute ..)

section
variable (tracks : lower.Tracks nested twin)
include tracks

theorem dispatch_tracks (r : Nat) (locals : Locals) (e : Expr) :
    (tracking nested).Relates (lower.dispatch r locals e)
      fun label => (twin label).dispatch r locals e := by
  have evaluates : (tracking nested).Evaluates lower twin r locals locals Eq :=
    ⟨by rintro c _ rfl; exact ⟨rfl, rfl⟩, by rintro c _ rfl; exact tracks.eval r locals c,
      tracks.invokes⟩
  cases kind : e.isScoped with
  | false =>
    have dispatched := dispatch_relates evaluates kind (List.forall₂_same.mpr fun _ _ => rfl)
    rwa [Expr.withChildren_self] at dispatched
  | true =>
    cases e with
    | name n => exact .steady (Render.lookup_steady Fault.isPlain_admits r locals n)
    | lambda params simple body => exact Render.Tracks.same (.modifyGet _)
    | _ => cases kind

theorem callLambda_tracks (ref : Nat) (c : Call) :
    (tracking nested).Relates (lower.callLambda ref c)
      fun label => (twin label).callLambda ref c := by
  have closure? : (tracking nested).Relates (Render.closure? ref) fun _ => Render.closure? ref :=
    Render.Tracks.same (.bind .get fun _ => .pure _)
  refine .ite (.throw .type) (.bind closure? fun closure => ?_)
  cases closure with
  | none => exact .throw .type
  | some closure => exact .ite (.throw (.lambdaArity ..)) (tracks.eval _ _ _)

theorem apply_tracks {f : Value} {c : Call} (unasked : asked? f c = none) :
    (tracking nested).Relates (lower.apply f c) fun label => (twin label).apply f c := by
  refine apply_relates tracks.invokes (fun ref _ => callLambda_tracks tracks ref c) ?_
  rintro id o rfl
  exact callHelper_tracks unasked

end

theorem exhausted_tracks : exhausted.Tracks nested fun _ => exhausted where
  eval _ _ _ := .throw (.unworded .recursion)
  invokes _ _ := .throw (.unworded .recursion)

/-- A call that asks for a render fails as that render does. -/
theorem raises_of_asked {lower : Interpreter} {f : Value} {c : Call} {id : Nat} {key : Text}
    {data : OrderedMap Value} (asked : asked? f c = some (id, key, data)) {s : RenderState}
    {e : Fault} (failed : (lower.apply f c).outcome s = .error e) :
    RenderCall.Raises ⟨lower, id, key, data, s⟩ e := by
  unfold asked? at asked
  split at asked
  · split at asked
    · cases asked
    · rename_i o named
      split at asked
      · rename_i _ o' _ given
        cases asked
        have translated : lower.applied (.boundHelper .translate id o) c =
            translate lower id (.text key o') data := by
          rw [applied, callHelper, if_neg named, helperResult, given]
          rfl
        rw [apply, translated] at failed
        have spoken := Render.outcome_of_bind (fun v t => ⟨_, rfl⟩) failed
        exact Render.outcome_of_bind (fun text t => ⟨_, rfl⟩) spoken
      · cases asked
  · cases asked

end Interpreter
end Phrasebook
