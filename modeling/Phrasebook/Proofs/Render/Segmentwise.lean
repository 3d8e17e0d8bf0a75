import Phrasebook.Proofs.Evaluation.Limit
import Phrasebook.Proofs.Evaluation.Names
import Phrasebook.Proofs.Expr.Reading
import Phrasebook.Proofs.Render.Extent
/-!
Templates segment by segment. The expressions of a template share one evaluation; each does in it
what it does on its own, as long as none changes what the data reach.
-/
namespace Phrasebook

namespace Facade

/-- What an expression puts into a text on its own: the text of its value in a fresh evaluation. -/
def written (budget : Budget) (e : Expr) (data : OrderedMap Value) : Render Text := do
  let v ← evaluate budget e data
  Render.look fun h => Template.partText h v

/-- An expression that on its own leaves what the data reach as it was. -/
def Spares (budget : Budget) (data : OrderedMap Value) (s : RenderState) (e : Expr) : Prop :=
  ∀ x, s.Reaches data x → ((evaluate budget e data).stateAfter s).held? x = s.held? x

theorem spares_of_bare {s : RenderState} {data : OrderedMap Value} (placed : s.Placed data)
    (bare : s.Bare data) (budget : Budget) (e : Expr) : Spares budget data s e := by
  intro x reaches
  rw [bare x reaches]
  exact RenderState.held?_of_none (placed x reaches) (bare x reaches) _

end Facade

namespace Render

/-- The text of an expression in an evaluation that has begun. -/
def textOf (r : Nat) (e : Expr) : Render Text := do
  let v ← Interpreter.full.eval r [] e
  look fun h => Template.partText h v

variable {ρ : Renaming} (r : Nat) (e : Expr)

theorem textOf_mirrors (readers : ρ.reader = ρ.context) :
    Mirrors ρ id (textOf r e) (textOf (ρ.run r) e) := by
  have mirrors := Interpreter.ofFrames_mirrors readers Interpreter.frames
  refine .bind (mirrors.eval r [] e) fun v => look_mirrors fun h h' image => ?_
  rw [Template.partText_rename image, Outcome.map_id]

theorem stateAfter_textOf (s : RenderState) :
    (textOf r e).stateAfter s = (Interpreter.full.eval r [] e).stateAfter s := by
  simp only [stateAfter, textOf, bind, EStateM.bind]
  rcases Interpreter.full.eval r [] e s with ⟨v, t⟩ | ⟨f, t⟩
  · have looked := run_look (fun h => Template.partText h v) t
    rw [EStateM.run] at looked
    dsimp only
    rw [looked]
    cases Template.partText t.heap v <;> rfl
  · rfl

theorem outcome_written (budget : Budget) (data : OrderedMap Value) (s : RenderState) :
    (Facade.written budget e data).outcome s =
      (textOf s.runs.size e).outcome (started budget data s) := rfl

theorem renderParts_expr (rest : List Part) :
    Template.renderParts .full r (.expr e :: rest) = (do
      let t ← textOf r e
      pure (t ++ (← Template.renderParts .full r rest))) := by
  simp only [Template.renderParts, textOf, bind_assoc]

end Render

namespace RenderState

variable {s : RenderState} {data : OrderedMap Value} (budget : Budget)

theorem held?_started (x : Ref) : (Render.started budget data s).held? x = s.held? x := by
  cases x <;> rfl

theorem Reaches.of_started {x : Ref} (reaches : (Render.started budget data s).Reaches data x) :
    s.Reaches data x := by
  induction reaches with
  | data member => exact .data member
  | held _ found member ih => exact .held ih ((held?_started budget _).symm.trans found) member

theorem Placed.started (placed : s.Placed data) : (Render.started budget data s).Placed data := by
  intro x reaches
  have owned := placed x (Reaches.of_started budget reaches)
  cases x <;> exact owned

/-- What is seen of a state by the expressions of a template: what its data reach, and the
evaluation that they share. -/
noncomputable def extent (s : RenderState) (data : OrderedMap Value) : Excerpt :=
  (Render.started budget data s).reached data [s.runs.size]

theorem extent_isClosed (endless : budget.timeout.microseconds? = none) (placed : s.Placed data) :
    (extent budget s data).IsClosed (Render.started budget data s) := by
  refine reached_isClosed (placed.started budget) (List.nodup_singleton _) fun r member => ?_
  obtain rfl := List.mem_singleton.mp member
  refine ⟨_, Array.getElem?_push_size, ?_, rfl⟩
  rw [endless]
  rfl

end RenderState

/-- What a part of a template comes to on its own. -/
def Part.alone (budget : Budget) (data : OrderedMap Value) (s : RenderState) :
    Part → Except Fault Text
  | .text t => .ok t
  | .expr e => (Facade.written budget e data).outcome s

/-- What a segment of a source comes to on its own. -/
def Segment.alone (budget : Budget) (source : Text) (data : OrderedMap Value) (s : RenderState) :
    Segment → Except Fault Text
  | .text body => .ok body
  | .expr body _ => do
    let e ← Template.readExpr source body
    (Facade.written budget e data).outcome s

namespace Template

open RenderState (extent extent_isClosed)

section
variable {budget : Budget} (endless : budget.timeout.microseconds? = none) {s : RenderState}
  {data : OrderedMap Value} (placed : s.Placed data)
include endless placed

/-- An expression in the shared evaluation: it comes to what it does on its own, and the next one
finds all as it was. -/
theorem textOf_alone {e : Expr} (spares : Facade.Spares budget data s e) {t : RenderState}
    (follows : (extent budget s data).Follows (Render.started budget data s) t) :
    (Render.textOf s.runs.size e).outcome t = (Facade.written budget e data).outcome s ∧
      (extent budget s data).Follows (Render.started budget data s)
        ((Render.textOf s.runs.size e).stateAfter t) := by
  have closed := extent_isClosed budget endless placed
  have bound : (extent budget s data).origins ≤ (Render.started budget data s).heap.origins :=
    Nat.le_refl _
  have mirrors (t : RenderState) : Render.Mirrors ((extent budget s data).into t) id
      (Render.textOf 0 e) (Render.textOf s.runs.size e) :=
    Render.textOf_mirrors 0 e rfl
  refine ⟨?_, Excerpt.follows_after closed bound follows mirrors (fun x kept => ?_) ?_⟩
  · rw [Render.outcome_written]
    exact Excerpt.outcome_eq closed bound follows mirrors
  · rw [Render.stateAfter_textOf, ← Facade.stateAfter_evaluate]
    cases found : (Render.started budget data s).held? x with
    | none =>
      have owned := RenderState.owns_of_has kept
      exact RenderState.held?_of_none owned found _
    | some h =>
      have reaches := (RenderState.reaches_of_has kept found).of_started budget
      rw [spares x reaches, ← found, RenderState.held?_started]
  · rw [Render.stateAfter_textOf]
    exact Interpreter.eval_unchanged Interpreter.frames _ [] e t

/-- The parts of a template, one after the other, come to what each does on its own, up to the first
that fails. -/
theorem outcome_renderParts (parts : List Part)
    (spares : ∀ e, .expr e ∈ parts → Facade.Spares budget data s e) {t : RenderState}
    (follows : (extent budget s data).Follows (Render.started budget data s) t) :
    (renderParts .full s.runs.size parts).outcome t =
      (parts.mapM (Part.alone budget data s)).map List.flatten := by
  induction parts generalizing t with
  | nil => rfl
  | cons part rest ih =>
    have later := fun e member => spares e (List.mem_cons_of_mem part member)
    rw [List.mapM_cons]
    cases part with
    | text body =>
      have onward := ih later follows
      rw [renderParts]
      rcases alone : rest.mapM (Part.alone budget data s) with f | texts
      · rw [alone] at onward
        exact Render.outcome_bind_of_error onward
      · rw [alone] at onward
        exact Render.outcome_bind_of_ok onward
    | expr e =>
      obtain ⟨same, follows⟩ := textOf_alone endless placed (spares e List.mem_cons_self) follows
      have onward := ih later follows
      rw [Render.renderParts_expr]
      change _ = ((Facade.written budget e data).outcome s >>= _).map _
      rcases here : (Facade.written budget e data).outcome s with f | text
      · rw [here] at same
        exact Render.outcome_bind_of_error same
      · rw [here] at same
        rw [Render.outcome_bind_of_ok same]
        rcases alone : rest.mapM (Part.alone budget data s) with f | texts
        · rw [alone] at onward
          exact Render.outcome_bind_of_error onward
        · rw [alone] at onward
          exact Render.outcome_bind_of_ok onward

end

theorem alone_of_readPart {budget : Budget} {source : Text} {data : OrderedMap Value}
    {s : RenderState} {g : Segment} {part : Part} (read : readPart source g = .ok part) :
    part.alone budget data s = g.alone budget source data s := by
  cases g with
  | text body =>
    cases read
    rfl
  | expr body offset =>
    rcases reading : readExpr source body with f | e
    · rw [readPart, reading] at read
      cases read
    · rw [readPart, reading] at read
      cases read
      rw [Part.alone, Segment.alone, reading]
      rfl

theorem mapM_alone {budget : Budget} {source : Text} {data : OrderedMap Value} {s : RenderState}
    {segments : List Segment} {parts : List Part}
    (mapped : segments.mapM (readPart source) = .ok parts) :
    parts.mapM (Part.alone budget data s) = segments.mapM (Segment.alone budget source data s) := by
  have pairs := Outcome.mapM_eq_ok_iff.mp mapped
  clear mapped
  induction pairs with
  | nil => rfl
  | cons read _ ih => rw [List.mapM_cons, List.mapM_cons, alone_of_readPart read, ih]

/-- What a source comes to whose segments are evaluated each on its own. -/
theorem outcome_eq_mapM {budget : Budget} {source : Text} {data : OrderedMap Value}
    {s : RenderState} {t : Template} (endless : budget.timeout.microseconds? = none)
    (placed : s.Placed data) (compiled : compile budget source = .ok t) :
    ∃ segments, Segment.split source = .ok segments ∧
      ((∀ body offset e, .expr body offset ∈ segments → Expr.read body = .ok e →
          Facade.Spares budget data s e) →
        t.outcome data s = ((segments.mapM (Segment.alone budget source data s)).map
          List.flatten).mapError (wrapped source)) := by
  rcases compile_eq_ok compiled with ⟨rfl, unmarked⟩ | ⟨segments, parts, cut, rfl, mapped⟩
  · refine ⟨Segment.literals source, Segment.split_eq_ok_iff_cut.mpr (.last unmarked), fun _ => ?_⟩
    have same : ((Segment.literals source).mapM (Segment.alone budget source data s)).map
        List.flatten = .ok source := by
      rw [Segment.literals]
      split_ifs with empty
      · rw [List.isEmpty_iff.mp empty]
        rfl
      · change Except.ok [source].flatten = _
        rw [List.flatten_singleton]
    rw [same]
    rfl
  · refine ⟨segments, cut, fun spares => ?_⟩
    have each : ∀ e, .expr e ∈ parts → Facade.Spares budget data s e := by
      intro e member
      obtain ⟨g, listed, read⟩ := (Outcome.mem_of_mapM mapped).2 _ member
      cases g with
      | text body => cases read
      | expr body offset =>
        rcases reading : readExpr source body with f | d
        · rw [readPart, reading] at read
          cases read
        · rw [readPart, reading] at read
          cases read
          exact spares body offset e listed (readExpr_eq_ok_iff.mp reading)
    have start : (extent budget s data).Follows (Render.started budget data s)
        (Render.started budget data s) := .refl (Nat.le_refl _)
    rw [outcome_dynamic, outcome_renderParts endless placed parts each start, mapM_alone mapped]

/-- A budget without an end. -/
def endless : Budget := ⟨.real (Float.ofBits 0x7FF0000000000000), 100⟩

/-- The template and the cause that a failed render tells of. -/
def told? : Fault → Option (Text × Text)
  | .own (.execution _ source cause _ _) => some (source, cause)
  | _ => none

theorem exists_told {source : Text} {data : OrderedMap Value} {s : RenderState}
    {expected : Text × Text}
    (rendered : ((compile endless source).toOption.map fun t =>
      (t.outcome data s).mapError told?) = some (.error (some expected))) :
    ∃ t f, compile endless source = .ok t ∧ t.outcome data s = .error f ∧
      told? f = some expected := by
  obtain ⟨t, compiled, ended⟩ := Option.map_eq_some_iff.mp rendered
  rcases ending : t.outcome data s with f | text
  · rw [ending] at ended
    exact ⟨t, f, Outcome.eq_ok_of_toOption compiled, ending, Except.error.inj ended⟩
  · rw [ending] at ended
    cases ended

end Template
end Phrasebook
