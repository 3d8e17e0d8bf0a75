import Phrasebook.Facade
import Phrasebook.Proofs.Render.Isolation
import Phrasebook.Proofs.Simulation.Rendering
/-!
What a template reads of its data: the entries of the names that are free in its expressions, and no
others.
-/
namespace Phrasebook

namespace Expr

/-- A name that stands in an expression outside of the lambdas that have it for a parameter. -/
inductive Free (n : Text) : Expr → Prop
  | name : Free n (.name n)
  | lambda {params : List Text} {simple : Bool} {body : Expr} (unbound : n ∉ params)
    (free : Free n body) : Free n (.lambda params simple body)
  | child {e d : Expr} (outside : ∀ params simple body, e ≠ .lambda params simple body)
    (member : d ∈ e.children) (free : Free n d) : Free n e

@[simp] theorem free_name_iff {n id : Text} : Free n (.name id) ↔ n = id := by
  constructor
  · intro free
    cases free with
    | name => rfl
    | child _ member _ => cases member
  · rintro rfl
    exact .name

@[simp] theorem free_lambda_iff {n : Text} {params : List Text} {simple : Bool} {body : Expr} :
    Free n (.lambda params simple body) ↔ n ∉ params ∧ Free n body := by
  constructor
  · intro free
    cases free with
    | lambda unbound free => exact ⟨unbound, free⟩
    | child outside _ _ => exact absurd rfl (outside _ _ _)
  · rintro ⟨unbound, free⟩
    exact .lambda unbound free

@[simp] theorem free_call_iff {n : Text} {f : Expr} {args : List Expr}
    {keywords : List (Option Text × Expr)} : Free n (.call f args keywords) ↔
      Free n f ∨ (∃ e ∈ args, Free n e) ∨ ∃ k ∈ keywords, Free n k.2 := by
  have children : Free n (.call f args keywords) ↔
      ∃ d ∈ (Expr.call f args keywords).children, Free n d := by
    constructor
    · intro free
      cases free with
      | child _ member free => exact ⟨_, member, free⟩
    · rintro ⟨d, member, free⟩
      exact .child (fun _ _ _ => Expr.noConfusion) member free
  simp only [children, Expr.children, List.mem_cons, List.mem_append, List.mem_map, or_and_right,
    exists_or, exists_eq_left, exists_exists_and_eq_and, or_assoc]

namespace Free

variable {n : Text} {e d : Expr}

theorem of_part (member : d ∈ e.parts) (free : Free n d) : Free n e := by
  refine .child ?_ (mem_children_iff.mpr (.inl (others_of_parts member))) free
  rintro _ _ _ rfl
  cases member

theorem of_unstarred (free : Free n e.unstarred) : Free n e := by
  cases e with
  | starred e => exact .child (fun _ _ _ => Expr.noConfusion) (List.mem_singleton_self e) free
  | _ => exact free

theorem of_item (member : d ∈ e.items) (free : Free n d.unstarred) : Free n e := by
  refine .child ?_ (mem_children_iff.mpr (.inr member)) free.of_unstarred
  rintro _ _ _ rfl
  cases member

end Free
end Expr

/-- A name that is free in an expression of a template. -/
def Template.Free (t : Template) (n : Text) : Prop :=
  match t with
  | .constant _ => False
  | .dynamic _ parts _ => ∃ e, .expr e ∈ parts ∧ e.Free n

namespace Run

/-- The evaluations with other data for one of them. -/
def withData (runs : Array Run) (r : Nat) (data : OrderedMap Value) : Array Run :=
  runs.modify r fun run => { run with data := data }

/-- The data of an evaluation have the given entries under some names. -/
def Agrees (runs : Array Run) (r : Nat) (data : OrderedMap Value) (agreed : Text → Prop) : Prop :=
  ∃ run, runs[r]? = some run ∧ ∀ n, agreed n → data.get? n = run.data.get? n

variable {runs : Array Run} {r : Nat} {data : OrderedMap Value} {agreed : Text → Prop}

theorem entry_withData (i : Nat) : entry (withData runs r data) i =
    if r = i ∧ i < runs.size then { entry runs i with data := data } else entry runs i :=
  entry_modify ..

namespace Agrees

variable (agrees : Agrees runs r data agreed)
include agrees

theorem inside : r < runs.size := by
  obtain ⟨run, found, -⟩ := agrees
  exact (Array.getElem?_eq_some_iff.mp found).1

theorem get? {n : Text} (name : agreed n) : data.get? n = (entry runs r).data.get? n := by
  obtain ⟨run, found, same⟩ := agrees
  rw [entry, found]
  exact same n name

theorem guardedBy (i : Nat) (g : DepthGuard) : Agrees (guardedBy runs i g) r data agreed := by
  obtain ⟨run, found, same⟩ := agrees
  rw [Agrees, getElem?_guardedBy, found]
  split_ifs
  · exact ⟨_, rfl, same⟩
  · exact ⟨run, rfl, same⟩

theorem push (run : Run) : Agrees (runs.push run) r data agreed := by
  have inside := agrees.inside
  obtain ⟨old, found, same⟩ := agrees
  refine ⟨old, ?_, same⟩
  rw [Array.getElem?_push, if_neg (Nat.ne_of_lt inside), found]

end Agrees
end Run

theorem OrderedMap.lookup_isSome_of_key {α : Type} {m : List (Text × α)} {n : Text}
    (member : n ∈ m.map (·.1)) : (m.lookup n).isSome := by
  induction m with
  | nil => cases member
  | cons e rest ih =>
    rw [List.lookup_cons]
    split
    · rfl
    · rename_i other
      rcases List.mem_cons.mp member with rfl | later
      · simp at other
      · exact ih later

/-- Two runs in which one evaluation has different data, with the same entries under all names that are
looked up in it. -/
def Simulation.names (r : Nat) (data : OrderedMap Value) (agreed : Text → Prop) : Simulation where
  shift := 0
  runs first second := second = Run.withData first r data ∧ Run.Agrees first r data agreed
  stores first second := second = first
  kept _ _ := True
  scope i locals e := i = r → ∀ n, e.Free n → (locals.lookup n).isSome ∨ agreed n
  template _ := True
  allowed _ := True
  excused _ := False
  refl _ := trivial
  trans _ _ := trivial
  runtime _ := trivial
  refused _ _ := trivial
  parts scope d member own n free := scope own n (free.of_part member)
  items scope d member own n free := scope own n (free.of_item member)
  body {i locals params simple body} scope args length own n free := by
    rw [List.lookup_append]
    by_cases bound : n ∈ params
    · have key : n ∈ ((params.zip args).reverse).map (·.1) := by
        rw [List.map_reverse, List.map_fst_zip (Nat.le_of_eq length.symm), List.mem_reverse]
        exact bound
      left
      simp [OrderedMap.lookup_isSome_of_key key]
    · refine (scope own n (.lambda bound free)).imp_left fun outer => ?_
      simp [outer]
  timing {table table'} same i := by
    rw [same.1, Run.entry_withData]
    split_ifs <;> exact ⟨rfl, rfl⟩
  data {table table'} same i locals name scope missing := by
    rw [same.1, Run.entry_withData]
    split_ifs with own
    · obtain ⟨rfl, -⟩ := own
      refine same.2.get? ((scope rfl name .name).resolve_left ?_)
      rw [missing]
      exact Bool.false_ne_true
    · rfl

namespace Simulation

variable (r : Nat) (data : OrderedMap Value) (agreed : Text → Prop)

theorem names_guards : (names r data agreed).Guards where
  entered {runs runs' i g} same entered := by
    obtain ⟨rfl, agrees⟩ : runs' = Run.withData runs r data ∧ Run.Agrees runs r data agreed := same
    refine ⟨g, ?_, ?_, agrees.guardedBy i g⟩
    · rw [Run.entry_withData]
      split_ifs <;> exact entered
    · have moved : Run.withData (Run.guardedBy runs i g) r data =
          Run.guardedBy (Run.withData runs r data) i (if r = i then g else g) :=
        Run.guardedBy_modify (fun _ => rfl) i
      rw [moved, ite_self]
  refused {runs runs' i f} same refused := by
    rw [same.1, Run.entry_withData]
    split_ifs <;> exact .inr refused
  left {_ _ after after' i _} _ _ _ later := by
    obtain ⟨rfl, agrees⟩ : after' = Run.withData after r data ∧ Run.Agrees after r data agreed := later
    exact ⟨Run.left_modify (fun _ => rfl) i, agrees.guardedBy i _⟩
  kept _ _ := trivial

theorem names_renders : (names r data agreed).Renders where
  unexcused _ := id
  size same := by
    rw [same.1, Run.withData, Array.size_modify]
  push budget given expires same := by
    obtain ⟨rfl, agrees⟩ := same
    exact ⟨(Run.push_modify agrees.inside _ _).symm, agrees.push _⟩
  kept _ _ := trivial
  parts _ same _ _ own := absurd own (Nat.ne_of_gt same.2.inside)
  shift := rfl
  stores := id
  constant _ := trivial
  found _ _ := trivial

theorem names_follows (n : Nat) :
    (Interpreter.ofFrames n).Follows (names r data agreed) (Interpreter.ofFrames n) :=
  Interpreter.ofFrames_follows (names_guards r data agreed)
    (fun follows => Interpreter.asks_of_renders (names_renders r data agreed) follows) n

end Simulation

/-- Lambdas belong to evaluations that have begun. -/
def RenderState.Grounded (s : RenderState) : Prop := ∀ c ∈ s.closures, c.run < s.runs.size

namespace Template

theorem outcome_dynamic (source : Text) (parts : List Part) (budget : Budget)
    (data : OrderedMap Value) (s : RenderState) :
    outcome (.dynamic source parts budget) data s =
      ((renderParts .full s.runs.size parts).outcome (Render.started budget data s)).mapError
        (wrapped source) := by
  have begun : Render.outcome (do
        let r ← Render.start budget data
        renderParts .full r parts) s =
      (renderParts .full s.runs.size parts).outcome (Render.started budget data s) :=
    Render.outcome_bind_of_ok rfl
  rw [outcome, Facade.renderTemplate, render]
  cases ended : (renderParts .full s.runs.size parts).outcome (Render.started budget data s) with
  | ok text => exact Render.outcome_tryCatch_of_ok (begun.trans ended)
  | error f => exact Render.outcome_tryCatch_of_error (begun.trans ended)

variable {s : RenderState} (grounded : s.Grounded)
include grounded

/-- Data with the same entries under the free names of a template render alike. -/
theorem outcome_of_agree (t : Template) {data other : OrderedMap Value}
    (agree : ∀ n, t.Free n → other.get? n = data.get? n) :
    t.outcome other s = t.outcome data s := by
  cases t with
  | constant source => rfl
  | dynamic source parts budget =>
    let K := Simulation.names s.runs.size other (Template.Free (.dynamic source parts budget))
    have begun : Render.started budget other s =
        (Render.started budget data s).beside
          (Run.withData (Render.started budget data s).runs s.runs.size other) s.store := by
      simp only [Render.started, RenderState.beside]
      rw [Run.withData, Run.push_modify_last]
    have near : K.Near (Render.started budget data s)
        (Run.withData (Render.started budget data s).runs s.runs.size other) s.store := by
      refine ⟨RenderState.still (.inr rfl), fun c member args length own => ?_, ⟨rfl, ?_⟩, rfl⟩
      · exact absurd own (Nat.ne_of_lt (grounded c member))
      · exact ⟨_, Array.getElem?_push_size, agree⟩
    have follows : Interpreter.full.Follows K Interpreter.full := Simulation.names_follows ..
    have scope : ∀ e, .expr e ∈ parts → K.scope s.runs.size [] e :=
      fun e member _ n free => .inr ⟨e, member, free⟩
    have ended := (renderParts_follows follows s.runs.size scope).ended near fun _ _ => id
    rw [← begun] at ended
    rw [outcome_dynamic, outcome_dynamic, ended.1]

end Template
end Phrasebook
