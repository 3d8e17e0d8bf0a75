import Phrasebook.Proofs.Binding.Alpha
import Phrasebook.Proofs.Evaluation.Congruence
import Phrasebook.Proofs.Renaming.Mirror
/-!
States whose lambdas differ in the names of parameters alone. What is evaluated in them does the
same: a name stands for what it stood for where the lambda was written.
-/
namespace Phrasebook

open Expr (Paired bound Alpha)

variable {names : List (Text × Text)}

/-- Scopes that give the same values to names that stand for each other. -/
inductive Locals.Alike : List (Text × Text) → Locals → Locals → Prop
  | nil : Alike [] [] []
  | cons {names : List (Text × Text)} {locals locals' : Locals} (a b : Text) (v : Value)
    (alike : Alike names locals locals') :
    Alike ((a, b) :: names) ((a, v) :: locals) ((b, v) :: locals')

namespace Locals.Alike

variable {locals locals' : Locals}

theorem lookup {a b : Text} (alike : Alike names locals locals') (paired : Paired names a b) :
    locals'.lookup b = locals.lookup a ∧ (locals.lookup a = none → b = a) := by
  induction alike with
  | nil => exact ⟨rfl, fun _ => paired.symm⟩
  | cons p q v alike ih =>
    rcases paired with ⟨rfl, rfl⟩ | ⟨left, right, paired⟩
    · simp
    · rw [List.lookup_cons, List.lookup_cons, beq_false_of_ne left, beq_false_of_ne right]
      exact ih paired

theorem append {others : List (Text × Text)} {more more' : Locals}
    (alike : Alike names locals locals') (alikes : Alike others more more') :
    Alike (names ++ others) (locals ++ more) (locals' ++ more') := by
  induction alike with
  | nil => exact alikes
  | cons p q v alike ih => exact .cons p q v ih

theorem reverse (alike : Alike names locals locals') :
    Alike names.reverse locals.reverse locals'.reverse := by
  induction alike with
  | nil => exact .nil
  | cons p q v alike ih =>
    simp only [List.reverse_cons]
    exact ih.append (.cons p q v .nil)

theorem zip {params params' : List Text} {args : List Value}
    (length : params'.length = params.length) (given : args.length = params.length) :
    Alike (params.zip params') (params.zip args) (params'.zip args) := by
  induction params generalizing params' args with
  | nil =>
    obtain rfl := List.eq_nil_of_length_eq_zero length
    exact .nil
  | cons p params ih =>
    obtain ⟨q, params', rfl⟩ := List.exists_cons_of_length_eq_add_one length
    obtain ⟨v, args, rfl⟩ := List.exists_cons_of_length_eq_add_one given
    exact .cons p q v (ih (Nat.succ.inj length) (Nat.succ.inj given))

/-- The scope of the body of a lambda. -/
theorem entered {params params' : List Text} {args : List Value}
    (alike : Alike names locals locals') (length : params'.length = params.length)
    (given : args.length = params.length) :
    Alike (bound params params' names) ((params.zip args).reverse ++ locals)
      ((params'.zip args).reverse ++ locals') :=
  (zip length given).reverse.append alike

end Locals.Alike

/-- Lambdas that are written alike in scopes that are alike. -/
structure Closure.Alike (c c' : Closure) : Prop where
  run : c'.run = c.run
  length : c'.params.length = c.params.length
  body : ∃ names, Locals.Alike names c.locals c'.locals ∧
    Alpha (bound c.params c'.params names) c.body c'.body

/-- States that are the same but for their lambdas, which are alike. -/
structure RenderState.Alike (s s' : RenderState) : Prop where
  same : s' = { s with closures := s'.closures }
  size : s'.closures.size = s.closures.size
  closures : ∀ (i : Nat) (c : Closure), s.closures[i]? = some c →
    ∃ c', s'.closures[i]? = some c' ∧ c.Alike c'

namespace RenderState

theorem Alike.carried {s s' t : RenderState} (alike : s.Alike s')
    (kept : t.closures = s.closures) : t.Alike { t with closures := s'.closures } where
  same := rfl
  size := by rw [kept, alike.size]
  closures := by
    rw [kept]
    exact alike.closures

/-- Lambdas stay as they were written. -/
def KeepsLambdas (s t : RenderState) : Prop :=
  ∀ (i : Nat) (c : Closure), s.closures[i]? = some c → t.closures[i]? = some c

def naming : Likeness RenderState where
  image := Alike
  kept := KeepsLambdas
  refl _ _ _ := id
  trans first second i c found := second i c (first i c found)

end RenderState

namespace Render

/-- Computations do the same in states that are alike. -/
abbrev Matches {α : Type} (m m' : Render α) : Prop := RenderState.naming.Mirrors id m m'

variable {α β : Type}

theorem Matches.bind {m m' : Render α} {n n' : α → Render β} (first : Matches m m')
    (second : ∀ a, Matches (n a) (n' a)) : Matches (m >>= n) (m' >>= n') :=
  Likeness.Mirrors.bind first second

theorem steady_matches {P : Fault → Prop} {m : Render α} (steady : Steady P m) : Matches m m := by
  intro s s' alike
  have own := steady.apart s s.closures
  have beside := steady.apart s s'.closures
  rw [← alike.same] at beside
  rw [beside]
  change EStateM.run m s = _ at own
  cases ended : EStateM.run m s with
  | ok a t =>
    rw [ended] at own
    injection own with _ kept
    exact .ok a (alike.carried (congrArg (·.closures) kept)) fun _ _ => id
  | error f t =>
    rw [ended] at own
    injection own with _ kept
    exact .error f (alike.carried (congrArg (·.closures) kept)) fun _ _ => id

/-- What is read from the state is the same, but for the lambdas. -/
theorem read_matches {n n' : RenderState → Render α}
    (same : ∀ s closures, n' { s with closures := closures } = n' s)
    (rest : ∀ s, Matches (n s) (n' s)) : Matches (get >>= n) (get >>= n') := by
  refine .read fun s s' alike => ?_
  rw [alike.same, same]
  exact rest s

theorem lookup_matches (r : Nat) {locals locals' : Locals} {a b : Text}
    (alike : Locals.Alike names locals locals') (paired : Paired names a b) :
    Matches (lookup r locals a) (lookup r locals' b) := by
  obtain ⟨same, free⟩ := alike.lookup paired
  unfold lookup
  rw [same]
  cases found : locals.lookup a with
  | some v => exact .pure v
  | none =>
    rw [free found]
    refine .bind (steady_matches (run_steady (P := fun _ => True) r)) fun run => ?_
    cases run.data.get? a with
    | some v => exact .pure v
    | none => exact .throw _

theorem newClosure_matches {c c' : Closure} (alike : c.Alike c') :
    Matches (newClosure c) (newClosure c') := by
  intro s s' states
  change RenderState.naming.Alike id s'
    (.ok (Value.lambda s.closures.size) { s with closures := s.closures.push c })
    (.ok (Value.lambda s'.closures.size) { s' with closures := s'.closures.push c' })
  rw [states.size]
  refine .ok (Value.lambda s.closures.size) ⟨?_, ?_, fun i d found => ?_⟩ fun i d found => ?_
  · exact congrArg (fun t => { t with closures := s'.closures.push c' }) states.same
  · rw [Array.size_push, Array.size_push, states.size]
  · rw [Array.getElem?_push] at found ⊢
    rw [states.size]
    split_ifs at found ⊢
    · obtain rfl := Option.some.inj found
      exact ⟨c', rfl, alike⟩
    · exact states.closures i d found
  · obtain ⟨inside, -⟩ := Array.getElem?_eq_some_iff.mp found
    rwa [Array.getElem?_push, if_neg (Nat.ne_of_lt inside)]

theorem closure?_matches (r : Nat) {n : Option Closure → Render α}
    (unknown : Matches (n none) (n none))
    (known : ∀ c c', c.Alike c' → Matches (n (some c)) (n (some c'))) :
    Matches (closure? r >>= n) (closure? r >>= n) := by
  refine .read fun s s' alike => ?_
  cases found : s.closures[r]? with
  | none =>
    have absent : s'.closures[r]? = none := by
      rw [Array.getElem?_eq_none_iff] at found ⊢
      rwa [alike.size]
    rw [absent]
    exact unknown
  | some c =>
    obtain ⟨c', found', alike⟩ := alike.closures r c found
    rw [found']
    exact known c c' alike

end Render

/-- Doing the same in states that are alike, as a relation. -/
def matching : Congruence Unit where
  Relates m m' := Render.Matches m (m' ())
  admitted _ := True
  admits := ⟨fun _ => trivial, fun _ => trivial⟩
  timedOut _ := trivial
  tooDeep _ := trivial
  same steady := Render.steady_matches steady
  sequence first second := first.bind second
  cleanup first after :=
    .tryCatch first fun f => (Render.steady_matches after).bind fun _ => .throw f

/-- An interpreter does the same with expressions that are alike. -/
structure Interpreter.Matches (lower : Interpreter) : Prop where
  eval : ∀ {names : List (Text × Text)} {locals locals' : Locals} {e e' : Expr} (r : Nat),
    Locals.Alike names locals locals' → Alpha names e e' →
      Render.Matches (lower.eval r locals e) (lower.eval r locals' e')
  invokes : matching.Invokes lower fun _ => lower

namespace Interpreter

variable {lower : Interpreter} (matched : lower.Matches) (r : Nat) {locals locals' : Locals}
  (alike : Locals.Alike names locals locals')
include matched alike

theorem node_matches {e e' : Expr} (alpha : Alpha names e e') :
    Render.Matches (lower.node r locals e) (lower.node r locals' e') := by
  have evaluates : matching.Evaluates lower (fun _ => lower) r locals locals' (Alpha names) :=
    ⟨Alpha.item, matched.eval r alike, matched.invokes⟩
  suffices dispatched : matching.Relates (lower.dispatch r locals e)
      fun _ => lower.dispatch r locals' e' from node_relates dispatched
  cases alpha with
  | name paired => exact Render.lookup_matches r alike paired
  | lambda length body => exact Render.newClosure_matches ⟨rfl, length, names, alike, body⟩
  | other other length each =>
    exact dispatch_relates evaluates other (List.forall₂_iff_zip.mpr ⟨length, each _ _⟩)

end Interpreter
end Phrasebook
