import Phrasebook.Render.Invoke
/-!
Renders that come to an end within their budget, and one that changes a list among its data.
-/
namespace Phrasebook

theorem Value.length_markAllFrom (n : Nat) (marked xs : List Value) :
    (markAllFrom n marked xs).1.length = marked.length + xs.length := by
  induction xs generalizing n marked with
  | nil => simp [markAllFrom]
  | cons x rest ih =>
    simp only [markAllFrom, ih, List.length_cons]
    omega

/-- A list has become longer by one item. -/
def Heap.IsLonger (h : Heap) (r : Nat) (xs : List Value) : Prop :=
  ∃ ys, h.lists[r]? = some ys ∧ ys.length = xs.length + 1

namespace Render

variable {α β : Type} {s : RenderState}

/-- A computation ends with a result, and with a state of which something holds. -/
def Ends (m : Render α) (s : RenderState) (P : α → RenderState → Prop) : Prop :=
  ∃ a t, EStateM.run m s = .ok a t ∧ P a t

theorem Ends.pure {P : α → RenderState → Prop} {a : α} (holds : P a s) :
    Ends (Pure.pure a) s P :=
  ⟨a, s, rfl, holds⟩

theorem Ends.bind {m : Render α} {n : α → Render β} {P : α → RenderState → Prop}
    {Q : β → RenderState → Prop} (first : Ends m s P) (second : ∀ a t, P a t → Ends (n a) t Q) :
    Ends (m >>= n) s Q := by
  obtain ⟨a, t, run, holds⟩ := first
  obtain ⟨b, u, later, last⟩ := second a t holds
  refine ⟨b, u, ?_, last⟩
  rw [EStateM.run_bind, run]
  exact later

theorem Ends.step {m : Render α} {n : α → Render β} {Q : β → RenderState → Prop} {a : α}
    {t : RenderState} (run : EStateM.run m s = .ok a t) (rest : Ends (n a) t Q) :
    Ends (m >>= n) s Q :=
  .bind (P := fun b u => b = a ∧ u = t) ⟨a, t, run, rfl, rfl⟩ fun _ _ same => by
    rw [same.1, same.2]
    exact rest

theorem Ends.tryCatch {m : Render α} {n : Fault → Render α} {P : α → RenderState → Prop}
    (ends : Ends m s P) : Ends (tryCatchThe Fault m n) s P := by
  obtain ⟨a, t, run, holds⟩ := ends
  refine ⟨a, t, ?_, holds⟩
  change EStateM.tryCatch m n s = _
  delta EStateM.tryCatch
  rw [EStateM.run] at run
  simp only [run]

theorem Ends.ofMemory {m : Memory α} {P : α → RenderState → Prop} {a : α} {h : Heap}
    (run : EStateM.run m s.heap = .ok a h) (holds : P a { s with heap := h }) :
    Ends (Render.ofMemory m) s P := by
  refine ⟨a, _, ?_, holds⟩
  rw [EStateM.run] at run ⊢
  simp only [Render.ofMemory, run]

theorem Ends.look {f : Heap → Except Fault α} {P : α → RenderState → Prop} {a : α}
    (read : f s.heap = .ok a) (holds : P a s) : Ends (Render.look f) s P := by
  refine ⟨a, s, ?_, holds⟩
  change EStateM.run (MonadExcept.ofExcept (f s.heap)) s = _
  rw [read]
  rfl

/-- An evaluation over data has time and depth left. -/
def Live (r : Nat) (data : OrderedMap Value) (time depth : Nat) (s : RenderState) : Prop :=
  ∃ run, s.runs[r]? = some run ∧ run.data = data ∧
    (∀ t, run.expires = some t → s.clock + time ≤ t) ∧ run.guard.depth + depth ≤ run.guard.limit

variable {r time depth : Nat} {data : OrderedMap Value}

theorem start_ends (budget : Budget)
    (enough : ∀ t, budget.timeout.microseconds? = some t → time ≤ t)
    (deep : depth ≤ Depth.clamp budget.maxDepth) :
    Ends (start budget data) s fun r t => Live r data time depth t ∧ t.heap = s.heap := by
  refine .step rfl ⟨_, _, rfl, ⟨_, Array.getElem?_push_size, rfl, ?_, ?_⟩, rfl⟩
  · intro t expires
    obtain ⟨n, left, rfl⟩ := Option.map_eq_some_iff.mp expires
    have bound := enough n left
    dsimp only
    omega
  · change (0 : Int) + depth ≤ Depth.clamp budget.maxDepth
    omega

theorem run_run {run : Run} (entry : s.runs[r]? = some run) :
    EStateM.run (Render.run r) s = .ok run s := by
  change EStateM.Result.ok ((s.runs[r]?).getD standIn) s = _
  rw [entry]
  rfl

theorem checkDeadline_ends (live : Live r data (time + 1) depth s) :
    Ends (checkDeadline r) s fun _ t => Live r data time depth t ∧ t.heap = s.heap := by
  obtain ⟨run, entry, same, left, deep⟩ := live
  have later : Live r data time depth { s with clock := s.clock + 1 } := by
    refine ⟨run, entry, same, fun t expires => ?_, deep⟩
    have bound := left t expires
    dsimp only
    omega
  refine .step rfl (.step (run_run entry) ?_)
  cases expires : run.expires with
  | none => exact .pure ⟨later, rfl⟩
  | some t =>
    have bound := left t expires
    have early : ¬t < s.clock + 1 := by omega
    refine .step rfl ?_
    dsimp only
    rw [if_neg early]
    exact .pure ⟨later, rfl⟩

theorem guarded_ends {m : Render α} {later : Nat} {P : α → Heap → Prop}
    (live : Live r data time (depth + 1) s)
    (ends : ∀ t, Live r data time depth t → t.heap = s.heap →
      Ends m t fun a u => Live r data later depth u ∧ P a u.heap) :
    Ends (guarded r m) s fun a u => Live r data later (depth + 1) u ∧ P a u.heap := by
  obtain ⟨run, entry, same, left, deep⟩ := live
  have room : ¬run.guard.limit ≤ run.guard.depth := by omega
  have enter : run.guard.enter = .ok { run.guard with depth := run.guard.depth + 1 } := by
    rw [DepthGuard.enter, if_neg room]
  refine .step (run_run entry) ?_
  rw [enter]
  refine .step rfl (.step rfl (.tryCatch ?_))
  refine .bind (ends _ ?_ rfl) fun a u done => ?_
  · refine ⟨{ run with guard := { run.guard with depth := run.guard.depth + 1 } },
      ?_, same, left, ?_⟩
    · simp [Array.getElem?_modify, entry]
    · dsimp only
      omega
  · obtain ⟨⟨after, entry, same, left, deep⟩, holds⟩ := done
    refine .step (run_run entry) (.step rfl (.pure ⟨?_, holds⟩))
    refine ⟨{ after with guard := after.guard.leave }, ?_, same, left, ?_⟩
    · simp [Array.getElem?_modify, entry]
    · dsimp only [DepthGuard.leave]
      omega

theorem mark_ends {P Q : Value → Heap → Prop}
    (marked : ∀ v h, P v h →
      Q (v.markFrom h.origins).1 { h with origins := (v.markFrom h.origins).2 })
    {v : Value} (live : Live r data time depth s) (holds : P v s.heap) :
    Ends (mark v) s fun w t => Live r data time depth t ∧ Q w t.heap :=
  .ofMemory rfl ⟨live, marked v s.heap holds⟩

end Render

namespace Interpreter

open Render

variable {lower : Interpreter} {r time depth later : Nat} {data : OrderedMap Value}
  {locals : Locals} {e : Expr} {s : RenderState} {P Q : Value → Heap → Prop}

theorem node_ends (marked : ∀ v h, P v h →
      Q (v.markFrom h.origins).1 { h with origins := (v.markFrom h.origins).2 })
    (live : Live r data (time + 1) (depth + 1) s)
    (ends : ∀ t, Live r data time depth t → t.heap = s.heap →
      Ends (lower.dispatch r locals e) t fun v u => Live r data later depth u ∧ P v u.heap) :
    Ends (lower.node r locals e) s fun w u => Live r data later (depth + 1) u ∧ Q w u.heap := by
  refine .bind (checkDeadline_ends live) fun _ t checked => ?_
  have guarded : Ends (guarded r (lower.dispatch r locals e)) t fun v u =>
      Live r data later (depth + 1) u ∧ P v u.heap :=
    guarded_ends checked.1 fun u live same => ends u live (same.trans checked.2)
  exact .bind guarded fun v u done => mark_ends marked done.1 done.2

section
variable {name : Text} {ref : Nat} {xs : List Value} (found : data.get? name = some (.list ref))
include found

/-- A name that stands for a list. -/
theorem name_ends (live : Live r data (time + 1) (depth + 1) s)
    (held : s.heap.lists[ref]? = some xs) :
    Ends (lower.node r [] (.name name)) s fun v u =>
      Live r data time (depth + 1) u ∧ v = .list ref ∧ u.heap.lists[ref]? = some xs := by
  have marked : ∀ (v : Value) (h : Heap), (v = .list ref ∧ h.lists[ref]? = some xs) →
      (v.markFrom h.origins).1 = .list ref ∧ h.lists[ref]? = some xs := by
    rintro v h ⟨rfl, held⟩
    exact ⟨rfl, held⟩
  refine node_ends (Q := fun v h => v = .list ref ∧ h.lists[ref]? = some xs) marked live ?_
  intro t live same
  obtain ⟨run, entry, runData, left⟩ := id live
  refine .step (run_run entry) ?_
  rw [runData, found]
  exact .pure ⟨live, rfl, same ▸ held⟩

/-- The method that appends to a list under a name. -/
theorem method_ends (live : Live r data (time + 2) (depth + 2) s)
    (held : s.heap.lists[ref]? = some xs) :
    Ends (lower.next.node r [] (.attribute (.name name) "append")) s fun v u =>
      Live r data time (depth + 2) u ∧ (∃ o, v = .method (.list ref) "append" o) ∧
        u.heap.lists[ref]? = some xs := by
  have marked : ∀ (v : Value) (h : Heap),
      (v = .method (.list ref) "append" .unmarked ∧ h.lists[ref]? = some xs) →
      (∃ o, (v.markFrom h.origins).1 = .method (.list ref) "append" o) ∧
        h.lists[ref]? = some xs := by
    rintro v h ⟨rfl, held⟩
    exact ⟨⟨.made h.origins, rfl⟩, held⟩
  refine node_ends (Q := fun v h => (∃ o, v = .method (.list ref) "append" o) ∧
    h.lists[ref]? = some xs) marked live ?_
  intro t live same
  refine .bind (name_ends found live (same ▸ held)) fun v u done => ?_
  obtain ⟨live, rfl, held⟩ := done
  have allowed : Expr.isForbiddenAttribute "append" = false := by decide
  have known : Kind.list.hasMethod "append" = true := by decide
  have member : shownMember u.heap (.list ref) "append" =
      .ok (.method (.list ref) "append" .unmarked) := by
    change Value.methodOf (.list ref) "append" = _
    rw [Value.methodOf]
    exact if_pos known
  rw [attributeOf, if_neg (ne_true_of_eq_false allowed)]
  exact Ends.look member ⟨live, rfl, held⟩

omit found in
/-- A literal that stands for no value. -/
theorem none_ends (place : Place) (live : Live r data (time + 1) (depth + 1) s)
    (held : s.heap.lists[ref]? = some xs) :
    Ends (lower.node r [] (.literal .none place)) s fun v u =>
      Live r data time (depth + 1) u ∧ v = .none ∧ u.heap.lists[ref]? = some xs := by
  have marked : ∀ (v : Value) (h : Heap), (v = .none ∧ h.lists[ref]? = some xs) →
      (v.markFrom h.origins).1 = .none ∧ h.lists[ref]? = some xs := by
    rintro v h ⟨rfl, held⟩
    exact ⟨rfl, held⟩
  refine node_ends (Q := fun v h => v = .none ∧ h.lists[ref]? = some xs) marked live ?_
  intro t live same
  exact .pure ⟨live, rfl, same ▸ held⟩

omit found in
/-- Calling the method makes the list longer. -/
theorem append_ends (o : Origin) (held : s.heap.lists[ref]? = some xs)
    (live : Live r data time depth s) :
    Ends (lower.apply (.method (.list ref) "append" o) ⟨[.none], []⟩) s fun v u =>
      Live r data time depth u ∧ v = .none ∧ u.heap.IsLonger ref xs := by
  have kept : s.heap.list ref = xs := by
    rw [Heap.list, held]
    rfl
  have bound : ref < s.heap.lists.size := (Array.getElem?_eq_some_iff.mp held).1
  obtain ⟨h, run, lists⟩ : ∃ h : Heap,
      EStateM.run (Method.call (.list ref) "append" ⟨[.none], []⟩) s.heap = .ok .none h ∧
        h.lists = s.heap.lists.setIfInBounds ref
          (Value.markAllFrom s.heap.origins [] (s.heap.list ref ++ [.none])).1 :=
    ⟨_, rfl, rfl⟩
  have called : Ends (lower.applied (.method (.list ref) "append" o) ⟨[.none], []⟩) s fun v u =>
      Live r data time depth u ∧ v = .none ∧ u.heap.IsLonger ref xs := by
    refine .ofMemory run ⟨live, rfl, (Value.markAllFrom s.heap.origins []
      (s.heap.list ref ++ [.none])).1, ?_, ?_⟩
    · rw [lists, Array.getElem?_setIfInBounds_self_of_lt bound]
    · rw [Value.length_markAllFrom, kept]
      simp
  refine .bind called fun v u done => ?_
  obtain ⟨live, rfl, held⟩ := done
  exact .ofMemory rfl ⟨live, rfl, held⟩

theorem call_ends (place : Place) (live : Live r data (time + 5) (depth + 3) s)
    (held : s.heap.lists[ref]? = some xs) :
    Ends (lower.next.next.node r []
      (.call (.attribute (.name name) "append") [.literal .none place] [])) s fun v u =>
        Live r data time (depth + 3) u ∧ v = .none ∧ u.heap.IsLonger ref xs := by
  have marked : ∀ (v : Value) (h : Heap), (v = .none ∧ h.IsLonger ref xs) →
      (v.markFrom h.origins).1 = .none ∧ h.IsLonger ref xs := by
    rintro v h ⟨rfl, held⟩
    exact ⟨rfl, held⟩
  refine node_ends (Q := fun v h => v = .none ∧ h.IsLonger ref xs) marked live ?_
  intro t live same
  refine .bind (method_ends found live (same ▸ held)) fun v u done => ?_
  obtain ⟨live, ⟨o, rfl⟩, held⟩ := done
  have args : Ends (elements (lower.next.node r []) [.literal .none place]) u fun args u =>
      Live r data (time + 1) (depth + 2) u ∧ args = [.none] ∧ u.heap.lists[ref]? = some xs := by
    refine .bind (none_ends place live held) fun v u done => ?_
    obtain ⟨live, rfl, held⟩ := done
    exact .step rfl (.pure ⟨live, rfl, held⟩)
  refine .bind args fun args u done => ?_
  obtain ⟨live, rfl, held⟩ := done
  refine .step rfl (.step rfl (.step rfl ?_))
  refine .bind (append_ends o held live) fun v u done => ?_
  obtain ⟨live, rfl, longer⟩ := done
  refine .bind (checkDeadline_ends live) fun _ u done => ?_
  exact .pure ⟨done.1, rfl, done.2 ▸ longer⟩

end

end Interpreter

namespace Template

/-- A template that appends to a list under a name, within a second and ten levels. -/
def appendTo (name : Text) : Template :=
  .dynamic ("$\x7b" ++ name ++ ".append(None)\x7d")
    [.expr (.call (.attribute (.name name) "append")
      [.literal .none ⟨name ++ ".append(None)", 0⟩] [])] ⟨.whole 1, 10⟩

theorem appendTo_ends {name : Text} {ref : Nat} {xs : List Value} {data : OrderedMap Value}
    {s : RenderState} (found : data.get? name = some (.list ref))
    (held : s.heap.lists[ref]? = some xs) :
    Render.Ends ((appendTo name).render .full data) s fun _ u => u.heap.IsLonger ref xs := by
  have budget : ∀ t, (Duration.whole 1).microseconds? = some t → 5 ≤ t := by
    rintro t ⟨rfl⟩
    decide
  have deep : ((3 : Nat) : Int) ≤ Depth.clamp 10 := by decide
  refine .tryCatch (.bind (Render.start_ends ⟨.whole 1, 10⟩ budget deep) fun r t done => ?_)
  obtain ⟨live, same⟩ := done
  have called : ((Interpreter.ofFrames 487).next.next.node r [] _).Ends t _ :=
    Interpreter.call_ends found ⟨name ++ ".append(None)", 0⟩ live (same ▸ held)
  refine .bind called fun v u done => ?_
  obtain ⟨-, rfl, longer⟩ := done
  refine .bind (P := fun _ w => w = u) (.look rfl rfl) fun t w same => ?_
  subst same
  exact .step rfl (.pure longer)

end Template
end Phrasebook
