import Phrasebook.Proofs.Store.Run
/-!
How computations on the shared state end, apart from the state they leave.
-/
namespace Phrasebook.Render

variable {α β : Type} {m : Render α} {s : RenderState} {a : α} {f : Fault}

/-- How a computation ends. -/
def outcome {α : Type} (m : Render α) (s : RenderState) : Except Fault α :=
  match m s with
  | .ok a _ => .ok a
  | .error e _ => .error e

theorem outcome_congr {m' : Render α} (same : m s = m' s) : m.outcome s = m'.outcome s := by
  rw [outcome, outcome, same]

theorem outcome_look (x : Heap → Except Fault α) (s : RenderState) :
    (look x).outcome s = x s.heap := by
  change (ofExcept (x s.heap) : Render α).outcome s = _
  cases x s.heap <;> rfl

theorem outcome_look_bind (x : Heap → Except Fault α) (n : α → Render β) (s : RenderState) :
    (look x >>= n).outcome s = x s.heap >>= fun a => (n a).outcome s := by
  change ((ofExcept (x s.heap) : Render α) >>= n).outcome s = _
  cases x s.heap <;> rfl

theorem outcome_bind_of_ok {n : α → Render β} (ended : m.outcome s = .ok a) :
    (m >>= n).outcome s = (n a).outcome (m.stateAfter s) := by
  simp only [outcome, stateAfter, bind, EStateM.bind] at ended ⊢
  split at ended
  · cases ended
    simp only [*]
  · cases ended

theorem outcome_bind_of_error {n : α → Render β} (ended : m.outcome s = .error f) :
    (m >>= n).outcome s = .error f := by
  simp only [outcome, bind, EStateM.bind] at ended ⊢
  split at ended
  · cases ended
  · cases ended
    simp only [*]

/-- A fault comes from the first of two computations if the second never fails. -/
theorem outcome_of_bind {n : α → Render β} (succeeds : ∀ a t, ∃ b, (n a).outcome t = .ok b)
    (failed : (m >>= n).outcome s = .error f) : m.outcome s = .error f := by
  cases ended : m.outcome s with
  | ok a =>
    obtain ⟨b, given⟩ := succeeds a (m.stateAfter s)
    rw [outcome_bind_of_ok ended, given] at failed
    cases failed
  | error g =>
    rw [outcome_bind_of_error ended] at failed
    cases failed
    rfl

theorem outcome_eq_ok_iff : m.outcome s = .ok a ↔ ∃ t, EStateM.run m s = .ok a t := by
  rw [outcome, EStateM.run]
  cases m s <;> simp

theorem outcome_eq_error_iff : m.outcome s = .error f ↔ ∃ t, EStateM.run m s = .error f t := by
  rw [outcome, EStateM.run]
  cases m s <;> simp

theorem outcome_tryCatch_of_ok {n : Fault → Render α} (ended : m.outcome s = .ok a) :
    (tryCatch m n).outcome s = .ok a := by
  simp only [outcome, tryCatch, tryCatchThe, MonadExceptOf.tryCatch, EStateM.tryCatch] at ended ⊢
  split at ended
  · cases ended
    simp only [*]
  · cases ended

theorem outcome_tryCatch_of_error {n : Fault → Render α} (ended : m.outcome s = .error f) :
    (tryCatch m n).outcome s = (n f).outcome (m.stateAfter s) := by
  simp only [outcome, stateAfter, tryCatch, tryCatchThe, MonadExceptOf.tryCatch,
    EStateM.tryCatch] at ended ⊢
  split at ended
  · cases ended
  · cases ended
    simp only [*]
    rfl

theorem run_eq_of_ended {m' : Render α} (ended : m'.outcome s = m.outcome s)
    (after : m'.stateAfter s = m.stateAfter s) : EStateM.run m' s = EStateM.run m s := by
  unfold outcome at ended
  unfold stateAfter at after
  rw [EStateM.run, EStateM.run]
  generalize m s = left at ended after ⊢
  generalize m' s = right at ended after ⊢
  cases left <;> cases right <;> cases ended <;> cases after <;> rfl

theorem run_ofMemory_eq_ok {m : Memory α} {t : RenderState} :
    EStateM.run (ofMemory m) s = .ok a t ↔
      ∃ h, EStateM.run m s.heap = .ok a h ∧ { s with heap := h } = t := by
  rw [EStateM.run, EStateM.run]
  cases ended : m s.heap <;> simp [ofMemory, ended, and_assoc]

/-- What follows a computation and changes nothing can be left out. -/
theorem bind_eq_self {n : α → Render α}
    (silent : ∀ s a t, EStateM.run m s = .ok a t → EStateM.run (n a) t = .ok a t) : m >>= n = m := by
  funext s
  change EStateM.run (m >>= n) s = EStateM.run m s
  rw [EStateM.run_bind]
  cases ended : EStateM.run m s with
  | ok a t => exact silent s a t ended
  | error f t => rfl

end Phrasebook.Render
