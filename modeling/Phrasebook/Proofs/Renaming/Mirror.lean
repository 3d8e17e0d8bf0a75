import Phrasebook.Proofs.Outcome
import Mathlib.Tactic.SplitIfs
/-!
Computations that end alike on a state and on its image.
-/
namespace Phrasebook

/-- Which states are images of others, and which changes leave alone what is no image. -/
structure Likeness (σ : Type) where
  image : σ → σ → Prop
  kept : σ → σ → Prop
  refl : ∀ s, kept s s
  trans : ∀ {s t u}, kept s t → kept t u → kept s u

namespace Likeness

variable {σ α β γ δ : Type} {L : Likeness σ} {f : α → β} {g : γ → δ}

/-- Two computations end alike: with a result and its image, or with one fault. -/
inductive Alike (L : Likeness σ) (f : α → β) (s' : σ) :
    EStateM.Result Fault σ α → EStateM.Result Fault σ β → Prop
  | ok (a : α) {t t' : σ} (image : L.image t t') (kept : L.kept s' t') :
      Alike L f s' (.ok a t) (.ok (f a) t')
  | error (e : Fault) {t t' : σ} (image : L.image t t') (kept : L.kept s' t') :
      Alike L f s' (.error e t) (.error e t')

theorem Alike.after {s t : σ} {left : EStateM.Result Fault σ α} {right : EStateM.Result Fault σ β}
    (kept : L.kept s t) (alike : Alike L f t left right) : Alike L f s left right := by
  cases alike with
  | ok a image later => exact .ok a image (L.trans kept later)
  | error e image later => exact .error e image (L.trans kept later)

namespace Alike

variable {s' t t' : σ}

theorem of_ok {a : α} {b : β} (alike : Alike L f s' (.ok a t) (.ok b t')) :
    b = f a ∧ L.image t t' := by
  generalize left : EStateM.Result.ok a t = r at alike
  generalize right : EStateM.Result.ok b t' = r' at alike
  cases alike with
  | ok c image kept =>
    cases left
    cases right
    exact ⟨rfl, image⟩
  | error => cases left

theorem of_error {e e' : Fault} (alike : Alike L f s' (.error e t) (.error e' t')) :
    L.image t t' := by
  generalize left : EStateM.Result.error e t = r at alike
  generalize right : EStateM.Result.error e' t' = r' at alike
  cases alike with
  | ok => cases left
  | error _ image kept =>
    cases left
    cases right
    exact image

end Alike

/-- Computations end alike on a state and its image, and leave alone what is no image. -/
def Mirrors (L : Likeness σ) (f : α → β) (m : EStateM Fault σ α) (m' : EStateM Fault σ β) : Prop :=
  ∀ ⦃s s' : σ⦄, L.image s s' → L.Alike f s' (m.run s) (m'.run s')

namespace Mirrors

theorem pure (a : α) : L.Mirrors f (Pure.pure a) (Pure.pure (f a)) :=
  fun _ s' image => .ok a image (L.refl s')

theorem pure' {a : α} {b : β} (image : b = f a) : L.Mirrors f (Pure.pure a) (Pure.pure b) := by
  subst image
  exact .pure a

theorem throw (e : Fault) : L.Mirrors f (throwThe Fault e) (throwThe Fault e) :=
  fun _ s' image => .error e image (L.refl s')

theorem bind {m : EStateM Fault σ α} {m' : EStateM Fault σ β} {n : α → EStateM Fault σ γ}
    {n' : β → EStateM Fault σ δ} (first : L.Mirrors f m m')
    (second : ∀ a, L.Mirrors g (n a) (n' (f a))) : L.Mirrors g (m >>= n) (m' >>= n') := by
  intro s s' image
  have alike := first image
  rw [EStateM.run_bind, EStateM.run_bind]
  generalize m.run s = left at alike ⊢
  generalize m'.run s' = right at alike ⊢
  cases alike with
  | ok a between kept => exact (second a between).after kept
  | error e between kept => exact .error e between kept

theorem tryCatch {m : EStateM Fault σ α} {m' : EStateM Fault σ β} {n : Fault → EStateM Fault σ α}
    {n' : Fault → EStateM Fault σ β} (first : L.Mirrors f m m')
    (second : ∀ e, L.Mirrors f (n e) (n' e)) :
    L.Mirrors f (tryCatchThe Fault m n) (tryCatchThe Fault m' n') := by
  intro s s' image
  have alike := first image
  generalize left : m.run s = r at alike
  generalize right : m'.run s' = r' at alike
  cases alike with
  | ok a between kept =>
    rw [Outcome.run_tryCatch_ok left, Outcome.run_tryCatch_ok right]
    exact .ok a between kept
  | error e between kept =>
    rw [Outcome.run_tryCatch_error left, Outcome.run_tryCatch_error right]
    exact (second e between).after kept

theorem mapM {n : α → EStateM Fault σ γ} {n' : β → EStateM Fault σ δ} (xs : List α)
    (each : ∀ a, L.Mirrors g (n a) (n' (f a))) :
    L.Mirrors (List.map g) (xs.mapM n) ((xs.map f).mapM n') := by
  induction xs with
  | nil => exact .pure []
  | cons x rest ih =>
    rw [List.map_cons, List.mapM_cons, List.mapM_cons]
    exact .bind (each x) fun y => .bind ih fun ys => .pure (y :: ys)

theorem eachM {n : α → EStateM Fault σ γ} {n' : α → EStateM Fault σ δ} (xs : List α)
    (each : ∀ a, L.Mirrors g (n a) (n' a)) :
    L.Mirrors (List.map g) (xs.mapM n) (xs.mapM n') := by
  have mapped : L.Mirrors (List.map g) (xs.mapM n) ((xs.map id).mapM n') := .mapM xs each
  rwa [List.map_id] at mapped

theorem ite {p : Prop} [Decidable p] {m n : EStateM Fault σ α} {m' n' : EStateM Fault σ β}
    (yes : L.Mirrors f m m') (no : L.Mirrors f n n') :
    L.Mirrors f (if p then m else n) (if p then m' else n') := by
  split_ifs
  · exact yes
  · exact no

/-- What is read from the state is taken from both states. -/
theorem read {n : σ → EStateM Fault σ γ} {n' : σ → EStateM Fault σ δ}
    (rest : ∀ s s', L.image s s' → L.Mirrors g (n s) (n' s')) :
    L.Mirrors g (get >>= n) (get >>= n') :=
  fun s s' image => rest s s' image image

theorem ofExcept {x : Except Fault α} {x' : Except Fault β} (mapped : x' = x.map f) :
    L.Mirrors f (MonadExcept.ofExcept x) (MonadExcept.ofExcept x') := by
  subst mapped
  cases x with
  | error e => exact .throw e
  | ok a => exact .pure a

theorem same (x : Except Fault α) :
    L.Mirrors id (MonadExcept.ofExcept x) (MonadExcept.ofExcept x) :=
  .ofExcept (Outcome.map_id x).symm

end Mirrors
end Likeness
end Phrasebook
