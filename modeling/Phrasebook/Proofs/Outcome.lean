import Phrasebook.Fault
import Mathlib.Data.List.Forall2
/-!
Computations that may fail: inversion, and mapping their results.
-/
namespace Phrasebook.Outcome

theorem bind_eq_ok {ε α β : Type} {x : Except ε α} {f : α → Except ε β} {b : β} :
    (x >>= f) = .ok b ↔ ∃ a, x = .ok a ∧ f a = .ok b := by
  cases x with
  | error e => simp [bind, Except.bind]
  | ok a => simp [bind, Except.bind]

variable {ε α β γ : Type}

theorem exists_of_toBool {x : Except ε α} (succeeds : x.toBool = true) : ∃ a, x = .ok a := by
  cases x with
  | error e => cases succeeds
  | ok a => exact ⟨a, rfl⟩

theorem eq_ok_of_toOption {x : Except ε α} {a : α} (found : x.toOption = some a) : x = .ok a := by
  cases x with
  | error e => cases found
  | ok b => exact congrArg Except.ok (Option.some.inj found)

theorem map_bind (x : Except ε α) (f : α → Except ε β) (g : β → γ) :
    (x >>= f).map g = x >>= fun a => (f a).map g := by
  cases x <;> rfl

theorem bind_map (x : Except ε α) (g : α → β) (f : β → Except ε γ) :
    x.map g >>= f = x >>= fun a => f (g a) := by
  cases x <;> rfl

@[simp] theorem map_pure (g : α → β) (a : α) :
    (pure a : Except ε α).map g = pure (g a) := rfl

@[simp] theorem map_throw (g : α → β) (e : ε) :
    (throw e : Except ε α).map g = throw e := rfl

theorem map_id (x : Except ε α) : x.map id = x := by
  cases x <;> rfl

theorem map_map (x : Except ε α) (f : α → β) (g : β → γ) :
    (x.map f).map g = x.map fun a => g (f a) := by
  cases x <;> rfl

theorem mapM_map {α' β' : Type} (f : α → α') (g : β → β') {p : α → Except ε β}
    {p' : α' → Except ε β'} (each : ∀ a, p' (f a) = (p a).map g) (xs : List α) :
    (xs.map f).mapM p' = (xs.mapM p).map (List.map g) := by
  induction xs with
  | nil => rfl
  | cons x rest ih =>
    rw [List.map_cons, List.mapM_cons, List.mapM_cons, each, ih, bind_map, map_bind]
    congr
    funext y
    rw [bind_map, map_bind]
    rfl

@[simp] theorem discard_ok (a : α) : discard (.ok a : Except ε α) = .ok () := rfl

@[simp] theorem discard_error (e : ε) : discard (.error e : Except ε α) = .error e := rfl

theorem discard_eq_error_iff {x : Except ε α} {e : ε} : discard x = .error e ↔ x = .error e := by
  cases x <;> simp

theorem discard_eq_ok_iff {x : Except ε α} : discard x = .ok () ↔ ∃ a, x = .ok a := by
  cases x <;> simp

theorem discard_bind {x : Except ε α} {f : α → Except ε β} {rest : Except ε Unit}
    (later : ∀ a, x = .ok a → discard (f a) = rest) :
    discard (x >>= f) = discard x >>= fun _ => rest := by
  cases x with
  | error e => rfl
  | ok a => exact later a rfl

theorem discard_bind_pure (x : Except ε α) (g : α → β) :
    discard (x >>= fun a => pure (g a)) = discard x := by
  cases x <;> rfl

theorem discard_mapM (p : α → Except ε β) (xs : List α) :
    discard (xs.mapM p) = xs.forM fun x => discard (p x) := by
  induction xs with
  | nil => rfl
  | cons x rest ih =>
    rw [List.mapM_cons]
    refine discard_bind fun b _ => ?_
    rw [discard_bind_pure, ih]

theorem discard_bind_append {x : Except ε α} {f : α → Except ε β} {check : γ → Except ε Unit}
    {xs ys : List γ} (first : discard x = xs.forM check)
    (later : ∀ a, x = .ok a → discard (f a) = ys.forM check) :
    discard (x >>= f) = (xs ++ ys).forM check := by
  rw [discard_bind later, first, List.forM_eq_forM, List.forM_append]

theorem forM_cons_congr {check : α → Except ε Unit} {check' : β → Except ε Unit} {x : α} {y : β}
    {xs : List α} {ys : List β} (first : check x = check' y)
    (later : check x = .ok () → xs.forM check = ys.forM check') :
    (x :: xs).forM check = (y :: ys).forM check' := by
  change (check x >>= fun _ => xs.forM check) = (check' y >>= fun _ => ys.forM check')
  rw [← first]
  cases passed : check x with
  | error e => rfl
  | ok u => exact later passed

theorem forM_append_congr {check : α → Except ε Unit} {check' : β → Except ε Unit}
    {xs more : List α} {ys others : List β} (first : xs.forM check = ys.forM check')
    (later : more.forM check = others.forM check') :
    (xs ++ more).forM check = (ys ++ others).forM check' := by
  simp only [List.forM_eq_forM, List.forM_append] at *
  rw [first, later]

theorem forM_eq_ok_iff {check : α → Except ε Unit} {xs : List α} :
    xs.forM check = .ok () ↔ ∀ x ∈ xs, check x = .ok () := by
  induction xs with
  | nil => exact iff_of_true rfl (List.forall_mem_nil _)
  | cons x rest ih =>
    rw [List.forall_mem_cons, ← ih]
    change (check x >>= fun _ => rest.forM check) = .ok () ↔ _
    rw [bind_eq_ok]
    exact ⟨fun ⟨_, first, later⟩ => ⟨first, later⟩, fun ⟨first, later⟩ => ⟨(), first, later⟩⟩

theorem forM_cons_eq_error_iff {check : α → Except ε Unit} {x : α} {xs : List α} {e : ε} :
    (x :: xs).forM check = .error e ↔
      check x = .error e ∨ check x = .ok () ∧ xs.forM check = .error e := by
  change (check x >>= fun _ => xs.forM check) = .error e ↔ _
  rcases check x with other | ⟨⟩ <;> simp [bind, Except.bind]

/-- Checks made one after the other fail as the first of them that fails. -/
theorem forM_eq_error_iff {check : α → Except ε Unit} {xs : List α} {e : ε} :
    xs.forM check = .error e ↔ ∃ front x back, xs = front ++ x :: back ∧
      (∀ y ∈ front, check y = .ok ()) ∧ check x = .error e := by
  induction xs with
  | nil => simp [List.forM, pure, Except.pure]
  | cons y rest ih =>
    rw [forM_cons_eq_error_iff, ih]
    constructor
    · rintro (failed | ⟨first, front, x, back, rfl, passed, failed⟩)
      · exact ⟨[], y, rest, rfl, by simp, failed⟩
      · exact ⟨y :: front, x, back, rfl, List.forall_mem_cons.mpr ⟨first, passed⟩, failed⟩
    · rintro ⟨_ | ⟨z, front⟩, x, back, whole, passed, failed⟩
      · cases whole
        exact .inl failed
      · cases whole
        obtain ⟨first, passed⟩ := List.forall_mem_cons.mp passed
        exact .inr ⟨first, front, x, back, rfl, passed, failed⟩

theorem mapM_of_ok {p : α → Except ε β} {g : α → β} {xs : List α}
    (each : ∀ x ∈ xs, p x = .ok (g x)) : xs.mapM p = .ok (xs.map g) := by
  induction xs with
  | nil => rfl
  | cons x rest ih =>
    obtain ⟨first, later⟩ := List.forall_mem_cons.mp each
    rw [List.mapM_cons, first, ih later]
    rfl

theorem mapM_eq_ok_iff {p : α → Except ε β} {xs : List α} {ys : List β} :
    xs.mapM p = .ok ys ↔ List.Forall₂ (fun x y => p x = .ok y) xs ys := by
  induction xs generalizing ys with
  | nil =>
    rw [List.forall₂_nil_left_iff, List.mapM_nil]
    exact ⟨fun same => (Except.ok.inj same).symm, fun same => same ▸ rfl⟩
  | cons x rest ih =>
    rw [List.mapM_cons, List.forall₂_cons_left_iff, bind_eq_ok]
    constructor
    · rintro ⟨y, first, mapped⟩
      obtain ⟨zs, later, done⟩ := bind_eq_ok.mp mapped
      exact ⟨y, zs, first, ih.mp later, (Except.ok.inj done).symm⟩
    · rintro ⟨y, zs, first, later, rfl⟩
      exact ⟨y, first, bind_eq_ok.mpr ⟨zs, ih.mpr later, rfl⟩⟩

/-- What is mapped fails as the first of it that fails. -/
theorem mapM_eq_error_iff {p : α → Except ε β} {xs : List α} {e : ε} :
    xs.mapM p = .error e ↔ ∃ front x back, xs = front ++ x :: back ∧
      (∀ y ∈ front, ∃ b, p y = .ok b) ∧ p x = .error e := by
  rw [← discard_eq_error_iff, discard_mapM, forM_eq_error_iff]
  simp only [discard_eq_ok_iff, discard_eq_error_iff]

/-- What is mapped and what comes of it. -/
theorem mem_of_mapM {p : α → Except ε β} {xs : List α} {ys : List β} (mapped : xs.mapM p = .ok ys) :
    (∀ x ∈ xs, ∃ y ∈ ys, p x = .ok y) ∧ ∀ y ∈ ys, ∃ x ∈ xs, p x = .ok y := by
  induction xs generalizing ys with
  | nil =>
    cases mapped
    exact ⟨fun _ member => (List.not_mem_nil member).elim,
      fun _ member => (List.not_mem_nil member).elim⟩
  | cons x rest ih =>
    rw [List.mapM_cons] at mapped
    obtain ⟨y, first, later⟩ := bind_eq_ok.mp mapped
    obtain ⟨zs, tail, done⟩ := bind_eq_ok.mp later
    cases done
    obtain ⟨forth, back⟩ := ih tail
    constructor
    · refine List.forall_mem_cons.mpr ⟨⟨y, .head _, first⟩, fun x member => ?_⟩
      obtain ⟨z, inside, same⟩ := forth x member
      exact ⟨z, .tail _ inside, same⟩
    · refine List.forall_mem_cons.mpr ⟨⟨x, .head _, first⟩, fun z member => ?_⟩
      obtain ⟨x, inside, same⟩ := back z member
      exact ⟨x, .tail _ inside, same⟩

section
variable {σ : Type} {m : EStateM ε σ α} {n : α → EStateM ε σ β} {s t : σ}

theorem run_bind_eq_ok {b : β} :
    (m >>= n).run s = .ok b t ↔ ∃ a u, m.run s = .ok a u ∧ (n a).run u = .ok b t := by
  rw [EStateM.run_bind]
  cases m.run s <;> simp [and_assoc]

theorem run_bind_eq_error {e : ε} :
    (m >>= n).run s = .error e t ↔
      m.run s = .error e t ∨ ∃ a u, m.run s = .ok a u ∧ (n a).run u = .error e t := by
  rw [EStateM.run_bind]
  cases m.run s <;> simp [and_assoc]

theorem run_ofExcept_eq_ok {x : Except ε α} {a : α} :
    (MonadExcept.ofExcept x : EStateM ε σ α).run s = .ok a t ↔ x = .ok a ∧ s = t := by
  cases x with
  | error e => exact ⟨nofun, nofun⟩
  | ok b =>
    change EStateM.Result.ok b s = .ok a t ↔ _
    simp

/-- Computations made one after the other fail as the first of them that fails, in the state that the
ones before it left. -/
theorem run_mapM_eq_error {p : α → EStateM ε σ β} {xs : List α} {e : ε} :
    (xs.mapM p).run s = .error e t ↔ ∃ front x back ys u, xs = front ++ x :: back ∧
      (front.mapM p).run s = .ok ys u ∧ (p x).run u = .error e t := by
  induction xs generalizing s with
  | nil => exact ⟨nofun, by simp⟩
  | cons x rest ih =>
    rw [List.mapM_cons, run_bind_eq_error]
    constructor
    · rintro (failed | ⟨y, u, first, failed⟩)
      · exact ⟨[], x, rest, [], s, rfl, rfl, failed⟩
      · rcases run_bind_eq_error.mp failed with failed | ⟨_, _, _, failed⟩
        · obtain ⟨front, z, back, ys, v, rfl, passed, failed⟩ := ih.mp failed
          refine ⟨x :: front, z, back, y :: ys, v, rfl, ?_, failed⟩
          rw [List.mapM_cons]
          exact run_bind_eq_ok.mpr ⟨y, u, first, run_bind_eq_ok.mpr ⟨ys, v, passed, rfl⟩⟩
        · cases failed
    · rintro ⟨_ | ⟨z, front⟩, x, back, ys, u, whole, passed, failed⟩
      · cases whole
        cases passed
        exact .inl failed
      · cases whole
        rw [List.mapM_cons] at passed
        obtain ⟨y, v, first, passed⟩ := run_bind_eq_ok.mp passed
        obtain ⟨ys, w, passed, done⟩ := run_bind_eq_ok.mp passed
        cases done
        exact .inr ⟨y, v, first, run_bind_eq_error.mpr (.inl (ih.mpr
          ⟨front, x, back, ys, u, rfl, passed, failed⟩))⟩

end

section
variable {σ : Type} {m : EStateM ε σ α} {n : ε → EStateM ε σ α} {s t : σ}

theorem run_tryCatch_ok {a : α} (ended : m.run s = .ok a t) :
    (tryCatchThe ε m n).run s = .ok a t := by
  change EStateM.tryCatch m n s = _
  delta EStateM.tryCatch
  rw [EStateM.run] at ended
  simp only [ended]

theorem run_tryCatch_error {e : ε} (ended : m.run s = .error e t) :
    (tryCatchThe ε m n).run s = (n e).run t := by
  change EStateM.tryCatch m n s = _
  delta EStateM.tryCatch
  rw [EStateM.run] at ended
  simp only [ended]
  rfl

end

theorem ok_bind (a : α) (f : α → Except ε β) : (Except.ok a >>= f) = f a := rfl

/-- A computation that gives, if anything, a value of one sort. -/
def GivesOnly (P : α → Prop) (x : Except ε α) : Prop := ∀ a, x = .ok a → P a

namespace GivesOnly

variable {P : α → Prop}

theorem pure {a : α} (holds : P a) : GivesOnly P (Pure.pure a : Except ε α) := by
  rintro _ ⟨⟩
  exact holds

theorem bind {x : Except ε β} {f : β → Except ε α} (each : ∀ b, GivesOnly P (f b)) :
    GivesOnly P (x >>= f) := by
  intro a given
  obtain ⟨b, -, given⟩ := bind_eq_ok.mp given
  exact each b a given

theorem ite {p : Prop} [Decidable p] {x y : Except ε α} (yes : GivesOnly P x)
    (no : GivesOnly P y) : GivesOnly P (if p then x else y) := by
  split
  · exact yes
  · exact no

end GivesOnly

/-- A computation that does not fail. -/
def Succeeds (x : Except ε α) : Prop := ∃ a, x = .ok a

namespace Succeeds

theorem pure (a : α) : Succeeds (Pure.pure a : Except ε α) := ⟨a, rfl⟩

theorem bind {x : Except ε α} {f : α → Except ε β} (first : Succeeds x)
    (second : ∀ a, Succeeds (f a)) : Succeeds (x >>= f) := by
  obtain ⟨a, rfl⟩ := first
  exact second a

theorem map {x : Except ε α} (first : Succeeds x) (f : α → β) : Succeeds (x.map f) := by
  obtain ⟨a, rfl⟩ := first
  exact ⟨f a, rfl⟩

theorem ite {p : Prop} [Decidable p] {x y : Except ε α} (yes : Succeeds x) (no : Succeeds y) :
    Succeeds (if p then x else y) := by
  split
  · exact yes
  · exact no

end Succeeds

/-- A computation that fails, if at all, with a fault of one sort. -/
def FailsOnly (P : ε → Prop) (x : Except ε α) : Prop := ∀ e, x = .error e → P e

namespace FailsOnly

variable {P : ε → Prop}

@[grind .] theorem ok (a : α) : FailsOnly P (.ok a) := fun _ failed => nomatch failed

@[grind .] theorem pure (a : α) : FailsOnly P (Pure.pure a) := ok a

@[grind ←] theorem error {e : ε} (holds : P e) : FailsOnly P (.error e : Except ε α) := by
  rintro _ ⟨⟩
  exact holds

@[grind ←] theorem throw {e : ε} (holds : P e) : FailsOnly P (MonadExcept.throw e : Except ε α) :=
  error holds

@[grind ←] theorem bind {x : Except ε α} {f : α → Except ε β} (first : FailsOnly P x)
    (second : ∀ a, FailsOnly P (f a)) : FailsOnly P (x >>= f) := by
  cases x with
  | error e => exact error (first e rfl)
  | ok a => exact second a

@[grind ←] theorem map {x : Except ε α} {f : α → β} (only : FailsOnly P x) :
    FailsOnly P (x.map f) := by
  cases x with
  | error e => exact error (only e rfl)
  | ok a => exact ok (f a)

@[grind ←] theorem mapM {p : α → Except ε β} (each : ∀ a, FailsOnly P (p a)) (xs : List α) :
    FailsOnly P (xs.mapM p) := by
  induction xs with
  | nil => exact ok []
  | cons x rest ih =>
    rw [List.mapM_cons]
    exact (each x).bind fun _ => ih.bind fun _ => ok _

@[grind ←] theorem forM {p : α → Except ε Unit} (each : ∀ a, FailsOnly P (p a)) (xs : List α) :
    FailsOnly P (xs.forM p) := by
  induction xs with
  | nil => exact ok ()
  | cons x rest ih => exact (each x).bind fun _ => ih

end FailsOnly

/-- A computation on a state that stops, if at all, with a fault of one sort. -/
def StopsOnly {σ : Type} (P : ε → Prop) (m : EStateM ε σ α) : Prop :=
  ∀ ⦃s e t⦄, m.run s = .error e t → P e

namespace StopsOnly

variable {σ : Type} {P : ε → Prop} {m n : EStateM ε σ α}

@[grind .] theorem pure (a : α) : StopsOnly P (Pure.pure a : EStateM ε σ α) :=
  fun _ _ _ failed => nomatch failed

@[grind ←] theorem throw {e : ε} (holds : P e) :
    StopsOnly P (MonadExcept.throw e : EStateM ε σ α) := by
  rintro s _ t ⟨⟩
  exact holds

theorem throw_bind {e : ε} (holds : P e) (n : α → EStateM ε σ β) :
    StopsOnly P (MonadExcept.throw e >>= n) := by
  rintro s _ t ⟨⟩
  exact holds

@[grind .] theorem get : StopsOnly P (MonadState.get : EStateM ε σ σ) :=
  fun _ _ _ failed => nomatch failed

@[grind .] theorem set (s : σ) : StopsOnly P (MonadStateOf.set s : EStateM ε σ PUnit) :=
  fun _ _ _ failed => nomatch failed

@[grind .] theorem modifyGet (f : σ → α × σ) :
    StopsOnly P (MonadState.modifyGet f : EStateM ε σ α) := fun _ _ _ failed => nomatch failed

@[grind .] theorem modify (f : σ → σ) : StopsOnly P (modify f : EStateM ε σ PUnit) :=
  fun _ _ _ failed => nomatch failed

@[grind ←] theorem bind {n : α → EStateM ε σ β} (first : StopsOnly P m)
    (second : ∀ a, StopsOnly P (n a)) : StopsOnly P (m >>= n) := by
  intro s e t failed
  rw [EStateM.run_bind] at failed
  rcases ended : m.run s with ⟨a, u⟩ | ⟨f, u⟩
  · rw [ended] at failed
    exact second a failed
  · rw [ended] at failed
    cases failed
    exact first ended

@[grind ←] theorem ofExcept {x : Except ε α} (only : FailsOnly P x) :
    StopsOnly P (MonadExcept.ofExcept x : EStateM ε σ α) := by
  cases x with
  | error e => exact .throw (only e rfl)
  | ok a => exact .pure a

@[grind ←] theorem mapM {p : α → EStateM ε σ β} (each : ∀ a, StopsOnly P (p a)) (xs : List α) :
    StopsOnly P (xs.mapM p) := by
  induction xs with
  | nil => exact .pure []
  | cons x rest ih =>
    rw [List.mapM_cons]
    exact (each x).bind fun _ => ih.bind fun _ => .pure _

theorem ite {p : Prop} [Decidable p] (yes : StopsOnly P m) (no : StopsOnly P n) :
    StopsOnly P (if p then m else n) := by
  split
  · exact yes
  · exact no

end StopsOnly

end Phrasebook.Outcome
