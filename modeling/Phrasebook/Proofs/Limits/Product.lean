import Phrasebook.Proofs.Limits.Check
import Phrasebook.Proofs.Outcome
import Phrasebook.Proofs.Render.Change
import Phrasebook.Proofs.Render.Outcome
/-!
Products, powers and repetitions stay within the limits. The checks estimate a result from the sizes
of the operands before it is made, and the estimate is never too low.
-/
namespace Phrasebook

namespace Number

theorem complexPower_ne_int {a b : Complex} {n : Int} : complexPower a b ≠ .ok (.int n) := by
  fun_cases complexPower a b <;> simp_all

theorem floatPower_ne_int {a b : Float} {n : Int} : floatPower a b ≠ .ok (.int n) := by
  fun_cases floatPower a b <;> first | exact complexPower_ne_int | simp

end Number

namespace Value

theorem number?_of_int? {v : Value} {n : Int} (whole : v.int? = some n) :
    v.number? = some (.int n) := by
  cases v <;> simp_all [int?, number?]

theorem numeric_of_int? {f : Number → Number → Except Fault Number} {a b : Value} {x y : Int}
    (left : a.int? = some x) (right : b.int? = some y) :
    numeric f a b = (f (.int x) (.int y)).map ofNumber := by
  rw [numeric, number?_of_int? left, number?_of_int? right]

theorem repetition_of_int? {h : Heap} {a b : Value} {x : Int} (whole : a.int? = some x) :
    repetition h a b = Option.none := by
  cases b.int? <;> cases a <;> simp_all [repetition, int?]

/-- What a product with an integer repeats. -/
def isSequence : Value → Bool
  | text .. | bytes .. | tuple .. | list _ => true
  | _ => false

/-- A result of two operands is within the limits: an integer of two integers has not too many bits, and
that of a sequence and an integer has not too many items. -/
def IsLimited (h : Heap) (a b v : Value) : Prop :=
  (a.int?.isSome ∧ b.int?.isSome → ∀ z ∈ v.int?, Limits.bitLength z.natAbs ≤ Limits.maxBits) ∧
    (a.isSequence ∧ b.int?.isSome ∨ a.int?.isSome ∧ b.isSequence →
      ∃ n ∈ v.length? h, n ≤ Limits.maxLength)

instance (h : Heap) (a b v : Value) : Decidable (IsLimited h a b v) :=
  inferInstanceAs (Decidable (_ ∧ _))

theorem int?_of_isSequence {v : Value} (sequence : v.isSequence) : v.int? = Option.none := by
  cases v <;> simp_all [int?, isSequence]

theorem number?_of_isSequence {v : Value} (sequence : v.isSequence) : v.number? = Option.none := by
  cases v <;> simp_all [number?, isSequence]

theorem length_of_repeated {α : Type} {xs ys : List α} {k : Int} (made : repeated xs k = .ok ys) :
    (ys.length : Int) = xs.length * max k 0 := by
  unfold repeated at made
  split_ifs at made with far empty
  · cases made
    simp [List.isEmpty_iff.mp empty]
  · cases made
    simp [Int.mul_comm]

theorem length?_of_repeatedAs {α : Type} {v w : Value} {make : List α → Value} {xs : List α} {k : Int}
    {h : Heap} (own : v.length? h = some xs.length)
    (size : ∀ ys, (make ys).length? h = some ys.length) (made : repeatedAs v make xs k = .ok w) :
    ∃ n : Nat, w.length? h = some n ∧ (n : Int) = xs.length * max k 0 := by
  unfold repeatedAs at made
  split_ifs at made with once
  · cases made
    exact ⟨xs.length, own, by rw [once, Int.max_eq_left (by decide), Int.mul_one]⟩
  · cases same : repeated xs k with
    | error f =>
      rw [same] at made
      cases made
    | ok ys =>
      rw [same] at made
      cases made
      exact ⟨ys.length, size ys, length_of_repeated same⟩

theorem length?_of_newList {items : List Value} {h h' : Heap} {v : Value}
    (made : (Memory.newList items).run h = .ok v h') : v.length? h' = some items.length := by
  cases made
  simp [length?, Heap.list, length_markAllFrom]

/-- A repetition has as many items as the sequence so many times. -/
theorem length?_of_repetition {h h' : Heap} {a b v : Value} {m : Memory Value}
    (repeats : repetition h a b = some m) (ran : m.run h = .ok v h') :
    ∃ own k, Limits.repeatable? h a = some own ∧ b.int? = some k ∧
      ∃ n : Nat, v.length? h' = some n ∧ (n : Int) = own * max k 0 := by
  cases count : b.int? with
  | none => simp [repetition, count] at repeats
  | some k =>
    simp only [repetition, count, Option.bind_eq_bind, Option.bind_some] at repeats
    cases a with
    | text t o =>
      cases repeats
      obtain ⟨made, rfl⟩ := Outcome.run_ofExcept_eq_ok.mp ran
      exact ⟨t.length, k, rfl, rfl, length?_of_repeatedAs rfl (fun _ => rfl) made⟩
    | bytes bs o =>
      cases repeats
      obtain ⟨made, rfl⟩ := Outcome.run_ofExcept_eq_ok.mp ran
      exact ⟨bs.length, k, rfl, rfl, length?_of_repeatedAs rfl (fun _ => rfl) made⟩
    | tuple xs o =>
      cases repeats
      obtain ⟨made, rfl⟩ := Outcome.run_ofExcept_eq_ok.mp ran
      exact ⟨xs.length, k, rfl, rfl, length?_of_repeatedAs rfl (fun _ => rfl) made⟩
    | list r =>
      cases repeats
      obtain ⟨ys, u, ended, made⟩ := Outcome.run_bind_eq_ok.mp ran
      obtain ⟨read, rfl⟩ := Outcome.run_ofExcept_eq_ok.mp ended
      exact ⟨(h.list r).length, k, rfl, rfl, ys.length, length?_of_newList made,
        length_of_repeated read⟩
    | _ => cases repeats

theorem repetition_isSome {h : Heap} {a b : Value} (sequence : a.isSequence) (count : b.int?.isSome) :
    (repetition h a b).isSome := by
  obtain ⟨k, count⟩ := Option.isSome_iff_exists.mp count
  cases a <;> simp_all [isSequence, repetition]

theorem repetition_limited {h h' : Heap} {a b v : Value} {m : Memory Value}
    (repeats : repetition h a b = some m) (ran : m.run h = .ok v h')
    (passed : Limits.checkRepetition h a b = .ok ()) :
    ∃ n ∈ v.length? h', n ≤ Limits.maxLength := by
  obtain ⟨own, k, size, count, n, length, same⟩ := length?_of_repetition repeats ran
  have bound := Limits.le_of_checkRepetition passed size count
  refine ⟨n, length, Int.ofNat_le.mp ?_⟩
  rw [same]
  rcases Int.le_total 0 k with positive | negative
  · rwa [Int.max_eq_left positive]
  · simp [Int.max_eq_right negative]

variable {h h' : Heap} {a b v : Value}

theorem bits_of_multiply {x y z : Int} (made : (Number.multiply (.int x) (.int y)).map ofNumber = .ok v)
    (passed : Limits.checkBits (Limits.bitLength x.natAbs + Limits.bitLength y.natAbs) = .ok ())
    (whole : v.int? = some z) : Limits.bitLength z.natAbs ≤ Limits.maxBits := by
  cases made
  cases whole
  rw [Int.natAbs_mul]
  have bound := Limits.le_of_checkBits passed
  have size := Limits.bitLength_mul_le x.natAbs y.natAbs
  omega

theorem int?_of_floatPower {x y : Float} {z : Int} (whole : v.int? = some z) :
    (Number.floatPower x y).map ofNumber ≠ .ok v := by
  intro made
  cases given : Number.floatPower x y with
  | error f =>
    rw [given] at made
    cases made
  | ok n =>
    rw [given] at made
    cases made
    cases n with
    | int n => exact Number.floatPower_ne_int given
    | _ => cases whole

/-- A power of integers is one only under an exponent that is not negative. -/
theorem bits_of_power {x y z : Int} (made : (Number.power (.int x) (.int y)).map ofNumber = .ok v)
    (passed : 0 < y → Limits.checkBits (Limits.bitLength x.natAbs * y) = .ok ())
    (whole : v.int? = some z) : Limits.bitLength z.natAbs ≤ Limits.maxBits := by
  have opened : (if 0 ≤ y then .ok (.int (x ^ y.toNat)) else do
      Number.floatPower (← Number.toFloat x) (← Number.toFloat y) : Except Fault Number).map ofNumber =
        .ok v := made
  split_ifs at opened with whole?
  · cases opened
    cases whole
    rw [Int.natAbs_pow]
    rcases Int.lt_or_eq_of_le whole? with positive | rfl
    · have bound := Limits.le_of_checkBits (passed positive)
      have size := Limits.bitLength_pow_le x.natAbs (Int.lt_toNat.mpr positive)
      rw [← Int.toNat_of_nonneg whole?] at bound
      exact Nat.le_trans size (by exact_mod_cast bound)
    · rw [Int.toNat_zero, Nat.pow_zero]
      decide
  · cases left : Number.toFloat x with
    | error f =>
      rw [left] at opened
      cases opened
    | ok base =>
      cases right : Number.toFloat y with
      | error f =>
        rw [left, right] at opened
        cases opened
      | ok exponent =>
        rw [left, right] at opened
        exact absurd opened (int?_of_floatPower whole)

/-- What a product makes is within the limits that its check lets through. -/
theorem product_limited (passed : Limits.checkProduct h a b = .ok ())
    (ran : (product h a b).run h = .ok v h') : IsLimited h' a b v := by
  constructor
  · rintro ⟨left, right⟩ z whole
    obtain ⟨x, left⟩ := Option.isSome_iff_exists.mp left
    obtain ⟨y, right⟩ := Option.isSome_iff_exists.mp right
    rw [product, repetition_of_int? left, repetition_of_int? right, numeric_of_int? left right] at ran
    rw [Limits.checkProduct, left, right] at passed
    exact bits_of_multiply (Outcome.run_ofExcept_eq_ok.mp ran).1 passed whole
  · intro sort
    have apart : Limits.checkRepetition h a b = .ok () ∧ Limits.checkRepetition h b a = .ok () := by
      unfold Limits.checkProduct at passed
      split at passed
      · rename_i x y left right
        rcases sort with ⟨sequence, -⟩ | ⟨-, sequence⟩ <;> simp_all [int?_of_isSequence sequence]
      · obtain ⟨⟨⟩, first, second⟩ := Outcome.bind_eq_ok.mp passed
        exact ⟨first, second⟩
    cases front : repetition h a b with
    | some m =>
      rw [product, front] at ran
      exact repetition_limited front ran apart.1
    | none =>
      rcases sort with ⟨sequence, count⟩ | ⟨count, sequence⟩
      · have given := repetition_isSome (h := h) sequence count
        simp [front] at given
      · obtain ⟨m, back⟩ := Option.isSome_iff_exists.mp (repetition_isSome (h := h) sequence count)
        rw [product, front, back] at ran
        exact repetition_limited back ran apart.2

theorem power_limited (passed : Limits.checkPower a b = .ok ())
    (made : numeric Number.power a b = .ok v) : IsLimited h a b v := by
  constructor
  · rintro ⟨left, right⟩ z whole
    obtain ⟨x, left⟩ := Option.isSome_iff_exists.mp left
    obtain ⟨y, right⟩ := Option.isSome_iff_exists.mp right
    rw [numeric_of_int? left right] at made
    obtain ⟨⟨⟩, -, bits⟩ := Outcome.bind_eq_ok.mp passed
    rw [left, right] at bits
    refine bits_of_power made (fun positive => ?_) whole
    simpa [positive] using bits
  · intro sort
    unfold numeric at made
    rcases sort with ⟨sequence, -⟩ | ⟨-, sequence⟩
    · simp [number?_of_isSequence sequence] at made
    · simp [number?_of_isSequence sequence] at made

theorem binary_limited {op : BinaryOp} (either : op = .mul ∨ op = .pow)
    (ran : (binary op a b).run h = .ok v h') : IsLimited h' a b v := by
  obtain ⟨⟨⟩, u, checked, applied⟩ :=
    Outcome.run_bind_eq_ok.mp (show (ofExcept (checkBinary h op a b) >>= fun _ =>
      apply h op a b : Memory Value).run h = .ok v h' from ran)
  obtain ⟨passed, rfl⟩ := Outcome.run_ofExcept_eq_ok.mp checked
  rcases either with rfl | rfl
  · exact product_limited passed applied
  · exact power_limited passed (Outcome.run_ofExcept_eq_ok.mp applied).1

end Value

namespace Interpreter

/-- A node, with an alarm for a product or a power that is not within the limits. -/
def nodeMeasured (alarm : Render Unit) (lower : Interpreter) (r : Nat) (locals : Locals) (e : Expr) :
    Render Value :=
  match e with
  | .binary op left right => do
    Render.checkDeadline r
    Render.mark (← Render.guarded r do
      let a ← lower.eval r locals left
      let b ← lower.eval r locals right
      let v ← Render.ofMemory (Value.binary op a b)
      if (op = .mul ∨ op = .pow) ∧ ¬Value.IsLimited (← get).heap a b v then alarm
      pure v)
  | e => lower.node r locals e

/-- The interpreter on a stack of so many frames, with an alarm at each of their nodes. -/
def measured (alarm : Render Unit) : Nat → Interpreter
  | 0 => exhausted
  | n + 1 => ⟨(measured alarm n).nodeMeasured alarm, (measured alarm n).apply⟩

theorem nodeMeasured_eq (alarm : Render Unit) (lower : Interpreter) :
    lower.nodeMeasured alarm = lower.node := by
  funext r locals e
  cases e with
  | binary op left right =>
    have silent (a b : Value) : (do
          let v ← Render.ofMemory (Value.binary op a b)
          if (op = .mul ∨ op = .pow) ∧ ¬Value.IsLimited (← get).heap a b v then alarm
          pure v : Render Value) = Render.ofMemory (Value.binary op a b) := by
      refine Render.bind_eq_self fun s v t ended => ?_
      obtain ⟨h, ran, rfl⟩ := Render.run_ofMemory_eq_ok.mp ended
      have within : ¬((op = .mul ∨ op = .pow) ∧ ¬Value.IsLimited h a b v) :=
        fun exceeds => exceeds.2 (Value.binary_limited exceeds.1 ran)
      change EStateM.run (do
        if (op = .mul ∨ op = .pow) ∧ ¬Value.IsLimited h a b v then alarm
        pure v : Render Value) { s with heap := h } = _
      rw [if_neg within]
      rfl
    simp only [nodeMeasured, silent]
    rfl
  | _ => rfl

theorem measured_eq (alarm : Render Unit) (n : Nat) : measured alarm n = ofFrames n := by
  induction n with
  | zero => rfl
  | succ n ih => rw [measured, ih, nodeMeasured_eq, ofFrames, next]

/-- A product or a power that comes to a value is within the limits, whatever the operands. So is every
one in an evaluation, in however many lambdas: an alarm at each of them never goes off. -/
theorem products_limited (alarm : Render Unit) :
    (∀ (op : BinaryOp) (a b v : Value) (h h' : Heap), op = .mul ∨ op = .pow →
      EStateM.run (Value.binary op a b) h = .ok v h' → Value.IsLimited h' a b v) ∧
    ∀ n, measured alarm n = ofFrames n :=
  ⟨fun _ _ _ _ _ _ => Value.binary_limited, measured_eq alarm⟩

/-- The product of two powers, and a text taken once. -/
theorem products_limited_of_powers :
    let power : Expr := .binary .pow (.literal (.int 2) {}) (.literal (.int 3) {})
    let s : RenderState := { runs := #[⟨[], .new 9, .whole 1, none⟩] }
    let phrase : Value := .text [97, 98] .unmarked
    ((measured (throw .type) 3).eval 0 [] (.binary .mul power power)).outcome s =
      .ok (.int 64 (.made 2)) ∧
    EStateM.run (Value.binary .mul phrase (.bool true)) {} = .ok phrase {} ∧
    Value.IsLimited {} phrase (.bool true) phrase := by
  obtain ⟨limited, silent⟩ := products_limited (throw .type)
  rw [silent]
  have repeats : EStateM.run (Value.binary .mul (.text [97, 98] .unmarked) (.bool true)) {} =
      .ok (.text [97, 98] .unmarked) {} := by rfl
  exact ⟨by rfl, repeats, limited _ _ _ _ _ _ (.inl rfl) repeats⟩

end Interpreter
end Phrasebook
