import Phrasebook.Proofs.Format.Measure
import Phrasebook.Value.Operator
import Mathlib.Data.List.TakeWhile
import Mathlib.Logic.Relation
/-!
The widths and precisions that percent formatting applies, against those that the search finds before.
Every conversion without a key, or with a key in which no parentheses nest, is searched as it is read;
the measures behind other keys are not found.
-/
namespace Phrasebook.Printf

open Limits (templateMeasures measures measure dropKey)
open Text (Ahead)

variable {h : Heap} {isBytes : Bool} {t u rest : Text} {a b : Arguments} {c d : Conversion} {v : Value}

/-- What a conversion begins with: a key, flags, a width and a precision. -/
def beginning (h : Heap) (isBytes : Bool) (t : Text) : Use (Conversion × Text) := do
  let t ← keyPart h isBytes t
  let (c, t) := flagsPart {} t
  let (c, t) ← widthPart c t
  precisionPart c t

/-- A conversion that is read behind a percent sign and applied to an argument. -/
structure Converted where
  spec : Conversion
  letter : Code
  argument : Value
  written : Text

def Converted.piece (x : Converted) : Piece := .converted x.written x.letter x.argument

/-- A conversion succeeds, and goes on with what remains of the text and the arguments. -/
def Converts (h : Heap) (isBytes : Bool) (t : Text) (a : Arguments) (x : Converted) (rest : Text)
    (b : Arguments) : Prop :=
  ∃ measured between, beginning h isBytes t a = .ok ((x.spec, measured), between) ∧
    dropLength measured = x.letter :: rest ∧ nextArgument between = .ok (x.argument, b) ∧
    convert h isBytes x.spec x.letter x.argument = .ok x.written

theorem bind_ok {α β : Type} {m : Use α} {n : α → Use β} {r : β} :
    (m >>= n) a = .ok (r, b) ↔ ∃ x between, m a = .ok (x, between) ∧ n x between = .ok (r, b) := by
  change (m a >>= fun p => n p.1 p.2) = .ok (r, b) ↔ _
  rw [Outcome.bind_eq_ok]
  simp

theorem nextArgument_ok (taken : nextArgument a = .ok (v, b)) :
    a.queue = v :: b.queue ∧ b.mapping = a.mapping := by
  obtain ⟨queue, mapping⟩ := a
  cases queue with
  | nil => cases taken
  | cons w rest =>
    cases taken
    exact ⟨rfl, rfl⟩

theorem starArgument_ok {n : Int} (taken : starArgument a = .ok (n, b)) :
    ∃ v, a.queue = v :: b.queue ∧ v.int? = some n := by
  obtain ⟨v, between, next, rest⟩ := bind_ok.mp taken
  obtain ⟨queue, -⟩ := nextArgument_ok next
  cases whole : v.int? with
  | none =>
    rw [whole] at rest
    cases rest
  | some m =>
    rw [whole] at rest
    dsimp only at rest
    split_ifs at rest
    · cases rest
    · cases rest
      exact ⟨v, queue, whole⟩

theorem conversion_ok {piece : Piece} (ran : conversion h isBytes t a = .ok ((piece, rest), b)) :
    ∃ x, Converts h isBytes t a x rest b ∧ piece = x.piece := by
  unfold conversion at ran
  obtain ⟨t₁, a₁, key, ran⟩ := bind_ok.mp ran
  obtain ⟨⟨c₁, t₂⟩, a₂, width, ran⟩ := bind_ok.mp ran
  obtain ⟨⟨c₂, measured⟩, a₃, precision, ran⟩ := bind_ok.mp ran
  have begun : beginning h isBytes t a = .ok ((c₂, measured), a₃) :=
    bind_ok.mpr ⟨_, _, key, bind_ok.mpr ⟨_, _, width, precision⟩⟩
  cases behind : dropLength measured with
  | nil =>
    simp only [behind] at ran
    cases ran
  | cons letter rest' =>
    simp only [behind] at ran
    obtain ⟨v, a₄, next, ran⟩ := bind_ok.mp ran
    split_ifs at ran
    · cases ran
    · cases done : convert h isBytes c₂ letter v with
      | error f =>
        rw [done] at ran
        cases ran
      | ok written =>
        rw [done] at ran
        cases ran
        exact ⟨⟨c₂, letter, v, written⟩, ⟨measured, a₃, begun, behind, next, done⟩, rfl⟩

/-- The letters that stand for a conversion. -/
def letters : List Code := [115, 98, 114, 97, 100, 105, 117, 111, 120, 88, 101, 69, 102, 70, 103, 71, 99]

theorem mem_letters {letter : Code} {written : Text}
    (done : convert h isBytes c letter v = .ok written) : letter ∈ letters := by
  by_contra foreign
  simp only [letters, List.mem_cons, List.not_mem_nil, or_false, not_or] at foreign
  simp [convert, foreign] at done

theorem letters_facts : ∀ letter ∈ letters,
    letter < 128 ∧ letter ≠ 37 ∧ letter ≠ 46 ∧ Text.isDecimal letter = false := by
  decide +kernel

theorem useKey_ok {key : Value} (used : useKey h key a = .ok ((), b)) : ∃ v, b.queue = [v] := by
  obtain ⟨_, _, got, used⟩ := bind_ok.mp used
  cases got
  rcases given : a.mapping with _ | m
  · rw [given] at used
    cases used
  · rw [given] at used
    cases m with
    | dict r =>
      cases found : Value.entryOf h (h.dict r) key with
      | error f =>
        simp only [found] at used
        cases used
      | ok v =>
        simp only [found] at used
        cases used
        exact ⟨v, rfl⟩
    | _ => cases used

/-- A key is read up to its end, and its value is the only argument from then on. -/
theorem keyPart_ok (read : keyPart h isBytes t a = .ok (u, b)) :
    (∃ rest key v, t = 40 :: rest ∧ keyFrom [] 0 rest = some (key, u) ∧ b.queue = [v]) ∨
      t.head? ≠ some 40 ∧ u = t ∧ b = a := by
  by_cases opens : t.head? = some 40
  · obtain ⟨rest, rfl⟩ := List.head?_eq_some_iff.mp opens
    obtain ⟨_, _, got, read⟩ := bind_ok.mp read
    cases got
    cases given : a.mapping with
    | none =>
      simp only [given, Option.isNone_none, ↓reduceIte] at read
      cases read
    | some m =>
      simp only [given, Option.isNone_some, Bool.false_eq_true, ↓reduceIte] at read
      cases closes : keyFrom [] 0 rest with
      | none =>
        simp only [closes] at read
        cases read
      | some found =>
        obtain ⟨key, behind⟩ := found
        simp only [closes] at read
        obtain ⟨_, between, used, read⟩ := bind_ok.mp read
        cases read
        obtain ⟨v, queue⟩ := useKey_ok used
        exact .inl ⟨rest, key, v, rfl, closes, queue⟩
  · refine .inr ⟨opens, ?_⟩
    unfold keyPart at read
    split at read
    · exact absurd rfl opens
    · cases read
      exact ⟨rfl, rfl⟩

theorem flagsPart_snd (c : Conversion) (t : Text) :
    (flagsPart c t).2 = t.dropWhile Limits.isFlag := by
  induction t generalizing c with
  | nil => rfl
  | cons x rest ih =>
    have same : (flag c x).isSome = Limits.isFlag x := by
      unfold flag Limits.isFlag
      split_ifs <;> simp_all
    rw [List.dropWhile_cons, ← same]
    unfold flagsPart
    cases flag c x with
    | none => rfl
    | some c => exact ih c

/-- Digits of no script follow. -/
def Stops (t : Text) : Prop := ∀ c, t.head? = some c → Text.isDecimal c = false

/-- A width or a precision as the search finds it: a numeral, or a star for an argument. -/
def Stated (found : Option Limits.Measure) (a b : Arguments) (n : Nat) : Prop :=
  (∃ run, found = some (.digits run) ∧ Text.decimalNumeral? run = some n) ∨
    found = some .star ∧ ∃ v k, a.queue = v :: b.queue ∧ v.int? = some k ∧ n ≤ k.natAbs

theorem measure_of_stops (stops : Stops t) (noStar : t.head? ≠ some 42) :
    measure t = (none, t) := by
  rw [Limits.measure_other noStar]
  cases t with
  | nil => rfl
  | cons c rest =>
    have other : Text.isDecimal c = false := stops c rfl
    simp [other]

theorem widthPart_ok (read : widthPart c t a = .ok ((d, u), b)) (unset : c.width = none)
    (stops : Stops u) : (measure t).2 = u ∧ b.queue <:+ a.queue ∧ d.precision = c.precision ∧
      ∀ n, d.width = some n → Stated (measure t).1 a b n := by
  unfold widthPart at read
  split at read
  · rename_i rest
    obtain ⟨k, between, star, read⟩ := bind_ok.mp read
    cases read
    obtain ⟨v, queue, whole⟩ := starArgument_ok star
    refine ⟨rfl, queue ▸ List.suffix_cons v _, rfl, fun n same => .inr ⟨rfl, v, k, queue, whole, ?_⟩⟩
    cases same
    exact Nat.le_refl _
  · rename_i x rest noStar
    split_ifs at read with digit
    · rcases numeral : asciiNumeral (x :: rest) with ⟨n, behind⟩
      simp only [numeral] at read
      split_ifs at read
      · cases read
      · cases read
        have follows := Limits.measure_asciiNumeral (t := rest) digit
        rw [numeral] at follows
        obtain ⟨run, found, value⟩ := follows stops
        rw [found]
        refine ⟨rfl, List.suffix_rfl, rfl, fun n same => .inl ⟨run, rfl, ?_⟩⟩
        cases same
        exact value
    · cases read
      have other : (x :: rest).head? ≠ some 42 := fun same => by
        cases same
        exact noStar rfl
      rw [measure_of_stops stops other]
      exact ⟨rfl, List.suffix_rfl, rfl, fun n same => by rw [unset] at same; cases same⟩
  · cases read
    exact ⟨rfl, List.suffix_rfl, rfl, fun n same => by rw [unset] at same; cases same⟩

/-- A precision without digits is zero. -/
theorem precisionPart_ok (read : precisionPart c t a = .ok ((d, u), b)) (stops : Stops u) :
    b.queue <:+ a.queue ∧ d.width = c.width ∧
      (t.head? ≠ some 46 ∧ u = t ∧ d.precision = c.precision ∨
        ∃ rest, t = 46 :: rest ∧ Ahead rest u ∧
          ∀ n, d.precision = some n → n = 0 ∨ Stated (measure rest).1 a b n) := by
  unfold precisionPart at read
  split at read
  · rename_i rest
    obtain ⟨k, between, star, read⟩ := bind_ok.mp read
    cases read
    obtain ⟨v, queue, whole⟩ := starArgument_ok star
    refine ⟨queue ▸ List.suffix_cons v _, rfl, .inr ⟨_, rfl, .cons (by decide) (.refl _), ?_⟩⟩
    intro n same
    cases same
    exact .inr (.inr ⟨rfl, v, k, queue, whole, by omega⟩)
  · rename_i rest noStar
    rcases numeral : asciiNumeral rest with ⟨n, behind⟩
    simp only [numeral] at read
    split_ifs at read
    · cases read
    · cases read
      have follows : Ahead rest u := by
        have dropped : (asciiNumeral rest).2 = u := by rw [numeral]
        rw [← dropped]
        exact .dropWhile (by decide) rest
      refine ⟨List.suffix_rfl, rfl, .inr ⟨rest, rfl, follows, fun n same => ?_⟩⟩
      cases same
      cases rest with
      | nil =>
        cases numeral
        exact .inl rfl
      | cons x rest =>
        by_cases digit : 48 ≤ x ∧ x ≤ 57
        · have follows := Limits.measure_asciiNumeral (t := rest) digit
          rw [numeral] at follows
          obtain ⟨run, found, value⟩ := follows stops
          rw [found]
          exact .inr (.inl ⟨run, rfl, value⟩)
        · have none : (48 ≤ x && x ≤ 57) = false := by simpa using digit
          simp only [asciiNumeral, List.takeWhile_cons, none, Bool.false_eq_true, ↓reduceIte,
            List.foldl_nil, Prod.mk.injEq] at numeral
          exact .inl numeral.1.symm
  · rename_i _ noPoint
    cases read
    refine ⟨List.suffix_rfl, rfl, .inl ⟨fun same => ?_, rfl, rfl⟩⟩
    obtain ⟨rest, rfl⟩ := List.head?_eq_some_iff.mp same
    exact noPoint rest rfl

theorem flagsPart_fst (c : Conversion) (t : Text) :
    (flagsPart c t).1.width = c.width ∧ (flagsPart c t).1.precision = c.precision := by
  induction t generalizing c with
  | nil => exact ⟨rfl, rfl⟩
  | cons x rest ih =>
    unfold flagsPart
    cases next : flag c x with
    | none => exact ⟨rfl, rfl⟩
    | some d =>
      have same : d.width = c.width ∧ d.precision = c.precision := by
        unfold flag at next
        split_ifs at next <;> cases next <;> exact ⟨rfl, rfl⟩
      exact ⟨(ih d).1.trans same.1, (ih d).2.trans same.2⟩

theorem dropLength_ahead (t : Text) : Ahead t (dropLength t) := by
  unfold dropLength
  split
  · split_ifs with length
    · refine .cons (fun same => ?_) (.refl _)
      rw [same] at length
      exact absurd length (by decide)
    · exact .refl _
  · exact .refl _

theorem stops_of_dropLength {letter : Code} (behind : dropLength t = letter :: rest)
    (known : letter ∈ letters) : Stops t := by
  intro c first
  obtain ⟨after, rfl⟩ := List.head?_eq_some_iff.mp first
  simp only [dropLength] at behind
  split_ifs at behind with length
  · rcases length with rfl | rfl | rfl <;> decide +kernel
  · cases behind
    exact (letters_facts _ known).2.2.2

/-- A key in which parentheses nest. -/
def Nested (t : Text) : Prop :=
  ∃ rest key behind, t = 40 :: rest ∧ keyFrom [] 0 rest = some (key, behind) ∧ 40 ∈ key

/-- A width or a precision that the search finds in a template for some arguments. -/
def Found (template : Text) (queue : List Value) (n : Nat) : Prop :=
  n = 0 ∨ (∃ run, .digits run ∈ templateMeasures template ∧ Text.decimalNumeral? run = some n) ∨
    .star ∈ templateMeasures template ∧ ∃ v ∈ queue, ∃ k, v.int? = some k ∧ n ≤ k.natAbs

theorem Stated.found {m : Option Limits.Measure} {template : Text} {queue : List Value} {n : Nat}
    (stated : Stated m a b n) (listed : ∀ x, m = some x → x ∈ templateMeasures template)
    (drawn : ∀ v, a.queue = v :: b.queue → v ∈ queue) : Found template queue n := by
  rcases stated with ⟨run, found, value⟩ | ⟨found, v, k, taken, whole, bound⟩
  · exact .inr (.inl ⟨run, listed _ found, value⟩)
  · exact .inr (.inr ⟨listed _ found, v, drawn v taken, k, whole, bound⟩)

/-- The search comes back into step behind a key, having found more if parentheses nest in it. -/
theorem keyPart_step (read : keyPart h isBytes t a = .ok (u, b)) :
    templateMeasures u ⊆ templateMeasures (dropKey t) ∧ (¬Nested t → dropKey t = u) := by
  rcases keyPart_ok read with ⟨rest, key, v, rfl, closes, -⟩ | ⟨plain, rfl, -⟩
  · rcases Limits.dropKey_of_keyFrom closes with same | ⟨nests, inside⟩
    · rw [same]
      exact ⟨List.Subset.refl _, fun _ => rfl⟩
    · exact ⟨Limits.templateMeasures_subset inside,
        fun simple => absurd ⟨rest, key, u, rfl, closes, nests⟩ simple⟩
  · have same : dropKey u = u := by
      unfold dropKey
      split
      · exact absurd rfl plain
      · rfl
    rw [same]
    exact ⟨List.Subset.refl _, fun _ => rfl⟩

/-- Behind a key there is one argument, which a star would leave nothing of. -/
theorem drawn {q₀ q₁ q₂ q₃ left : List Value} {v : Value} (start : (∃ w, q₁ = [w]) ∨ q₁ = q₀)
    (first : q₂ <:+ q₁) (second : q₃ <:+ q₂) (last : q₃ = v :: left) :
    left ⊆ q₀ ∧ (∀ w, q₁ = w :: q₂ → w ∈ q₀) ∧ ∀ w, q₂ = w :: q₃ → w ∈ q₀ := by
  subst last
  rcases start with ⟨w, rfl⟩ | rfl
  · have bound := first.length_le
    have bound' := second.length_le
    simp only [List.length_cons, List.length_nil] at bound bound'
    have nothing : left = [] := List.length_eq_zero_iff.mp (by omega)
    refine ⟨by simp [nothing], fun x same => ?_, fun x same => ?_⟩
    · rw [← (List.cons.inj same).2] at bound'
      simp at bound'
    · rw [same] at bound
      simp at bound
  · refine ⟨fun x member => first.subset (second.subset (.tail _ member)), fun x same => ?_,
      fun x same => ?_⟩
    · rw [same]
      exact List.mem_cons_self
    · exact first.subset (same ▸ List.mem_cons_self)

theorem ahead_letter {letter : Code} {behindWidth measured : Text}
    (width : (measure (t.dropWhile Limits.isFlag)).2 = behindWidth)
    (precision : measured = behindWidth ∨ ∃ digits, behindWidth = 46 :: digits ∧ Ahead digits measured)
    (behind : dropLength measured = letter :: rest) (known : letter ∈ letters) : Ahead t rest := by
  have flags : Ahead t (t.dropWhile Limits.isFlag) := .dropWhile (by decide) _
  have first : Ahead (t.dropWhile Limits.isFlag) behindWidth := width ▸ Limits.measure_ahead _
  have second : Ahead behindWidth measured := by
    rcases precision with rfl | ⟨digits, rfl, follows⟩
    · exact .refl _
    · exact .cons (by decide) follows
  have last : Ahead (dropLength measured) rest :=
    behind ▸ .cons (letters_facts _ known).2.1 (.refl _)
  exact flags.trans (first.trans (second.trans ((dropLength_ahead measured).trans last)))

/-- One conversion against the search. -/
theorem Converts.found {x : Converted} (converts : Converts h isBytes t a x rest b)
    (single : t.head? ≠ some 37) :
    templateMeasures rest ⊆ templateMeasures (37 :: t) ∧ b.queue ⊆ a.queue ∧
      (¬Nested t → ∀ n, x.spec.width = some n ∨ x.spec.precision = some n →
        Found (37 :: t) a.queue n) := by
  obtain ⟨measured, last, begun, letterBehind, next, done⟩ := converts
  obtain ⟨t₁, a₁, key, begun⟩ := bind_ok.mp begun
  obtain ⟨⟨c₁, t₃⟩, a₂, width, precision⟩ := bind_ok.mp begun
  have known := mem_letters done
  have stops : Stops measured := stops_of_dropLength letterBehind known
  obtain ⟨unsetWidth, unsetPrecision⟩ := flagsPart_fst {} t₁
  obtain ⟨left, sameWidth, point⟩ := precisionPart_ok precision stops
  -- No digit stands behind the width either: the letter does, or the point of a precision.
  have stopsBefore : Stops t₃ := by
    rcases point with ⟨-, rfl, -⟩ | ⟨r, rfl, -⟩
    · exact stops
    · intro c first
      cases first
      decide +kernel
  obtain ⟨behind, leftBefore, samePrecision, widthStated⟩ :=
    widthPart_ok width unsetWidth stopsBefore
  rw [flagsPart_snd] at behind widthStated
  obtain ⟨queue, -⟩ := nextArgument_ok next
  obtain ⟨step, simple⟩ := keyPart_step key
  have ahead : Ahead t₁ rest := by
    refine ahead_letter behind ?_ letterBehind known
    rcases point with ⟨-, same, -⟩ | ⟨digits, same, follows, -⟩
    · exact .inl same
    · exact .inr ⟨digits, same, follows⟩
  have start : (∃ w, a₁.queue = [w]) ∨ a₁.queue = a.queue := by
    rcases keyPart_ok key with ⟨_, _, v, -, -, queue⟩ | ⟨-, -, rfl⟩
    · exact .inl ⟨v, queue⟩
    · exact .inr rfl
  obtain ⟨fewer, drawnFirst, drawnSecond⟩ := drawn start leftBefore left queue
  have searched := Limits.templateMeasures_percent single
  refine ⟨?_, fewer, fun notNested n applied => ?_⟩
  · rw [searched, ← Limits.templateMeasures_ahead ahead]
    exact List.subset_append_of_subset_right _ step
  · have found : measure ((dropKey t).dropWhile Limits.isFlag) =
        ((measure (t₁.dropWhile Limits.isFlag)).1, t₃) := by
      rw [simple notNested, ← behind]
    have listed {m : Limits.Measure} (member : m ∈ (measures t).1) :
        m ∈ templateMeasures (37 :: t) := by
      rw [searched]
      exact List.mem_append_left _ member
    rcases applied with wide | precise
    · rw [sameWidth] at wide
      refine (widthStated n wide).found (fun m same => listed ?_) drawnFirst
      exact Limits.mem_measures_width (found.trans (by rw [same]))
    · rcases point with ⟨-, -, none⟩ | ⟨r, rfl, -, stated⟩
      · rw [none, samePrecision, unsetPrecision] at precise
        cases precise
      · rcases stated n precise with zero | stated
        · exact .inl zero
        · exact stated.found
            (fun m same => listed (Limits.mem_measures_precision found same)) drawnSecond

/-- What is left of a template and of its arguments. -/
structure Reading where
  text : Text
  arguments : Arguments

/-- Formatting goes on behind the next doubled percent sign, or behind the next conversion if that
succeeds. -/
inductive Step (h : Heap) (isBytes : Bool) : Reading → Reading → Prop
  | doubled {front rest : Text} {a : Arguments} (plain : 37 ∉ front) :
      Step h isBytes ⟨front ++ 37 :: 37 :: rest, a⟩ ⟨rest, a⟩
  | converted {front t rest : Text} {a b : Arguments} {x : Converted} (plain : 37 ∉ front)
      (single : t.head? ≠ some 37) (converts : Converts h isBytes t a x rest b) :
      Step h isBytes ⟨front ++ 37 :: t, a⟩ ⟨rest, b⟩

abbrev Steps (h : Heap) (isBytes : Bool) : Reading → Reading → Prop :=
  Relation.ReflTransGen (Step h isBytes)

/-- Formatting comes to a conversion that succeeds, whatever comes of the rest. -/
def Applies (h : Heap) (isBytes : Bool) (start : Reading) (t : Text) (x : Converted) : Prop :=
  ∃ front a rest b, 37 ∉ front ∧ t.head? ≠ some 37 ∧
    Steps h isBytes start ⟨front ++ 37 :: t, a⟩ ∧ Converts h isBytes t a x rest b

variable {r s : Reading} {x : Converted}

theorem Step.found (step : Step h isBytes r s) :
    templateMeasures s.text ⊆ templateMeasures r.text ∧
      s.arguments.queue ⊆ r.arguments.queue := by
  cases step with
  | @doubled front rest a plain =>
    rw [Limits.templateMeasures_ahead ⟨front, plain, rfl⟩, Limits.templateMeasures_doubled]
    exact ⟨List.Subset.refl _, List.Subset.refl _⟩
  | @converted front t rest a b x plain single converts =>
    obtain ⟨searched, fewer, -⟩ := converts.found single
    rw [Limits.templateMeasures_ahead ⟨front, plain, rfl⟩]
    exact ⟨searched, fewer⟩

theorem Steps.found (steps : Steps h isBytes r s) :
    templateMeasures s.text ⊆ templateMeasures r.text ∧
      s.arguments.queue ⊆ r.arguments.queue := by
  induction steps with
  | refl => exact ⟨List.Subset.refl _, List.Subset.refl _⟩
  | tail _ step ih =>
    obtain ⟨searched, fewer⟩ := step.found
    exact ⟨List.Subset.trans searched ih.1, List.Subset.trans fewer ih.2⟩

/-- What a conversion of a run applies is found in the template. -/
theorem Applies.found (applies : Applies h isBytes r t x) (simple : ¬Nested t) {n : Nat}
    (applied : x.spec.width = some n ∨ x.spec.precision = some n) :
    Found r.text r.arguments.queue n := by
  obtain ⟨front, a, rest, b, plain, single, steps, converts⟩ := applies
  obtain ⟨searched, fewer⟩ := Steps.found steps
  dsimp only at searched fewer
  rw [Limits.templateMeasures_ahead ⟨front, plain, rfl⟩] at searched
  rcases (converts.found single).2.2 simple n applied with
    zero | ⟨run, member, value⟩ | ⟨star, v, queued, k, whole, bound⟩
  · exact .inl zero
  · exact .inr (.inl ⟨run, searched member, value⟩)
  · exact .inr (.inr ⟨searched star, v, fewer queued, k, whole, bound⟩)

theorem Applies.after (step : Step h isBytes r s) (applies : Applies h isBytes s t x) :
    Applies h isBytes r t x := by
  obtain ⟨front, a, rest, b, plain, single, steps, converts⟩ := applies
  exact ⟨front, a, rest, b, plain, single, .head step steps, converts⟩

section Loop

variable {fuel : Nat} {out all : List Piece} {front : Text}

/-- The pieces so far with the text in front of the next percent sign. -/
def withPlain (out : List Piece) (front : Text) : List Piece :=
  if front.isEmpty then out else .plain front :: out

theorem mem_withPlain {p : Piece} (member : p ∈ withPlain out front) :
    p ∈ out ∨ ∃ text, p = .plain text := by
  unfold withPlain at member
  split_ifs at member
  · exact .inl member
  · exact (List.mem_cons.mp member).symm.imp_right fun same => ⟨front, same⟩

theorem while_front (plain : 37 ∉ front) (t : Text) :
    (front ++ 37 :: t).takeWhile (· != 37) = front ∧
      (front ++ 37 :: t).dropWhile (· != 37) = 37 :: t := by
  have other : ∀ c ∈ front, (c != 37) = true := fun c member =>
    bne_iff_ne.mpr fun same => plain (same ▸ member)
  rw [List.takeWhile_append_of_pos other, List.dropWhile_append_of_pos other]
  simp

theorem convertAll_end (plain : 37 ∉ front) :
    convertAll h isBytes out (fuel + 1) front = pure (withPlain out front).reverse := by
  have other : ∀ c ∈ front, (c != 37) = true := fun c member =>
    bne_iff_ne.mpr fun same => plain (same ▸ member)
  have taken : front.takeWhile (· != 37) = front := List.takeWhile_eq_self_iff.mpr other
  have dropped : front.dropWhile (· != 37) = [] := List.dropWhile_eq_nil_iff.mpr other
  unfold convertAll
  simp only [taken, dropped]
  rfl

theorem convertAll_doubled (plain : 37 ∉ front) :
    convertAll h isBytes out (fuel + 1) (front ++ 37 :: 37 :: rest) =
      convertAll h isBytes (.plain [37] :: withPlain out front) fuel rest := by
  obtain ⟨taken, dropped⟩ := while_front plain (37 :: rest)
  conv => lhs; unfold convertAll
  simp only [taken, dropped]
  rfl

theorem convertAll_conversion (plain : 37 ∉ front) (single : t.head? ≠ some 37) :
    convertAll h isBytes out (fuel + 1) (front ++ 37 :: t) = (do
      let (piece, rest) ← conversion h isBytes t
      convertAll h isBytes (piece :: withPlain out front) fuel rest) := by
  obtain ⟨taken, dropped⟩ := while_front plain t
  conv => lhs; unfold convertAll
  simp only [taken, dropped]
  split
  · rename_i none
    cases none
  · rename_i doubled
    cases doubled
    exact absurd rfl single
  · rename_i same
    cases same
    rfl

/-- Every converted piece comes of a conversion that is applied. -/
theorem applies_of_convertAll (ran : convertAll h isBytes out fuel t a = .ok (all, b)) :
    ∀ p ∈ all, p ∈ out ∨ (∃ text, p = .plain text) ∨
      ∃ t' x, Applies h isBytes ⟨t, a⟩ t' x ∧ p = x.piece := by
  induction fuel generalizing out t a with
  | zero => cases ran
  | succ fuel ih =>
    intro p member
    by_cases percent : 37 ∈ t
    · obtain ⟨front, t, rfl, plain⟩ := List.eq_append_cons_of_mem percent
      by_cases doubled : t.head? = some 37
      · obtain ⟨rest, rfl⟩ := List.head?_eq_some_iff.mp doubled
        rw [convertAll_doubled plain] at ran
        rcases ih ran p member with listed | text | ⟨t', x, applies, same⟩
        · rcases List.mem_cons.mp listed with rfl | listed
          · exact .inr (.inl ⟨_, rfl⟩)
          · exact (mem_withPlain listed).imp_right .inl
        · exact .inr (.inl text)
        · exact .inr (.inr ⟨t', x, applies.after (.doubled plain), same⟩)
      · rw [convertAll_conversion plain doubled] at ran
        obtain ⟨⟨piece, rest⟩, a', converted, ran⟩ := bind_ok.mp ran
        obtain ⟨x, converts, rfl⟩ := conversion_ok converted
        rcases ih ran p member with listed | text | ⟨t', y, applies, same⟩
        · rcases List.mem_cons.mp listed with rfl | listed
          · exact .inr (.inr ⟨t, x, ⟨front, a, rest, a', plain, doubled, .refl, converts⟩, rfl⟩)
          · exact (mem_withPlain listed).imp_right .inl
        · exact .inr (.inl text)
        · exact .inr (.inr ⟨t', y, applies.after (.converted plain doubled converts), same⟩)
    · rw [convertAll_end percent] at ran
      cases ran
      exact (mem_withPlain (List.mem_reverse.mp member)).imp_right .inl

end Loop

/-- A text or bytes as a template: whether it is bytes, and its characters. -/
def template? : Value → Option (Bool × Text)
  | .text t _ => some (false, t)
  | .bytes bs _ => some (true, bs.map (·.toNat))
  | _ => none

theorem checkPrintf_of_passed {left : Value} {template : Text}
    (stands : template? left = some (isBytes, template))
    (passed : Value.checkBinary h .mod left v = .ok ()) :
    ∃ text, templateMeasures text = templateMeasures template ∧
      Limits.checkPrintf text v = .ok () := by
  cases left with
  | text t _ =>
    cases stands
    exact ⟨_, rfl, passed⟩
  | bytes bs _ =>
    cases stands
    exact ⟨Limits.asciiText bs, Limits.templateMeasures_asciiText bs, passed⟩
  | _ => cases stands

/-- A passed check bounds what is found. -/
theorem Found.le {left : Value} {template : Text} {n : Nat}
    (stands : template? left = some (isBytes, template))
    (passed : Value.checkBinary h .mod left v = .ok ())
    (found : Found template (Arguments.ofValue isBytes v).queue n) : n ≤ Limits.maxLength := by
  obtain ⟨text, same, passed⟩ := checkPrintf_of_passed stands passed
  obtain ⟨numerals, stars⟩ := Limits.checkPrintf_ok passed
  rw [same] at numerals stars
  rcases found with rfl | ⟨run, member, value⟩ | ⟨star, w, queued, k, whole, bound⟩
  · exact Nat.zero_le _
  · exact numerals run n member value
  · exact bound.trans (stars star isBytes w queued k whole)

section Nested

variable {front behind digits written : Text} {n : Nat}

/-- A template with a single conversion, of which the key has another parenthesis inside. -/
def nestedTemplate (front behind digits : Text) : Text :=
  37 :: 40 :: (front ++ 40 :: (behind ++ 41 :: 41 :: (digits ++ [100])))

/-- A key without parentheses, or a part of it. -/
def Free (t : Text) : Prop := 40 ∉ t ∧ 41 ∉ t

theorem keyFrom_free {key t : Text} {level : Nat} (free : Free front) :
    keyFrom key level (front ++ t) = keyFrom (front.reverse ++ key) level t := by
  induction front generalizing key with
  | nil => rfl
  | cons c front ih =>
    obtain ⟨opening, closing⟩ := free
    simp only [List.mem_cons, not_or] at opening closing
    rw [List.cons_append, keyFrom, if_neg (Ne.symm closing.1), if_neg (Ne.symm opening.1),
      ih ⟨opening.2, closing.2⟩]
    simp

theorem keyFrom_nested (frontFree : Free front) (behindFree : Free behind) (t : Text) :
    keyFrom [] 0 (front ++ 40 :: (behind ++ 41 :: 41 :: t)) =
      some (front ++ 40 :: (behind ++ [41]), t) := by
  rw [keyFrom_free frontFree]
  simp only [keyFrom, Nat.reduceEqDiff, ↓reduceIte]
  rw [keyFrom_free behindFree]
  simp [keyFrom]

/-- The search takes the first closing parenthesis for the end of the key, and finds nothing there. -/
theorem templateMeasures_nested (frontFree : Free front) (behindFree : Free behind)
    (plain : 37 ∉ digits) : templateMeasures (nestedTemplate front behind digits) = [] := by
  have inner : ∀ c ∈ front ++ 40 :: behind, (c != 41) = true := by
    intro c member
    refine bne_iff_ne.mpr fun same => ?_
    subst same
    have inside : 41 ∈ front ∨ 41 ∈ behind := by simpa using member
    exact inside.elim frontFree.2 behindFree.2
  have first : dropKey (40 :: (front ++ 40 :: (behind ++ 41 :: 41 :: (digits ++ [100])))) =
      41 :: (digits ++ [100]) := by
    have whole : front ++ 40 :: (behind ++ 41 :: 41 :: (digits ++ [100])) =
        (front ++ 40 :: behind) ++ 41 :: 41 :: (digits ++ [100]) := by simp
    rw [whole, dropKey, List.dropWhile_append_of_pos inner]
    rfl
  have silent : measure ((41 :: (digits ++ [100])).dropWhile Limits.isFlag) =
      (none, 41 :: (digits ++ [100])) := by
    refine measure_of_stops (fun c same => ?_) (by simp [Limits.isFlag])
    cases same
    decide +kernel
  rw [← first] at silent
  have rest : Ahead (41 :: (digits ++ [100])) [] :=
    ⟨41 :: (digits ++ [100]), by simpa using plain, (List.append_nil _).symm⟩
  rw [nestedTemplate, Limits.templateMeasures_percent (by simp),
    Limits.measures_of_other silent (by rw [first]; simp), first, Limits.templateMeasures_ahead rest]
  rfl

theorem asciiNumeral_append (read : asciiNumeral digits = (n, [])) :
    asciiNumeral (digits ++ [100]) = (n, [100]) := by
  obtain ⟨value, nothing⟩ := Prod.mk.inj read
  have all := List.dropWhile_eq_nil_iff.mp nothing
  have taken := List.takeWhile_eq_self_iff.mpr all
  unfold asciiNumeral
  dsimp only
  rw [List.takeWhile_append_of_pos all, List.dropWhile_append_of_pos all, ← value, taken]
  simp

theorem widthPart_numeral {x : Code} (digit : 48 ≤ x ∧ x ≤ 57)
    (read : asciiNumeral (x :: t) = (n, u)) (small : n < Value.maxIndex) :
    widthPart c (x :: t) = pure ({ c with width := some n }, u) := by
  unfold widthPart
  split
  · rename_i star
    cases star
    exact absurd digit.1 (by decide)
  · rename_i same
    cases same
    rw [if_pos digit]
    simp only [read]
    rw [if_neg (Int.not_le.mpr small)]
  · rename_i none
    cases none

theorem keyPart_nested (frontFree : Free front) (behindFree : Free behind) {r : Nat} {value : Value}
    (found : Value.entryOf h (h.dict r) (.ofText (front ++ 40 :: (behind ++ [41]))) = .ok value)
    (t : Text) : keyPart h false (40 :: (front ++ 40 :: (behind ++ 41 :: 41 :: t)))
      (.ofValue false (.dict r)) = .ok (t, ⟨[value], some (.dict r)⟩) := by
  refine bind_ok.mpr ⟨_, _, rfl, ?_⟩
  simp only [Arguments.ofValue, Option.isNone_some, Bool.false_eq_true, ↓reduceIte,
    keyFrom_nested frontFree behindFree]
  have used : useKey h (.ofText (front ++ 40 :: (behind ++ [41]))) (.ofValue false (.dict r)) =
      .ok ((), ⟨[value], some (.dict r)⟩) := by
    refine bind_ok.mpr ⟨_, _, rfl, ?_⟩
    simp only [Arguments.ofValue, found]
    rfl
  exact bind_ok.mpr ⟨(), _, used, rfl⟩

theorem asciiNumeral_digits (read : asciiNumeral digits = (n, [])) :
    ∀ c ∈ digits, 48 ≤ c ∧ c ≤ 57 := by
  intro c member
  have all := List.dropWhile_eq_nil_iff.mp (Prod.mk.inj read).2
  simpa using all c member

/-- A digit is no flag, unless it is a zero. -/
theorem flagsPart_digit {x : Code} (digit : 48 ≤ x ∧ x ≤ 57) (nonzero : x ≠ 48) :
    flagsPart c (x :: t) = (c, x :: t) := by
  have other (y : Code) (low : y < 48) : x ≠ y := by
    rintro rfl
    exact absurd digit.1 (Nat.not_le.mpr low)
  have none : flag c x = none := by
    simp [flag, nonzero, other 45 (by decide), other 43 (by decide), other 32 (by decide),
      other 35 (by decide)]
  rw [flagsPart, none]

/-- Behind such a key any width is applied. -/
theorem applies_nested (frontFree : Free front) (behindFree : Free behind)
    (leading : digits.head?.any (· != 48)) (read : asciiNumeral digits = (n, []))
    (small : n < Value.maxIndex) {r : Nat} {value : Value}
    (found : Value.entryOf h (h.dict r) (.ofText (front ++ 40 :: (behind ++ [41]))) = .ok value)
    (done : convert h false { width := some n } 100 value = .ok written) :
    Applies h false ⟨nestedTemplate front behind digits, .ofValue false (.dict r)⟩
      (40 :: (front ++ 40 :: (behind ++ 41 :: 41 :: (digits ++ [100]))))
      ⟨{ width := some n }, 100, value, written⟩ := by
  have key := keyPart_nested frontFree behindFree found (digits ++ [100])
  obtain ⟨d, ds, rfl⟩ : ∃ d ds, digits = d :: ds := by
    cases digits with
    | nil => cases leading
    | cons d ds => exact ⟨d, ds, rfl⟩
  have digit : 48 ≤ d ∧ d ≤ 57 := asciiNumeral_digits read d List.mem_cons_self
  have flags : flagsPart {} (d :: ds ++ [100]) = ({}, d :: ds ++ [100]) :=
    flagsPart_digit digit (by simpa using leading)
  have width : widthPart {} (d :: ds ++ [100]) ⟨[value], some (.dict r)⟩ =
      .ok (({ width := some n }, [100]), ⟨[value], some (.dict r)⟩) := by
    have numeral := asciiNumeral_append read
    rw [List.cons_append] at numeral ⊢
    rw [widthPart_numeral digit numeral small]
    rfl
  refine ⟨[], _, [], ⟨[], some (.dict r)⟩, List.not_mem_nil, by simp, .refl, [100],
    ⟨[value], some (.dict r)⟩, ?_, rfl, rfl, done⟩
  refine bind_ok.mpr ⟨_, _, key, ?_⟩
  rw [flags]
  exact bind_ok.mpr ⟨_, _, width, rfl⟩

theorem passed_nested {o : Origin} {r : Nat} (frontFree : Free front) (behindFree : Free behind)
    (plain : 37 ∉ digits) :
    Value.checkBinary h .mod (.text (nestedTemplate front behind digits) o) (.dict r) = .ok () := by
  change Limits.checkPrintf (nestedTemplate front behind digits) (.dict r) = .ok ()
  unfold Limits.checkPrintf
  rw [templateMeasures_nested frontFree behindFree plain]
  rfl

end Nested

/-- If the check passes, no conversion applies a width or a precision above the limit, unless there are
parentheses inside its own key. For these the check passes whatever is behind, and it is applied. -/
theorem measures_limited {left : Value} {template : Text}
    (stands : template? left = some (isBytes, template))
    (passed : Value.checkBinary h .mod left v = .ok ()) :
    (∀ t x, Applies h isBytes ⟨template, .ofValue isBytes v⟩ t x → ¬Nested t →
      ∀ n, x.spec.width = some n ∨ x.spec.precision = some n → n ≤ Limits.maxLength) ∧
    (∀ all, pieces h isBytes template v = .ok all → ∀ written letter argument,
      .converted written letter argument ∈ all → ∃ t x,
        Applies h isBytes ⟨template, .ofValue isBytes v⟩ t x ∧
          x.piece = .converted written letter argument) ∧
    ∀ front behind digits n, Free front → Free behind → digits.head?.any (· != 48) →
      asciiNumeral digits = (n, []) → n < Value.maxIndex → ∀ o r,
        Value.checkBinary h .mod (.text (nestedTemplate front behind digits) o) (.dict r) = .ok () ∧
        ∀ value written,
          Value.entryOf h (h.dict r) (.ofText (front ++ 40 :: (behind ++ [41]))) = .ok value →
          convert h false { width := some n } 100 value = .ok written →
          Applies h false ⟨nestedTemplate front behind digits, .ofValue false (.dict r)⟩
            (40 :: (front ++ 40 :: (behind ++ 41 :: 41 :: (digits ++ [100]))))
            ⟨{ width := some n }, 100, value, written⟩ := by
  refine ⟨fun t x applies simple n applied => (applies.found simple applied).le stands passed,
    fun all ran written letter argument member => ?_, ?_⟩
  · obtain ⟨⟨out, left⟩, converted, ran⟩ := Outcome.bind_eq_ok.mp ran
    have same : out = all := by
      dsimp only at ran
      split_ifs at ran
      · cases ran
      · cases ran
        rfl
    subst same
    rcases applies_of_convertAll converted _ member with listed | ⟨text, other⟩ | ⟨t, x, applies, same⟩
    · cases listed
    · cases other
    · exact ⟨t, x, applies, same.symm⟩
  · intro front behind digits n frontFree behindFree leading read small o r
    have plain : 37 ∉ digits := fun member =>
      absurd (asciiNumeral_digits read 37 member).1 (by decide)
    exact ⟨passed_nested frontFree behindFree plain, fun value written found done =>
      applies_nested frontFree behindFree leading read small found done⟩

/-- A text cut to a precision and filled to a width. -/
theorem measures_limited_text :
    let template : Text := "%-8.3s"
    let x : Converted := ⟨{ left := true, width := some 8, precision := some 3 }, 115,
      .ofText "phrase", "phr     "⟩
    template? (.ofText template) = some (false, template) ∧
    Value.checkBinary {} .mod (.ofText template) (.ofText "phrase") = .ok () ∧
    Applies {} false ⟨template, .ofValue false (.ofText "phrase")⟩ "-8.3s" x ∧ ¬Nested "-8.3s" ∧
    8 ≤ Limits.maxLength := by
  intro template x
  have stands : template? (.ofText template) = some (false, template) := rfl
  have passed : Value.checkBinary {} .mod (.ofText template) (.ofText "phrase") = .ok () := by rfl
  have applies : Applies {} false ⟨template, .ofValue false (.ofText "phrase")⟩ "-8.3s" x :=
    ⟨[], ⟨[.ofText "phrase"], none⟩, [], ⟨[], none⟩, List.not_mem_nil, by decide, .refl, [115],
      ⟨[.ofText "phrase"], none⟩, by rfl, rfl, rfl, by rfl⟩
  have simple : ¬Nested "-8.3s" := by
    rintro ⟨rest, key, behind, opens, -⟩
    cases opens
  obtain ⟨limited, -, -⟩ := measures_limited stands passed
  exact ⟨stands, passed, applies, simple, limited _ x applies simple 8 (.inl rfl)⟩

end Phrasebook.Printf
