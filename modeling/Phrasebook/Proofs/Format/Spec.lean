import Phrasebook.Proofs.Limits.Check
import Phrasebook.Proofs.Render.Outcome
import Phrasebook.Render.Invoke
/-!
The width and the precision that are read from a format specification. Each is part of a run of digits
that the check has found: the first digits of the run may be taken for a fill or a flag.
-/
namespace Phrasebook

namespace FormatSpec
open Text (IsNumeral)

variable {t spec rest : Text} {n : Nat}

/-- What a specification has from its width on. -/
def fromWidth (t : Text) : Text :=
  let t := (alignmentOf t).2.2
  let t := (oneOf (fun c => c == 32 || c == 43 || c == 45) t).2
  let t := (oneOf (· == 122) t).2
  let t := (oneOf (· == 35) t).2
  (oneOf (· == 48) t).2

/-- The width that is read from a text, also from one that is refused further on. -/
def widthOf (t : Text) : Option Nat := (numeral (fromWidth t)).1

/-- The precision that is read from a text, also from one that is refused further on. -/
def precisionOf (t : Text) : Option Nat := do
  let (_, t) ← groupingOf (numeral (fromWidth t)).2
  let (point, t) := oneOf (· == 46) t
  if point.isSome then (numeral t).1 else none

theorem parse?_measures {f : FormatSpec} (parsed : parse? t = some f) :
    f.width = (widthOf t).getD 0 ∧ f.precision = precisionOf t := by
  unfold parse? at parsed
  dsimp only at parsed
  obtain ⟨⟨grouping, behind⟩, grouped, parsed⟩ := Option.bind_eq_some_iff.mp parsed
  dsimp only at parsed
  generalize read : (if (oneOf (· == 46) behind).1.isSome = true then
    numeral (oneOf (· == 46) behind).2 else (none, (oneOf (· == 46) behind).2)) = found at parsed
  have precise : precisionOf t = found.1 := by
    rw [precisionOf, show groupingOf (numeral (fromWidth t)).2 = _ from grouped, ← read]
    split_ifs with point
    · exact if_pos point
    · exact if_neg point
  rw [precise]
  split_ifs at parsed
  split at parsed
  · cases parsed
    exact ⟨rfl, rfl⟩
  · cases parsed
    exact ⟨rfl, rfl⟩
  · cases parsed

theorem alignmentOf_suffix (t : Text) : (alignmentOf t).2.2 <:+ t := by
  unfold alignmentOf
  split
  · split
    · exact (List.suffix_cons _ _).trans (List.suffix_cons _ _)
    · split
      · exact List.suffix_cons _ _
      · exact List.suffix_refl _
  · split
    · exact List.nil_suffix
    · exact List.suffix_refl _
  · exact List.suffix_refl _

theorem oneOf_suffix (p : Code → Bool) (t : Text) : (oneOf p t).2 <:+ t := by
  unfold oneOf
  split
  · split_ifs
    · exact List.suffix_cons _ _
    · exact List.suffix_refl _
  · exact List.suffix_refl _

theorem fromWidth_suffix (t : Text) : fromWidth t <:+ t :=
  (oneOf_suffix _ _).trans <| (oneOf_suffix _ _).trans <| (oneOf_suffix _ _).trans <|
    (oneOf_suffix _ _).trans (alignmentOf_suffix t)

theorem groupingOf_suffix {grouping : Option Code} (grouped : groupingOf t = some (grouping, rest)) :
    rest <:+ t := by
  unfold groupingOf at grouped
  split at grouped
  all_goals cases grouped
  all_goals simp

/-- What is read as a numeral stands in the text. -/
theorem exists_of_numeral (read : (numeral t).1 = some n) :
    ∃ run, IsNumeral run ∧ run <:+: t ∧ Text.value run = n := by
  have decimal := List.all_eq_true.mp (List.all_takeWhile (p := Text.isDecimal) (l := t))
  have nonempty : t.takeWhile Text.isDecimal ≠ [] := by
    intro nothing
    rw [numeral, nothing] at read
    cases read
  have isNumeral : IsNumeral (t.takeWhile Text.isDecimal) := ⟨nonempty, decimal⟩
  rw [numeral, Text.decimalNumeral?_of_isNumeral isNumeral] at read
  exact ⟨_, isNumeral, (List.takeWhile_prefix _).isInfix, Option.some.inj read⟩

/-- A specification of which no measure exceeds the limit: none that is read, whatever comes behind
it, and so none of the parsed specification. -/
structure WithinLimit (spec : Text) : Prop where
  width : ∀ n, widthOf spec = some n → n ≤ Limits.maxLength
  precision : ∀ n, precisionOf spec = some n → n ≤ Limits.maxLength
  parsed : ∀ f, parse? spec = some f →
    f.width ≤ Limits.maxLength ∧ ∀ p ∈ f.precision, p ≤ Limits.maxLength

theorem withinLimit_of_measures (width : ∀ n, widthOf spec = some n → n ≤ Limits.maxLength)
    (precision : ∀ n, precisionOf spec = some n → n ≤ Limits.maxLength) : WithinLimit spec := by
  refine ⟨width, precision, fun f parsed => ?_⟩
  obtain ⟨sameWidth, samePrecision⟩ := parse?_measures parsed
  rw [sameWidth, samePrecision]
  refine ⟨?_, precision⟩
  cases read : widthOf spec with
  | none => exact Nat.zero_le _
  | some n => exact width n read

theorem withinLimit_of_checkSpec (passed : Limits.checkSpec spec = .ok ()) : WithinLimit spec := by
  have bounded {t : Text} {n : Nat} (inside : t <:+ spec) (read : (numeral t).1 = some n) :
      n ≤ Limits.maxLength := by
    obtain ⟨run, isNumeral, part, rfl⟩ := exists_of_numeral read
    exact (Limits.checkSpec_eq_ok_iff.mp passed run (part.trans inside.isInfix) isNumeral).2
  refine withinLimit_of_measures (fun n read => ?_) fun n read => ?_
  · exact bounded (fromWidth_suffix spec) read
  · obtain ⟨⟨grouping, behind⟩, grouped, read⟩ := Option.bind_eq_some_iff.mp read
    dsimp only at read
    split_ifs at read
    have unread : (numeral (fromWidth spec)).2 <:+ spec :=
      (List.dropWhile_suffix _).trans (fromWidth_suffix spec)
    exact bounded ((oneOf_suffix _ _).trans ((groupingOf_suffix grouped).trans unread)) read

end FormatSpec

namespace Interpreter

variable {lower : Interpreter} {r : Nat} {locals : Locals} {value : Expr}
  {conversion : Option Conversion} {spec : Option Expr} {s t : RenderState} {result : Value}

/-- A field is made of its value, converted, and of the text that its specification comes to, once
this has passed. -/
theorem checked_of_formatted
    (ran : EStateM.run (lower.dispatch r locals (.formatted value conversion spec)) s =
      .ok result t) :
    ∃ v u text,
      EStateM.run (lower.eval r locals value >>= Render.converted conversion) s = .ok v u ∧
      EStateM.run (Render.specText (lower.eval r locals) spec) u = .ok text t ∧
      Limits.checkSpec text = .ok () ∧ Value.formatted t.heap v text = .ok result := by
  obtain ⟨evaluated, s₁, first, ran⟩ := Outcome.run_bind_eq_ok.mp ran
  obtain ⟨v, s₂, converted, ran⟩ := Outcome.run_bind_eq_ok.mp ran
  obtain ⟨text, s₃, computed, ran⟩ := Outcome.run_bind_eq_ok.mp ran
  obtain ⟨_, s₄, checked, ran⟩ := Outcome.run_bind_eq_ok.mp ran
  obtain ⟨h, s₅, got, ran⟩ := Outcome.run_bind_eq_ok.mp ran
  obtain ⟨passed, rfl⟩ := Outcome.run_ofExcept_eq_ok.mp checked
  cases got
  obtain ⟨done, rfl⟩ := Outcome.run_ofExcept_eq_ok.mp ran
  have made := Outcome.run_bind_eq_ok.mpr ⟨evaluated, s₁, first, converted⟩
  exact ⟨v, s₂, text, made, computed, passed, done⟩

end Interpreter

namespace FormatSpec

/-- A specification that passes the check states no width and no precision above the limit, in digits
of whatever script, and whatever stands before them. So it is with one that is put together while a
field is evaluated: where the field is made, it is made of a specification within the limit. -/
theorem withinLimit_of_checked :
    (∀ spec, Limits.checkSpec spec = .ok () → WithinLimit spec) ∧
    ∀ (lower : Interpreter) r locals value conversion spec s result t,
      EStateM.run (lower.dispatch r locals (.formatted value conversion spec)) s = .ok result t →
      ∃ v u text,
        EStateM.run (lower.eval r locals value >>= Render.converted conversion) s = .ok v u ∧
        EStateM.run (Render.specText (lower.eval r locals) spec) u = .ok text t ∧
        Value.formatted t.heap v text = .ok result ∧ WithinLimit text := by
  refine ⟨fun spec passed => withinLimit_of_checkSpec passed, ?_⟩
  intro lower r locals value conversion spec s result t ran
  obtain ⟨v, u, text, made, computed, passed, done⟩ := Interpreter.checked_of_formatted ran
  exact ⟨v, u, text, made, computed, done, withinLimit_of_checkSpec passed⟩

/-- Arabic digits as fill, width and precision, and a width that is computed. -/
theorem withinLimit_of_checked_arabic :
    let s : RenderState := { runs := #[⟨[], .new 100, .whole 2, none⟩] }
    let field : Expr := .formatted (.literal (.text "ab") {}) none
      (some (.joined [.literal (.text "٣<") {}, .formatted (.literal (.int 5) {}) none none]))
    widthOf "٣<٠٤٢.٢" = some 42 ∧ precisionOf "٣<٠٤٢.٢" = some 2 ∧ WithinLimit "٣<٠٤٢.٢" ∧
      ∃ result t v text,
        EStateM.run (Interpreter.full.dispatch 0 [] field) s = .ok result t ∧
        Value.formatted t.heap v text = .ok result ∧ WithinLimit text := by
  intro s field
  have passed : Limits.checkSpec "٣<٠٤٢.٢" = .ok () := by rfl
  have succeeds : ((Interpreter.full.dispatch 0 [] field).outcome s).toBool = true := by
    unfold field s
    decide +kernel
  obtain ⟨result, ended⟩ := Outcome.exists_of_toBool succeeds
  obtain ⟨t, ran⟩ := Render.outcome_eq_ok_iff.mp ended
  obtain ⟨v, -, text, -, -, done, within⟩ := withinLimit_of_checked.2 _ _ _ _ _ _ _ _ _ ran
  exact ⟨by decide, by decide, withinLimit_of_checked.1 _ passed, result, t, v, text, ran, done, within⟩

end FormatSpec
end Phrasebook
