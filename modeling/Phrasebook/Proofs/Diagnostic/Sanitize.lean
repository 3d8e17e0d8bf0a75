import Phrasebook.Diagnostic.Format
import Phrasebook.Proofs.Text.Pieces
import Mathlib.Data.Option.Basic
import Mathlib.Tactic.SplitIfs
/-!
What sanitizing hides. Of two diagnostics that differ only behind the limit of their free texts,
the line and the JSON object say the same. The block cuts the hint but writes the whole message, so
there they say the same only if the messages are equal.
-/
namespace Phrasebook

namespace Text

/-- The same text, or two texts longer than `limit` that agree up to it. -/
def SameUpTo (limit : Int) (s t : Text) : Prop :=
  s = t ∨ limit < s.length ∧ limit < t.length ∧ s.take limit.toNat = t.take limit.toNat

instance (limit : Int) (s t : Text) : Decidable (s.SameUpTo limit t) :=
  inferInstanceAs (Decidable (_ ∨ _))

end Text

/-- Two diagnostics of one code, severity and place whose free texts agree up to `limit`. -/
structure Diagnostic.AlikeUpTo (limit : Int) (d e : Diagnostic) : Prop where
  code : d.code = e.code
  severity : d.severity = e.severity
  locale : d.locale = e.locale
  key : d.key = e.key
  message : d.message.SameUpTo limit e.message
  hint : Option.Rel (Text.SameUpTo limit) d.hint e.hint
  source : Option.Rel (Text.SameUpTo limit) d.source e.source

namespace DiagnosticFormat

variable {f : DiagnosticFormat} {d e : Diagnostic}

section Sanitized

variable (on : f.sanitize = true) (limit : 0 ≤ f.maxLength)
include on limit

theorem cut_eq_of_sameUpTo {s t : Text} (same : s.SameUpTo f.maxLength t) : f.cut s = f.cut t := by
  rcases same with rfl | ⟨longS, longT, agree⟩
  · rfl
  · simp [cut, head, on, limit, longS, longT, agree]

theorem map_cut_eq_of_rel {s t : Option Text}
    (same : Option.Rel (Text.SameUpTo f.maxLength) s t) : s.map f.cut = t.map f.cut := by
  cases same with
  | none => rfl
  | some same => exact congrArg some (cut_eq_of_sameUpTo on limit same)

/-- A hint beyond the limit is not empty, so both hints are shown or none is. -/
theorem help_eq_of_rel (same : Option.Rel (Text.SameUpTo f.maxLength) d.hint e.hint) :
    f.help d = f.help e := by
  unfold help
  generalize d.hint = hint, e.hint = other at same
  cases same with
  | none => rfl
  | @some s t same =>
    have empty : s.isEmpty = t.isEmpty := by
      rcases same with rfl | ⟨longS, longT, -⟩
      · rfl
      · have filledS : s ≠ [] := List.ne_nil_of_length_pos (by omega)
        have filledT : t ≠ [] := List.ne_nil_of_length_pos (by omega)
        rw [List.isEmpty_eq_false_iff.mpr filledS, List.isEmpty_eq_false_iff.mpr filledT]
    simp only [empty, cut_eq_of_sameUpTo on limit same]

theorem line_eq_of_alike (alike : d.AlikeUpTo f.maxLength e) : f.line d = f.line e := by
  rw [line, line, alike.code, cut_eq_of_sameUpTo on limit alike.message]

theorem members_eq_of_alike (alike : d.AlikeUpTo f.maxLength e) : f.members d = f.members e := by
  have cutSource (x : Diagnostic) :
      x.source.toList.map (fun t => member "source" (Text.Quoted.json (f.cut t))) =
        (x.source.map f.cut).toList.map fun t => member "source" (Text.Quoted.json t) := by
    cases x.source <;> rfl
  simp only [members, cutSource, map_cut_eq_of_rel on limit alike.source, alike.code,
    alike.severity, alike.locale, alike.key, cut_eq_of_sameUpTo on limit alike.message,
    help_eq_of_rel on limit alike.hint]

theorem json_eq_of_alike (alike : d.AlikeUpTo f.maxLength e) : f.json d = f.json e := by
  rw [json, json, members_eq_of_alike on limit alike]

/-- The message stands in the block as it is, between two parts that sanitizing covers. -/
theorem block_eq_iff_of_alike (alike : d.AlikeUpTo f.maxLength e) :
    f.block d = f.block e ↔ d.message = e.message := by
  have samePlace : place d = place e := by rw [place, place, alike.locale, alike.key]
  simp only [block, List.cons_append, samePlace, help_eq_of_rel on limit alike.hint, alike.code,
    alike.severity]
  rw [Text.joinWith_cons_empty, Text.joinWith_cons_empty _ (_ ++ e.message), List.append_left_inj,
    List.append_right_inj]

/-- Two diagnostics that differ only behind the limit give one text, except that the block gives
away whether their messages are equal. -/
theorem format_eq_iff_of_alike (alike : d.AlikeUpTo f.maxLength e) :
    f.format d = f.format e ↔ (f.style = .block → d.message = e.message) := by
  unfold format
  cases f.style with
  | block => simpa using block_eq_iff_of_alike on limit alike
  | line => simpa using line_eq_of_alike on limit alike
  | json => simpa using json_eq_of_alike on limit alike

end Sanitized

theorem format_eq_iff_of_alike_secret :
    let d : Diagnostic := { code := .templateSyntax, message := "secretA", hint := some "hidden 1" }
    let e : Diagnostic := { code := .templateSyntax, message := "secretB", hint := some "hidden 2" }
    d.AlikeUpTo 6 e ∧
      (∀ style ∈ [DiagnosticStyle.line, .json],
        let f : DiagnosticFormat := { style, sanitize := true, maxLength := 6 }
        f.format d = f.format e) ∧
      ({ sanitize := true, maxLength := 6 } : DiagnosticFormat).format d ≠
        ({ sanitize := true, maxLength := 6 } : DiagnosticFormat).format e := by
  intro d e
  have alike : d.AlikeUpTo 6 e :=
    ⟨rfl, rfl, rfl, rfl, by decide, .some (by decide), .none⟩
  have limit : (0 : Int) ≤ 6 := by decide
  refine ⟨alike, fun style member => ?_, fun same => ?_⟩
  · have other : style ≠ .block := by rintro rfl; simp at member
    exact (format_eq_iff_of_alike rfl limit alike).mpr fun block => absurd block other
  · have message := (format_eq_iff_of_alike rfl limit alike).mp same rfl
    exact absurd message (by decide)

end DiagnosticFormat
end Phrasebook
