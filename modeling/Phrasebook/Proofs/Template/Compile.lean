import Phrasebook.Proofs.Template.Split
import Phrasebook.Template.Compile
/-!
How compiling a template fails: with a syntax error of the template, or because an expression is never
read. The text of an expression may have no encoding, and an expression may nest too deep.
-/
namespace Phrasebook

open Outcome

namespace Text

variable {needle t : Text} {c : Code}

private theorem findFrom_isSome (at_ : Nat) : (findFrom needle at_ t).isSome ↔ needle <:+: t := by
  induction t generalizing at_ with
  | nil =>
    rw [findFrom, List.infix_nil]
    split_ifs with isEmpty <;> simpa using isEmpty
  | cons c rest ih =>
    rw [findFrom, List.infix_cons_iff, ← List.isPrefixOf_iff_prefix]
    split_ifs with here
    · simp [here]
    · simp [here, ih]

theorem isInfix_iff : isInfix needle t = true ↔ needle <:+: t := findFrom_isSome 0

end Text

namespace Expr

variable {body : Text} {f : Fault}

/-- An expression is not read, well-formed or not: a lone surrogate stands in it, or it nests too
deep. -/
inductive Unread (body : Text) : Fault → Prop
  | notEncodable (c : Code) (member : c ∈ Text.strip body) (surrogate : 0xD800 ≤ c ∧ c ≤ 0xDFFF) :
    Unread body (.unworded .encoding)
  | tooDeep (nested : Parser.parse body = .error .nestedTooDeep) :
    Unread body (.unworded .recursion)

theorem parse_notEncodable_iff : Parser.parse body = .error .notEncodable ↔
    ∃ c ∈ Text.strip body, 0xD800 ≤ c ∧ c ≤ 0xDFFF := by
  have asked : Parser.parse body = .error .notEncodable ↔
      ((Text.strip body).any fun c => 0xD800 ≤ c && c ≤ 0xDFFF) = true := by
    constructor
    · intro failed
      rw [Parser.parse] at failed
      split at failed
      · assumption
      · repeat' split at failed
        all_goals cases failed
    · exact fun surrogate => if_pos surrogate
  simp [asked]

theorem read_of_unread (unread : Unread body f) : read body = .error f := by
  cases unread with
  | notEncodable c member surrogate =>
    rw [read, parse_notEncodable_iff.mpr ⟨c, member, surrogate⟩]
    rfl
  | tooDeep nested =>
    rw [read, nested]
    rfl

/-- The faults of reading: the text is malformed, or refused by the grammar, or not read. -/
theorem read_cases (failed : read body = .error f) :
    f = .unworded .syntax_ ∨ (∃ r : Refusal, f = r.fault) ∨ Unread body f := by
  rw [read] at failed
  rcases parsed : Parser.parse body with (_ | _ | _) | e
  · rw [parsed] at failed
    cases failed
    exact .inl rfl
  · rw [parsed] at failed
    cases failed
    obtain ⟨c, member, surrogate⟩ := parse_notEncodable_iff.mp parsed
    exact .inr (.inr (.notEncodable c member surrogate))
  · rw [parsed] at failed
    cases failed
    exact .inr (.inr (.tooDeep parsed))
  · rcases refused : e.refusal? with _ | r
    · simp [parsed, refused] at failed
    · simp only [parsed, refused, Except.error.injEq] at failed
      exact .inr (.inl ⟨r, failed.symm⟩)

end Expr

namespace Template

open Segment (opening split)

variable {budget : Budget} {source body : Text} {f : Fault} {e : Expr}

theorem readExpr_eq_ok_iff : readExpr source body = .ok e ↔ Expr.read body = .ok e := by
  rw [readExpr]
  split <;> simp_all

theorem readExpr_of_unread (unread : Expr.Unread body f) : readExpr source body = .error f := by
  rw [readExpr, Expr.read_of_unread unread]
  cases unread <;> rfl

theorem readExpr_cases (failed : readExpr source body = .error f) :
    (∃ report, f = .own (.templateSyntax report source)) ∨ Expr.Unread body f := by
  rcases reading : Expr.read body with g | e
  · rw [readExpr, reading] at failed
    rcases Expr.read_cases reading with rfl | ⟨r, rfl⟩ | unread
    · cases failed
      exact .inl ⟨_, rfl⟩
    · cases failed
      exact .inl ⟨_, rfl⟩
    · -- Neither of these faults is one that reading takes for a syntax error.
      have same : g = f := by
        cases unread <;> cases failed <;> rfl
      exact .inr (same ▸ unread)
  · rw [readExpr_eq_ok_iff.mpr reading] at failed
    cases failed

/-- The first expression of a template that cannot be compiled is one that is not read. -/
def Escapes (source : Text) (f : Fault) : Prop :=
  ∃ front body offset back, split source = .ok (front ++ .expr body offset :: back) ∧
    (∀ b o, .expr b o ∈ front → ∃ e, Expr.read b = .ok e) ∧ Expr.Unread body f

theorem Escapes.kind (escapes : Escapes source f) :
    f = .unworded .encoding ∨ f = .unworded .recursion := by
  obtain ⟨_, _, _, _, -, -, unread⟩ := escapes
  cases unread with
  | notEncodable => exact .inl rfl
  | tooDeep => exact .inr rfl

theorem marker_of_split {segments : List Segment} {offset : Nat} (cut : split source = .ok segments)
    (member : .expr body offset ∈ segments) : opening <:+: source := by
  rw [← Segment.flatMap_toText_of_cut (Segment.split_eq_ok_iff_cut.mp cut)]
  obtain ⟨front, back, rfl⟩ := List.append_of_mem member
  exact ⟨front.flatMap Segment.toText, body ++ [125] ++ back.flatMap Segment.toText,
    by simp [Segment.toText]⟩

/-- Compiling fails at an unclosed marker, or as the first part that cannot be read. -/
theorem compile_eq_error_iff : compile budget source = .error f ↔
    opening <:+: source ∧ (segments source = .error f ∨ ∃ front s back,
      split source = .ok (front ++ s :: back) ∧ (∀ t ∈ front, ∃ part, readPart source t = .ok part) ∧
      readPart source s = .error f) := by
  rw [compile]
  by_cases marked : opening <:+: source
  · rw [if_neg (by simpa using Text.isInfix_iff.mpr marked)]
    rcases cut : split source with offset | whole
    · simp [segments, cut, marked, bind, Except.bind]
    · have parts : segments source = .ok whole := by simp [segments, cut]
      have read : discard (segments source >>= fun segments => do
            pure (dynamic source (← segments.mapM (readPart source)) budget)) =
          whole.forM fun s => discard (readPart source s) := by
        rw [parts, ← discard_mapM]
        exact discard_bind_pure _ _
      rw [← discard_eq_error_iff, read, parts, forM_eq_error_iff]
      simp [marked, discard_eq_ok_iff, discard_eq_error_iff]
  · have unmarked : (!Text.isInfix opening source) = true := by
      simpa [← Text.isInfix_iff] using marked
    simp [unmarked, marked]

theorem compile_of_escapes (escapes : Escapes source f) : compile budget source = .error f := by
  obtain ⟨front, body, offset, back, cut, passed, unread⟩ := escapes
  have marked := marker_of_split cut (List.mem_append_right front List.mem_cons_self)
  refine compile_eq_error_iff.mpr ⟨marked,
    .inr ⟨front, .expr body offset, back, cut, fun s member => ?_, ?_⟩⟩
  · cases s with
    | text body => exact ⟨_, rfl⟩
    | expr b o =>
      obtain ⟨e, reading⟩ := passed b o member
      exact ⟨.expr e, by rw [readPart, readExpr_eq_ok_iff.mpr reading]; rfl⟩
  · rw [readPart, readExpr_of_unread unread]
    rfl

/-- A source that does not compile has a syntax error, or an expression in it is not read. -/
theorem compile_cases (failed : compile budget source = .error f) :
    (∃ report, f = .own (.templateSyntax report source)) ∨ Escapes source f := by
  obtain ⟨-, unclosed | ⟨front, s, back, cut, passed, failed⟩⟩ := compile_eq_error_iff.mp failed
  · rw [segments] at unclosed
    split at unclosed
    · cases unclosed
    · cases unclosed
      exact .inl ⟨_, rfl⟩
  · cases s with
    | text body => cases failed
    | expr body offset =>
      rcases reading : readExpr source body with g | e
      · simp only [readPart, reading, Except.map, Except.error.injEq] at failed
        subst failed
        refine (readExpr_cases reading).imp_right fun unread =>
          ⟨front, body, offset, back, cut, fun b o member => ?_, unread⟩
        obtain ⟨part, read⟩ := passed _ member
        rcases earlier : readExpr source b with g | e
        · simp [readPart, earlier, Except.map] at read
        · exact ⟨e, readExpr_eq_ok_iff.mp earlier⟩
      · simp [readPart, reading, Except.map] at failed

end Template
end Phrasebook
