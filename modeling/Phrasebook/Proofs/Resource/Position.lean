import Phrasebook.Proofs.Outcome
import Phrasebook.Resource.Tree
import Mathlib.Tactic.SplitIfs
/-!
Segments that name no position although all their characters count as digits, and the paths that
cannot be followed because of them.
-/
namespace Phrasebook

namespace Text

/-- One more digit behind a number, which is none as soon as one of them has no place value. -/
private def shifted (n : Option Nat) (c : Code) : Option Nat :=
  match n, decimalValue? c with
  | some n, some d => some (n * 10 + d)
  | _, _ => none

private theorem foldl_shifted_none (t : Text) : t.foldl shifted none = none := by
  induction t with
  | nil => rfl
  | cons c rest ih => exact ih

private theorem foldl_shifted_eq_none_iff (t : Text) (n : Nat) :
    t.foldl shifted (some n) = none ↔ ∃ c ∈ t, isDecimal c = false := by
  induction t generalizing n with
  | nil => simp
  | cons c rest ih =>
    rw [List.foldl_cons]
    rcases value : decimalValue? c with _ | d
    · have stuck : shifted (some n) c = none := by simp [shifted, value]
      have first : isDecimal c = false := by simp [isDecimal, value]
      rw [stuck, foldl_shifted_none]
      exact ⟨fun _ => ⟨c, List.mem_cons_self, first⟩, fun _ => rfl⟩
    · have next : shifted (some n) c = some (n * 10 + d) := by simp [shifted, value]
      have first : isDecimal c = true := by simp [isDecimal, value]
      rw [next, ih]
      simp [first]

theorem decimalNumeral?_eq_none_iff (t : Text) :
    decimalNumeral? t = none ↔ t = [] ∨ ∃ c ∈ t, isDecimal c = false := by
  cases t with
  | nil => simp [decimalNumeral?]
  | cons c rest =>
    have folded : decimalNumeral? (c :: rest) = (c :: rest).foldl shifted (some 0) := rfl
    rw [folded, foldl_shifted_eq_none_iff]
    simp

end Text

namespace Resource

/-- Digits that are no numeral: some have no place value, or there are too many. -/
def IsUnreadable (segment : Text) : Prop :=
  segment ≠ [] ∧ (∀ c ∈ segment, Text.isDigit c = true) ∧
    ((∃ c ∈ segment, Text.isDecimal c = false) ∨ Number.maxDigits < segment.length)

theorem position?_eq_error_iff {segment : Text} {f : Fault} :
    position? segment = .error f ↔ f = .value ∧ IsUnreadable segment := by
  by_cases digits : segment ≠ [] ∧ ∀ c ∈ segment, Text.isDigit c = true
  · have asked : (!segment.isEmpty && segment.all Text.isDigit) = true := by
      simpa using digits
    rw [position?, if_pos asked]
    rcases numeral : Text.decimalNumeral? segment with _ | n
    · have some_ : ∃ c ∈ segment, Text.isDecimal c = false :=
        ((Text.decimalNumeral?_eq_none_iff segment).mp numeral).resolve_left digits.1
      have unreadable : IsUnreadable segment := ⟨digits.1, digits.2, .inl some_⟩
      simp [unreadable, eq_comm]
    · have none_ : ¬∃ c ∈ segment, Text.isDecimal c = false := by
        intro some_
        have stuck := (Text.decimalNumeral?_eq_none_iff segment).mpr (.inr some_)
        rw [numeral] at stuck
        cases stuck
      have unreadable : IsUnreadable segment ↔ Number.maxDigits < segment.length :=
        ⟨fun h => h.2.2.resolve_left none_, fun long => ⟨digits.1, digits.2, .inr long⟩⟩
      rw [unreadable]
      dsimp only
      split_ifs with long
      · simp [long, eq_comm]
      · simp [long]
  · have asked : ¬(!segment.isEmpty && segment.all Text.isDigit) = true := by
      simpa using digits
    rw [position?, if_neg asked]
    constructor
    · intro failed
      cases failed
    · rintro ⟨-, nonempty, all, -⟩
      exact absurd ⟨nonempty, all⟩ digits

theorem readable_of_position? {segment : Text} {i : Option Nat}
    (place : position? segment = .ok i) : ¬IsUnreadable segment := by
  intro unreadable
  rw [position?_eq_error_iff.mpr ⟨rfl, unreadable⟩] at place
  cases place

theorem child?_eq_error_iff {segment : Text} {r : Resource} {f : Fault} :
    child? segment r = .error f ↔
      f = .value ∧ (∃ items, r = .sequence items) ∧ IsUnreadable segment := by
  cases r with
  | leaf template => simp [child?]
  | tree entries => simp [child?]
  | sequence items =>
    rw [child?]
    rcases place : position? segment with e | _ | i
    · have unreadable := position?_eq_error_iff.mp place
      simp [bind, Except.bind, unreadable, eq_comm]
    · simp [bind, Except.bind, pure, Except.pure, readable_of_position? place]
    · simp [bind, Except.bind, pure, Except.pure, readable_of_position? place]

/-- A path leads to a sequence, and the segment behind that cannot be read. -/
def Misreads (path : List Text) (root : Option Resource) : Prop :=
  ∃ front segment back items, path = front ++ segment :: back ∧
    findFrom front root = .ok (some (.sequence items)) ∧ IsUnreadable segment

theorem misreads_cons {segment : Text} {rest : List Text} {r : Resource} :
    Misreads (segment :: rest) (some r) ↔
      ((∃ items, r = .sequence items) ∧ IsUnreadable segment) ∨
        ∃ next, child? segment r = .ok next ∧ Misreads rest next := by
  constructor
  · rintro ⟨_ | ⟨first, front⟩, s, back, items, whole, found, unreadable⟩
    · cases whole
      cases found
      exact .inl ⟨⟨items, rfl⟩, unreadable⟩
    · cases whole
      obtain ⟨next, step, found⟩ := Outcome.bind_eq_ok.mp found
      exact .inr ⟨next, step, front, s, back, items, rfl, found, unreadable⟩
  · rintro (⟨⟨items, rfl⟩, unreadable⟩ | ⟨next, step, front, s, back, items, rfl, found, unreadable⟩)
    · exact ⟨[], segment, rest, items, rfl, rfl, unreadable⟩
    · refine ⟨segment :: front, s, back, items, rfl, ?_, unreadable⟩
      exact Outcome.bind_eq_ok.mpr ⟨next, step, found⟩

theorem findFrom_eq_error_iff {path : List Text} {root : Option Resource} {f : Fault} :
    findFrom path root = .error f ↔ f = .value ∧ Misreads path root := by
  induction path generalizing root with
  | nil => simp [findFrom, Misreads]
  | cons segment rest ih =>
    cases root with
    | none =>
      have nowhere : ¬Misreads (segment :: rest) none := by
        rintro ⟨_ | ⟨first, front⟩, s, back, items, -, found, -⟩ <;> cases found
      simp [findFrom, nowhere]
    | some r =>
      rw [findFrom, misreads_cons]
      rcases step : child? segment r with e | next
      · have unreadable := child?_eq_error_iff.mp step
        simp [bind, Except.bind, unreadable, eq_comm]
      · have readable : ¬((∃ items, r = .sequence items) ∧ IsUnreadable segment) := fun h => by
          rw [child?_eq_error_iff.mpr ⟨rfl, h⟩] at step
          cases step
        simp only [bind, Except.bind, readable, false_or, Except.ok.injEq, exists_eq_left']
        exact ih

theorem find_eq_error_iff {key : Text} {root : Option Resource} {f : Fault} :
    find key root = .error f ↔ f = .value ∧ Misreads (Text.splitAt separator key) root := by
  by_cases whole : key = []
  · subst whole
    have readable : ¬Misreads (Text.splitAt separator []) root := by
      rintro ⟨front, segment, back, items, cut, -, unreadable⟩
      have member : segment ∈ Text.splitAt separator [] := by simp [cut]
      exact unreadable.1 (by simpa [Text.splitAt] using member)
    simp [find, readable]
  · have named : key.isEmpty = false := by simpa using whole
    simp only [find, named, Bool.false_eq_true, if_false]
    exact findFrom_eq_error_iff

end Resource
end Phrasebook
