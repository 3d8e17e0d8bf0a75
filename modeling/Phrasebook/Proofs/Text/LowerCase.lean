import Phrasebook.Text.Basic
import Phrasebook.Text.Case
import Mathlib.Data.List.DropRight
/-!
Lower-casing gives characters that it keeps wherever they stand, and blanks only for blanks. The
table of case pairs is checked once, row against row.
-/
namespace Phrasebook.Text

/-- A character that lower-casing keeps wherever it stands. -/
def IsSettled (c : Code) : Prop := lowerForm c = [c] ∧ c ≠ capitalSigma

instance (c : Code) : Decidable (IsSettled c) := inferInstanceAs (Decidable (_ ∧ _))

/-- The characters that are not settled, and the blanks, as rows. -/
def obstacles : List CaseRow :=
  lowerRows ++ [⟨304, 304, 1, 0⟩, ⟨capitalSigma, capitalSigma, 1, 0⟩]
    ++ blankRanges.map fun r => ⟨r.1, r.2, 1, 0⟩

/-- No character from `low` to `high` stands in a row; if `even`, none at an even distance from
`low`. -/
def avoids (low high : Nat) (even : Bool) (row : CaseRow) : Bool :=
  Nat.blt high row.first || Nat.blt row.last low
    || (even && Nat.beq row.step 2 && Nat.beq ((low + row.first) % 2) 1)

def avoidsAll (low high : Nat) (even : Bool) (rows : List CaseRow) : Bool :=
  rows.all (avoids low high even)

def CaseRow.isSpaced (r : CaseRow) : Bool := Nat.beq r.step 2 || Nat.beq r.first r.last

theorem lowerRows_avoid_obstacles : (lowerRows.all fun r => Int.ble' 0 (r.first + r.shift)
    && avoidsAll (r.image r.first) (r.image r.last) r.isSpaced obstacles) = true := by
  decide +kernel

theorem CaseRow.covers_iff {r : CaseRow} {c : Nat} :
    r.covers c = true ↔ r.first ≤ c ∧ c ≤ r.last ∧ (c - r.first) % r.step = 0 := by
  simp [covers, and_assoc]

theorem not_covers_of_avoids {r row : CaseRow} {c : Nat} (covered : r.covers c = true)
    (positive : 0 ≤ r.first + r.shift)
    (avoided : avoids (r.image r.first) (r.image r.last) r.isSpaced row = true) :
    row.covers (r.image c) = false := by
  obtain ⟨above, below, aligned⟩ := CaseRow.covers_iff.mp covered
  simp only [avoids, CaseRow.isSpaced, Bool.or_eq_true, Bool.and_eq_true, Nat.blt_eq, Nat.beq_eq]
    at avoided
  rw [Bool.eq_false_iff]
  intro met
  obtain ⟨notBelow, notAbove, place⟩ := CaseRow.covers_iff.mp met
  simp only [CaseRow.image] at avoided notBelow notAbove place
  rcases avoided with (beyond | before) | ⟨⟨spaced, two⟩, odd⟩
  · omega
  · omega
  · rw [two] at place
    rcases spaced with step | single
    · rw [step] at aligned
      omega
    · omega

theorem not_mem_obstacles {c : Code} {row : CaseRow} {r : CaseRow} (listed : r ∈ lowerRows)
    (covered : r.covers c = true) (obstacle : row ∈ obstacles) : row.covers (r.image c) = false := by
  have checked := List.all_eq_true.mp lowerRows_avoid_obstacles r listed
  simp only [Bool.and_eq_true, avoidsAll, List.all_eq_true] at checked
  exact not_covers_of_avoids covered (by simpa [Int.ble'_eq_true] using checked.1)
    (checked.2 row obstacle)

theorem settled_of_not_covered {c : Code} (free : ∀ row ∈ lowerRows, row.covers c = false)
    (dotted : c ≠ 304) (sigma : c ≠ capitalSigma) : IsSettled c := by
  refine ⟨?_, sigma⟩
  have absent : lowerRows.find? (fun r => r.covers c) = none := by simpa using free
  simp [lowerForm, dotted, caseImage, absent]

theorem not_blank_of_not_covered {c : Code}
    (free : ∀ r ∈ blankRanges, CaseRow.covers ⟨r.1, r.2, 1, 0⟩ c = false) : isBlank c = false := by
  rw [isBlank, List.any_eq_false]
  intro r member
  simpa [CaseRow.covers, Nat.mod_one] using free r member

/-- The small sigmas, and what the dotted capital becomes. -/
theorem special_settled : ∀ c ∈ ([962, 963, 105, 775] : List Code),
    IsSettled c ∧ isBlank c = false := by
  decide +kernel

/-- What a character becomes is settled, and blank only if the character is. -/
theorem lowerIn_settled {before after : Text} {c d : Code} (member : d ∈ lowerIn before c after) :
    IsSettled d ∧ (isBlank c = false → isBlank d = false) := by
  simp only [lowerIn] at member
  split_ifs at member with sigma final
  · exact (special_settled d (by simp_all)).imp_right fun h _ => h
  · exact (special_settled d (by simp_all)).imp_right fun h _ => h
  · simp only [lowerForm] at member
    split_ifs at member with dotted
    · exact (special_settled d (by simp_all)).imp_right fun h _ => h
    · rw [List.mem_singleton] at member
      subst member
      rcases found : lowerRows.find? (fun r => r.covers c) with _ | r
      · have kept : caseImage lowerRows c = c := by simp [caseImage, found]
        rw [kept]
        exact ⟨settled_of_not_covered (by simpa using found) dotted sigma, id⟩
      · have image : caseImage lowerRows c = r.image c := by simp [caseImage, found]
        have listed := List.mem_of_find?_eq_some found
        have free (row : CaseRow) (obstacle : row ∈ obstacles) : row.covers (r.image c) = false :=
          not_mem_obstacles listed (by simpa using List.find?_some found) obstacle
        rw [image]
        refine ⟨settled_of_not_covered (fun row h => free row (by simp [obstacles, h])) ?_ ?_,
          fun _ => not_blank_of_not_covered fun range h => free _ ?_⟩
        · intro equal
          have := free ⟨304, 304, 1, 0⟩ (by simp [obstacles])
          simp [CaseRow.covers, equal] at this
        · intro equal
          have := free ⟨capitalSigma, capitalSigma, 1, 0⟩ (by simp [obstacles])
          simp [CaseRow.covers, equal] at this
        · simp only [obstacles, List.mem_append, List.mem_map]
          exact .inr ⟨range, h, rfl⟩

theorem lowerFrom_append (before out t : Text) :
    lowerFrom before out t = out.reverse ++ lowerFrom before [] t := by
  induction t generalizing before out with
  | nil => simp [lowerFrom]
  | cons c rest ih =>
    rw [lowerFrom, ih, lowerFrom, ih (c :: before) ((lowerIn before c rest).reverse ++ [])]
    simp

theorem lowerFrom_cons (before rest : Text) (c : Code) :
    lowerFrom before [] (c :: rest) = lowerIn before c rest ++ lowerFrom (c :: before) [] rest := by
  rw [lowerFrom, lowerFrom_append]
  simp

theorem lowerIn_ne_nil (before after : Text) (c : Code) : lowerIn before c after ≠ [] := by
  simp only [lowerIn, lowerForm]
  split_ifs <;> simp

theorem lowerForm_ascii : ∀ c < 128, c ≠ capitalSigma ∧
    lowerForm c = [if 65 ≤ c ∧ c ≤ 90 then c + 32 else c] := by
  decide +kernel

theorem lower_eq (t : Text) : lower t = lowerFrom [] [] t := by
  rw [lower]
  split_ifs with ascii
  · suffices ∀ before, lowerAscii t = lowerFrom before [] t from this []
    induction t with
    | nil => exact fun _ => rfl
    | cons c rest ih =>
      intro before
      simp only [List.all_cons, Bool.and_eq_true, decide_eq_true_eq] at ascii
      obtain ⟨sigma, form⟩ := lowerForm_ascii c ascii.1
      rw [lowerFrom_cons, ← ih ascii.2, lowerIn, if_neg sigma, form]
      rfl
  · rfl

theorem lowerFrom_settled {before t : Text} {d : Code} (member : d ∈ lowerFrom before [] t) :
    IsSettled d := by
  induction t generalizing before with
  | nil => simp [lowerFrom] at member
  | cons c rest ih =>
    rw [lowerFrom_cons, List.mem_append] at member
    rcases member with here | later
    · exact (lowerIn_settled here).1
    · exact ih later

theorem lower_settled {t : Text} {d : Code} (member : d ∈ lower t) : IsSettled d := by
  rw [lower_eq] at member
  exact lowerFrom_settled member

theorem lower_of_settled {t : Text} (settled : ∀ c ∈ t, IsSettled c) : lower t = t := by
  rw [lower_eq]
  suffices ∀ before, lowerFrom before [] t = t from this []
  induction t with
  | nil => exact fun _ => rfl
  | cons c rest ih =>
    intro before
    obtain ⟨here, later⟩ := List.forall_mem_cons.mp settled
    rw [lowerFrom_cons, ih later, lowerIn, if_neg here.2, here.1]
    rfl

/-- Neither end is a blank. -/
def IsTrimmed (t : Text) : Prop :=
  (∀ c ∈ t.head?, isBlank c = false) ∧ ∀ c ∈ t.getLast?, isBlank c = false

theorem strip_isTrimmed (t : Text) : IsTrimmed (strip t) := by
  change IsTrimmed ((t.dropWhile isBlank).rdropWhile isBlank)
  rcases kept : (t.dropWhile isBlank).rdropWhile isBlank with _ | ⟨c, rest⟩
  · simp [IsTrimmed]
  · have ends := List.rdropWhile_last_not isBlank (t.dropWhile isBlank) (by simp [kept])
    obtain ⟨rear, whole⟩ := List.rdropWhile_prefix isBlank (t.dropWhile isBlank)
    have first := List.head?_dropWhile_not isBlank t
    rw [← whole, kept] at first
    simp only [kept] at ends
    refine ⟨by simpa using first, fun d last => ?_⟩
    rw [List.getLast?_eq_some_getLast (by simp), Option.mem_some_iff] at last
    rw [← last]
    simpa using ends

theorem strip_of_isTrimmed {t : Text} (trimmed : IsTrimmed t) : strip t = t := by
  have front : t.dropWhile isBlank = t := by
    cases t with
    | nil => rfl
    | cons c rest => simp [trimmed.1 c rfl]
  change (t.dropWhile isBlank).rdropWhile isBlank = t
  rw [front, List.rdropWhile_eq_self_iff]
  intro nonempty
  simpa using trimmed.2 _ (List.getLast?_eq_some_getLast nonempty)

theorem strip_eq_self_iff {t : Text} : strip t = t ↔ IsTrimmed t := by
  refine ⟨fun same => ?_, strip_of_isTrimmed⟩
  rw [← same]
  exact strip_isTrimmed t

theorem mem_of_mem_strip {t : Text} {c : Code} (member : c ∈ strip t) : c ∈ t := by
  change c ∈ (t.dropWhile isBlank).rdropWhile isBlank at member
  exact (List.dropWhile_suffix isBlank).subset ((List.rdropWhile_prefix isBlank _).subset member)

theorem lowerFrom_concat (before init : Text) (c : Code) :
    ∃ front, lowerFrom before [] (init ++ [c]) = front ++ lowerIn (init.reverse ++ before) c [] := by
  induction init generalizing before with
  | nil => exact ⟨[], by simp [lowerFrom_cons, lowerFrom]⟩
  | cons d rest ih =>
    obtain ⟨front, whole⟩ := ih (d :: before)
    refine ⟨lowerIn before d (rest ++ [c]) ++ front, ?_⟩
    rw [List.cons_append, lowerFrom_cons, whole]
    simp

/-- Lower-casing keeps trimmed texts trimmed. -/
theorem lower_isTrimmed {t : Text} (trimmed : IsTrimmed t) : IsTrimmed (lower t) := by
  rw [lower_eq]
  constructor
  · intro d first
    cases t with
    | nil => cases first
    | cons c rest =>
      rw [lowerFrom_cons, List.head?_append_of_ne_nil _ (lowerIn_ne_nil [] rest c)] at first
      exact (lowerIn_settled (List.mem_of_mem_head? first)).2 (trimmed.1 c rfl)
  · intro d last
    rcases List.eq_nil_or_concat' t with rfl | ⟨init, c, rfl⟩
    · cases last
    · obtain ⟨front, whole⟩ := lowerFrom_concat [] init c
      rw [whole, List.getLast?_append_of_ne_nil _ (lowerIn_ne_nil _ [] c)] at last
      exact (lowerIn_settled (List.mem_of_getLast? last)).2 (trimmed.2 c (by simp))

end Phrasebook.Text
