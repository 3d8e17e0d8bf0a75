import Phrasebook.Text.Fill
import Phrasebook.Text.Search
import Mathlib.Tactic.SplitIfs
/-!
Lengths of texts that are filled up to a width, cleared of tabs, or changed by replacements.
-/
namespace Phrasebook.Text

variable (fill : Code) (width : Int) (t : Text)

theorem length_padRight : (padRight fill width t).length = max t.length width.toNat := by
  rw [padRight, List.length_append, List.length_replicate, fillGap]
  omega

theorem length_padLeft : (padLeft fill width t).length = max t.length width.toNat := by
  rw [padLeft, List.length_append, List.length_replicate, fillGap]
  omega

theorem length_center : (center fill width t).length = max t.length width.toNat := by
  have gap : fillGap t width = (width - t.length).toNat := rfl
  simp only [center, List.length_append, List.length_replicate]
  split_ifs with odd
  · have more := odd.1
    omega
  · omega

theorem length_zeroFill : (zeroFill width t).length = max t.length width.toNat := by
  have gap : fillGap t width = (width - t.length).toNat := rfl
  unfold zeroFill
  dsimp only
  split
  · rename_i c rest
    rw [List.length_cons] at gap ⊢
    split_ifs
    · rw [List.length_append, List.length_cons, List.length_replicate]
      omega
    · rw [List.length_append, List.length_replicate, List.length_cons]
      omega
  · rw [List.length_nil] at gap ⊢
    rw [List.length_replicate]
    omega

/-- A tab takes up to `size` places and all else one. -/
theorem length_tabsFrom_le (size : Int) (out : Text) (column : Nat) (t : Text) :
    (tabsFrom size out column t).length ≤ out.length + max 1 size.toNat * t.length := by
  induction t generalizing out column with
  | nil => simp [tabsFrom]
  | cons c rest ih =>
    rw [tabsFrom, List.length_cons, Nat.mul_succ]
    by_cases tab : c = 9
    · rw [if_pos tab]
      dsimp only
      -- the blanks up to the next stop
      generalize blanks : (if 0 < size then size.toNat - column % size.toNat else 0) = n
      have wide : n ≤ max 1 size.toNat := by
        rw [← blanks]
        split_ifs <;> omega
      have later := ih (List.replicate n 32 ++ out) (column + n)
      rw [List.length_append, List.length_replicate] at later
      omega
    · rw [if_neg tab]
      have later := ih (c :: out) (if c = 10 ∨ c = 13 then 0 else column + 1)
      rw [List.length_cons] at later
      omega

theorem length_expandTabs_le (size : Int) (t : Text) :
    (expandTabs size t).length ≤ max 1 size.toNat * t.length := by
  have bound := length_tabsFrom_le size [] 0 t
  rwa [List.length_nil, Nat.zero_add] at bound

theorem length_tabsFrom_tabs {size : Nat} (positive : 0 < size) (out : Text) {column : Nat}
    (stop : column % size = 0) (n : Nat) :
    (tabsFrom size out column (List.replicate n 9)).length = out.length + size * n := by
  induction n generalizing out column with
  | zero => simp [tabsFrom]
  | succ n ih =>
    have wide : (0 : Int) < size := Int.natCast_pos.mpr positive
    rw [List.replicate_succ, tabsFrom, if_pos rfl, if_pos wide, Int.toNat_natCast, stop, Nat.sub_zero,
      ih _ (by rw [Nat.add_mod_right, stop]), List.length_append, List.length_replicate, Nat.mul_succ]
    omega

theorem length_expandTabs_tabs {size : Nat} (positive : 0 < size) (n : Nat) :
    (expandTabs size (List.replicate n 9)).length = size * n := by
  rw [expandTabs, length_tabsFrom_tabs positive [] (Nat.zero_mod size) n, List.length_nil, Nat.zero_add]

/-- An occurrence of a text that is not empty takes the place of a character at least. -/
theorem length_replaceFrom_le {old : Text} (nonempty : old ≠ []) (new out : Text) (fuel left : Nat)
    (t : Text) :
    (replaceFrom old new out fuel left t).length ≤ out.length + t.length + t.length * new.length := by
  induction fuel generalizing out left t with
  | zero =>
    rw [replaceFrom, List.length_append, List.length_reverse]
    omega
  | succ fuel ih =>
    cases left with
    | zero =>
      rw [replaceFrom, List.length_append, List.length_reverse]
      omega
    | succ left =>
      cases t with
      | nil => simp [replaceFrom]
      | cons c rest =>
        rw [replaceFrom, List.length_cons, Nat.succ_mul]
        split_ifs with found
        · have later := ih (new.reverse ++ out) left ((c :: rest).drop old.length)
          have taken : 0 < old.length := List.length_pos_iff.mpr nonempty
          have less : ((c :: rest).drop old.length).length ≤ rest.length := by
            rw [List.length_drop, List.length_cons]
            omega
          have share := Nat.mul_le_mul_right new.length less
          rw [List.length_append, List.length_reverse] at later
          omega
        · have later := ih (c :: out) (left + 1) rest
          rw [List.length_cons] at later
          omega

theorem length_fronts_le (new : Text) (n : Nat) (t : Text) (place : Nat) :
    ((t.zipIdx place).map fun e => if e.2 < n then new ++ [e.1] else [e.1]).flatten.length ≤
      t.length + t.length * new.length := by
  induction t generalizing place with
  | nil => simp
  | cons c rest ih =>
    have later := ih (place + 1)
    rw [List.zipIdx_cons, List.map_cons, List.flatten_cons, List.length_append, List.length_cons,
      Nat.succ_mul]
    split_ifs
    · rw [List.length_append, List.length_singleton]
      omega
    · rw [List.length_singleton]
      omega

theorem length_replace_le (old new : Text) (limit : Option Nat) (t : Text) :
    (replace old new limit t).length ≤ t.length + (t.length + 1) * new.length := by
  rw [Nat.succ_mul]
  unfold replace
  dsimp only
  split_ifs with empty last
  · rw [List.length_append]
    have bound := length_fronts_le new (limit.getD (t.length + 1)) t 0
    omega
  · have bound := length_fronts_le new (limit.getD (t.length + 1)) t 0
    rw [List.append_nil]
    omega
  · have bound := length_replaceFrom_le (fun none => empty (List.isEmpty_iff.mpr none)) new []
      (t.length + 1) (limit.getD (t.length + 1)) t
    rw [List.length_nil] at bound
    rw [replaceSome]
    omega

end Phrasebook.Text
