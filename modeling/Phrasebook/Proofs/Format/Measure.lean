import Phrasebook.Format.Printf
import Phrasebook.Proofs.Limits.Check
import Phrasebook.Proofs.Outcome
import Phrasebook.Proofs.Text.Numeral
import Mathlib.Data.List.Basic
import Mathlib.Tactic.SplitIfs
/-!
The search for the measures of a template. A key ends for it with the first closing parenthesis, but
where parentheses nest it comes back into step at the end of the key, having searched the rest of it.
-/
namespace Phrasebook

/-- One text is what remains of another behind characters that are no percent signs. -/
def Text.Ahead (t u : Text) : Prop := ∃ front, 37 ∉ front ∧ t = front ++ u

namespace Text.Ahead

variable {t u v : Text} {c : Code}

theorem refl (t : Text) : Ahead t t := ⟨[], List.not_mem_nil, rfl⟩

theorem trans (first : Ahead t u) (second : Ahead u v) : Ahead t v := by
  obtain ⟨front, free, rfl⟩ := first
  obtain ⟨between, alsoFree, rfl⟩ := second
  exact ⟨front ++ between, by simp [free, alsoFree], by simp⟩

theorem cons (other : c ≠ 37) (rest : Ahead t u) : Ahead (c :: t) u := by
  obtain ⟨front, free, rfl⟩ := rest
  exact ⟨c :: front, by simp [free, other.symm], rfl⟩

theorem dropWhile {p : Code → Bool} (stops : p 37 = false) (t : Text) :
    Ahead t (t.dropWhile p) := by
  refine ⟨t.takeWhile p, fun member => ?_, List.takeWhile_append_dropWhile.symm⟩
  have passes := List.all_takeWhile (p := p) (l := t)
  rw [List.all_eq_true] at passes
  rw [passes 37 member] at stops
  cases stops

theorem suffix (ahead : Ahead t u) : u <:+ t := by
  obtain ⟨front, -, rfl⟩ := ahead
  exact List.suffix_append front u

end Text.Ahead

namespace Limits

open Text (Ahead)
open Printf (keyFrom)

variable {t rest : Text} {c : Code}

theorem not_isDecimal_percent : Text.isDecimal 37 = false := by decide +kernel

theorem measure_ahead (t : Text) : Ahead t (measure t).2 := by
  unfold measure
  split
  · exact .cons (by decide) (.refl _)
  · dsimp only
    split_ifs
    · exact .refl _
    · exact .dropWhile not_isDecimal_percent _

section
variable {width : Option Measure} {u : Text}

theorem measures_of_other (found : measure ((dropKey t).dropWhile isFlag) = (width, u))
    (other : u.head? ≠ some 46) : measures t = (width.toList, u) := by
  unfold measures
  simp only [found]
  split
  · exact absurd rfl other
  · rfl

theorem measures_of_point (found : measure ((dropKey t).dropWhile isFlag) = (width, 46 :: u)) :
    measures t = match (measure u).1 with
      | some precision => (width.toList ++ [precision], (measure u).2)
      | none => (width.toList, 46 :: u) := by
  unfold measures
  simp only [found]
  rcases measure u with ⟨_ | precision, rest⟩ <;> rfl

theorem mem_measures_width {x : Measure}
    (found : measure ((dropKey t).dropWhile isFlag) = (some x, u)) : x ∈ (measures t).1 := by
  by_cases point : u.head? = some 46
  · obtain ⟨rest, rfl⟩ := List.head?_eq_some_iff.mp point
    rw [measures_of_point found]
    cases (measure rest).1 <;> simp
  · rw [measures_of_other found point]
    simp

theorem mem_measures_precision {x : Measure}
    (found : measure ((dropKey t).dropWhile isFlag) = (width, 46 :: u))
    (next : (measure u).1 = some x) : x ∈ (measures t).1 := by
  rw [measures_of_point found, next]
  simp

end

theorem measures_ahead (t : Text) : Ahead (dropKey t) (measures t).2 := by
  have flags : Ahead (dropKey t) ((dropKey t).dropWhile isFlag) := .dropWhile (by decide) _
  have behind := flags.trans (measure_ahead _)
  rcases found : measure ((dropKey t).dropWhile isFlag) with ⟨width, u⟩
  rw [found] at behind
  by_cases point : u.head? = some 46
  · obtain ⟨rest, rfl⟩ := List.head?_eq_some_iff.mp point
    rw [measures_of_point found]
    split
    · exact behind.trans (.cons (by decide) (measure_ahead rest))
    · exact behind
  · rw [measures_of_other found point]
    exact behind

theorem dropKey_suffix (t : Text) : dropKey t <:+ t := by
  unfold dropKey
  split
  · rename_i rest
    have dropped := List.dropWhile_suffix (l := rest) (· != 41)
    split
    · rename_i behind found
      rw [found] at dropped
      exact (List.suffix_cons _ behind).trans (dropped.trans (List.suffix_cons _ rest))
    · exact List.suffix_rfl
  · exact List.suffix_rfl

theorem measures_suffix (t : Text) : (measures t).2 <:+ t :=
  (measures_ahead t).suffix.trans (dropKey_suffix t)

theorem measuresFrom_percent {n : Nat} (single : t.head? ≠ some 37) :
    measuresFrom (n + 1) (37 :: t) = (measures t).1 ++ measuresFrom n (measures t).2 := by
  cases t with
  | nil => simp [measuresFrom]
  | cons c rest =>
    have other : c ≠ 37 := fun same => single (by simp [same])
    simp [measuresFrom, other]

theorem measuresFrom_other {n : Nat} (other : c ≠ 37) :
    measuresFrom (n + 1) (c :: t) = measuresFrom n t := by
  simp [measuresFrom, other]

/-- The search has steps enough. -/
theorem measuresFrom_congr {m n : Nat} (enough : t.length < m) (also : t.length < n) :
    measuresFrom m t = measuresFrom n t := by
  induction m generalizing n t with
  | zero => omega
  | succ m ih =>
    obtain ⟨n, rfl⟩ : ∃ k, n = k + 1 := ⟨n - 1, by omega⟩
    cases t with
    | nil => rfl
    | cons c rest =>
      simp only [List.length_cons] at enough also
      by_cases percent : c = 37
      · subst percent
        by_cases doubled : rest.head? = some 37
        · obtain ⟨behind, rfl⟩ := List.head?_eq_some_iff.mp doubled
          simp only [List.length_cons] at enough also
          simp only [measuresFrom]
          exact ih (by omega) (by omega)
        · have shorter := (measures_suffix rest).length_le
          rw [measuresFrom_percent doubled, measuresFrom_percent doubled]
          exact congrArg _ (ih (by omega) (by omega))
      · rw [measuresFrom_other percent, measuresFrom_other percent]
        exact ih (by omega) (by omega)

theorem templateMeasures_doubled (rest : Text) :
    templateMeasures (37 :: 37 :: rest) = templateMeasures rest := by
  unfold templateMeasures
  simp only [List.length_cons, measuresFrom]
  exact measuresFrom_congr (by omega) (by omega)

theorem templateMeasures_other (other : c ≠ 37) :
    templateMeasures (c :: t) = templateMeasures t := by
  unfold templateMeasures
  rw [List.length_cons, measuresFrom_other other]

theorem templateMeasures_ahead {u : Text} (ahead : Ahead t u) :
    templateMeasures t = templateMeasures u := by
  obtain ⟨front, free, rfl⟩ := ahead
  induction front with
  | nil => rfl
  | cons c front ih =>
    obtain ⟨other, free⟩ : 37 ≠ c ∧ 37 ∉ front := by simpa using free
    rw [List.cons_append, templateMeasures_other other.symm, ih free]

/-- At a percent sign that is not doubled the search goes on behind the key. -/
theorem templateMeasures_percent (single : t.head? ≠ some 37) :
    templateMeasures (37 :: t) = (measures t).1 ++ templateMeasures (dropKey t) := by
  have shorter := (measures_suffix t).length_le
  rw [templateMeasures_ahead (measures_ahead t)]
  unfold templateMeasures
  rw [List.length_cons, measuresFrom_percent single]
  exact congrArg _ (measuresFrom_congr (by omega) (by omega))

/-- What the search sees of a byte. -/
def seen (c : Nat) : Nat := if c < 128 then c else 0xfffd

theorem asciiText_eq (bs : List UInt8) : asciiText bs = (bs.map (·.toNat)).map seen := by
  simp [asciiText, seen]

theorem isDecimal_seen : ∀ c : Nat, c < 256 → Text.isDecimal (seen c) = Text.isDecimal c := by
  decide +kernel

theorem seen_of_isDecimal : ∀ c : Nat, c < 256 → Text.isDecimal c = true → seen c = c := by
  decide +kernel

theorem seen_eq_iff {c x : Nat} (ascii : x < 128) : seen c = x ↔ c = x := by
  unfold seen
  split_ifs <;> omega

theorem isFlag_seen (c : Nat) : isFlag (seen c) = isFlag c := by
  have others (x : Nat) (ascii : x < 128) : (seen c == x) = (c == x) := by
    rw [Bool.eq_iff_iff, beq_iff_eq, beq_iff_eq, seen_eq_iff ascii]
  unfold isFlag
  simp only [List.contains_cons, List.contains_nil]
  rw [others 45 (by decide), others 35 (by decide), others 48 (by decide), others 32 (by decide),
    others 43 (by decide)]

theorem while_seen {p : Code → Bool} {t : Text} (same : ∀ c ∈ t, p (seen c) = p c) :
    (t.map seen).takeWhile p = (t.takeWhile p).map seen ∧
      (t.map seen).dropWhile p = (t.dropWhile p).map seen := by
  induction t with
  | nil => exact ⟨rfl, rfl⟩
  | cons c t ih =>
    obtain ⟨here, later⟩ := List.forall_mem_cons.mp same
    obtain ⟨taken, dropped⟩ := ih later
    simp only [List.map_cons, List.takeWhile_cons, List.dropWhile_cons, here, taken, dropped]
    split_ifs <;> simp

def AreBytes (t : Text) : Prop := ∀ c ∈ t, (c : Nat) < 256

theorem AreBytes.suffix {t u : Text} (bytes : AreBytes t) (suffix : u <:+ t) : AreBytes u :=
  fun c member => bytes c (suffix.subset member)

theorem head_seen_iff {x : Nat} (ascii : x < 128) :
    (t.map seen).head? = some x ↔ t.head? = some x := by
  cases t with
  | nil => simp
  | cons c rest => simp [seen_eq_iff ascii]

theorem measure_other {t : Text} (other : t.head? ≠ some 42) : measure t =
    if (t.takeWhile Text.isDecimal).isEmpty then (none, t)
    else (some (.digits (t.takeWhile Text.isDecimal)), t.dropWhile Text.isDecimal) := by
  unfold measure
  split
  · exact absurd rfl other
  · rfl

theorem measure_seen {t : Text} (bytes : AreBytes t) :
    measure (t.map seen) = ((measure t).1, (measure t).2.map seen) := by
  by_cases star : t.head? = some 42
  · obtain ⟨rest, rfl⟩ := List.head?_eq_some_iff.mp star
    rfl
  · have other : (t.map seen).head? ≠ some 42 := fun same =>
      star ((head_seen_iff (by decide)).mp same)
    obtain ⟨taken, dropped⟩ := while_seen (p := Text.isDecimal) fun c member =>
      isDecimal_seen c (bytes c member)
    have fixed : (t.takeWhile Text.isDecimal).map seen = t.takeWhile Text.isDecimal := by
      have same : ∀ c ∈ t.takeWhile Text.isDecimal, seen c = id c := fun c member =>
        seen_of_isDecimal c (bytes c ((List.takeWhile_prefix _).subset member))
          (List.all_eq_true.mp List.all_takeWhile c member)
      rw [List.map_congr_left same, List.map_id]
    rw [measure_other star, measure_other other, taken, dropped, fixed]
    split_ifs <;> rfl

theorem dropKey_seen (t : Text) : dropKey (t.map seen) = (dropKey t).map seen := by
  cases t with
  | nil => rfl
  | cons c rest =>
    by_cases opening : c = 40
    · subst opening
      have dropped := (while_seen (p := (· != 41)) (t := rest) fun c _ => by
        rw [Bool.eq_iff_iff, bne_iff_ne, bne_iff_ne, ne_eq, ne_eq, seen_eq_iff (by decide)]).2
      change dropKey (40 :: rest.map seen) = _
      simp only [dropKey, dropped]
      cases rest.dropWhile (· != 41) <;> rfl
    · have other : seen c ≠ 40 := fun same => opening ((seen_eq_iff (by decide)).mp same)
      simp [dropKey, opening, other]

theorem measures_seen {t : Text} (bytes : AreBytes t) :
    measures (t.map seen) = ((measures t).1, (measures t).2.map seen) := by
  have flags := (while_seen (p := isFlag) (t := dropKey t) fun c _ => isFlag_seen c).2
  have behindFlags := (bytes.suffix (dropKey_suffix t)).suffix (List.dropWhile_suffix isFlag)
  have behindWidth := behindFlags.suffix (measure_ahead _).suffix
  have look := measure_seen behindFlags
  rw [← flags, ← dropKey_seen] at look
  rcases found : measure ((dropKey t).dropWhile isFlag) with ⟨width, u⟩
  rw [found] at look behindWidth
  by_cases point : u.head? = some 46
  · obtain ⟨rest, rfl⟩ := List.head?_eq_some_iff.mp point
    rw [measures_of_point look, measures_of_point found,
      measure_seen (behindWidth.suffix (List.suffix_cons 46 rest))]
    cases (measure rest).1 <;> rfl
  · rw [measures_of_other look fun same => point ((head_seen_iff (by decide)).mp same),
      measures_of_other found point]

theorem measuresFrom_seen {t : Text} (n : Nat) (bytes : AreBytes t) :
    measuresFrom n (t.map seen) = measuresFrom n t := by
  induction n generalizing t with
  | zero => rfl
  | succ n ih =>
    cases t with
    | nil => rfl
    | cons c rest =>
      have later := bytes.suffix (List.suffix_cons c rest)
      by_cases percent : c = 37
      · subst percent
        by_cases doubled : rest.head? = some 37
        · obtain ⟨behind, rfl⟩ := List.head?_eq_some_iff.mp doubled
          exact ih (later.suffix (List.suffix_cons 37 behind))
        · have single : (rest.map seen).head? ≠ some 37 := fun same =>
            doubled ((head_seen_iff (by decide)).mp same)
          change measuresFrom (n + 1) (37 :: rest.map seen) = _
          rw [measuresFrom_percent single, measuresFrom_percent doubled, measures_seen later,
            ih (later.suffix (measures_suffix rest))]
      · have other : seen c ≠ 37 := fun same => percent ((seen_eq_iff (by decide)).mp same)
        rw [List.map_cons, measuresFrom_other other, measuresFrom_other percent, ih later]

/-- The search finds the same in bytes as in the text that stands for them. -/
theorem templateMeasures_asciiText (bs : List UInt8) :
    templateMeasures (asciiText bs) = templateMeasures (bs.map (·.toNat)) := by
  have bytes : AreBytes (bs.map (·.toNat)) := by
    intro c member
    obtain ⟨b, -, rfl⟩ := List.mem_map.mp member
    exact b.toNat_lt
  unfold templateMeasures
  rw [asciiText_eq, measuresFrom_seen _ bytes, List.length_map]

/-- A text stands inside a key, of which another is behind the end. -/
def Inside (t rest : Text) : Prop := ∃ key level whole, keyFrom key level t = some (whole, rest)

theorem Inside.step (inside : Inside (c :: t) rest) : c = 41 ∧ rest = t ∨ Inside t rest := by
  obtain ⟨key, level, whole, closes⟩ := inside
  unfold keyFrom at closes
  split_ifs at closes with closing outermost
  · cases closes
    exact .inl ⟨closing, rfl⟩
  · exact .inr ⟨_, _, _, closes⟩
  · exact .inr ⟨_, _, _, closes⟩
  · exact .inr ⟨_, _, _, closes⟩

/-- The first closing parenthesis in parentheses inside a key is not the end of the key. -/
theorem inside_of_nested {key whole : Text} {level : Nat}
    (closes : keyFrom key (level + 1) t = some (whole, rest)) :
    ∃ behind, t.dropWhile (· != 41) = 41 :: behind ∧ Inside behind rest := by
  induction t generalizing key level with
  | nil => cases closes
  | cons c t ih =>
    unfold keyFrom at closes
    split_ifs at closes with closing outermost opening
    · cases outermost
    · exact ⟨t, by simp [closing], _, _, _, closes⟩
    · obtain ⟨behind, first, inside⟩ := ih closes
      exact ⟨behind, by simp [closing, first], inside⟩
    · obtain ⟨behind, first, inside⟩ := ih closes
      exact ⟨behind, by simp [closing, first], inside⟩

theorem inside_dropKey (inside : Inside t rest) : Inside (dropKey t) rest := by
  unfold dropKey
  split
  · rename_i t
    obtain ⟨key, level, whole, closes⟩ := inside
    simp only [keyFrom, Nat.reduceEqDiff, ↓reduceIte] at closes
    obtain ⟨behind, first, inside⟩ := inside_of_nested closes
    rw [first]
    exact inside
  · exact inside

theorem mem_of_keyFrom {key whole : Text} {level : Nat} (member : c ∈ key)
    (closes : keyFrom key level t = some (whole, rest)) : c ∈ whole := by
  induction t generalizing key level with
  | nil => cases closes
  | cons d t ih =>
    unfold keyFrom at closes
    split_ifs at closes
    · cases closes
      exact List.mem_reverse.mpr member
    · exact ih (.tail _ member) closes
    · exact ih (.tail _ member) closes
    · exact ih (.tail _ member) closes

/-- Where no parentheses nest in a key, it ends for the search where it ends. -/
theorem dropKey_of_keyFrom {key : Text} (closes : keyFrom [] 0 t = some (key, rest)) :
    dropKey (40 :: t) = rest ∨ 40 ∈ key ∧ Inside (dropKey (40 :: t)) rest := by
  -- Of any front part of the key: the induction moves characters there.
  suffices either : ∀ front, keyFrom front 0 t = some (key, rest) →
      ∃ behind, t.dropWhile (· != 41) = 41 :: behind ∧
        (behind = rest ∨ 40 ∈ key ∧ Inside behind rest) by
    obtain ⟨behind, first, either⟩ := either [] closes
    simp only [dropKey, first]
    exact either
  clear closes
  induction t with
  | nil => exact fun _ closes => by cases closes
  | cons c t ih =>
    intro front closes
    unfold keyFrom at closes
    split_ifs at closes with closing outermost opening
    · obtain ⟨-, rfl⟩ := Prod.mk.inj (Option.some.inj closes)
      exact ⟨t, by simp [closing], .inl rfl⟩
    · exact absurd rfl outermost
    · obtain ⟨behind, first, inside⟩ := inside_of_nested closes
      refine ⟨behind, by simp [closing, first], .inr ⟨?_, inside⟩⟩
      exact mem_of_keyFrom (opening ▸ List.mem_cons_self) closes
    · obtain ⟨behind, first, either⟩ := ih _ closes
      exact ⟨behind, by simp [closing, first], either⟩

/-- The search that begins inside a key finds what a search behind its end finds. -/
theorem templateMeasures_subset (inside : Inside t rest) :
    templateMeasures rest ⊆ templateMeasures t := by
  -- On the length, since the search jumps over keys that it finds inside the key.
  induction n : t.length using Nat.strongRecOn generalizing t with
  | ind n ih =>
    subst n
    cases t with
    | nil =>
      obtain ⟨_, _, _, closes⟩ := inside
      cases closes
    | cons c t =>
      by_cases percent : c = 37
      · subst percent
        have inside : Inside t rest := inside.step.resolve_left (by simp)
        by_cases doubled : t.head? = some 37
        · obtain ⟨behind, rfl⟩ := List.head?_eq_some_iff.mp doubled
          have inside : Inside behind rest := inside.step.resolve_left (by simp)
          rw [templateMeasures_doubled]
          exact ih _ (by simp only [List.length_cons]; omega) inside rfl
        · have shorter := (dropKey_suffix t).length_le
          rw [templateMeasures_percent doubled]
          exact List.subset_append_of_subset_right _
            (ih _ (by simp only [List.length_cons]; omega) (inside_dropKey inside) rfl)
      · rw [templateMeasures_other percent]
        rcases inside.step with ⟨-, rfl⟩ | inside
        · exact List.Subset.refl _
        · exact ih _ (by simp) inside rfl

theorem decimalValue_ascii (c : Nat) (digit : 48 ≤ c ∧ c ≤ 57) :
    Text.decimalValue? c = some (c - 48) := by
  have each : ∀ d : Nat, d < 10 → Text.decimalValue? (48 + d) = some d := by decide +kernel
  obtain ⟨low, high⟩ := digit
  obtain ⟨d, rfl⟩ := Nat.exists_eq_add_of_le low
  rw [each d (by omega), Nat.add_sub_cancel_left]

theorem takeWhile_eq {p q : Code → Bool} (stronger : ∀ c, p c = true → q c = true)
    (stops : ∀ d, (t.dropWhile p).head? = some d → q d = false) :
    t.takeWhile q = t.takeWhile p ∧ t.dropWhile q = t.dropWhile p := by
  induction t with
  | nil => exact ⟨rfl, rfl⟩
  | cons c t ih =>
    by_cases here : p c = true
    · rw [List.dropWhile_cons_of_pos here] at stops
      obtain ⟨taken, dropped⟩ := ih stops
      simp [here, stronger c here, taken, dropped]
    · rw [List.dropWhile_cons_of_neg here] at stops
      have stop : q c = false := stops c rfl
      simp [here, stop]

theorem decimalNumeral_ascii {run : Text} (digits : ∀ c ∈ run, 48 ≤ c ∧ c ≤ 57)
    (nonempty : run ≠ []) :
    Text.decimalNumeral? run = some (run.foldl (fun n c => n * 10 + (c - 48)) 0) := by
  have decimal : ∀ c ∈ run, Text.isDecimal c = true := fun c member => by
    rw [Text.isDecimal, decimalValue_ascii c (digits c member), Option.isSome_some]
  rw [Text.decimalNumeral?_of_isNumeral ⟨nonempty, decimal⟩]
  refine congrArg some (List.foldl_ext _ _ _ fun n c member => ?_)
  rw [decimalValue_ascii c (digits c member), Option.getD_some]

/-- The search reads a numeral as a conversion does, unless digits of another script follow. -/
theorem measure_asciiNumeral (starts : 48 ≤ c ∧ c ≤ 57)
    (stops : ∀ d, (Printf.asciiNumeral (c :: t)).2.head? = some d → Text.isDecimal d = false) :
    ∃ run, measure (c :: t) = (some (.digits run), (Printf.asciiNumeral (c :: t)).2) ∧
      Text.decimalNumeral? run = some (Printf.asciiNumeral (c :: t)).1 := by
  unfold Printf.asciiNumeral at stops ⊢
  dsimp only at stops ⊢
  have stronger (d : Code) (digit : (48 ≤ d && d ≤ 57) = true) : Text.isDecimal d = true := by
    simp only [Bool.and_eq_true, decide_eq_true_eq] at digit
    rw [Text.isDecimal, decimalValue_ascii d digit]
    rfl
  obtain ⟨taken, dropped⟩ := takeWhile_eq stronger stops
  have first : (48 ≤ c && c ≤ 57) = true := by simpa using starts
  have nonempty : (c :: t).takeWhile Text.isDecimal ≠ [] := by simp [stronger c first]
  refine ⟨(c :: t).takeWhile Text.isDecimal, ?_, ?_⟩
  · unfold measure
    split
    · rename_i star
      rw [(List.cons.inj star).1] at starts
      exact absurd starts.1 (by decide)
    · dsimp only
      rw [if_neg (by simpa using nonempty), dropped]
  · have digits : ∀ d ∈ (c :: t).takeWhile Text.isDecimal, 48 ≤ d ∧ d ≤ 57 := by
      intro d member
      rw [taken] at member
      have all := List.all_takeWhile (p := fun c : Code => 48 ≤ c && c ≤ 57) (l := c :: t)
      simpa using List.all_eq_true.mp all d member
    rw [decimalNumeral_ascii digits nonempty, taken]

theorem forM_eq_ok {α : Type} {check : α → Except Fault Unit} {xs : List α}
    (passed : xs.forM check = .ok ()) : ∀ x ∈ xs, check x = .ok () := by
  induction xs with
  | nil => exact fun _ member => by cases member
  | cons x rest ih =>
    obtain ⟨_, first, later⟩ := Outcome.bind_eq_ok.mp passed
    exact List.forall_mem_cons.mpr ⟨first, ih later⟩

theorem queue_ofValue (isBytes : Bool) (v : Value) :
    (Printf.Arguments.ofValue isBytes v).queue = match v with
      | .tuple items _ => items
      | v => [v] := by
  cases v <;> rfl

/-- What a passed check says of the numerals of a template, and of the arguments if there are stars. -/
theorem checkPrintf_ok {template : Text} {values : Value}
    (passed : checkPrintf template values = .ok ()) :
    (∀ run n, .digits run ∈ templateMeasures template → Text.decimalNumeral? run = some n →
      n ≤ maxLength) ∧
    (.star ∈ templateMeasures template →
      ∀ isBytes, ∀ v ∈ (Printf.Arguments.ofValue isBytes values).queue, ∀ n, v.int? = some n →
        n.natAbs ≤ maxLength) := by
  obtain ⟨_, numerals, stars⟩ := Outcome.bind_eq_ok.mp passed
  constructor
  · intro run n member read
    have passed := forM_eq_ok numerals _ member
    obtain ⟨m, shown, short⟩ := Outcome.bind_eq_ok.mp passed
    unfold readNumeral at shown
    split_ifs at shown
    rw [read] at shown
    cases shown
    exact Int.ofNat_le.mp (le_of_checkLength short)
  · intro member isBytes v queued n whole
    have starred : (templateMeasures template).any isStar = true :=
      List.any_eq_true.mpr ⟨_, member, rfl⟩
    rw [if_pos starred] at stars
    rw [queue_ofValue] at queued
    have passed := forM_eq_ok stars _ queued
    rw [whole] at passed
    exact Int.ofNat_le.mp (le_of_checkLength passed)

end Limits
end Phrasebook
