import Phrasebook.Template.Segment
import Mathlib.Tactic.SplitIfs
/-!
The search for the end of a span, as a machine that reads one character at a time, and the bodies
that it reads from end to end wherever they stand.
-/
namespace Phrasebook.Segment

/-- Outside quotation marks, after an opening one, or after a backslash behind that. -/
inductive Mode where
  | plain
  | quoted (mark : Code)
  | escaped (mark : Code)

/-- What a character makes of the number of open braces and the mode; `none` at the end. -/
def feed : Nat × Mode → Code → Option (Nat × Mode)
  | (depth, .escaped q), _ => some (depth, .quoted q)
  | (depth, .quoted q), c =>
    some (depth, if c = 92 then .escaped q else if c = q then .plain else .quoted q)
  | (depth, .plain), c =>
    if isQuote c then some (depth, .quoted c)
    else if c = 123 then some (depth + 1, .plain)
    else if c = 125 then
      match depth with
      | 0 => none
      | depth + 1 => some (depth, .plain)
    else some (depth, .plain)

def scan (s : Nat × Mode) (t : Text) : Option (Nat × Mode) := t.foldlM feed s

variable {s : Nat × Mode} {c q : Code} {t u b rest : Text} {depth : Nat}

@[simp] theorem scan_nil : scan s [] = some s := rfl

theorem scan_cons : scan s (c :: t) = (feed s c).bind fun s => scan s t := rfl

theorem scan_append : scan s (t ++ u) = (scan s t).bind fun s => scan s u :=
  List.foldlM_append

/-- Neither a quotation mark nor a brace. -/
def IsPlain (c : Code) : Prop := isQuote c = false ∧ c ≠ 123 ∧ c ≠ 125

instance (c : Code) : Decidable (IsPlain c) := inferInstanceAs (Decidable (_ ∧ _ ∧ _))

theorem feed_plain (isPlain : IsPlain c) : feed (depth, .plain) c = some (depth, .plain) := by
  obtain ⟨mark, opening, closing⟩ := isPlain
  simp [feed, mark, opening, closing]

theorem scan_plain (allPlain : ∀ c ∈ t, IsPlain c) :
    scan (depth, .plain) t = some (depth, .plain) := by
  induction t with
  | nil => rfl
  | cons c rest ih =>
    obtain ⟨here, later⟩ := List.forall_mem_cons.mp allPlain
    rw [scan_cons, feed_plain here]
    exact ih later

namespace Mode

def quote? : Mode → Option Code
  | plain => none
  | quoted q | escaped q => some q

/-- What has been read but not decided. -/
def pending : Mode → Text
  | escaped _ => [92]
  | _ => []

end Mode

theorem spanFrom_quoted (noBackslash : c ≠ 92) : spanFrom depth (some q) b (c :: t) =
    spanFrom depth (if c = q then none else some q) (c :: b) t := by
  rw [spanFrom.eq_def]
  exact if_neg noBackslash

theorem spanFrom_plain : spanFrom depth none b (c :: t) =
    if isQuote c then spanFrom depth (some c) (c :: b) t
    else if c = 123 then spanFrom (depth + 1) none (c :: b) t
    else if c = 125 then
      match depth with
      | 0 => some (b.reverse, t)
      | depth + 1 => spanFrom depth none (c :: b) t
    else spanFrom depth none (c :: b) t :=
  (spanFrom.eq_def depth none b (c :: t)).trans rfl

/-- A span ends at the first brace at which the machine has nothing open. -/
theorem spanFrom_of_scan {mode : Mode} (read : scan (depth, mode) t = some (0, .plain)) :
    spanFrom depth mode.quote? b (mode.pending ++ (t ++ 125 :: rest)) =
      some (b.reverse ++ (mode.pending ++ t), rest) := by
  induction t generalizing depth mode b with
  | nil =>
    cases read
    simp [Mode.quote?, Mode.pending, spanFrom, isQuote]
  | cons c t ih =>
    obtain ⟨⟨depth', mode'⟩, fed, read⟩ := Option.bind_eq_some_iff.mp read
    cases mode with
    | escaped q =>
      cases fed
      simpa [Mode.pending, Mode.quote?, spanFrom] using ih (b := c :: 92 :: b) read
    | quoted q =>
      cases fed
      by_cases backslash : c = 92
      · subst backslash
        exact ih read
      · simp only [if_neg backslash] at read
        refine (spanFrom_quoted backslash).trans ?_
        split_ifs at read ⊢
        · simpa [Mode.pending, Mode.quote?] using ih (b := c :: b) read
        · simpa [Mode.pending, Mode.quote?] using ih (b := c :: b) read
    | plain =>
      refine spanFrom_plain.trans ?_
      simp only [feed] at fed
      split_ifs at fed ⊢ with mark opening closing
      · cases fed
        simpa [Mode.pending, Mode.quote?] using ih (b := c :: b) read
      · cases fed
        simpa [Mode.pending, Mode.quote?] using ih (b := c :: b) read
      · cases depth with
        | zero => cases fed
        | succ depth =>
          cases fed
          simpa [Mode.pending, Mode.quote?] using ih (b := c :: b) read
      · cases fed
        simpa [Mode.pending, Mode.quote?] using ih (b := c :: b) read

/-- Quoted text up to a quotation mark; a backslash quotes the character behind it. -/
inductive Quoted (q : Code) : Text → Prop
  | nil : Quoted q []
  | char {c : Code} {t : Text} (other : c ≠ q) (noBackslash : c ≠ 92) (rest : Quoted q t) :
      Quoted q (c :: t)
  | escaped {c : Code} {t : Text} (rest : Quoted q t) : Quoted q (92 :: c :: t)

/-- Texts in which quotation marks come in pairs, and so do the braces outside of them. -/
inductive Body : Text → Prop
  | nil : Body []
  | char {c : Code} {t : Text} (isPlain : IsPlain c) (rest : Body t) : Body (c :: t)
  | braces {t u : Text} (inner : Body t) (rest : Body u) : Body (123 :: (t ++ 125 :: u))
  | quotes {q : Code} {t u : Text} (isMark : isQuote q = true) (inner : Quoted q t)
      (rest : Body u) : Body (q :: (t ++ q :: u))

theorem Body.after_plain (isBody : Body u) (allPlain : ∀ c ∈ t, IsPlain c) : Body (t ++ u) := by
  induction t with
  | nil => exact isBody
  | cons c rest ih =>
    obtain ⟨here, later⟩ := List.forall_mem_cons.mp allPlain
    exact .char here (ih later)

theorem scan_quoted (inner : Quoted q t) (noBackslash : q ≠ 92) :
    scan (depth, .quoted q) (t ++ [q]) = some (depth, .plain) := by
  induction inner with
  | nil => simp [scan_cons, feed, noBackslash]
  | char other plain rest ih =>
    rw [List.cons_append, scan_cons]
    simpa [feed, other, plain] using ih
  | escaped rest ih =>
    rw [List.cons_append, List.cons_append, scan_cons]
    simpa [feed, scan_cons] using ih

theorem not_backslash_of_isQuote (isMark : isQuote q = true) : q ≠ 92 := by
  rintro rfl
  cases isMark

theorem scan_body (isBody : Body t) : scan (depth, .plain) t = some (depth, .plain) := by
  induction isBody generalizing depth with
  | nil => rfl
  | char isPlain rest ih =>
    rw [scan_cons, feed_plain isPlain]
    exact ih
  | braces inner rest inside after =>
    have opened : feed (depth, .plain) 123 = some (depth + 1, .plain) := rfl
    have closed : feed (depth + 1, .plain) 125 = some (depth, .plain) := rfl
    rw [scan_cons, opened, Option.bind_some, scan_append, inside, Option.bind_some, scan_cons, closed]
    exact after
  | @quotes q t u isMark inner rest ih =>
    have opened : feed (depth, .plain) q = some (depth, .quoted q) := by simp [feed, isMark]
    have cut : t ++ q :: u = (t ++ [q]) ++ u := by simp
    rw [scan_cons, opened, Option.bind_some, cut, scan_append,
      scan_quoted inner (not_backslash_of_isQuote isMark)]
    exact ih

end Phrasebook.Segment
