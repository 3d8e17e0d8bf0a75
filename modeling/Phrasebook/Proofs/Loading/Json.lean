import Phrasebook.Loading.Json
import Phrasebook.Proofs.Text.Numeral
import Phrasebook.Proofs.Text.Pieces
import Mathlib.Data.List.Forall2
import Mathlib.Tactic.SplitIfs
/-!
Reading back what has been written. A quoted text is read as the text, whatever characters it holds,
a numeral as its number, and an object as its members in their order.
-/
namespace Phrasebook

namespace Datum

/-- An object with text keys. -/
def ofFields (fields : List (Text × Datum)) : Datum :=
  .map (fields.map fun e => (.ofText e.1, e.2))

theorem insertEntry_of_fresh {entries : List (Value × Datum)} {key : Value} (d : Datum)
    (fresh : ∀ e ∈ entries, e.1.sameKey key = false) :
    insertEntry entries key d = entries ++ [(key, d)] := by
  induction entries with
  | nil => rfl
  | cons e rest ih =>
    obtain ⟨here, later⟩ := List.forall_mem_cons.mp fresh
    rw [insertEntry, here, if_neg Bool.false_ne_true, ih later]
    rfl

/-- Entries with different keys stay as they are. -/
theorem ofEntries_of_distinct {entries : List (Value × Datum)}
    (distinct : entries.Pairwise fun a b => a.1.sameKey b.1 = false) :
    ofEntries entries = .map entries := by
  have inserted : ∀ done : List (Value × Datum),
      (∀ a ∈ done, ∀ b ∈ entries, a.1.sameKey b.1 = false) →
      entries.foldl (fun m e => insertEntry m e.1 e.2) done = done ++ entries := by
    induction entries with
    | nil => exact fun done _ => (List.append_nil done).symm
    | cons e rest ih =>
      intro done apart
      obtain ⟨here, later⟩ := List.pairwise_cons.mp distinct
      have fresh : ∀ a ∈ done, a.1.sameKey e.1 = false :=
        fun a member => apart a member e List.mem_cons_self
      rw [List.foldl_cons, insertEntry_of_fresh _ fresh, ih later, List.append_assoc]
      · rfl
      · intro a member b follows
        rcases List.mem_append.mp member with old | new
        · exact apart a old b (List.mem_cons_of_mem _ follows)
        · rw [List.mem_singleton.mp new]
          exact here b follows
  rw [ofEntries, inserted [] (by simp)]
  rfl

theorem ofEntries_ofFields {fields : List (Text × Datum)} (distinct : (fields.map (·.1)).Nodup) :
    ofEntries (fields.map fun e => (.ofText e.1, e.2)) = ofFields fields := by
  refine ofEntries_of_distinct (List.pairwise_map.mpr ?_)
  refine (List.pairwise_map.mp distinct).imp fun {a b} different => ?_
  simpa [Value.ofText, Value.sameKey] using different

theorem ofFields_injective : Function.Injective ofFields := by
  intro fields others same
  refine List.map_injective_iff.mpr (fun a b equal => ?_) (Datum.map.inj same)
  simp only [Value.ofText, Prod.mk.injEq, Value.text.injEq] at equal
  exact Prod.ext equal.1.1 equal.2

end Datum

namespace Json
open Text.Quoted (jsonEscape hex)

variable {t rest out written : Text} {c n fuel : Nat} {d : Datum}

section Strings

theorem hex_of_lt : ∀ c < 32, ∃ a b, hex 4 c = [48, 48, a, b] ∧
    hexValue? a = some (c / 16) ∧ hexValue? b = some (c % 16) := by
  have written : ∀ c < 32, hex 4 c = [48, 48, (hex 4 c).getD 2 0, (hex 4 c).getD 3 0] ∧
      hexValue? ((hex 4 c).getD 2 0) = some (c / 16) ∧
      hexValue? ((hex 4 c).getD 3 0) = some (c % 16) := by decide
  exact fun c small => ⟨_, _, written c small⟩

/-- A control character is no half of a pair, so nothing behind its escape is read with it. -/
theorem unicodeEscape?_hex (small : c < 32) (rest : Text) :
    unicodeEscape? (hex 4 c ++ rest) = some (c, rest) := by
  obtain ⟨a, b, written, high, low⟩ := hex_of_lt c small
  have zero : hexValue? 48 = some 0 := rfl
  have code : hexCode? (hex 4 c ++ rest) = some (c, rest) := by
    have sum : c / 16 * 16 + c % 16 = c := Nat.div_add_mod' c 16
    simp [written, hexCode?, zero, high, low, sum]
  have single : isHigh c = false := by
    have below : ¬0xd800 ≤ c := by omega
    rw [isHigh, decide_eq_false below, Bool.false_and]
  simp [unicodeEscape?, code, single]

/-- Each character is read back from its escape. -/
theorem stringFrom_jsonEscape (c : Code) (out : Text) (fuel : Nat) (rest : Text) :
    stringFrom out (fuel + 1) (jsonEscape c ++ rest) = stringFrom (c :: out) fuel rest := by
  unfold jsonEscape
  split_ifs with mark backspace tab newline page carriage control
  · rcases mark with rfl | rfl <;> rfl
  · subst backspace; rfl
  · subst tab; rfl
  · subst newline; rfl
  · subst page; rfl
  · subst carriage; rfl
  · have opened : ("\\u" : Text) ++ hex 4 c ++ rest = 92 :: 117 :: (hex 4 c ++ rest) := rfl
    rw [opened, stringFrom]
    simp [unicodeEscape?_hex control]
  · obtain ⟨noMark, noSlash⟩ := not_or.mp mark
    simp only [List.singleton_append, stringFrom, noMark, control, noSlash, if_false]

theorem length_le_escaped (t : Text) : t.length ≤ (t.flatMap jsonEscape).length := by
  have positive (c : Code) : 1 ≤ (jsonEscape c).length := by
    unfold jsonEscape
    split_ifs <;> simp [Text.ofString]
  induction t with
  | nil => exact Nat.le_refl 0
  | cons c rest ih =>
    rw [List.flatMap_cons, List.length_append, List.length_cons, Nat.add_comm]
    exact Nat.add_le_add (positive c) ih

/-- A text is read back from between its marks, and nothing behind the closing one is touched. -/
theorem stringFrom_json (enough : t.length < fuel) (out rest : Text) :
    stringFrom out fuel (t.flatMap jsonEscape ++ 34 :: rest) = some (out.reverse ++ t, rest) := by
  induction t generalizing out fuel with
  | nil =>
    obtain ⟨fuel, rfl⟩ := Nat.exists_eq_add_one.mpr enough
    simp [stringFrom]
  | cons c t ih =>
    obtain ⟨fuel, rfl⟩ := Nat.exists_eq_add_one.mpr (Nat.zero_lt_of_lt enough)
    rw [List.flatMap_cons, List.append_assoc, stringFrom_jsonEscape,
      ih (Nat.lt_of_succ_lt_succ enough)]
    simp

end Strings

section Values

/-- What follows a number does not go on with it. -/
def EndsNumber (rest : Text) : Prop :=
  ∀ c ∈ rest.head?, isDigit c = false ∧ c ≠ 46 ∧ c ≠ 69 ∧ c ≠ 101

/-- A text without space in front that is read as a datum, wherever it stands. -/
structure Reads (written : Text) (d : Datum) : Prop where
  skips : ∀ rest, skip (written ++ rest) = written ++ rest
  reads : ∀ fuel rest, written.length ≤ fuel → EndsNumber rest →
    value fuel (written ++ rest) = .ok (d, rest)

theorem reads_json (t : Text) : Reads (Text.Quoted.json t) (.text t) := by
  refine ⟨fun _ => rfl, fun fuel rest enough _ => ?_⟩
  have long := length_le_escaped t
  simp only [Text.Quoted.json, List.length_cons, List.length_append] at enough
  obtain ⟨fuel, rfl⟩ := Nat.exists_eq_add_one.mpr (Nat.zero_lt_of_lt enough)
  have body : stringFrom [] fuel (t.flatMap jsonEscape ++ 34 :: rest) = some (t, rest) :=
    stringFrom_json (by omega) [] rest
  simp [Text.Quoted.json, value, body]

theorem takeWhile_isDigit_of_ends (ends : EndsNumber rest) :
    rest.takeWhile isDigit = [] ∧ rest.dropWhile isDigit = rest := by
  cases rest with
  | nil => exact ⟨rfl, rfl⟩
  | cons c rest =>
    have other := (ends c rfl).1
    simp [other]

theorem isDigit_of_mem_ofNat (member : c ∈ Text.ofNat n) : isDigit c = true := by
  simpa [isDigit] using Text.le_of_mem_ofNat member

theorem integerPart_ofNat (n : Nat) (ends : EndsNumber rest) :
    integerPart (Text.ofNat n ++ rest) = some (Text.ofNat n, rest) := by
  rcases Nat.eq_zero_or_pos n with rfl | positive
  · rfl
  obtain ⟨first, digits, written, other⟩ := Text.exists_cons_ofNat positive
  have all : ∀ c ∈ first :: digits, isDigit c = true :=
    fun c member => isDigit_of_mem_ofNat (written ▸ member)
  obtain ⟨digit, later⟩ := List.forall_mem_cons.mp all
  obtain ⟨none, whole⟩ := takeWhile_isDigit_of_ends ends
  rw [written, List.cons_append]
  unfold integerPart
  split
  · rename_i same
    exact absurd (List.cons.inj same).1 other
  · rename_i same
    obtain ⟨rfl, rfl⟩ := List.cons.inj same
    rw [if_pos digit, List.takeWhile_append_of_pos later, List.dropWhile_append_of_pos later, none,
      whole, List.append_nil]
  · rename_i same
    cases same

theorem number_ofNat (short : (Text.ofNat n).length ≤ Number.maxDigits) (ends : EndsNumber rest) :
    number false (Text.ofNat n ++ rest) = .ok (.int n, rest) := by
  have fraction : fractionPart rest = ([], rest) := by
    unfold fractionPart
    split
    · exact absurd rfl (ends _ rfl).2.1
    · rfl
  have exponent : exponentDigits rest = ([], rest) := by
    unfold exponentDigits
    split
    · rename_i e rest
      obtain ⟨-, -, small, large⟩ := ends e rfl
      exact if_neg (not_or.mpr ⟨large, small⟩)
    · rfl
  simp only [number, integerPart_ofNat n ends, fraction, exponent, Text.decimalNumeral?_ofNat,
    List.isEmpty_nil, Bool.and_self, if_true, Nat.not_lt.mpr short, if_false, Option.getD_some]
  rfl

theorem word?_of_digit (digit : isDigit c = true) (rest : Text) : word? (c :: rest) = none := by
  have spelled : ∀ w ∈ words, ∃ d more, w.1 = d :: more ∧ isDigit d = false := by
    simp only [words, List.forall_mem_cons]
    refine ⟨?_, ?_, ?_, ?_, ?_, ?_, by simp⟩ <;> exact ⟨_, _, rfl, rfl⟩
  rw [word?, Option.map_eq_none_iff, List.find?_eq_none]
  intro w member
  obtain ⟨d, more, written, other⟩ := spelled w member
  have different : d ≠ c := by
    rintro rfl
    exact absurd digit (by simp [other])
  simp [written, Text.isPrefix, different]

theorem reads_ofNat (short : (Text.ofNat n).length ≤ Number.maxDigits) :
    Reads (Text.ofNat n) (.int n) := by
  obtain ⟨first, digits, written⟩ : ∃ (first : Nat) (digits : Text),
    Text.ofNat n = first :: digits := List.exists_cons_of_ne_nil (Text.ofNat_ne_nil n)
  have digit : isDigit first = true := isDigit_of_mem_ofNat (written ▸ List.mem_cons_self)
  obtain ⟨low, high⟩ : 48 ≤ first ∧ first ≤ 57 := by simpa [isDigit] using digit
  have skips : isSpace first = false := by
    have others : first ≠ 32 ∧ first ≠ 9 ∧ first ≠ 10 ∧ first ≠ 13 := by omega
    simp [isSpace, others]
  refine ⟨fun rest => by simp [skip, written, skips], fun fuel rest enough ends => ?_⟩
  have read := number_ofNat short ends
  rw [written] at enough read ⊢
  rw [List.length_cons] at enough
  obtain ⟨fuel, rfl⟩ := Nat.exists_eq_add_one.mpr (Nat.zero_lt_of_lt enough)
  have others : first ≠ 34 ∧ first ≠ 91 ∧ first ≠ 123 ∧ first ≠ 45 := by omega
  obtain ⟨noMark, noBracket, noBrace, noMinus⟩ := others
  simpa [value, word?_of_digit digit, noMark, noBracket, noBrace, noMinus] using read

end Values

section Objects

/-- A member of an object as it is written: its name, and the text of its content. -/
def memberText (m : Text × Text) : Text := Text.Quoted.json m.1 ++ ": " ++ m.2

/-- A written member is read as an entry. -/
structure ReadsMember (m : Text × Text) (e : Text × Datum) : Prop where
  name : m.1 = e.1
  content : Reads m.2 e.2

variable {m : Text × Text} {e : Text × Datum} {ms : List (Text × Text)} {es : List (Text × Datum)}
  {done : List (Value × Datum)}

theorem members_cons (reads : ReadsMember m e) (enough : (memberText m).length ≤ fuel)
    (ends : EndsNumber rest) :
    members (fuel + 1) done (memberText m ++ rest) = match skip rest with
      | 44 :: rest => members fuel ((.ofText e.1, e.2) :: done) (skip rest)
      | 125 :: rest => .ok (Datum.ofEntries ((.ofText e.1, e.2) :: done).reverse, rest)
      | _ => malformed := by
  obtain ⟨name, content⟩ := reads
  have long := length_le_escaped m.1
  simp only [memberText, Text.Quoted.json, List.length_cons, List.length_append] at enough
  have named : stringFrom [] fuel (m.1.flatMap jsonEscape ++ 34 :: 58 :: 32 :: (m.2 ++ rest)) =
      some (m.1, 58 :: 32 :: (m.2 ++ rest)) := stringFrom_json (by omega) [] _
  have colon : skip (58 :: 32 :: (m.2 ++ rest)) = 58 :: 32 :: (m.2 ++ rest) := rfl
  have space : skip (32 :: (m.2 ++ rest)) = m.2 ++ rest := content.skips rest
  have read := content.reads fuel rest (by omega) ends
  have opened : memberText m ++ rest =
      34 :: (m.1.flatMap jsonEscape ++ 34 :: 58 :: 32 :: (m.2 ++ rest)) := by
    simp [memberText, Text.Quoted.json, Text.ofString]
  rw [opened, members]
  simp only [named, colon, space, read, ← name]
  rfl

theorem joined_eq_cons (m : Text × Text) (ms : List (Text × Text)) :
    ∃ more, Text.joinWith ", " ((m :: ms).map memberText) = 34 :: more :=
  ⟨_, Text.joinWith_cons_empty ", " (memberText m) (ms.map memberText)⟩

/-- Members are read one after the other, each behind its comma. -/
theorem members_of_reads (reads : List.Forall₂ ReadsMember ms es) (filled : ms ≠ [])
    (enough : (Text.joinWith ", " (ms.map memberText)).length < fuel)
    (done : List (Value × Datum)) (rest : Text) :
    members fuel done (Text.joinWith ", " (ms.map memberText) ++ 125 :: rest) =
      .ok (Datum.ofEntries (done.reverse ++ es.map fun e => (.ofText e.1, e.2)), rest) := by
  induction reads generalizing fuel done with
  | nil => exact absurd rfl filled
  | @cons m e ms es first later ih =>
    obtain ⟨fuel, rfl⟩ := Nat.exists_eq_add_one.mpr (Nat.zero_lt_of_lt enough)
    cases later with
    | nil =>
      simp only [List.map_cons, List.map_nil, Text.joinWith, List.intersperse_singleton,
        List.flatten_singleton] at enough ⊢
      rw [members_cons first (by omega) (by simp [EndsNumber, isDigit])]
      simp [skip, isSpace]
    | @cons m' e' ms es second later =>
      have joined : Text.joinWith ", " ((m :: m' :: ms).map memberText) =
          memberText m ++ 44 :: 32 :: Text.joinWith ", " ((m' :: ms).map memberText) := by
        simp [Text.joinWith, Text.ofString]
      obtain ⟨more, opened⟩ := joined_eq_cons m' ms
      rw [joined, List.length_append, List.length_cons, List.length_cons] at enough
      have comma (more : Text) : skip (44 :: more) = 44 :: more := rfl
      have space : skip (32 :: 34 :: (more ++ 125 :: rest)) = 34 :: (more ++ 125 :: rest) := rfl
      have shorter : (Text.joinWith ", " ((m' :: ms).map memberText)).length < fuel := by omega
      have behind := ih (List.cons_ne_nil m' ms) shorter ((.ofText e.1, e.2) :: done)
      rw [opened, List.cons_append] at behind
      rw [joined, List.append_assoc, opened, List.cons_append, List.cons_append, List.cons_append,
        members_cons first (by omega) (by simp [EndsNumber, isDigit]), comma]
      simp only [space, behind]
      simp

/-- An object is read as its members, in their order. -/
theorem read_object (reads : List.Forall₂ ReadsMember ms es)
    (distinct : (es.map (·.1)).Nodup) :
    read (123 :: Text.joinWith ", " (ms.map memberText) ++ [125]) = .ok (.ofFields es) := by
  rcases ms with _ | ⟨m, ms⟩
  · cases reads
    rfl
  obtain ⟨more, opened⟩ := joined_eq_cons m ms
  have inside {fuel : Nat}
      (enough : (Text.joinWith ", " ((m :: ms).map memberText)).length < fuel) :
      members fuel [] (34 :: (more ++ [125])) = .ok (.ofFields es, []) := by
    have read := members_of_reads reads (List.cons_ne_nil m ms) enough [] []
    rwa [opened, List.reverse_nil, List.nil_append, Datum.ofEntries_ofFields distinct] at read
  rw [opened] at inside ⊢
  have length : (123 :: 34 :: (more ++ [125])).length = more.length + 3 := by simp
  have started : skip (123 :: 34 :: (more ++ [125])) = 123 :: 34 :: (more ++ [125]) := rfl
  have object : value (2 * (more.length + 3) + 2) (123 :: 34 :: (more ++ [125])) =
      .ok (.ofFields es, []) := by
    have enough : (34 :: more).length < 2 * (more.length + 3) + 1 := by
      rw [List.length_cons]
      omega
    exact inside enough
  rw [List.cons_append, List.cons_append, read, length, started, object]
  rfl

end Objects

end Json
end Phrasebook
