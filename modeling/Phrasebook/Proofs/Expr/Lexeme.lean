import Phrasebook.Expr.Lexer
import Phrasebook.Proofs.Template.Scan
/-!
What the lexer cuts a text into, and how the search for the end of a span passes each piece: blanks,
words and numbers hold no quotation mark and no brace, short string literals are quoted, and
brackets nest.
-/
namespace Phrasebook.Lexer

open Segment

/-- Some characters, neither quotation marks nor braces, and then the rest. -/
def Passes (t rest : Text) : Prop := ∃ front, t = front ++ rest ∧ ∀ c ∈ front, IsPlain c

namespace Passes

variable {t u rest : Text} {c : Code}

theorem refl (t : Text) : Passes t t := ⟨[], rfl, by simp⟩

theorem trans (first : Passes t u) (second : Passes u rest) : Passes t rest := by
  obtain ⟨front, rfl, plain⟩ := first
  obtain ⟨front', rfl, plain'⟩ := second
  exact ⟨front ++ front', by simp, fun c member =>
    (List.mem_append.mp member).elim (plain c) (plain' c)⟩

theorem cons (isPlain : IsPlain c) (later : Passes t rest) : Passes (c :: t) rest :=
  trans ⟨[c], rfl, by simpa using isPlain⟩ later

end Passes

/-- A class of characters to which no quotation mark and no brace belongs. -/
def IsPlainClass (p : Code → Bool) : Prop := ∀ c ∈ ([34, 39, 123, 125] : Text), p c = false

instance (p : Code → Bool) : Decidable (IsPlainClass p) :=
  inferInstanceAs (Decidable (∀ c ∈ _, _))

theorem IsPlainClass.isPlain {p : Code → Bool} (plain : IsPlainClass p) {c : Code}
    (member : p c = true) : IsPlain c := by
  have other : ∀ d ∈ ([34, 39, 123, 125] : Text), c ≠ d := by
    rintro d listed rfl
    rw [plain c listed] at member
    cases member
  simp only [List.forall_mem_cons] at other
  obtain ⟨double, single, opening, closing, -⟩ := other
  exact ⟨by simp [Segment.isQuote, double, single], opening, closing⟩

theorem isPlainClass_isWordChar : IsPlainClass isWordChar := by decide

theorem isPlainClass_isAsciiDigit : IsPlainClass isAsciiDigit := by decide

theorem isPlainClass_isHexDigit : IsPlainClass isHexDigit := by decide

section
variable {t rest digits before : Text} {tok : Token} {value : Literal} {isDigit : Code → Bool}

theorem digitRun_passes (plain : IsPlainClass isDigit)
    (read : digitRun isDigit before t = some (digits, rest)) : Passes t rest := by
  induction t generalizing before with
  | nil =>
    cases read
    exact .refl []
  | cons c t ih =>
    rw [digitRun.eq_def] at read
    dsimp only at read
    split_ifs at read with digit underscore
    · exact .cons (plain.isPlain digit) (ih read)
    · subst underscore
      cases t with
      | nil => cases read
      | cons d t =>
        dsimp only at read
        split_ifs at read
        exact .cons (by decide) (ih read)
    · cases read
      exact .refl _

/-- A number, and then the rest. -/
def ReadsNumber (t : Text) (tok : Token) (rest : Text) : Prop :=
  Passes t rest ∧ ∃ value, tok = .number value

theorem ReadsNumber.after {u : Text} (number : ReadsNumber u tok rest) (first : Passes t u) :
    ReadsNumber t tok rest :=
  ⟨first.trans number.1, number.2⟩

theorem ReadsNumber.cons {c : Code} (number : ReadsNumber t tok rest) (isPlain : IsPlain c) :
    ReadsNumber (c :: t) tok rest :=
  ⟨number.1.cons isPlain, number.2⟩

theorem finish_reads (read : finish value t = some (tok, rest)) : ReadsNumber t tok rest := by
  rw [finish] at read
  split_ifs at read
  cases read
  exact ⟨.refl t, value, rfl⟩

theorem radix_reads {base : Nat} (plain : IsPlainClass isDigit)
    (read : radix base isDigit t = some (tok, rest)) : ReadsNumber t tok rest := by
  rw [radix] at read
  split at read
  · rename_i digits after run
    split_ifs at read
    exact (finish_reads read).after (digitRun_passes plain run)
  · cases read

theorem sign_passes : Passes t (sign t).2.2 := by
  unfold sign
  split
  · exact .cons (by decide) (.refl _)
  · exact .cons (by decide) (.refl _)
  · exact .refl _

theorem exponent_passes {e : Int} (read : exponent? t = some (some (e, rest))) :
    Passes t rest := by
  refine sign_passes.trans ?_
  rw [exponent?] at read
  dsimp only at read
  split at read
  · split at read
    · split at read
      · rename_i run
        cases read
        exact digitRun_passes isPlainClass_isAsciiDigit run
      · cases read
    · split at read <;> cases read
  · split at read <;> cases read

theorem floating_reads {whole fraction : Text}
    (read : floating whole fraction t = some (tok, rest)) : ReadsNumber t tok rest := by
  unfold floating at read
  extract_lets done at read
  have done_reads : ∀ {e : Int} {u : Text}, done e u = some (tok, rest) →
      ReadsNumber u tok rest := by
    intro e u ended
    simp only [done] at ended
    split at ended
    · split_ifs at ended with unit
      · exact (finish_reads ended).cons (by rcases unit with rfl | rfl <;> decide)
      · exact finish_reads ended
    · exact finish_reads ended
  split at read
  · rename_i c after
    split at read
    · rename_i letter
      split at read
      · rename_i exponent
        exact ((done_reads read).after (exponent_passes exponent)).cons
          (by rcases letter with rfl | rfl <;> decide)
      · split at read
        · exact done_reads read
        · cases read
      · cases read
    · exact done_reads read
  · exact done_reads read

theorem integer_reads {whole : Text} (read : decimal.integer whole t = some (tok, rest)) :
    ReadsNumber t tok rest := by
  rw [decimal.integer] at read
  split_ifs at read
  exact finish_reads read

theorem decimal_reads (read : decimal t = some (tok, rest)) : ReadsNumber t tok rest := by
  unfold decimal at read
  split at read
  · cases read
  · rename_i whole after run
    refine .after ?_ (digitRun_passes isPlainClass_isAsciiDigit run)
    split at read
    · refine .cons ?_ (by decide)
      split at read
      · split_ifs at read
        · split at read
          · rename_i run
            exact (floating_reads read).after (digitRun_passes isPlainClass_isAsciiDigit run)
          · cases read
        · exact floating_reads read
      · exact floating_reads read
    · split_ifs at read with letter unit
      · split at read
        · exact floating_reads read
        · exact integer_reads read
        · cases read
      · exact (finish_reads read).cons (by rcases unit with rfl | rfl <;> decide)
      · exact integer_reads read
    · exact integer_reads read

theorem number_reads (read : number t = some (tok, rest)) : ReadsNumber t tok rest := by
  unfold number at read
  split at read
  · rename_i c after
    have octal : IsPlainClass fun d => 48 ≤ d && d ≤ 55 := by decide
    have binary : IsPlainClass fun d => d == 48 || d == 49 := by decide
    have zero : IsPlain 48 := by decide
    split_ifs at read with hex oct bin
    · exact ((radix_reads isPlainClass_isHexDigit read).cons
        (by rcases hex with rfl | rfl <;> decide)).cons zero
    · exact ((radix_reads octal read).cons (by rcases oct with rfl | rfl <;> decide)).cons zero
    · exact ((radix_reads binary read).cons (by rcases bin with rfl | rfl <;> decide)).cons zero
    · exact decimal_reads read
  · refine .cons ?_ (by decide)
    split at read
    · rename_i run
      exact (floating_reads read).after (digitRun_passes isPlainClass_isAsciiDigit run)
    · cases read
  · exact decimal_reads read

end

section
variable {t rest body b : Text} {q : Code}

/-- A short literal is quoted up to its mark. -/
theorem shortBody_quoted (read : shortBody q b t = some (body, rest)) :
    ∃ inner, t = inner ++ q :: rest ∧ Quoted q inner := by
  fun_induction shortBody q b t with
  | case1 => cases read
  | case2 b c t ih =>
    obtain ⟨inner, rfl, quoted⟩ := ih read
    exact ⟨92 :: c :: inner, rfl, .escaped quoted⟩
  | case3 => 
    cases read
    exact ⟨[], rfl, .nil⟩
  | case4 => cases read
  | case5 b c t single other _ ih =>
    have noBackslash : c ≠ 92 := by
      rintro rfl
      cases t with
      | nil => cases read
      | cons d t => exact single d t rfl rfl
    obtain ⟨inner, rfl, quoted⟩ := ih read
    exact ⟨c :: inner, rfl, .char other noBackslash quoted⟩

theorem longBody_suffix (read : longBody q b t = some (body, rest)) :
    ∃ inner, t = inner ++ rest := by
  fun_induction longBody q b t with
  | case1 => cases read
  | case2 b c t ih =>
    obtain ⟨inner, rfl⟩ := ih read
    exact ⟨92 :: c :: inner, rfl⟩
  | case3 b c t _ closed =>
    cases read
    exact ⟨c :: t.take 2, by simp⟩
  | case4 b c t _ _ ih =>
    obtain ⟨inner, rfl⟩ := ih read
    exact ⟨c :: inner, rfl⟩

end

/-- A literal within tripled marks, after the letters that may stand before it. -/
def isLong (source : Text) : Bool :=
  match source.dropWhile isWordChar with
  | q :: r :: s :: _ => isQuote q && q == r && r == s
  | _ => false

section
variable {t rest body front : Text} {q : Code} {tok : Token}

theorem isLong_tripled (isMark : isQuote q = true) (letters : ∀ c ∈ front, isWordChar c = true) :
    isLong (front ++ q :: q :: q :: t) = true := by
  have noLetter : isWordChar q = false := by
    rcases Bool.or_eq_true_iff.mp isMark with double | single
    · rw [beq_iff_eq.mp double]
      decide
    · rw [beq_iff_eq.mp single]
      decide
  have skipped : (front ++ q :: q :: q :: t).dropWhile isWordChar = q :: q :: q :: t := by
    rw [List.dropWhile_append_of_pos letters, List.dropWhile_cons_of_neg (by simp [noLetter])]
  simp [isLong, skipped, isMark]

/-- A string literal, with the letters before it, is quoted unless its marks are tripled. -/
theorem stringBody_source (isMark : isQuote q = true) (letters : ∀ c ∈ front, isWordChar c = true)
    (read : stringBody (q :: t) = some (body, rest)) :
    ∃ source, front ++ q :: t = source ++ rest ∧ (isLong source = false → Body source) := by
  rw [stringBody] at read
  split_ifs at read with tripled
  · obtain ⟨inner, cut⟩ := longBody_suffix read
    have whole : t = q :: q :: (inner ++ rest) := by
      rw [← List.take_append_drop 2 t, tripled, cut]
      rfl
    refine ⟨front ++ q :: q :: q :: inner, by simp [whole], fun short => ?_⟩
    rw [isLong_tripled isMark letters] at short
    cases short
  · obtain ⟨inner, rfl, quoted⟩ := shortBody_quoted read
    refine ⟨front ++ q :: (inner ++ [q]), by simp, fun _ => ?_⟩
    refine Body.after_plain ?_ fun c member => isPlainClass_isWordChar.isPlain (letters c member)
    exact .quotes isMark quoted .nil

end

/-- Pieces in which quotation marks and braces stand for themselves: comments, and literals within
tripled marks. -/
def Lexeme.isVerbatim (source : Text) : Lexeme → Bool
  | .comment => true
  | .token (.string _) => isLong source
  | _ => false

section
variable {t rest front : Text} {tok : Token}

/-- A piece that is no symbol, in which quotation marks and braces come in pairs if it is not
verbatim. -/
def ReadsBody (t : Text) (tok : Token) (rest : Text) : Prop :=
  ∃ source, t = source ++ rest ∧ (∀ s, tok ≠ .op s) ∧
    ((Lexeme.token tok).isVerbatim source = false → Body source)

theorem word_reads (letters : ∀ c ∈ front, isWordChar c = true) {after : Text}
    (read : (word front).map (fun w => (w, after)) = some (tok, rest)) :
    ReadsBody (front ++ after) tok rest := by
  obtain ⟨w, found, same⟩ := Option.map_eq_some_iff.mp read
  cases same
  have plain : Body front := by
    simpa using Body.after_plain .nil fun c member =>
      isPlainClass_isWordChar.isPlain (letters c member)
  refine ⟨front, rfl, ?_, fun _ => plain⟩
  rw [word] at found
  split at found
  · cases found
    simp
  · split_ifs at found
    cases found
    simp

theorem string_reads {q : Code} {value : Text → StringToken} (isMark : isQuote q = true)
    (letters : ∀ c ∈ front, isWordChar c = true)
    (read : (stringBody (q :: t)).map (fun (body, rest) => (Token.string (value body), rest)) =
      some (tok, rest)) : ReadsBody (front ++ q :: t) tok rest := by
  obtain ⟨⟨body, after⟩, found, same⟩ := Option.map_eq_some_iff.mp read
  cases same
  obtain ⟨source, cut, isBody⟩ := stringBody_source isMark letters found
  exact ⟨source, cut, by simp, isBody⟩

theorem number_readsBody (read : number t = some (tok, rest)) : ReadsBody t tok rest := by
  obtain ⟨⟨source, cut, plain⟩, value, rfl⟩ := number_reads read
  exact ⟨source, cut, by simp, fun _ => by simpa using Body.after_plain .nil plain⟩

/-- A token is a symbol, or another piece of the text. -/
theorem token_reads (read : token t = some (tok, rest)) :
    (∃ s ∈ Token.symbols, tok = .op s ∧ t = Text.ofString s ++ rest) ∨ ReadsBody t tok rest := by
  unfold token at read
  split at read
  · cases read
  · rename_i c t
    split at read
    · right
      have whole : (c :: t).takeWhile isWordChar ++ (c :: t).dropWhile isWordChar = c :: t :=
        List.takeWhile_append_dropWhile
      have letters : ∀ d ∈ (c :: t).takeWhile isWordChar, isWordChar d = true :=
        fun d member => List.all_eq_true.mp List.all_takeWhile d member
      rw [← whole]
      dsimp only at read
      split at read
      · rename_i q after behind
        split at read
        · rename_i isMark
          split at read
          · rw [behind] at read ⊢
            exact string_reads isMark letters read
          · exact word_reads letters read
        · exact word_reads letters read
      · exact word_reads letters read
    · split at read
      · rename_i isMark
        have none_ : ∀ d ∈ ([] : Text), isWordChar d = true := by simp
        exact .inr (string_reads isMark none_ read)
      · split at read
        · exact .inr (number_readsBody read)
        · split at read
          · rename_i s found
            cases read
            left
            have ahead : Text.ofString s <+: c :: t := by
              simpa [Text.isPrefix, List.isPrefixOf_iff_prefix] using List.find?_some found
            have length : s.length = (Text.ofString s).length := by
              rw [Text.ofString, List.length_map, String.length_toList]
            refine ⟨s, List.mem_of_find?_eq_some found, rfl, ?_⟩
            rw [length]
            exact (List.prefix_iff_eq_append.mp ahead).symm
          · cases read

end

/-- The braces among the open brackets. -/
def braces (brackets : List String) : Nat := brackets.count "\x7b"

/-- Where the lexer can stand: it opens three kinds of brackets, and no line starts within them. -/
structure Cursor.Sound (here : Cursor) : Prop where
  known : ∀ b ∈ here.brackets, b ∈ ["(", "[", "\x7b"]
  flat : here.lineStart = true → here.brackets = []

theorem nest_opens {brackets after : List String} {symbol : String}
    (opens : symbol ∈ ["(", "[", "\x7b"]) (nested : nest brackets symbol = some after) :
    after = symbol :: brackets := by
  have opening : (symbol == "(" || symbol == "[" || symbol == "\x7b") = true := by
    simpa [or_assoc] using opens
  rw [nest.eq_def, if_pos opening] at nested
  split_ifs at nested
  exact (Option.some.inj nested).symm

theorem nest_closes {brackets after : List String} {symbol : String}
    (closing : symbol ∈ [")", "]", "\x7d"]) (nested : nest brackets symbol = some after) :
    ∃ opening, brackets = opening :: after ∧ closes opening symbol = true := by
  have notOpening : ¬(symbol == "(" || symbol == "[" || symbol == "\x7b") = true := by
    simp only [List.mem_cons, List.not_mem_nil, or_false] at closing
    rcases closing with rfl | rfl | rfl <;> decide
  have isClosing : (symbol == ")" || symbol == "]" || symbol == "\x7d") = true := by
    simpa [or_assoc] using closing
  rw [nest.eq_def, if_neg notOpening, if_pos isClosing] at nested
  split at nested
  · split_ifs at nested with closed
    cases nested
    exact ⟨_, rfl, closed⟩
  · cases nested

theorem nest_keeps {brackets after : List String} {symbol : String}
    (other : symbol ∉ ["(", "[", "\x7b", ")", "]", "\x7d"])
    (nested : nest brackets symbol = some after) : after = brackets := by
  have notOpening : ¬(symbol == "(" || symbol == "[" || symbol == "\x7b") = true := by
    simp_all
  have notClosing : ¬(symbol == ")" || symbol == "]" || symbol == "\x7d") = true := by
    simp_all
  rw [nest.eq_def, if_neg notOpening, if_neg notClosing] at nested
  exact (Option.some.inj nested).symm

/-- Of the symbols, the braces alone are not passed. -/
theorem symbol_plain : ∀ s ∈ Token.symbols, s ≠ "\x7b" → s ≠ "\x7d" →
    ∀ c ∈ Text.ofString s, IsPlain c := by
  decide

theorem nest_scan {brackets after : List String} {symbol : String}
    (known : ∀ b ∈ brackets, b ∈ ["(", "[", "\x7b"]) (listed : symbol ∈ Token.symbols)
    (nested : nest brackets symbol = some after) :
    (∀ b ∈ after, b ∈ ["(", "[", "\x7b"]) ∧
      scan (braces brackets, .plain) (Text.ofString symbol) = some (braces after, .plain) := by
  by_cases opens : symbol ∈ ["(", "[", "\x7b"]
  · rw [nest_opens opens nested]
    refine ⟨List.forall_mem_cons.mpr ⟨opens, known⟩, ?_⟩
    by_cases brace : symbol = "\x7b"
    · subst brace
      rw [braces, braces, List.count_cons_self]
      rfl
    · rw [braces, braces, List.count_cons_of_ne brace]
      refine scan_plain (symbol_plain symbol listed brace ?_)
      rintro rfl
      simp at opens
  · by_cases closing : symbol ∈ [")", "]", "\x7d"]
    · obtain ⟨opening, rfl, closed⟩ := nest_closes closing nested
      obtain ⟨first, outer⟩ := List.forall_mem_cons.mp known
      refine ⟨outer, ?_⟩
      simp only [List.mem_cons, List.not_mem_nil, or_false] at first closing
      by_cases brace : opening = "\x7b"
      · subst brace
        have isBrace : symbol = "\x7d" := beq_iff_eq.mp closed
        subst isBrace
        rw [braces, braces, List.count_cons_self]
        rfl
      · rw [braces, braces, List.count_cons_of_ne brace]
        refine scan_plain (symbol_plain symbol listed ?_ ?_)
        · rintro rfl
          simp at closing
        · rintro rfl
          rcases first with rfl | rfl | rfl
          · cases closed
          · cases closed
          · exact brace rfl
    · have other : symbol ∉ ["(", "[", "\x7b", ")", "]", "\x7d"] := by simp_all
      rw [nest_keeps other nested]
      refine ⟨known, scan_plain (symbol_plain symbol listed ?_ ?_)⟩
      · rintro rfl
        exact opens (by simp)
      · rintro rfl
        exact closing (by simp)

theorem margin_passes (column : Nat) (t : Text) : Passes t (margin column t).2 := by
  fun_induction margin column t with
  | case1 column t ih => exact .cons (by decide) ih
  | case2 column t ih => exact .cons (by decide) ih
  | case3 column t ih => exact .cons (by decide) ih
  | case4 column t ih => exact .cons (by decide) (.cons (by decide) ih)
  | case5 column t => exact .refl t

/-- The lexer moves on by a piece of the text. Unless this is verbatim and its marks and braces do
not come in pairs, the search for the end of a span passes it, too, and counts the braces that the
lexer has open. -/
def Advances (here : Cursor) (lexeme : Lexeme) (next : Cursor) : Prop :=
  next.Sound ∧ ∃ source, here.ahead = source ++ next.ahead ∧
    ((lexeme.isVerbatim source = true → Body source) →
      scan (braces here.brackets, .plain) source = some (braces next.brackets, .plain))

section
variable {here next : Cursor} {lexeme : Lexeme}

theorem advances_over (same : next.brackets = here.brackets) (sound : next.Sound)
    (passes : Passes here.ahead next.ahead) : Advances here lexeme next := by
  obtain ⟨source, cut, plain⟩ := passes
  refine ⟨sound, source, cut, fun _ => ?_⟩
  rw [same]
  exact scan_plain plain

theorem advances_comment (same : next.brackets = here.brackets) (sound : next.Sound) {t : Text}
    (passes : Passes here.ahead (35 :: t)) (behind : next.ahead = dropComment t) :
    Advances here .comment next := by
  obtain ⟨front, cut, plain⟩ := passes
  refine ⟨sound, front ++ 35 :: t.takeWhile (· != 10), ?_, fun isBody => ?_⟩
  · rw [cut, behind, dropComment, List.append_assoc, List.cons_append,
      List.takeWhile_append_dropWhile]
  · rw [same]
    exact scan_body (isBody rfl)

theorem tokenStep_advances (sound : here.Sound) (flat : here.lineStart = false)
    (moved : tokenStep here = some (lexeme, next)) : Advances here lexeme next := by
  rw [tokenStep] at moved
  split at moved
  · cases moved
  · rename_i tok after read
    rcases token_reads read with ⟨s, listed, rfl, cut⟩ | ⟨source, cut, noSymbol, isBody⟩
    · obtain ⟨brackets, nested, rest⟩ := Option.map_eq_some_iff.mp moved
      cases rest
      obtain ⟨known, scanned⟩ := nest_scan sound.known listed nested
      exact ⟨⟨known, by simp⟩, Text.ofString s, cut, fun _ => scanned⟩
    · split at moved
      · exact absurd rfl (noSymbol _)
      · cases moved
        refine ⟨⟨sound.known, by simp [Cursor.moved, flat]⟩, source, cut, fun balanced => ?_⟩
        cases verbatim : (Lexeme.token tok).isVerbatim source
        · exact scan_body (isBody verbatim)
        · exact scan_body (balanced verbatim)

theorem isPlain_of_isSpace {c : Code} (isSpace_ : isSpace c = true) : IsPlain c :=
  (by decide : IsPlainClass isSpace).isPlain isSpace_

theorem lineStart_advances (sound : here.Sound) (start : here.lineStart = true)
    (moved : step here = some (lexeme, next)) : Advances here lexeme next := by
  have passes := margin_passes 0 here.ahead
  have still : ∀ ahead, (here.moved ahead).Sound := fun _ => ⟨sound.known, sound.flat⟩
  unfold step at moved
  rw [if_pos start] at moved
  dsimp only at moved
  split at moved
  · rename_i ended
    cases moved
    exact advances_over rfl (still []) (ended ▸ passes)
  · rename_i after ended
    cases moved
    rw [ended] at passes
    exact advances_over rfl (still _) (passes.trans (.cons (by decide) (.refl _)))
  · rename_i after ended
    cases moved
    rw [ended] at passes
    exact advances_comment rfl (still _) passes rfl
  · split_ifs at moved
    cases moved
    exact advances_over rfl ⟨sound.known, by simp⟩ passes

theorem inLine_advances (sound : here.Sound) (flat : here.lineStart = false)
    (moved : step here = some (lexeme, next)) : Advances here lexeme next := by
  have still : ∀ ahead, (here.moved ahead).Sound := fun _ => ⟨sound.known, sound.flat⟩
  unfold step at moved
  rw [if_neg (ne_true_of_eq_false flat)] at moved
  split at moved
  · cases moved
  · rename_i after ended
    have passes : Passes here.ahead after := by
      rw [ended]
      exact .cons (by decide) (.refl _)
    split_ifs at moved with open_
    · cases moved
      have nothing : here.brackets = [] := by simpa using open_
      exact advances_over nothing.symm ⟨by simp, by simp⟩ passes
    · cases moved
      exact advances_over rfl (still _) passes
  · rename_i after ended
    cases moved
    exact advances_comment rfl (still _) (ended ▸ .refl _) rfl
  · rename_i ended
    split at moved
    · rename_i after
      split_ifs at moved
      cases moved
      refine advances_over rfl (still _) ?_
      rw [ended]
      exact .cons (by decide) (.cons (by decide) (.refl _))
    · cases moved
  · rename_i c after _ _ _ ended
    split_ifs at moved with blank
    · cases moved
      refine advances_over rfl (still _) ?_
      rw [ended]
      exact .cons (isPlain_of_isSpace blank) (.refl _)
    · exact tokenStep_advances sound flat moved

theorem step_advances (sound : here.Sound) (moved : step here = some (lexeme, next)) :
    Advances here lexeme next := by
  cases start : here.lineStart
  · exact inLine_advances sound start moved
  · exact lineStart_advances sound start moved

end

end Phrasebook.Lexer
