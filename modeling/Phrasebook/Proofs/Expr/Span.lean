import Phrasebook.Expr.Reading
import Phrasebook.Proofs.Expr.Lexeme
import Phrasebook.Proofs.Outcome
/-!
The lexer and the search for the end of a span agree on where an expression ends, as long as what
the lexer leaves alone has its quotation marks and braces in pairs.
-/
namespace Phrasebook

theorem Text.strip_parts (t : Text) : ∃ front back, t = front ++ (Text.strip t ++ back) ∧
    (∀ c ∈ front, Text.isBlank c = true) ∧ ∀ c ∈ back, Text.isBlank c = true := by
  have cut : t.dropWhile Text.isBlank = Text.strip t ++
      ((t.dropWhile Text.isBlank).reverse.takeWhile Text.isBlank).reverse := by
    rw [Text.strip, Text.trim, ← List.reverse_append, List.takeWhile_append_dropWhile,
      List.reverse_reverse]
  refine ⟨t.takeWhile Text.isBlank,
    ((t.dropWhile Text.isBlank).reverse.takeWhile Text.isBlank).reverse, ?_,
    fun c member => ?_, fun c member => ?_⟩
  · rw [← cut, List.takeWhile_append_dropWhile]
  · exact List.all_eq_true.mp List.all_takeWhile c member
  · exact List.all_eq_true.mp List.all_takeWhile c (List.mem_reverse.mp member)

namespace Segment

/-- Only quotation marks are waited for. -/
def Mode.IsMarked : Mode → Prop
  | plain => True
  | quoted q | escaped q => isQuote q = true

variable {s s' : Nat × Mode} {c : Code}

theorem isMarked_of_feed (marked : s.2.IsMarked) (fed : feed s c = some s') : s'.2.IsMarked := by
  obtain ⟨depth, mode⟩ := s
  cases mode with
  | escaped q =>
    cases fed
    exact marked
  | quoted q =>
    cases fed
    dsimp only
    split_ifs
    · exact marked
    · trivial
    · exact marked
  | plain =>
    simp only [feed] at fed
    split_ifs at fed with mark opening closing
    · cases fed
      exact mark
    · cases fed
      trivial
    · cases depth with
      | zero => cases fed
      | succ depth =>
        cases fed
        trivial
    · cases fed
      trivial

/-- Line ends of any kind are passed alike. -/
theorem feed_line (marked : s.2.IsMarked) :
    feed s 13 = feed s 10 ∧ (feed s 13).bind (fun s => feed s 10) = feed s 10 := by
  obtain ⟨depth, mode⟩ := s
  have quoted : ∀ q, isQuote q = true → feed (depth, .quoted q) 13 = some (depth, .quoted q) ∧
      feed (depth, .quoted q) 10 = some (depth, .quoted q) := by
    rintro q isMark
    have noReturn : (13 : Code) ≠ q := by
      rintro rfl
      cases isMark
    have noFeed : (10 : Code) ≠ q := by
      rintro rfl
      cases isMark
    simp [feed, noReturn, noFeed]
  cases mode with
  | plain => exact ⟨rfl, rfl⟩
  | quoted q =>
    obtain ⟨return_, feed_⟩ := quoted q marked
    rw [return_, feed_]
    exact ⟨rfl, feed_⟩
  | escaped q => exact ⟨rfl, (quoted q marked).2⟩

theorem scan_unifyLines (marked : s.2.IsMarked) (t : Text) :
    scan s (Lexer.unifyLines t) = scan s t := by
  fun_induction Lexer.unifyLines t generalizing s with
  | case1 t ih =>
    obtain ⟨-, both⟩ := feed_line marked
    rw [scan_cons, ← both, scan_cons, Option.bind_assoc]
    refine Option.bind_congr fun s' fed => Option.bind_congr fun s'' fed' => ?_
    exact ih (isMarked_of_feed (isMarked_of_feed marked fed) fed')
  | case2 t _ ih =>
    rw [scan_cons, scan_cons, (feed_line marked).1]
    exact Option.bind_congr fun s' fed => ih (isMarked_of_feed marked fed)
  | case3 c t _ _ ih =>
    rw [scan_cons, scan_cons]
    exact Option.bind_congr fun s' fed => ih (isMarked_of_feed marked fed)
  | case4 => rfl

theorem isPlain_of_isBlank (blank : Text.isBlank c = true) : IsPlain c :=
  (by decide : Lexer.IsPlainClass Text.isBlank).isPlain blank

/-- Blanks around a text make no difference. -/
theorem scan_strip {depth : Nat} {t : Text}
    (read : scan (depth, .plain) (Text.strip t) = some (0, .plain)) :
    scan (depth, .plain) t = some (0, .plain) := by
  obtain ⟨front, back, cut, before, behind⟩ := Text.strip_parts t
  rw [cut, scan_append, scan_plain fun c member => isPlain_of_isBlank (before c member),
    Option.bind_some, scan_append, read, Option.bind_some]
  exact scan_plain fun c member => isPlain_of_isBlank (behind c member)

end Segment

namespace Lexer

open Segment

/-- The pieces that the lexer passes, and what they are. -/
def pieces : Nat → Cursor → List (Lexeme × Text)
  | 0, _ => []
  | fuel + 1, here =>
    if here.ahead.isEmpty then []
    else match step here with
      | none => []
      | some (lexeme, next) =>
        (lexeme, here.ahead.take (here.ahead.length - next.ahead.length)) :: pieces fuel next

def lexemes (t : Text) : List (Lexeme × Text) :=
  let t := unifyLines t
  pieces (2 * t.length + 4) ⟨true, [], t⟩

theorem run_scan {fuel : Nat} {here : Cursor} {out tokens : List Token} (sound : here.Sound)
    (ended : run out fuel here = some tokens)
    (balanced : ∀ p ∈ pieces fuel here, p.1.isVerbatim p.2 = true → Body p.2) :
    scan (braces here.brackets, .plain) here.ahead = some (0, .plain) := by
  induction fuel generalizing here out with
  | zero => cases ended
  | succ fuel ih =>
    rw [run] at ended
    rw [pieces] at balanced
    split at ended
    · rename_i nothing
      rw [List.isEmpty_iff.mp nothing]
      have closed : here.brackets = [] := by
        split_ifs at ended with start empty
        · exact sound.flat start
        · exact List.isEmpty_iff.mp empty
      rw [closed]
      rfl
    · rename_i more
      rw [if_neg more] at balanced
      rcases moved : step here with _ | ⟨lexeme, next⟩
      · rw [moved] at ended
        cases ended
      · rw [moved] at balanced ended
        obtain ⟨onward, source, cut, scanned⟩ := step_advances sound moved
        have piece : here.ahead.take (here.ahead.length - next.ahead.length) = source := by
          rw [cut]
          simp
        obtain ⟨first, later⟩ := List.forall_mem_cons.mp balanced
        dsimp only at first
        rw [piece] at first
        rw [cut, scan_append, scanned first, Option.bind_some]
        cases lexeme with
        | token tok => exact ih onward ended later
        | blank => exact ih onward ended later
        | comment => exact ih onward ended later

theorem tokens_of_read {e : Text} {x : Expr} (accepted : Expr.read e = .ok x) :
    ∃ tokens, tokens? (Text.strip e) = some tokens := by
  rcases lexed : tokens? (Text.strip e) with _ | tokens
  · have refused : ∃ f, Parser.parse e = .error f := by
      rw [Parser.parse, lexed]
      split_ifs
      · exact ⟨_, rfl⟩
      · exact ⟨_, rfl⟩
      · exact ⟨_, rfl⟩
    obtain ⟨f, refused⟩ := refused
    rw [Expr.read, refused] at accepted
    cases accepted
  · exact ⟨tokens, rfl⟩

/-- A text in whose comments, and in whose literals within tripled marks, quotation marks and braces
come in pairs. -/
def IsBalanced (t : Text) : Prop := ∀ p ∈ lexemes t, p.1.isVerbatim p.2 = true → Body p.2

theorem scan_of_tokens {t : Text} {tokens : List Token} (read : tokens? t = some tokens)
    (balanced : IsBalanced t) : scan (0, .plain) t = some (0, .plain) := by
  rw [← scan_unifyLines (s := (0, .plain)) trivial]
  exact run_scan ⟨by simp, by simp⟩ read balanced

end Lexer

namespace Segment

theorem split_of_scan {e : Text} (read : scan (0, .plain) e = some (0, .plain)) :
    split (opening ++ e ++ [125]) = .ok [.expr e 0] := by
  have marker : literal (opening ++ e ++ [125]) = ([], some (e ++ [125])) := by
    rw [opening, List.append_assoc]
    rfl
  have ends : spanFrom 0 Mode.plain.quote? [] (Mode.plain.pending ++ (e ++ [125])) =
      some (e, []) := spanFrom_of_scan read
  have body : span? (e ++ [125]) = some (e, []) := ends
  rw [split, segmentsFrom, marker]
  dsimp only
  rw [body]
  rfl

end Segment

end Phrasebook
