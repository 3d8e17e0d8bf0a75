import Phrasebook.Proofs.Outcome
import Phrasebook.Proofs.Template.Scan
import Mathlib.Data.List.Infix
/-!
The segments of a source. Literal text runs up to the first marker and a span up to the brace that
closes it, over and over. This is the one way to write a source as such segments.
-/
namespace Phrasebook.Segment

variable {t u body after inside rest : Text} {segments more : List Segment} {offset fuel : Nat}

/-- Inside an open quotation mark, or outside of all. -/
def Mode.within : Option Code → Mode
  | none => plain
  | some q => quoted q

/-- A span ends at a brace, and what it has read closes whatever it opens. -/
theorem scan_of_spanFrom {depth : Nat} {quote : Option Code} {b : Text}
    (ended : spanFrom depth quote b t = some (inside, rest)) :
    ∃ read, inside = b.reverse ++ read ∧ t = read ++ 125 :: rest ∧
      scan (depth, .within quote) read = some (0, .plain) := by
  fun_induction spanFrom depth quote b t with
  | case1 | case2 => cases ended
  | case3 depth b q d t ih =>
    obtain ⟨read, rfl, rfl, closed⟩ := ih ended
    refine ⟨92 :: d :: read, by simp, rfl, ?_⟩
    simpa [scan_cons, feed, Mode.within] using closed
  | case4 depth b c t q noBackslash ih =>
    obtain ⟨read, rfl, rfl, closed⟩ := ih ended
    refine ⟨c :: read, by simp, rfl, ?_⟩
    rw [scan_cons]
    split_ifs at closed with mark
    · subst mark
      simpa [feed, Mode.within, noBackslash] using closed
    · simpa [feed, Mode.within, noBackslash, mark] using closed
  | case5 depth b c t mark ih =>
    obtain ⟨read, rfl, rfl, closed⟩ := ih ended
    refine ⟨c :: read, by simp, rfl, ?_⟩
    simpa [scan_cons, feed, Mode.within, mark] using closed
  | case6 depth b t _ ih =>
    obtain ⟨read, rfl, rfl, closed⟩ := ih ended
    exact ⟨123 :: read, by simp, rfl, closed⟩
  | case7 b t =>
    cases ended
    exact ⟨[], by simp, rfl, rfl⟩
  | case8 b t depth _ _ ih =>
    obtain ⟨read, rfl, rfl, closed⟩ := ih ended
    exact ⟨125 :: read, by simp, rfl, closed⟩
  | case9 depth b c t noMark opens closes ih =>
    obtain ⟨read, rfl, rfl, closed⟩ := ih ended
    refine ⟨c :: read, by simp, rfl, ?_⟩
    have plain : IsPlain c := ⟨by simpa using noMark, opens, closes⟩
    rw [scan_cons, Mode.within, feed_plain plain]
    exact closed

/-- A span of an expression, and the brace behind it. -/
theorem span?_eq_some_iff : span? t = some (inside, rest) ↔
    t = inside ++ 125 :: rest ∧ scan (0, .plain) inside = some (0, .plain) := by
  constructor
  · intro ended
    obtain ⟨read, rfl, rfl, closed⟩ := scan_of_spanFrom ended
    exact ⟨rfl, closed⟩
  · rintro ⟨rfl, closed⟩
    exact spanFrom_of_scan closed

theorem not_marker_nil : ¬opening <:+: [] := by simp [opening]

theorem literal_cons {c : Code} (other : ¬opening <+: c :: rest) :
    literal (c :: rest) = (c :: (literal rest).1, (literal rest).2) := by
  rw [literal.eq_def]
  split
  · rename_i empty
    cases empty
  · rename_i first later cut
    cases cut
    split
    · exact absurd ⟨_, rfl⟩ other
    · rfl

theorem literal_of_not_marker (noMarker : ¬opening <:+: body) : literal body = (body, none) := by
  induction body with
  | nil => rfl
  | cons c rest ih =>
    obtain ⟨other, later⟩ := not_or.mp (mt List.infix_cons_iff.mpr noMarker)
    rw [literal_cons other, ih later]

theorem literal_append (noMarker : ¬opening <:+: body) :
    literal (body ++ (opening ++ after)) = (body, some after) := by
  induction body with
  | nil => rfl
  | cons c rest ih =>
    obtain ⟨other, later⟩ := not_or.mp (mt List.infix_cons_iff.mpr noMarker)
    -- A dollar sign at the end of the body would need a brace behind it, not another dollar sign.
    have still : ¬opening <+: c :: (rest ++ (opening ++ after)) := by
      cases rest <;> simp_all [opening]
    rw [List.cons_append, literal_cons still, ih later]

/-- A text is literal as a whole, or up to its first marker. -/
theorem literal_cases (t : Text) :
    (¬opening <:+: t) ∨ ∃ body after, (¬opening <:+: body) ∧ t = body ++ (opening ++ after) := by
  induction t with
  | nil => exact .inl not_marker_nil
  | cons c rest ih =>
    by_cases marker : opening <+: c :: rest
    · obtain ⟨after, whole⟩ := marker
      exact .inr ⟨[], after, not_marker_nil, whole.symm⟩
    · rcases ih with noMarker | ⟨body, after, noMarker, rfl⟩
      · exact .inl fun found => (List.infix_cons_iff.mp found).elim marker noMarker
      · refine .inr ⟨c :: body, after, fun found => ?_, rfl⟩
        refine (List.infix_cons_iff.mp found).elim (fun front => marker ?_) noMarker
        exact front.trans ⟨opening ++ after, rfl⟩

/-- Literal text as segments: none if it is empty. -/
def literals (body : Text) : List Segment := if body.isEmpty then [] else [.text body]

/-- The segments of a text at an offset: literal text and a span as often as there is a marker, and
then literal text. -/
inductive Cut : Nat → Text → List Segment → Prop
  | last {offset : Nat} {body : Text} (noMarker : ¬opening <:+: body) :
      Cut offset body (literals body)
  | span {offset : Nat} {body inside rest : Text} {more : List Segment}
      (noMarker : ¬opening <:+: body) (closed : scan (0, .plain) inside = some (0, .plain))
      (later : Cut (offset + body.length + inside.length + 3) rest more) :
      Cut offset (body ++ (opening ++ (inside ++ 125 :: rest)))
        (literals body ++ .expr inside (offset + body.length) :: more)

theorem cut_of_segmentsFrom (enough : t.length < fuel)
    (found : segmentsFrom fuel offset t = .ok segments) : Cut offset t segments := by
  induction fuel generalizing offset t segments with
  | zero => cases enough
  | succ fuel ih =>
    rw [segmentsFrom] at found
    rcases literal_cases t with noMarker | ⟨body, after, noMarker, rfl⟩
    · rw [literal_of_not_marker noMarker] at found
      cases found
      exact .last noMarker
    · rw [literal_append noMarker] at found
      rcases ended : span? after with _ | ⟨inside, rest⟩
      · simp only [ended] at found
        cases found
      · simp only [ended] at found
        obtain ⟨rfl, closed⟩ := span?_eq_some_iff.mp ended
        obtain ⟨more, later, found⟩ := Outcome.bind_eq_ok.mp found
        cases found
        refine .span noMarker closed (ih ?_ later)
        simp [opening] at enough
        omega

theorem segmentsFrom_of_cut (cut : Cut offset t segments) (enough : t.length < fuel) :
    segmentsFrom fuel offset t = .ok segments := by
  induction cut generalizing fuel with
  | last noMarker =>
    obtain ⟨fuel, rfl⟩ : ∃ n, fuel = n + 1 := ⟨fuel - 1, by omega⟩
    rw [segmentsFrom, literal_of_not_marker noMarker]
    rfl
  | @span offset body inside rest more noMarker closed later ih =>
    obtain ⟨fuel, rfl⟩ : ∃ n, fuel = n + 1 := ⟨fuel - 1, by omega⟩
    have ended : span? (inside ++ 125 :: rest) = some (inside, rest) :=
      span?_eq_some_iff.mpr ⟨rfl, closed⟩
    have fewer : rest.length < fuel := by
      simp [opening] at enough
      omega
    simp only [segmentsFrom, literal_append noMarker, ended, ih fewer]
    rfl

theorem split_eq_ok_iff_cut : split t = .ok segments ↔ Cut 0 t segments :=
  ⟨cut_of_segmentsFrom (Nat.lt_succ_self _), fun cut => segmentsFrom_of_cut cut (Nat.lt_succ_self _)⟩

/-- What segments at an offset have to be like to be told apart again when they are written. -/
structure Orderly (offset : Nat) (segments : List Segment) : Prop where
  spans : ∀ front body place back, segments = front ++ .expr body place :: back →
    place = offset + (front.flatMap toText).length ∧ scan (0, .plain) body = some (0, .plain)
  texts : ∀ body, .text body ∈ segments → body ≠ [] ∧ ¬opening <:+: body
  apart : ∀ front first second back, segments ≠ front ++ .text first :: .text second :: back

namespace Orderly

theorem nil : Orderly offset [] := ⟨by simp, by simp, by simp⟩

theorem text {body : Text} (nonempty : body ≠ []) (noMarker : ¬opening <:+: body)
    (noText : ∀ other, more.head? ≠ some (.text other))
    (later : Orderly (offset + body.length) more) : Orderly offset (.text body :: more) where
  spans front inside place back parts := by
    obtain ⟨-, here⟩ | ⟨front, rfl, behind⟩ := List.cons_eq_append_iff.mp parts
    · cases here
    · simpa [toText, Nat.add_assoc] using later.spans front inside place back behind
  texts other member := by
    rcases List.mem_cons.mp member with same | member
    · cases same
      exact ⟨nonempty, noMarker⟩
    · exact later.texts other member
  apart front first second back parts := by
    obtain ⟨-, here⟩ | ⟨front, rfl, behind⟩ := List.cons_eq_append_iff.mp parts
    · cases here
      exact noText second rfl
    · exact later.apart front first second back behind

theorem expr {body : Text} (closed : scan (0, .plain) body = some (0, .plain))
    (later : Orderly (offset + body.length + 3) more) :
    Orderly offset (.expr body offset :: more) where
  spans front inside place back parts := by
    obtain ⟨rfl, here⟩ | ⟨front, rfl, behind⟩ := List.cons_eq_append_iff.mp parts
    · cases here
      exact ⟨rfl, closed⟩
    · obtain ⟨rfl, closed⟩ := later.spans front inside place back behind
      refine ⟨?_, closed⟩
      simp [toText, opening]
      omega
  texts other member := by
    rcases List.mem_cons.mp member with same | member
    · cases same
    · exact later.texts other member
  apart front first second back parts := by
    obtain ⟨-, here⟩ | ⟨front, rfl, behind⟩ := List.cons_eq_append_iff.mp parts
    · cases here
    · exact later.apart front first second back behind

theorem of_cut (cut : Cut offset t segments) : Orderly offset segments := by
  induction cut with
  | @last offset body noMarker =>
    rw [literals]
    split_ifs with empty
    · exact .nil
    · exact .text (by simpa using empty) noMarker (by simp) .nil
  | @span offset body inside rest more noMarker closed later ih =>
    have onward := Orderly.expr closed ih
    rw [literals]
    split_ifs with empty
    · obtain rfl := List.isEmpty_iff.mp empty
      exact onward
    · exact .text (by simpa using empty) noMarker (by simp) onward

theorem tail {s : Segment} (orderly : Orderly offset (s :: more)) :
    Orderly (offset + s.toText.length) more where
  spans front body place back parts := by
    simpa [Nat.add_assoc] using
      orderly.spans (s :: front) body place back (by rw [parts, List.cons_append])
  texts body member := orderly.texts body (List.mem_cons_of_mem s member)
  apart front first second back parts :=
    orderly.apart (s :: front) first second back (by rw [parts, List.cons_append])

theorem cut : ∀ (segments : List Segment) (offset : Nat), Orderly offset segments →
    Cut offset (segments.flatMap toText) segments
  | [], _, _ => .last not_marker_nil
  | .expr inside place :: more, offset, orderly => by
    obtain ⟨rfl, closed⟩ := orderly.spans [] inside place more rfl
    have later : Cut (place + ([] : Text).length + inside.length + 3) (more.flatMap toText) more := by
      simpa [toText, opening, Nat.add_assoc] using cut more _ orderly.tail
    simpa [literals, toText] using Cut.span not_marker_nil closed later
  | [.text body], offset, orderly => by
    obtain ⟨nonempty, noMarker⟩ := orderly.texts body List.mem_cons_self
    have last : Cut offset body (literals body) := .last noMarker
    simpa [literals, nonempty, toText] using last
  | .text first :: .text second :: more, offset, orderly =>
    absurd rfl (orderly.apart [] first second more)
  | .text body :: .expr inside place :: more, offset, orderly => by
    obtain ⟨nonempty, noMarker⟩ := orderly.texts body List.mem_cons_self
    obtain ⟨rfl, closed⟩ := orderly.spans [.text body] inside place more rfl
    have later : Cut (offset + body.length + inside.length + 3) (more.flatMap toText) more := by
      simpa [toText, opening, Nat.add_assoc] using cut more _ orderly.tail.tail
    simpa [literals, nonempty, toText] using Cut.span noMarker closed later

end Orderly

theorem flatMap_toText_of_cut (cut : Cut offset t segments) : segments.flatMap toText = t := by
  have written (body : Text) : (literals body).flatMap toText = body := by
    cases body <;> simp [literals, toText]
  induction cut with
  | last noMarker => exact written _
  | span noMarker closed later ih => simp [written, toText, ih]

/-- A source is split into segments just if they are these: written one after the other they give the
source, each expression stands where it says and closes what it opens, literal text is not empty and
holds no marker, and no two literal texts meet. -/
theorem split_eq_ok_iff (source : Text) (segments : List Segment) :
    split source = .ok segments ↔
      segments.flatMap toText = source ∧
      (∀ front body offset back, segments = front ++ .expr body offset :: back →
        offset = (front.flatMap toText).length ∧ scan (0, .plain) body = some (0, .plain)) ∧
      (∀ body, .text body ∈ segments → body ≠ [] ∧ ¬opening <:+: body) ∧
      ∀ front first second back, segments ≠ front ++ .text first :: .text second :: back := by
  rw [split_eq_ok_iff_cut]
  constructor
  · intro cut
    have orderly := Orderly.of_cut cut
    refine ⟨flatMap_toText_of_cut cut, fun front body offset back parts => ?_, orderly.texts,
      orderly.apart⟩
    simpa using orderly.spans front body offset back parts
  · rintro ⟨rfl, spans, texts, apart⟩
    exact Orderly.cut segments 0 ⟨by simpa using spans, texts, apart⟩

/-- Dollar signs before a marker, a brace in quotation marks, and spans that meet. -/
example : split "a$$\x7bf(\x7b'\x7d': 1\x7d)\x7d$\x7bb\x7d\x7d" =
    .ok [.text "a$", .expr "f(\x7b'\x7d': 1\x7d)" 2, .expr "b" 16, .text "\x7d"] := by
  cbv

end Phrasebook.Segment
