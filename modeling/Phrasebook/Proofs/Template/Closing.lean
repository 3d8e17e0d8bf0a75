import Phrasebook.Proofs.Template.Split
import Phrasebook.Template.Compile
/-!
Spans as a language: the brace that ends a span is the one that bodies lead up to. What is left to
read is described by what the open braces and quotation marks still demand of it.
-/
namespace Phrasebook.Segment

variable {t u body after inside rest source : Text} {c q : Code} {depth pos offset fuel i k : Nat}

/-- Bodies with as many closing braces between them as there are braces open. -/
def Closes : Nat → Text → Prop
  | 0, t => Body t
  | depth + 1, t => ∃ u rest, Body u ∧ t = u ++ 125 :: rest ∧ Closes depth rest

/-- What the mode demands of a text before the open braces do. -/
def Mode.Demands (depth : Nat) : Mode → Text → Prop
  | .plain, t => Closes depth t
  | .quoted q, t => ∃ u rest, Quoted q u ∧ t = u ++ q :: rest ∧ Closes depth rest
  | .escaped q, t => ∃ u rest, Quoted q (92 :: u) ∧ t = u ++ q :: rest ∧ Closes depth rest

theorem Closes.prepend {front : Text} (enlarges : ∀ u, Body u → Body (front ++ u))
    (closes : Closes depth t) : Closes depth (front ++ t) := by
  cases depth with
  | zero => exact enlarges t closes
  | succ depth =>
    obtain ⟨u, rest, isBody, rfl, closes⟩ := closes
    exact ⟨front ++ u, rest, enlarges u isBody, (List.append_assoc _ _ _).symm, closes⟩

theorem Closes.plain (isPlain : IsPlain c) (closes : Closes depth t) : Closes depth (c :: t) := by
  have enlarges : ∀ u, Body u → Body ([c] ++ u) := fun _ => Body.char isPlain
  exact closes.prepend enlarges

theorem Closes.quotes (isMark : isQuote q = true) (inner : Quoted q u)
    (closes : Closes depth rest) : Closes depth (q :: (u ++ q :: rest)) := by
  have enlarges : ∀ v, Body v → Body ((q :: (u ++ [q])) ++ v) := by
    intro v isBody
    simpa using Body.quotes isMark inner isBody
  simpa using closes.prepend enlarges

theorem Closes.braces (closes : Closes (depth + 1) t) : Closes depth (123 :: t) := by
  obtain ⟨u, rest, isBody, rfl, closes⟩ := closes
  have enlarges : ∀ v, Body v → Body ((123 :: (u ++ [125])) ++ v) := by
    intro v later
    simpa using Body.braces isBody later
  simpa using closes.prepend enlarges

/-- What the machine reads to its end is what is demanded. -/
theorem demands_of_scan {mode : Mode} (read : scan (depth, mode) t = some (0, .plain)) :
    mode.Demands depth t := by
  induction t generalizing depth mode with
  | nil =>
    cases read
    exact Body.nil
  | cons c t ih =>
    obtain ⟨⟨depth', mode'⟩, fed, read⟩ := Option.bind_eq_some_iff.mp read
    have later := ih read
    cases mode with
    | escaped q =>
      cases fed
      obtain ⟨u, rest, inner, rfl, closes⟩ := later
      exact ⟨c :: u, rest, .escaped inner, rfl, closes⟩
    | quoted q =>
      cases fed
      split_ifs at later with backslash mark
      · subst backslash
        obtain ⟨u, rest, inner, rfl, closes⟩ := later
        exact ⟨92 :: u, rest, inner, rfl, closes⟩
      · subst mark
        exact ⟨[], t, .nil, rfl, later⟩
      · obtain ⟨u, rest, inner, rfl, closes⟩ := later
        exact ⟨c :: u, rest, .char mark backslash inner, rfl, closes⟩
    | plain =>
      simp only [feed] at fed
      split_ifs at fed with mark opens closing
      · cases fed
        obtain ⟨u, rest, inner, rfl, closes⟩ := later
        exact closes.quotes mark inner
      · cases fed
        subst opens
        exact later.braces
      · cases depth with
        | zero => cases fed
        | succ depth =>
          cases fed
          subst closing
          exact ⟨[], t, .nil, rfl, later⟩
      · cases fed
        exact later.plain ⟨by simpa using mark, opens, closing⟩

/-- The machine reads bodies from end to end, and nothing else. -/
theorem scan_eq_some_iff_body : scan (0, .plain) t = some (0, .plain) ↔ Body t :=
  ⟨demands_of_scan, scan_body⟩

theorem span?_eq_some_iff_body :
    span? t = some (inside, rest) ↔ t = inside ++ 125 :: rest ∧ Body inside := by
  rw [span?_eq_some_iff, scan_eq_some_iff_body]

/-- The position of the brace that closes a span whose body starts at `pos`. -/
def spanEnd? (source : Text) (pos : Nat) : Option Nat :=
  (span? (source.drop pos)).map fun span => pos + span.1.length

/-- There is a closing brace at `i`, and a body stands before it from `pos` on. -/
structure IsSpanEnd (source : Text) (pos i : Nat) : Prop where
  le : pos ≤ i
  brace : source[i]? = some 125
  body : Body ((source.take i).drop pos)

theorem IsSpanEnd.drop_eq (isEnd : IsSpanEnd source pos i) :
    source.drop pos = (source.take i).drop pos ++ 125 :: source.drop (i + 1) := by
  obtain ⟨inRange, here⟩ := List.getElem?_eq_some_iff.mp isEnd.brace
  have cut : source = source.take i ++ 125 :: source.drop (i + 1) := by
    rw [← here, ← List.drop_eq_getElem_cons inRange, List.take_append_drop]
  have long : pos ≤ (source.take i).length := by
    rw [List.length_take]
    have := isEnd.le
    omega
  conv_lhs => rw [cut]
  exact List.drop_append_of_le_length long

theorem isSpanEnd_of_drop_eq (cut : source.drop pos = inside ++ 125 :: rest) (isBody : Body inside) :
    IsSpanEnd source pos (pos + inside.length) where
  le := Nat.le_add_right _ _
  brace := by
    rw [← List.getElem?_drop, cut]
    simp
  body := by
    rw [List.drop_take, cut]
    simpa using isBody

theorem spanEnd?_eq_some_iff : spanEnd? source pos = some i ↔ IsSpanEnd source pos i := by
  rw [spanEnd?, Option.map_eq_some_iff]
  constructor
  · rintro ⟨⟨inside, rest⟩, ended, rfl⟩
    obtain ⟨cut, isBody⟩ := span?_eq_some_iff_body.mp ended
    exact isSpanEnd_of_drop_eq cut isBody
  · intro isEnd
    refine ⟨⟨_, _⟩, span?_eq_some_iff_body.mpr ⟨isEnd.drop_eq, isEnd.body⟩, ?_⟩
    obtain ⟨inRange, -⟩ := List.getElem?_eq_some_iff.mp isEnd.brace
    have := isEnd.le
    simp only [List.length_drop, List.length_take]
    omega

theorem spanEnd?_eq_none_iff : spanEnd? source pos = none ↔ ∀ i, ¬IsSpanEnd source pos i := by
  simp only [Option.eq_none_iff_forall_ne_some, ← spanEnd?_eq_some_iff, ne_eq]

/-- Literal text and the span behind it, as they stand in a source. -/
def written (span : Text × Text) : Text := span.1 ++ (opening ++ (span.2 ++ [125]))

/-- Spans that are closed, each behind text without a marker, and then a marker at `k`. -/
def MarkerBehind (spans : List (Text × Text)) (after source : Text) (k : Nat) : Prop :=
  (∀ span ∈ spans, (¬opening <:+: span.1) ∧ Body span.2) ∧
    ∃ body, (¬opening <:+: body) ∧ k = (spans.flatMap written ++ body).length ∧
      source = spans.flatMap written ++ (body ++ (opening ++ after))

theorem MarkerBehind.drop_eq {spans : List (Text × Text)} (marker : MarkerBehind spans after source k) :
    source.drop (k + 2) = after := by
  obtain ⟨-, body, -, rfl, rfl⟩ := marker
  have cut : spans.flatMap written ++ (body ++ (opening ++ after)) =
      (spans.flatMap written ++ body ++ opening) ++ after := by simp
  rw [cut]
  exact List.drop_left' (by simp [opening, Nat.add_assoc])

theorem MarkerBehind.cons {span : Text × Text} {spans : List (Text × Text)}
    (noMarker : ¬opening <:+: span.1) (isBody : Body span.2)
    (marker : MarkerBehind spans after rest k) :
    MarkerBehind (span :: spans) after (written span ++ rest) ((written span).length + k) := by
  obtain ⟨closed, body, noMore, rfl, rfl⟩ := marker
  refine ⟨List.forall_mem_cons.mpr ⟨⟨noMarker, isBody⟩, closed⟩, body, noMore, ?_, ?_⟩
  · simp only [List.flatMap_cons, List.append_assoc, List.length_append]
  · rw [List.flatMap_cons, List.append_assoc]

theorem marker_of_segmentsFrom (enough : t.length < fuel)
    (failed : segmentsFrom fuel offset t = .error k) :
    ∃ spans after n, MarkerBehind spans after t n ∧ k = offset + n ∧ span? after = none := by
  induction fuel generalizing offset t with
  | zero => cases enough
  | succ fuel ih =>
    rw [segmentsFrom] at failed
    rcases literal_cases t with noMarker | ⟨body, after, noMarker, rfl⟩
    · rw [literal_of_not_marker noMarker] at failed
      cases failed
    rw [literal_append noMarker] at failed
    rcases ended : span? after with _ | ⟨inside, rest⟩
    · simp only [ended] at failed
      cases failed
      refine ⟨[], after, body.length, ⟨?_, body, noMarker, rfl, rfl⟩, rfl, ended⟩
      exact List.forall_mem_nil _
    · simp only [ended] at failed
      obtain ⟨rfl, isBody⟩ := span?_eq_some_iff_body.mp ended
      have fewer : rest.length < fuel := by
        simp [opening] at enough
        omega
      rcases later : segmentsFrom fuel (offset + body.length + inside.length + 3) rest with e | more
      · rw [later] at failed
        cases failed
        obtain ⟨spans, after, n, marker, rfl, unclosed⟩ := ih fewer later
        refine ⟨(body, inside) :: spans, after, (written (body, inside)).length + n, ?_, ?_, unclosed⟩
        · have onward : MarkerBehind ((body, inside) :: spans) after _ _ :=
            .cons noMarker isBody marker
          simpa [written] using onward
        · simp [written, opening]
          omega
      · rw [later] at failed
        cases failed

theorem segmentsFrom_of_marker {spans : List (Text × Text)} (unclosed : span? after = none)
    (marker : MarkerBehind spans after t k) (enough : t.length < fuel) :
    segmentsFrom fuel offset t = .error (offset + k) := by
  obtain ⟨closed, body, noMarker, rfl, rfl⟩ := marker
  induction spans generalizing offset fuel with
  | nil =>
    obtain ⟨fuel, rfl⟩ : ∃ n, fuel = n + 1 := ⟨fuel - 1, by omega⟩
    change segmentsFrom (fuel + 1) offset (body ++ (opening ++ after)) = _
    simp only [segmentsFrom, literal_append noMarker, unclosed]
    rfl
  | cons span spans ih =>
    obtain ⟨fuel, rfl⟩ : ∃ n, fuel = n + 1 := ⟨fuel - 1, by omega⟩
    obtain ⟨⟨first, isBody⟩, closed⟩ := List.forall_mem_cons.mp closed
    generalize cut : spans.flatMap written ++ (body ++ (opening ++ after)) = rest at ih
    have whole : (span :: spans).flatMap written ++ (body ++ (opening ++ after)) =
        span.1 ++ (opening ++ (span.2 ++ 125 :: rest)) := by
      rw [← cut]
      simp [written]
    have ended : span? (span.2 ++ 125 :: rest) = some (span.2, rest) :=
      span?_eq_some_iff_body.mpr ⟨rfl, isBody⟩
    rw [whole] at enough ⊢
    have fewer : rest.length < fuel := by
      simp [opening] at enough
      omega
    simp only [segmentsFrom, literal_append first, ended, ih closed fewer]
    simp [written, opening]
    omega

theorem split_eq_error_iff_marker : split source = .error k ↔
    ∃ spans after, MarkerBehind spans after source k ∧ span? after = none := by
  constructor
  · intro failed
    obtain ⟨spans, after, n, marker, rfl, unclosed⟩ :=
      marker_of_segmentsFrom (Nat.lt_succ_self _) failed
    exact ⟨spans, after, by simpa using marker, unclosed⟩
  · rintro ⟨spans, after, marker, unclosed⟩
    rw [split, segmentsFrom_of_marker unclosed marker (Nat.lt_succ_self _), Nat.zero_add]

/-- Behind spans that are closed there is a marker at `k` that never is. -/
def Unclosed (source : Text) (k : Nat) : Prop :=
  ∃ spans after, MarkerBehind spans after source k ∧ ∀ i, ¬IsSpanEnd source (k + 2) i

theorem split_eq_error_iff : split source = .error k ↔ Unclosed source k := by
  rw [split_eq_error_iff_marker]
  refine exists_congr fun spans => exists_congr fun after => and_congr_right fun marker => ?_
  rw [← spanEnd?_eq_none_iff, spanEnd?, Option.map_eq_none_iff, marker.drop_eq]

theorem IsSpanEnd.unique {j : Nat} (first : IsSpanEnd source pos i) (second : IsSpanEnd source pos j) :
    i = j :=
  Option.some.inj ((spanEnd?_eq_some_iff.mpr first).symm.trans (spanEnd?_eq_some_iff.mpr second))

/-- Spans end where a body has been read, and splitting fails just at the first marker without such
an end. -/
theorem spans_end (source : Text) :
    (∀ pos i, spanEnd? source pos = some i ↔ IsSpanEnd source pos i) ∧
    (∀ pos i j, IsSpanEnd source pos i → IsSpanEnd source pos j → i = j) ∧
    (∀ pos, spanEnd? source pos = none ↔ ∀ i, ¬IsSpanEnd source pos i) ∧
    (∀ k, split source = .error k ↔ Unclosed source k) ∧
    ∀ f, Template.segments source = .error f ↔ ∃ k, Unclosed source k ∧
      f = .own (.templateSyntax (.diagnostic (Diagnostic.unterminated source k)) source) := by
  refine ⟨fun _ _ => spanEnd?_eq_some_iff, fun _ _ _ => IsSpanEnd.unique,
    fun _ => spanEnd?_eq_none_iff, fun _ => split_eq_error_iff, fun f => ?_⟩
  simp only [← split_eq_error_iff]
  rw [Template.segments]
  rcases split source with k | segments
  · simp only [Except.error.injEq, exists_eq_left']
    exact eq_comm
  · simp

/-- The brace in quotation marks ends nothing. -/
example : spanEnd? "$\x7b'\x7d'\x7d" 2 = some 5 := by
  cbv

end Phrasebook.Segment
