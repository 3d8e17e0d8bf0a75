import Phrasebook.Proofs.Expr.Stars
import Phrasebook.Proofs.Template.Compile
/-!
Reading keeps to the grammar: what is read has nothing outside of it, and what has is not read, so that
no template with it is compiled.
-/
namespace Phrasebook

namespace Expr

/-- Some expressions come from others by placing their literals. -/
def PlacedFrom (source : Text) (es ds : List Expr) : Prop :=
  ∀ d ∈ ds, ∃ e ∈ es, ∃ n, d = (placeFrom source e n).1

namespace PlacedFrom

variable {source : Text} {es fs ds bs : List Expr}

theorem nil : PlacedFrom source es [] := fun _ member => nomatch member

theorem cons (e : Expr) (n : Nat) (rest : PlacedFrom source es ds) :
    PlacedFrom source (e :: es) ((placeFrom source e n).1 :: ds) := by
  intro d member
  rcases List.mem_cons.mp member with rfl | later
  · exact ⟨e, .head _, n, rfl⟩
  · obtain ⟨e, inside, placed⟩ := rest d later
    exact ⟨e, .tail _ inside, placed⟩

theorem append (first : PlacedFrom source es ds) (second : PlacedFrom source fs bs) :
    PlacedFrom source (es ++ fs) (ds ++ bs) := by
  intro d member
  rcases List.mem_append.mp member with left | right
  · obtain ⟨e, inside, placed⟩ := first d left
    exact ⟨e, List.mem_append_left _ inside, placed⟩
  · obtain ⟨e, inside, placed⟩ := second d right
    exact ⟨e, List.mem_append_right _ inside, placed⟩

variable (n : Nat)

theorem option (e : Option Expr) :
    PlacedFrom source e.toList (placeOption source e n).1.toList := by
  cases e with
  | none => exact .nil
  | some e => exact .cons e n .nil

theorem list (es : List Expr) : PlacedFrom source es (placeList source es n).1 := by
  induction es generalizing n with
  | nil => exact .nil
  | cons e rest ih => exact .cons e n (ih _)

theorem keywords (ks : List (Option Text × Expr)) :
    PlacedFrom source (ks.map (·.2)) ((placeKeywords source ks n).1.map (·.2)) := by
  induction ks generalizing n with
  | nil => exact .nil
  | cons k rest ih => exact .cons k.2 n (ih _)

theorem compare (rest : List (CompareOp × Expr)) :
    PlacedFrom source (rest.map (·.2)) ((placeCompare source rest n).1.map (·.2)) := by
  induction rest generalizing n with
  | nil => exact .nil
  | cons c rest ih => exact .cons c.2 n (ih _)

theorem keys (items : List (Option Expr × Expr)) :
    PlacedFrom source (items.filterMap (·.1)) ((placeItems source items n).1.filterMap (·.1)) := by
  induction items generalizing n with
  | nil => exact .nil
  | cons item rest ih =>
    obtain ⟨_ | k, e⟩ := item
    · exact ih _
    · exact .cons k n (ih _)

theorem values (items : List (Option Expr × Expr)) :
    PlacedFrom source (items.map (·.2)) ((placeItems source items n).1.map (·.2)) := by
  induction items generalizing n with
  | nil => exact .nil
  | cons item rest ih =>
    obtain ⟨k, e⟩ := item
    exact .cons e _ (ih _)

theorem children (e : Expr) :
    PlacedFrom source e.children (placeFrom source e n).1.children := by
  cases e with
  | literal | name | foreign => exact .nil
  | «attribute» e | unary _ e | starred e | lambda _ _ e => exact .cons e n .nil
  | subscript a b => exact .cons a n (.cons b _ .nil)
  | binary _ a b => exact .cons a n (.cons b _ .nil)
  | conditional a b c => exact .cons a n (.cons b _ (.cons c _ .nil))
  | slice a b c => exact ((option n a).append (option _ b)).append (option _ c)
  | call f args ks => exact .cons f n ((list _ args).append (keywords _ ks))
  | boolean _ es | list es | tuple es | set es | joined es => exact list n es
  | compare a rest => exact .cons a n (compare _ rest)
  | dict items => exact (keys n items).append (values n items)
  | formatted a _ spec => exact .cons a n (option _ spec)

theorem others (e : Expr) : PlacedFrom source e.others (placeFrom source e n).1.others := by
  have all : PlacedFrom source e.children _ := children n e
  cases e with
  | call f args ks => exact .cons f n (keywords _ ks)
  | list | tuple | set => exact .nil
  | _ => exact all

end PlacedFrom

variable {source : Text} {e : Expr}

theorem Contains.of_placed {n : Nat} {d : Expr} (contains : (placeFrom source e n).1.Contains d) :
    ∃ d₀ m, e.Contains d₀ ∧ d = (placeFrom source d₀ m).1 := by
  induction contains with
  | refl => exact ⟨e, n, .refl, rfl⟩
  | tail _ member ih =>
    obtain ⟨b, m, contains, rfl⟩ := ih
    obtain ⟨c, inside, k, rfl⟩ := PlacedFrom.children m b _ member
    exact ⟨c, k, contains.tail inside, rfl⟩

theorem Outside.of_placed {n : Nat} {r : Refusal} (outside : (placeFrom source e n).1.Outside r) :
    e.Outside r := by
  cases e with
  | foreign f => exact outside
  | binary op a b =>
    cases outside with
    | operator _ _ foreign => exact .operator a b foreign
  | «attribute» e attr =>
    cases outside with
    | «attribute» _ forbidden => exact .attribute e forbidden
  | lambda params simple body =>
    cases outside with
    | lambda => exact .lambda params body
  | _ => cases outside

theorem InGrammar.placed (inside : e.InGrammar) (source : Text) : (e.placed source).InGrammar := by
  intro d contains r outside
  obtain ⟨d₀, m, original, rfl⟩ := contains.of_placed
  exact inside d₀ original r outside.of_placed

theorem StarsInPlace.placed (inPlace : e.StarsInPlace) (source : Text) :
    (e.placed source).StarsInPlace := by
  have unstarred : ∀ d m, Parser.isStarred (placeFrom source d m).1 = Parser.isStarred d := by
    intro d m
    cases d <;> rfl
  refine ⟨(unstarred e 0).trans inPlace.unstarred, fun d contains x member => ?_⟩
  obtain ⟨d₀, m, original, rfl⟩ := contains.of_placed
  obtain ⟨x₀, other, k, rfl⟩ := PlacedFrom.others m d₀ x member
  rw [unstarred, inPlace.inside d₀ original x₀ other]

/-- What evaluation relies on: an expression within the grammar, with its stars in place. -/
structure Sound (e : Expr) : Prop where
  inside : e.InGrammar
  stars : e.StarsInPlace

theorem sound_of_read {body : Text} (read : Expr.read body = .ok e) : e.Sound := by
  rw [Expr.read] at read
  split at read
  · cases read
  · split at read
    · cases read
    · rename_i parsed _ passed
      obtain rfl := Except.ok.inj read
      exact ⟨(refusal?_eq_none_iff.mp passed).placed body,
        (Parser.starsInPlace_of_parse parsed).placed body⟩

/-- What is parsed with something outside of the grammar is refused, for something that stands in it. -/
theorem read_of_outside {body : Text} {d : Expr} {r : Refusal} (parsed : Parser.parse body = .ok e)
    (contains : e.Contains d) (outside : d.Outside r) :
    ∃ d' r', e.Contains d' ∧ d'.Outside r' ∧ Expr.read body = .error r'.fault := by
  rw [Expr.read, parsed]
  cases refused : e.refusal? with
  | none => exact absurd outside (refusal?_eq_none_iff.mp refused d contains r)
  | some r' =>
    obtain ⟨d', contains, outside⟩ := outside_of_refusal? refused
    exact ⟨d', r', contains, outside, by simp [refused]⟩

end Expr

namespace Template

variable {source body : Text} {budget : Budget} {t : Template}

/-- What compiles is a constant without markers, or has a part for each segment. -/
theorem compile_eq_ok (compiled : compile budget source = .ok t) :
    t = .constant source ∧ ¬Segment.opening <:+: source ∨
      ∃ segments parts, Segment.split source = .ok segments ∧
        t = .dynamic source parts budget ∧ segments.mapM (readPart source) = .ok parts := by
  rw [compile] at compiled
  split_ifs at compiled with unmarked
  · refine .inl ⟨(Except.ok.inj compiled).symm, fun marked => ?_⟩
    simp [Text.isInfix_iff.mpr marked] at unmarked
  · obtain ⟨found, cut, rest⟩ := Outcome.bind_eq_ok.mp compiled
    obtain ⟨parts, mapped, made⟩ := Outcome.bind_eq_ok.mp rest
    rw [segments] at cut
    split at cut
    · rename_i split
      obtain rfl := Except.ok.inj cut
      exact .inr ⟨_, parts, split, (Except.ok.inj made).symm, mapped⟩
    · cases cut

/-- All expressions of a template are sound. -/
def Sound (t : Template) : Prop :=
  match t with
  | .constant _ => True
  | .dynamic _ parts _ => ∀ e, .expr e ∈ parts → e.Sound

theorem sound_of_compile (compiled : compile budget source = .ok t) : t.Sound := by
  rcases compile_eq_ok compiled with ⟨rfl, -⟩ | ⟨segments, parts, -, rfl, mapped⟩
  · trivial
  · intro e member
    obtain ⟨s, -, read⟩ := (Outcome.mem_of_mapM mapped).2 _ member
    cases s with
    | text body => cases read
    | expr body offset =>
      rcases reading : readExpr source body with f | d
      · rw [readPart, reading] at read
        cases read
      · rw [readPart, reading] at read
        cases read
        exact Expr.sound_of_read (readExpr_eq_ok_iff.mp reading)

section
variable {e d : Expr} {r : Refusal} (parsed : Parser.parse body = .ok e) (contains : e.Contains d)
  (outside : d.Outside r)
include parsed contains outside

theorem readExpr_of_outside (source : Text) : ∃ report, readExpr source body =
    .error (.own (.templateSyntax report source)) := by
  obtain ⟨-, r', -, -, refused⟩ := Expr.read_of_outside parsed contains outside
  exact ⟨_, by rw [readExpr, refused]; rfl⟩

theorem compile_of_outside {offset : Nat} {segments : List Segment}
    (cut : Segment.split source = .ok segments) (member : .expr body offset ∈ segments)
    (budget : Budget) (t : Template) : compile budget source ≠ .ok t := by
  intro compiled
  rcases compile_eq_ok compiled with ⟨-, unmarked⟩ | ⟨segments', parts, cut', -, mapped⟩
  · exact unmarked (marker_of_split cut member)
  · obtain rfl := Except.ok.inj (cut.symm.trans cut')
    obtain ⟨part, -, read⟩ := (Outcome.mem_of_mapM mapped).1 _ member
    obtain ⟨report, refused⟩ := readExpr_of_outside parsed contains outside source
    rw [readPart, refused] at read
    cases read

end
end Template
end Phrasebook
