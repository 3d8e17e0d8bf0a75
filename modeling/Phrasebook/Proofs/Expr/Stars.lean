import Phrasebook.Proofs.Expr.Grammar
/-!
Where stars stand in what is parsed: in front of items of displays and of positional arguments, and
nowhere else.
-/
namespace Phrasebook

open Phrasebook.Parser (isStarred)

namespace Expr

/-- Below an expression stars stand in front of items only. -/
def StarsInside (e : Expr) : Prop := ∀ d, e.Contains d → ∀ x ∈ d.others, isStarred x = false

/-- Stars stand in front of items only. -/
structure StarsInPlace (e : Expr) : Prop where
  unstarred : isStarred e = false
  inside : e.StarsInside

theorem StarsInside.of_child {e d : Expr} (inside : e.StarsInside) (member : d ∈ e.children) :
    d.StarsInside := fun _ contains => inside _ (.head member contains)

theorem starsInside_of {e : Expr} (others : ∀ d ∈ e.others, d.StarsInPlace)
    (items : ∀ d ∈ e.items, d.StarsInside) : e.StarsInside := by
  intro d contains x member
  rcases contains.cases_head with rfl | ⟨c, child, below⟩
  · exact (others x member).unstarred
  · rcases mem_children_iff.mp child with other | item
    · exact (others c other).inside d below x member
    · exact items c item d below x member

theorem StarsInPlace.of_others {e : Expr} (unstarred : isStarred e = false) (flat : e.items = [])
    (others : ∀ d ∈ e.others, d.StarsInPlace) : e.StarsInPlace :=
  ⟨unstarred, starsInside_of others (by simp [flat])⟩

namespace StarsInPlace

theorem leaf {e : Expr} (unstarred : isStarred e = false) (none : e.children = []) :
    e.StarsInPlace := by
  refine .of_others unstarred ?_ fun d other => ?_
  · exact List.eq_nil_iff_forall_not_mem.mpr fun d item => by
      simpa [none] using mem_children_iff.mpr (.inr item)
  · simpa [none] using mem_children_iff.mpr (.inl other)

theorem display {e : Expr} (unstarred : isStarred e = false) (none : e.others = [])
    (items : ∀ d ∈ e.items, d.StarsInside) : e.StarsInPlace :=
  ⟨unstarred, starsInside_of (by simp [none]) items⟩

theorem starred {e : Expr} (placed : e.StarsInPlace) : (Expr.starred e).StarsInside :=
  starsInside_of (List.forall_mem_singleton.mpr placed) (List.forall_mem_nil _)

theorem slice {lower upper step : Option Expr} (first : ∀ e ∈ lower, e.StarsInPlace)
    (second : ∀ e ∈ upper, e.StarsInPlace) (third : ∀ e ∈ step, e.StarsInPlace) :
    (Expr.slice lower upper step).StarsInPlace := by
  refine .of_others rfl rfl fun d member => ?_
  simp only [others, children, List.mem_append, Option.mem_toList] at member
  rcases member with (member | member) | member
  · exact first d member
  · exact second d member
  · exact third d member

theorem dict {items : List (Option Expr × Expr)}
    (entries : ∀ item ∈ items, (∀ k ∈ item.1, k.StarsInPlace) ∧ item.2.StarsInPlace) :
    (Expr.dict items).StarsInPlace := by
  refine .of_others rfl rfl fun d member => ?_
  rcases List.mem_append.mp member with key | value
  · obtain ⟨item, inside, found⟩ := List.mem_filterMap.mp key
    exact (entries item inside).1 d found
  · obtain ⟨item, inside, rfl⟩ := List.mem_map.mp value
    exact (entries item inside).2

end StarsInPlace
end Expr

namespace Parser

variable {α β : Type} {P : α → Prop} {Q : β → Prop} {m : Parse α}

/-- What a step gives, if it succeeds. -/
def Gives (m : Parse α) (P : α → Prop) : Prop :=
  ∀ ⦃ts a rest⦄, m.run ts = some (a, rest) → P a

namespace Gives

theorem pure {a : α} (holds : P a) : Gives (Pure.pure a) P := by
  rintro ts _ _ ⟨⟩
  exact holds

theorem mono {R : α → Prop} (gives : Gives m P) (weaker : ∀ a, P a → R a) : Gives m R :=
  fun _ _ _ given => weaker _ (gives given)

theorem failure : Gives (failure : Parse α) P := fun _ _ _ given => nomatch given

theorem bind {n : α → Parse β} (first : Gives m P) (later : ∀ a, P a → Gives (n a) Q) :
    Gives (m >>= n) Q := by
  intro ts b rest given
  obtain ⟨⟨a, after⟩, taken, given⟩ := Option.bind_eq_some_iff.mp given
  exact later a (first taken) given

/-- Whatever was taken first. -/
theorem step {n : α → Parse β} (later : ∀ a, Gives (n a) Q) : Gives (m >>= n) Q :=
  bind (P := fun _ => True) (fun _ _ _ _ => trivial) fun a _ => later a

theorem ite {p : Prop} [Decidable p] {n : Parse α} (yes : p → Gives m P) (no : ¬p → Gives n P) :
    Gives (if p then m else n) P := by
  split_ifs with holds
  · exact yes holds
  · exact no holds

theorem guard {p : Prop} [Decidable p] {n : PUnit → Parse α} (passed : ¬p → Gives (n ⟨⟩) P) :
    Gives (if p then Alternative.failure >>= n else n ⟨⟩) P :=
  ite (fun _ => failure.bind fun _ (none : False) => none.elim) passed

end Gives

open Phrasebook.Expr Phrasebook.Expr.StarsInPlace

/-- Parts of an f-string with stars in place. -/
def PartsInPlace (parts : List (Text ⊕ Expr)) : Prop := ∀ e, .inr e ∈ parts → e.StarsInPlace

theorem joinParts_inPlace {parts : List (Text ⊕ Expr)} (inPlace : PartsInPlace parts) :
    ∀ e ∈ joinParts parts, e.StarsInPlace := by
  induction parts with
  | nil => exact List.forall_mem_nil _
  | cons part rest ih =>
    have ih := ih fun e member => inPlace e (.tail _ member)
    cases part with
    | inr e => exact List.forall_mem_cons.mpr ⟨inPlace e (.head _), ih⟩
    | inl t =>
      rw [joinParts]
      split
      · rename_i same
        rw [same] at ih
        exact List.forall_mem_cons.mpr ⟨leaf rfl rfl, (List.forall_mem_cons.mp ih).2⟩
      · split
        · exact ih
        · exact List.forall_mem_cons.mpr ⟨leaf rfl rfl, ih⟩

/-- Arguments of a call, of which the positional ones may be starred. -/
def ArgumentsInPlace (given : List Expr × List (Option Text × Expr)) : Prop :=
  (∀ e ∈ given.1, e.StarsInside) ∧ ∀ k ∈ given.2, k.2.StarsInPlace

namespace ArgumentsInPlace

theorem nil : ArgumentsInPlace ([], []) := ⟨List.forall_mem_nil _, List.forall_mem_nil _⟩

variable {given : List Expr × List (Option Text × Expr)} (others : ArgumentsInPlace given)
include others

theorem positional {e : Expr} (inside : e.StarsInside) : ArgumentsInPlace (e :: given.1, given.2) :=
  ⟨List.forall_mem_cons.mpr ⟨inside, others.1⟩, others.2⟩

theorem keyword (n : Option Text) {e : Expr} (placed : e.StarsInPlace) :
    ArgumentsInPlace (given.1, (n, e) :: given.2) :=
  ⟨others.1, List.forall_mem_cons.mpr ⟨placed, others.2⟩⟩

end ArgumentsInPlace

/-- Entries of a dictionary display. -/
def EntriesInPlace (items : List (Option Expr × Expr)) : Prop :=
  ∀ item ∈ items, (∀ k ∈ item.1, k.StarsInPlace) ∧ item.2.StarsInPlace

/-- What is parsed with so much fuel has its stars in place. -/
structure StarsPlaced (fuel : Nat) : Prop where
  expression : Gives (expression fuel) StarsInPlace
  connective : ∀ op, Gives (connective fuel op) StarsInPlace
  connectiveRest : ∀ op, Gives (connectiveRest fuel op) fun es => ∀ e ∈ es, e.StarsInPlace
  inversion : Gives (inversion fuel) StarsInPlace
  compareRest : Gives (compareRest fuel) fun rest => ∀ c ∈ rest, c.2.StarsInPlace
  binary : ∀ level, Gives (binary fuel level) StarsInPlace
  binaryRest : ∀ level left, left.StarsInPlace → Gives (binaryRest fuel level left) StarsInPlace
  factor : Gives (factor fuel) StarsInPlace
  primary : Gives (primary fuel) StarsInPlace
  trailers : ∀ e, e.StarsInPlace → Gives (trailers fuel e) StarsInPlace
  atom : Gives (atom fuel) StarsInPlace
  group : Gives (group fuel) StarsInPlace
  named : Gives (named fuel) StarsInPlace
  starNamed : Gives (starNamed fuel) StarsInside
  starNamedList : ∀ close, Gives (starNamedList fuel close) fun es => ∀ e ∈ es, e.StarsInside
  listDisplay : Gives (listDisplay fuel) StarsInPlace
  braces : Gives (braces fuel) StarsInPlace
  setRest : ∀ e, e.StarsInPlace → Gives (setRest fuel e) StarsInPlace
  dictRest : Gives (dictRest fuel) EntriesInPlace
  slices : Gives (slices fuel) StarsInPlace
  sliceRest : Gives (sliceRest fuel) fun es => ∀ e ∈ es, e.StarsInside
  sliceItem : Gives (sliceItem fuel) StarsInside
  sliceBound : ∀ stops, Gives (sliceBound fuel stops) fun e => ∀ d ∈ e, d.StarsInPlace
  arguments : ∀ first keyword unpacked,
    Gives (arguments fuel first keyword unpacked) ArgumentsInPlace
  moreArguments : ∀ keyword unpacked, Gives (moreArguments fuel keyword unpacked) ArgumentsInPlace
  lambda : ∀ ps, Gives (lambda fuel ps) StarsInPlace
  nextParam : ∀ ps, Gives (nextParam fuel ps) StarsInPlace
  strings : Gives (strings fuel) StarsInPlace
  stringParts : ∀ tokens, Gives (stringParts fuel tokens) PartsInPlace
  pieceParts : ∀ pieces, Gives (pieceParts fuel pieces) PartsInPlace
  fieldValue : ∀ source, Gives (fieldValue fuel source) StarsInPlace

namespace StarsPlaced

variable {fuel : Nat} (ih : StarsPlaced fuel)
include ih

theorem expression_succ : Gives (Parser.expression (fuel + 1)) StarsInPlace := by
  rw [Parser.expression]
  refine .step fun _ => .ite (fun _ => ih.lambda _) fun _ => ?_
  refine .bind (ih.connective _) fun body placed => ?_
  refine .step fun _ => .ite (fun _ => ?_) fun _ => .pure placed
  refine .bind (ih.connective _) fun test first => .step fun _ => ?_
  refine .bind ih.expression fun orElse last => .pure ?_
  exact .of_others rfl rfl (by simp [others, children, first, placed, last])

theorem connective_succ (op : Connective) : Gives (Parser.connective (fuel + 1) op) StarsInPlace := by
  have gathered : ∀ first : Expr, first.StarsInPlace → Gives (do
      let rest ← Parser.connectiveRest fuel op
      pure (if rest.isEmpty then first else .boolean op (first :: rest))) StarsInPlace := by
    intro first placed
    refine .bind (ih.connectiveRest op) fun rest others => .pure ?_
    split
    · exact placed
    · exact .of_others rfl rfl (List.forall_mem_cons.mpr ⟨placed, others⟩)
  cases op with
  | or =>
    rw [Parser.connective]
    exact .bind (ih.connective _) gathered
  | and =>
    rw [Parser.connective]
    exact .bind ih.inversion gathered

theorem connectiveRest_succ (op : Connective) :
    Gives (Parser.connectiveRest (fuel + 1) op) fun es => ∀ e ∈ es, e.StarsInPlace := by
  have gathered : ∀ next : Expr, next.StarsInPlace → Gives (do
      let rest ← Parser.connectiveRest fuel op
      pure (next :: rest)) fun es => ∀ e ∈ es, e.StarsInPlace := fun next placed =>
    .bind (ih.connectiveRest op) fun rest others => .pure (List.forall_mem_cons.mpr ⟨placed, others⟩)
  cases op with
  | or =>
    rw [Parser.connectiveRest]
    refine .step fun _ => .ite (fun _ => ?_) fun _ => .pure (List.forall_mem_nil _)
    exact .bind (ih.connective _) gathered
  | and =>
    rw [Parser.connectiveRest]
    refine .step fun _ => .ite (fun _ => ?_) fun _ => .pure (List.forall_mem_nil _)
    exact .bind ih.inversion gathered

theorem inversion_succ : Gives (Parser.inversion (fuel + 1)) StarsInPlace := by
  rw [Parser.inversion]
  refine .step fun _ => .ite (fun _ => ?_) fun _ => ?_
  · refine .bind ih.inversion fun e placed => .pure ?_
    exact .of_others rfl rfl (List.forall_mem_singleton.mpr placed)
  · refine .bind (ih.binary 0) fun left placed => .bind ih.compareRest fun rest others => .pure ?_
    split
    · exact placed
    · exact .of_others rfl rfl (List.forall_mem_cons.mpr ⟨placed, List.forall_mem_map.mpr others⟩)

theorem compareRest_succ :
    Gives (Parser.compareRest (fuel + 1)) fun rest => ∀ c ∈ rest, c.2.StarsInPlace := by
  rw [Parser.compareRest]
  refine .step fun found => ?_
  cases found with
  | some op =>
    refine .bind (ih.binary 0) fun e placed => .bind ih.compareRest fun rest others => .pure ?_
    exact List.forall_mem_cons.mpr ⟨placed, others⟩
  | none => exact .pure (List.forall_mem_nil _)

theorem binary_succ (level : Nat) : Gives (Parser.binary (fuel + 1) level) StarsInPlace := by
  rw [Parser.binary]
  refine .ite (fun _ => ih.factor) fun _ => ?_
  exact .bind (ih.binary _) fun left placed => ih.binaryRest level left placed

theorem binaryRest_succ (level : Nat) {left : Expr} (placed : left.StarsInPlace) :
    Gives (Parser.binaryRest (fuel + 1) level left) StarsInPlace := by
  rw [Parser.binaryRest]
  refine .step fun found => ?_
  cases found with
  | some op =>
    refine .bind (ih.binary _) fun right other => ih.binaryRest level _ ?_
    exact .of_others rfl rfl (by simp [others, children, placed, other])
  | none => exact .pure placed

theorem factor_succ : Gives (Parser.factor (fuel + 1)) StarsInPlace := by
  rw [Parser.factor]
  refine .step fun found => ?_
  cases found with
  | some op =>
    refine .bind ih.factor fun e placed => .pure ?_
    exact .of_others rfl rfl (List.forall_mem_singleton.mpr placed)
  | none =>
    refine .step fun awaited => .bind ih.primary fun base placed => ?_
    have chosen : (if awaited then .foreign .await else base : Expr).StarsInPlace := by
      split
      · exact .of_others rfl rfl (List.forall_mem_nil _)
      · exact placed
    refine .step fun _ => .ite (fun _ => ?_) fun _ => .pure chosen
    refine .bind ih.factor fun exponent other => .pure ?_
    exact .of_others rfl rfl (by simp [others, children, chosen, other])

theorem primary_succ : Gives (Parser.primary (fuel + 1)) StarsInPlace := by
  rw [Parser.primary]
  exact .bind ih.atom fun e placed => ih.trailers e placed

theorem trailers_succ {e : Expr} (placed : e.StarsInPlace) :
    Gives (Parser.trailers (fuel + 1) e) StarsInPlace := by
  rw [Parser.trailers]
  refine .step fun _ => .ite (fun _ => ?_) fun _ => ?_
  · refine .step fun attr => ih.trailers _ ?_
    exact .of_others rfl rfl (List.forall_mem_singleton.mpr placed)
  refine .step fun _ => .ite (fun _ => ?_) fun _ => ?_
  · refine .bind (ih.arguments _ _ _) fun given inPlace => ih.trailers _ ⟨rfl, ?_⟩
    refine starsInside_of ?_ inPlace.1
    exact List.forall_mem_cons.mpr ⟨placed, List.forall_mem_map.mpr inPlace.2⟩
  refine .step fun _ => .ite (fun _ => ?_) fun _ => .pure placed
  refine .bind ih.slices fun index other => ih.trailers _ ?_
  exact .of_others rfl rfl (by simp [others, children, placed, other])

theorem atom_succ : Gives (Parser.atom (fuel + 1)) StarsInPlace := by
  rw [Parser.atom]
  refine .step fun ts => ?_
  split
  case h_6 => exact ih.strings
  case h_8 => exact .step fun _ => ih.group
  case h_9 => exact .step fun _ => ih.listDisplay
  case h_10 => exact .step fun _ => ih.braces
  case h_11 => exact .failure
  all_goals exact .step fun _ => .pure (leaf rfl rfl)

theorem group_succ : Gives (Parser.group (fuel + 1)) StarsInPlace := by
  rw [Parser.group]
  refine .step fun _ => .ite (fun _ => .pure (leaf rfl rfl)) fun _ => ?_
  refine .step fun _ => .ite (fun _ => .step fun _ => .step fun _ => .pure (leaf rfl rfl)) fun _ => ?_
  refine .bind ih.starNamed fun e inside => .step fun _ => .ite (fun _ => ?_) fun _ => ?_
  · exact .guard fun _ => .step fun _ => .step fun _ => .pure (leaf rfl rfl)
  refine .step fun _ => .ite (fun _ => ?_) fun _ => .step fun _ => ?_
  · refine .bind (ih.starNamedList _) fun rest others => .pure ?_
    exact ⟨rfl, starsInside_of (List.forall_mem_nil _) (List.forall_mem_cons.mpr ⟨inside, others⟩)⟩
  · exact .guard fun plain => .pure ⟨(Bool.not_eq_true _).mp plain, inside⟩

theorem named_succ : Gives (Parser.named (fuel + 1)) StarsInPlace := by
  rw [Parser.named]
  refine .step fun found => ?_
  cases found with
  | some n => exact .step fun _ => .pure (leaf rfl rfl)
  | none => exact ih.expression

theorem starNamed_succ : Gives (Parser.starNamed (fuel + 1)) StarsInside := by
  rw [Parser.starNamed]
  refine .step fun _ => .ite (fun _ => ?_) fun _ => ih.named.mono fun e placed => placed.inside
  exact .bind (ih.binary 0) fun e placed => .pure placed.starred

theorem starNamedList_succ (close : String) :
    Gives (Parser.starNamedList (fuel + 1) close) fun es => ∀ e ∈ es, e.StarsInside := by
  rw [Parser.starNamedList]
  refine .step fun _ => .ite (fun _ => .pure (List.forall_mem_nil _)) fun _ => ?_
  refine .bind ih.starNamed fun e inside => .step fun _ => .ite (fun _ => ?_) fun _ => ?_
  · refine .bind (ih.starNamedList _) fun rest others => .pure ?_
    exact List.forall_mem_cons.mpr ⟨inside, others⟩
  · exact .step fun _ => .pure (List.forall_mem_singleton.mpr inside)

theorem listDisplay_succ : Gives (Parser.listDisplay (fuel + 1)) StarsInPlace := by
  rw [Parser.listDisplay]
  refine .step fun _ => .ite (fun _ => .pure (leaf rfl rfl)) fun _ => ?_
  refine .bind ih.starNamed fun e inside => .step fun _ => .ite (fun _ => ?_) fun _ => ?_
  · exact .guard fun _ => .step fun _ => .step fun _ => .pure (leaf rfl rfl)
  refine .step fun _ => .ite (fun _ => ?_) fun _ => .step fun _ => .pure ?_
  · refine .bind (ih.starNamedList _) fun rest others => .pure ?_
    exact .display rfl rfl (List.forall_mem_cons.mpr ⟨inside, others⟩)
  · exact .display rfl rfl (List.forall_mem_singleton.mpr inside)

theorem braces_succ : Gives (Parser.braces (fuel + 1)) StarsInPlace := by
  rw [Parser.braces]
  refine .step fun _ => .ite (fun _ => .pure (leaf rfl rfl)) fun _ => ?_
  refine .step fun _ => .ite (fun _ => ?_) fun _ => ?_
  · refine .bind (ih.binary 0) fun e placed => .bind ih.dictRest fun rest others => .pure ?_
    exact .dict (List.forall_mem_cons.mpr ⟨⟨nofun, placed⟩, others⟩)
  refine .step fun _ => .ite (fun _ => ?_) fun _ => .step fun found => ?_
  · exact .bind (ih.starNamedList _) fun items inside => .pure (.display rfl rfl inside)
  cases found with
  | some n => exact .step fun _ => ih.setRest _ (leaf rfl rfl)
  | none =>
    refine .bind ih.expression fun e placed => .step fun _ => .ite (fun _ => ?_) fun _ => ?_
    · refine .bind ih.expression fun value other => .step fun _ => .ite (fun _ => ?_) fun _ => ?_
      · exact .step fun _ => .step fun _ => .pure (leaf rfl rfl)
      · refine .bind ih.dictRest fun rest others => .pure (.dict ?_)
        refine List.forall_mem_cons.mpr ⟨⟨?_, other⟩, others⟩
        rintro _ ⟨⟩
        exact placed
    · exact ih.setRest e placed

theorem setRest_succ {e : Expr} (placed : e.StarsInPlace) :
    Gives (Parser.setRest (fuel + 1) e) StarsInPlace := by
  rw [Parser.setRest]
  refine .step fun _ => .ite (fun _ => ?_) fun _ => ?_
  · exact .step fun _ => .step fun _ => .pure (leaf rfl rfl)
  refine .step fun _ => .ite (fun _ => ?_) fun _ => .step fun _ => .pure ?_
  · refine .bind (ih.starNamedList _) fun rest others => .pure ?_
    exact .display rfl rfl (List.forall_mem_cons.mpr ⟨placed.inside, others⟩)
  · exact .display rfl rfl (List.forall_mem_singleton.mpr placed.inside)

theorem dictRest_succ : Gives (Parser.dictRest (fuel + 1)) EntriesInPlace := by
  rw [Parser.dictRest]
  refine .step fun _ => .ite (fun _ => ?_) fun _ => .step fun _ => .pure (List.forall_mem_nil _)
  refine .step fun _ => .ite (fun _ => .pure (List.forall_mem_nil _)) fun _ => ?_
  refine .step fun _ => .ite (fun _ => ?_) fun _ => ?_
  · refine .bind (ih.binary 0) fun e placed => .bind ih.dictRest fun rest others => .pure ?_
    exact List.forall_mem_cons.mpr ⟨⟨nofun, placed⟩, others⟩
  · refine .bind ih.expression fun key placed => .step fun _ => ?_
    refine .bind ih.expression fun value other => .bind ih.dictRest fun rest others => .pure ?_
    refine List.forall_mem_cons.mpr ⟨⟨?_, other⟩, others⟩
    rintro _ ⟨⟩
    exact placed

theorem slices_succ : Gives (Parser.slices (fuel + 1)) StarsInPlace := by
  rw [Parser.slices]
  refine .bind ih.sliceItem fun first inside => .step fun _ => .ite (fun _ => ?_) fun _ => ?_
  · refine .bind ih.sliceRest fun rest others => .pure ?_
    exact .display rfl rfl (List.forall_mem_cons.mpr ⟨inside, others⟩)
  · refine .step fun _ => .pure ?_
    split
    · exact .display rfl rfl (List.forall_mem_singleton.mpr inside)
    · rename_i plain
      exact ⟨(Bool.not_eq_true _).mp plain, inside⟩

theorem sliceRest_succ :
    Gives (Parser.sliceRest (fuel + 1)) fun es => ∀ e ∈ es, e.StarsInside := by
  rw [Parser.sliceRest]
  refine .step fun _ => .ite (fun _ => .pure (List.forall_mem_nil _)) fun _ => ?_
  refine .bind ih.sliceItem fun e inside => .step fun _ => .ite (fun _ => ?_) fun _ => ?_
  · refine .bind ih.sliceRest fun rest others => .pure ?_
    exact List.forall_mem_cons.mpr ⟨inside, others⟩
  · exact .step fun _ => .pure (List.forall_mem_singleton.mpr inside)

theorem sliceItem_succ : Gives (Parser.sliceItem (fuel + 1)) StarsInside := by
  rw [Parser.sliceItem]
  refine .step fun _ => .ite (fun _ => ?_) fun _ => .step fun found => ?_
  · exact .bind ih.expression fun e placed => .pure placed.starred
  cases found with
  | some n => exact .step fun _ => .pure (leaf rfl rfl).inside
  | none =>
    refine .bind (ih.sliceBound _) fun lower first => .step fun _ => .ite (fun _ => ?_) fun _ => ?_
    · refine .bind (ih.sliceBound _) fun upper second => .step fun _ => .ite (fun _ => ?_) fun _ => ?_
      · refine .bind (ih.sliceBound _) fun step third => .pure ?_
        exact (StarsInPlace.slice first second third).inside
      · refine .pure (StarsInPlace.slice first second ?_).inside
        exact fun _ none => nomatch none
    · cases lower with
      | some e => exact .pure (first e rfl).inside
      | none => exact .failure

theorem sliceBound_succ (stops : List String) :
    Gives (Parser.sliceBound (fuel + 1) stops) fun e => ∀ d ∈ e, d.StarsInPlace := by
  rw [Parser.sliceBound]
  refine .step fun _ => .ite (fun _ => .pure fun _ none => nomatch none) fun _ => ?_
  refine .bind ih.expression fun e placed => .pure ?_
  rintro _ ⟨⟩
  exact placed

theorem arguments_succ (first keyword unpacked : Bool) :
    Gives (Parser.arguments (fuel + 1) first keyword unpacked) ArgumentsInPlace := by
  rw [Parser.arguments]
  refine .step fun _ => .ite (fun _ => .pure .nil) fun _ => ?_
  refine .step fun _ => .ite (fun _ => .guard fun _ => ?_) fun _ => ?_
  · refine .bind ih.expression fun e placed => .bind (ih.moreArguments _ _) fun given others => ?_
    exact .pure (others.positional placed.starred)
  refine .step fun _ => .ite (fun _ => ?_) fun _ => .step fun found => ?_
  · refine .bind ih.expression fun e placed => .bind (ih.moreArguments _ _) fun given others => ?_
    exact .pure (others.keyword none placed)
  cases found with
  | some n =>
    refine .bind ih.expression fun e placed => .bind (ih.moreArguments _ _) fun given others => ?_
    exact .pure (others.keyword (some n) placed)
  | none =>
    refine .guard fun _ => .bind ih.named fun e placed => .step fun _ => .ite (fun _ => ?_) fun _ => ?_
    · refine .guard fun _ => .step fun _ => .step fun _ => .pure ?_
      exact ArgumentsInPlace.nil.positional (leaf rfl rfl).inside
    · refine .bind (ih.moreArguments _ _) fun given others => ?_
      exact .pure (others.positional placed.inside)

theorem moreArguments_succ (keyword unpacked : Bool) :
    Gives (Parser.moreArguments (fuel + 1) keyword unpacked) ArgumentsInPlace := by
  rw [Parser.moreArguments]
  exact .step fun _ => .ite (fun _ => ih.arguments _ _ _) fun _ => .step fun _ => .pure .nil

theorem lambda_succ (ps : Params) : Gives (Parser.lambda (fuel + 1) ps) StarsInPlace := by
  have made : ∀ simple : Bool, Gives (do
      let body ← Parser.expression fuel
      pure (.lambda ps.names.reverse simple body)) StarsInPlace := by
    intro simple
    refine .bind ih.expression fun body placed => .pure ?_
    exact .of_others rfl rfl (List.forall_mem_singleton.mpr placed)
  rw [Parser.lambda]
  refine .step fun _ => .ite (fun _ => .guard fun _ => made _) fun _ => ?_
  refine .step fun _ => .ite (fun _ => .guard fun _ => ih.nextParam _) fun _ => ?_
  refine .step fun _ => .ite (fun _ => ?_) fun _ => ?_
  · exact .guard fun _ => .step fun _ => .step fun _ => .step fun _ => made _
  refine .step fun _ => .ite (fun _ => .guard fun _ => ?_) fun _ => .step fun _ => ?_
  · refine .step fun _ => .ite (fun _ => ih.lambda _) fun _ => ?_
    exact .step fun _ => ih.nextParam _
  refine .step fun _ => .ite (fun _ => .step fun _ => ih.nextParam _) fun _ => ?_
  exact .guard fun _ => ih.nextParam _

theorem nextParam_succ (ps : Params) : Gives (Parser.nextParam (fuel + 1) ps) StarsInPlace := by
  rw [Parser.nextParam]
  refine .step fun _ => .ite (fun _ => ih.lambda _) fun _ => ?_
  exact .step fun _ => .ite (fun _ => ih.lambda _) fun _ => .failure

theorem strings_succ : Gives (Parser.strings (fuel + 1)) StarsInPlace := by
  rw [Parser.strings]
  refine .step fun tokens => .ite (fun _ => ?_) fun _ => .ite (fun _ => .failure) fun _ => ?_
  · split
    · exact .pure (leaf rfl rfl)
    · exact .failure
  refine .ite (fun _ => ?_) fun _ => ?_
  · refine .bind (ih.stringParts _) fun parts inPlace => .pure ?_
    exact .of_others rfl rfl (joinParts_inPlace inPlace)
  · split
    · exact .pure (leaf rfl rfl)
    · exact .failure

theorem stringParts_succ (tokens : List StringToken) :
    Gives (Parser.stringParts (fuel + 1) tokens) PartsInPlace := by
  cases tokens with
  | nil => exact .pure fun _ member => nomatch member
  | cons s rest =>
    have gathered : ∀ parts, PartsInPlace parts → Gives (do
        let more ← Parser.stringParts fuel rest
        pure (parts ++ more)) PartsInPlace := by
      refine fun parts first => .bind (ih.stringParts _) fun more others => .pure fun e member => ?_
      exact (List.mem_append.mp member).elim (first e) (others e)
    rw [Parser.stringParts]
    refine .ite (fun _ => ?_) fun _ => ?_
    · split
      · exact .bind (ih.pieceParts _) gathered
      · exact .bind .failure gathered
    · split
      · exact gathered _ fun _ member => nomatch List.mem_singleton.mp member
      · exact .bind .failure gathered

theorem pieceParts_succ (pieces : List StringBody.Piece) :
    Gives (Parser.pieceParts (fuel + 1) pieces) PartsInPlace := by
  match pieces with
  | [] => exact .pure fun _ member => nomatch member
  | .text t :: rest =>
    rw [Parser.pieceParts]
    refine .bind (ih.pieceParts _) fun more others => .pure fun e member => ?_
    rcases List.mem_cons.mp member with text | later
    · cases text
    · exact others e later
  | .field source shown conversion spec :: rest =>
    have gathered : ∀ value format conversion, value.StarsInPlace →
        (∀ e ∈ format, e.StarsInPlace) → Gives (do
          let more ← Parser.pieceParts fuel rest
          pure (.inl (shown.getD []) :: .inr (.formatted value conversion format) :: more))
          PartsInPlace := by
      intro value format conversion first second
      refine .bind (ih.pieceParts _) fun more others => .pure fun e member => ?_
      rcases List.mem_cons.mp member with text | later
      · cases text
      rcases List.mem_cons.mp later with own | later
      · obtain rfl := Sum.inr.inj own
        exact .of_others rfl rfl (List.forall_mem_cons.mpr ⟨first, by simpa using second⟩)
      · exact others e later
    rw [Parser.pieceParts]
    refine .bind (ih.fieldValue _) fun value placed => ?_
    cases spec with
    | none => exact gathered value none _ placed fun _ none => nomatch none
    | some spec =>
      refine .bind (ih.pieceParts _) fun parts inPlace => gathered value _ _ placed ?_
      rintro _ ⟨⟩
      exact .of_others rfl rfl (joinParts_inPlace inPlace)

theorem fieldValue_succ (source : Text) : Gives (Parser.fieldValue (fuel + 1) source) StarsInPlace := by
  rw [Parser.fieldValue]
  intro ts e rest given
  split at given
  · split at given
    · rename_i found
      cases given
      exact ih.group found
    · cases given
  · cases given

theorem succ : StarsPlaced (fuel + 1) where
  expression := ih.expression_succ
  connective := ih.connective_succ
  connectiveRest := ih.connectiveRest_succ
  inversion := ih.inversion_succ
  compareRest := ih.compareRest_succ
  binary := ih.binary_succ
  binaryRest level _ := ih.binaryRest_succ level
  factor := ih.factor_succ
  primary := ih.primary_succ
  trailers _ := ih.trailers_succ
  atom := ih.atom_succ
  group := ih.group_succ
  named := ih.named_succ
  starNamed := ih.starNamed_succ
  starNamedList := ih.starNamedList_succ
  listDisplay := ih.listDisplay_succ
  braces := ih.braces_succ
  setRest _ := ih.setRest_succ
  dictRest := ih.dictRest_succ
  slices := ih.slices_succ
  sliceRest := ih.sliceRest_succ
  sliceItem := ih.sliceItem_succ
  sliceBound := ih.sliceBound_succ
  arguments := ih.arguments_succ
  moreArguments := ih.moreArguments_succ
  lambda := ih.lambda_succ
  nextParam := ih.nextParam_succ
  strings := ih.strings_succ
  stringParts := ih.stringParts_succ
  pieceParts := ih.pieceParts_succ
  fieldValue := ih.fieldValue_succ

end StarsPlaced

theorem starsPlaced (fuel : Nat) : StarsPlaced fuel := by
  induction fuel with
  | zero =>
    have nothing {α : Type} {P : α → Prop} : Gives (failure : Parse α) P := .failure
    constructor
    all_goals intros; exact nothing
  | succ fuel ih => exact ih.succ

theorem topRest_inPlace (fuel : Nat) : Gives (topRest fuel) fun es => ∀ e ∈ es, e.StarsInPlace := by
  induction fuel with
  | zero => exact .failure
  | succ fuel ih =>
    rw [topRest]
    refine .step fun ts => .ite (fun _ => .pure (List.forall_mem_nil _)) fun _ => ?_
    refine .bind (starsPlaced _).expression fun e placed => .step fun _ => .ite (fun _ => ?_) fun _ => ?_
    · refine .bind ih fun rest others => .pure ?_
      exact List.forall_mem_cons.mpr ⟨placed, others⟩
    · exact .pure (List.forall_mem_singleton.mpr placed)

theorem top_inPlace (fuel : Nat) : Gives (top fuel) StarsInPlace := by
  rw [top]
  refine .bind (starsPlaced _).expression fun e placed => .step fun _ => .ite (fun _ => ?_) fun _ => ?_
  · refine .bind (topRest_inPlace _) fun rest others => .pure (.display rfl rfl ?_)
    exact List.forall_mem_cons.mpr ⟨placed.inside, fun d member => (others d member).inside⟩
  · exact .pure placed

/-- What a text writes has its stars in place. -/
theorem starsInPlace_of_parse {t : Text} {e : Expr} (parsed : parse t = .ok e) : e.StarsInPlace := by
  simp only [parse] at parsed
  split_ifs at parsed
  split at parsed
  · cases parsed
  · split at parsed
    · rename_i found
      split_ifs at parsed
      cases parsed
      exact top_inPlace _ found
    · cases parsed

end Parser
end Phrasebook
