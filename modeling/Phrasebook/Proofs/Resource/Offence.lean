import Phrasebook.Proofs.Resource.Visit
/-!
Raw data as a list of nodes, depth first: each key of a mapping and each position in a sequence, in
front of the value under it. A node has the way to it: the keys and positions that lead there.

Data compile if each of their nodes fits; otherwise the first that does not decides the fault, and its
way is the path in the report.
-/
namespace Phrasebook

namespace Datum

/-- The items of a sequence, each under its position. -/
def numbered (index : Nat) : List Datum → List (Value × Datum)
  | [] => []
  | d :: rest => (.ofInt index, d) :: numbered (index + 1) rest

/-- What is directly in a datum, each part under its key or its position. -/
def parts : Datum → List (Value × Datum)
  | .map entries => entries
  | .list items | .tuple items => numbered 0 items
  | .shared _ d => parts d
  | _ => []

/-- A datum without the marks around it. -/
def content : Datum → Datum
  | .shared _ d => content d
  | d => d

theorem parts_of_entries? {d : Datum} {entries : List (Value × Datum)}
    (root : d.entries? = some entries) : d.parts = entries := by
  fun_induction entries? d with
  | case1 inner =>
    cases root
    rfl
  | case2 mark d ih => exact ih root
  | case3 => cases root

theorem mem_of_numbered {items : List Datum} {index : Nat} {p : Value × Datum}
    (member : p ∈ numbered index items) : p.2 ∈ items := by
  induction items generalizing index with
  | nil => cases member
  | cons d rest ih =>
    rcases List.mem_cons.mp member with rfl | later
    · exact List.mem_cons_self
    · exact List.mem_cons_of_mem _ (ih later)

theorem sizeOf_part {d : Datum} {p : Value × Datum} (member : p ∈ d.parts) :
    sizeOf p.2 < sizeOf d := by
  fun_induction parts d with
  | case1 entries =>
    have := List.sizeOf_lt_of_mem member
    obtain ⟨k, e⟩ := p
    simp only [map.sizeOf_spec, Prod.mk.sizeOf_spec] at *
    omega
  | case2 items | case3 items =>
    have := List.sizeOf_lt_of_mem (mem_of_numbered member)
    simp only [list.sizeOf_spec, tuple.sizeOf_spec]
    omega
  | case4 mark d ih =>
    have := ih member
    simp only [shared.sizeOf_spec]
    omega
  | case5 => cases member

/-- What holds of a datum if it holds of its parts holds of all data. -/
@[elab_as_elim]
theorem induction_parts {P : Datum → Prop} (step : ∀ d, (∀ p ∈ d.parts, P p.2) → P d) (d : Datum) :
    P d :=
  step d fun p _part => induction_parts step p.2
termination_by sizeOf d
decreasing_by exact sizeOf_part _part

/-- What stands at the end of a way of keys and positions. -/
inductive Leads : Datum → List Value → Datum → Prop
  | here (d : Datum) : Leads d [] d.content
  | part {root d e : Datum} {k : Value} {way : List Value} (member : (k, d) ∈ root.parts)
      (leads : Leads d way e) : Leads root (k :: way) e

end Datum

namespace Resource

/-- What is checked of raw data: a key of a mapping or a position in a sequence, with the way to
these, and a value with the way to it. -/
inductive Node where
  | key (way : List Value) (key : Value)
  | value (way : List Value) (datum : Datum)

namespace Node

def way : Node → List Value
  | key way _ | value way _ => way

/-- A node stands in a datum if its way leads on from the way to that: to the value, or to one that
has something under the key. -/
def StandsIn (d : Datum) (front : List Value) : Node → Prop
  | key way k => ∃ rest e, way = front ++ rest ∧ d.Leads (rest ++ [k]) e
  | value way e => ∃ rest, way = front ++ rest ∧ d.Leads rest e

end Node

mutual

/-- The nodes of a datum at the end of a way. -/
def nodes (way : List Value) : Datum → List Node
  | .map entries => .value way (.map entries) :: nodesOfEntries way entries
  | .list items => .value way (.list items) :: nodesOfItems way 0 items
  | .tuple items => .value way (.tuple items) :: nodesOfItems way 0 items
  | .shared _ d => nodes way d
  | d => [.value way d]

def nodesOfEntries (way : List Value) : List (Value × Datum) → List Node
  | [] => []
  | (key, d) :: rest => .key way key :: nodes (way ++ [key]) d ++ nodesOfEntries way rest

def nodesOfItems (way : List Value) (index : Nat) : List Datum → List Node
  | [] => []
  | d :: rest => .key way (.ofInt index) :: nodes (way ++ [.ofInt index]) d
      ++ nodesOfItems way (index + 1) rest

end

variable {way : List Value}

theorem nodesOfItems_eq (way : List Value) (index : Nat) (items : List Datum) :
    nodesOfItems way index items = nodesOfEntries way (Datum.numbered index items) := by
  induction items generalizing index with
  | nil => rw [nodesOfItems, Datum.numbered, nodesOfEntries]
  | cons d rest ih => rw [nodesOfItems, Datum.numbered, nodesOfEntries, ih]

theorem nodes_eq (way : List Value) (d : Datum) :
    nodes way d = .value way d.content :: nodesOfEntries way d.parts := by
  induction d using Datum.content.induct with
  | case1 mark d ih => rw [nodes, ih, Datum.content, Datum.parts]
  | case2 d whole =>
    cases d with
    | shared mark d => exact (whole mark d rfl).elim
    | _ => simp only [nodes, Datum.content, Datum.parts, nodesOfItems_eq, nodesOfEntries]

theorem mem_nodesOfEntries {n : Node} {entries : List (Value × Datum)} :
    n ∈ nodesOfEntries way entries ↔
      ∃ p ∈ entries, n = .key way p.1 ∨ n ∈ nodes (way ++ [p.1]) p.2 := by
  induction entries with
  | nil => simp [nodesOfEntries]
  | cons p rest ih =>
    rw [nodesOfEntries, List.mem_append, List.mem_cons, ih]
    simp only [List.mem_cons, exists_eq_or_imp]

theorem mem_nodes {n : Node} {d : Datum} : n ∈ nodes way d ↔
    n = .value way d.content ∨ ∃ p ∈ d.parts, n = .key way p.1 ∨ n ∈ nodes (way ++ [p.1]) p.2 := by
  rw [nodes_eq, List.mem_cons, mem_nodesOfEntries]

theorem standsIn_of_mem_nodes {n : Node} {d : Datum} (member : n ∈ nodes way d) :
    n.StandsIn d way := by
  induction d using Datum.induction_parts generalizing way with
  | step d ih =>
    rcases mem_nodes.mp member with rfl | ⟨p, part, rfl | deeper⟩
    · exact ⟨[], (List.append_nil way).symm, .here d⟩
    · exact ⟨[], p.2.content, (List.append_nil way).symm, .part part (.here p.2)⟩
    · have inside := ih p part deeper
      cases n with
      | key way' k =>
        obtain ⟨rest, e, rfl, leads⟩ := inside
        exact ⟨p.1 :: rest, e, by simp, .part part leads⟩
      | value way' e =>
        obtain ⟨rest, rfl, leads⟩ := inside
        exact ⟨p.1 :: rest, by simp, .part part leads⟩

theorem value_mem_nodes {d e : Datum} {rest : List Value} (leads : d.Leads rest e)
    (way : List Value) : .value (way ++ rest) e ∈ nodes way d := by
  induction leads generalizing way with
  | here d => exact mem_nodes.mpr (.inl (by rw [List.append_nil]))
  | part member leads ih =>
    rw [List.append_cons]
    exact mem_nodes.mpr (.inr ⟨_, member, .inr (ih _)⟩)

theorem key_mem_nodes {d e : Datum} {rest : List Value} {k : Value}
    (leads : d.Leads (rest ++ [k]) e) (way : List Value) : .key (way ++ rest) k ∈ nodes way d := by
  induction rest generalizing d way with
  | nil =>
    cases leads with
    | part member leads => exact mem_nodes.mpr (.inr ⟨_, member, .inl (by rw [List.append_nil])⟩)
  | cons first rest ih =>
    cases leads with
    | part member leads =>
      rw [List.append_cons]
      exact mem_nodes.mpr (.inr ⟨_, member, .inr (ih leads _)⟩)

/-- The nodes of data, but for the root. -/
def nodesOf (data : Datum) : List Node := nodesOfEntries [] data.parts

variable {data : Datum}

theorem nodes_root (data : Datum) : nodes [] data = .value [] data.content :: nodesOf data :=
  nodes_eq [] data

/-- Keys and positions that lead to something, and what they lead to. -/
def Node.IsIn (data : Datum) : Node → Prop
  | .key way k => ∃ d, data.Leads (way ++ [k]) d
  | .value way d => way ≠ [] ∧ data.Leads way d

theorem mem_nodesOf {n : Node} : n ∈ nodesOf data ↔ n.IsIn data := by
  constructor
  · intro member
    obtain ⟨p, part, rfl | deeper⟩ := mem_nodesOfEntries.mp member
    · exact ⟨p.2.content, .part part (.here p.2)⟩
    · have inside := standsIn_of_mem_nodes deeper
      cases n with
      | key way k =>
        obtain ⟨rest, e, rfl, leads⟩ := inside
        exact ⟨e, .part part leads⟩
      | value way e =>
        obtain ⟨rest, rfl, leads⟩ := inside
        exact ⟨List.cons_ne_nil _ _, .part part leads⟩
  · intro inside
    -- The root alone has no way, and is no key.
    have below (member : n ∈ nodes [] data) (lower : n ≠ .value [] data.content) :
        n ∈ nodesOf data := by
      rw [nodes_root] at member
      exact (List.mem_cons.mp member).resolve_left lower
    cases n with
    | key way k =>
      obtain ⟨d, leads⟩ := inside
      exact below (key_mem_nodes leads []) nofun
    | value way e =>
      obtain ⟨some_, leads⟩ := inside
      exact below (value_mem_nodes leads []) fun root => some_ (Node.value.inj root).1

end Resource

open Outcome

namespace Value

/-- Keys that stand for a segment: integers that can be written, and segments. -/
def IsKey : Value → Prop
  | int n _ => ¬Nat.pow 10 Number.maxDigits ≤ n.natAbs
  | text t _ => Resource.IsSegment t
  | _ => False

end Value

namespace Datum

/-- What compiles if all that is in it does. -/
def IsForm (budget : Budget) : Datum → Prop
  | .text t => ∃ template, Template.compile budget t = .ok template
  | .map _ | .list _ | .tuple _ | .shared .. => True
  | _ => False

end Datum

namespace Resource

variable {site : Site} {path : Text} {k : Value}

theorem isSegment_ofInt (n : Int) : IsSegment (Text.ofInt n) := by
  cases n with
  | ofNat n => exact isSegment_ofNat n
  | negSucc n =>
    refine ⟨List.cons_ne_nil _ _, fun member => ?_⟩
    rcases List.mem_cons.mp member with minus | later
    · cases minus
    · exact (isSegment_ofNat (n + 1)).2 later

theorem textSegment_of_segment {t : Text} (o : Origin) (isSegment : IsSegment t) :
    textSegment site path (.text t o) = .ok t := by
  have full : (t.isEmpty || t.contains separator) = false := by simpa [IsSegment] using isSegment
  simp only [textSegment, full]
  rfl

theorem segmentOf_of_isKey (isKey : k.IsKey) : segmentOf site path k = .ok (label k) := by
  cases k with
  | int n o =>
    have written : Number.intText n = .ok (Text.ofInt n) := if_neg isKey
    have labelled : label (.int n o) = Text.ofInt n :=
      label_of_plain ((plain_int n o).trans written)
    rw [segmentOf, written, labelled]
    exact textSegment_of_segment _ (isSegment_ofInt n)
  | text t o => exact textSegment_of_segment o isKey
  | _ => cases isKey

theorem segmentOf_of_not_isKey (notKey : ¬k.IsKey) :
    segmentOf site path k = Visit.refuse site path k := by
  cases k with
  | int n o =>
    have unwritten : Number.intText n = .error .value := if_pos (not_not.mp notKey)
    rw [segmentOf, Visit.refuse, Value.quoted_int, unwritten]
    rfl
  | text t o =>
    have bad : (t.isEmpty || t.contains separator) = true := by
      by_contra full
      exact notKey (by simpa [IsSegment, Value.IsKey] using full)
    simp only [segmentOf, textSegment, bad]
    rfl
  | _ => rfl

theorem isSegment_label (isKey : k.IsKey) : IsSegment (label k) := by
  have found : segmentOf ⟨[], .standard⟩ [] k = .ok (label k) := segmentOf_of_isKey isKey
  exact segmentOf_ok found

/-- The dotted path of a way through raw data. -/
def pathOf (way : List Value) : Text := dotted (way.map label)

theorem join_pathOf {way : List Value} (keys : ∀ v ∈ way, v.IsKey) (k : Value) :
    join (pathOf way) (label k) = pathOf (way ++ [k]) := by
  have segments : ∀ t ∈ way.map label, IsSegment t := by
    intro t member
    obtain ⟨v, onWay, rfl⟩ := List.mem_map.mp member
    exact isSegment_label (keys v onWay)
  rw [pathOf, join_dotted _ segments, pathOf, List.map_append]
  rfl

namespace Node

/-- The checks of a node: of a key, or of the depth of a value and then of what it is. -/
def visits (limit : Int) : Node → List Visit
  | .key way k => [.key (pathOf way) k]
  | .value way d => .level ⟨limit, way.length - 1⟩ :: match d with
    | .text t => [.text t]
    | .map _ | .list _ | .tuple _ | .shared .. => []
    | d => [.other (pathOf way) d.kindLabel]

def check (site : Site) (limit : Int) (n : Node) : Except Fault Unit :=
  (n.visits limit).forM (Visit.check site)

end Node

theorem check_key (limit : Int) (way : List Value) (k : Value) :
    (Node.key way k).check site limit = Visit.check site (.key (pathOf way) k) :=
  bind_pure _

/-- A position is checked as the key that it is. -/
theorem check_position (index : Nat) :
    Visit.check site (.position index) = Visit.check site (.key path (.ofInt index)) := by
  by_cases isKey : (Value.ofInt index).IsKey
  · have written : Number.intText index = .ok (Text.ofInt index) := if_neg isKey
    simp only [Visit.check, segmentOf_of_isKey isKey, written, discard_ok]
  · have unwritten : Number.intText index = .error .value := if_pos (not_not.mp isKey)
    have refused : segmentOf site path (.ofInt index) = .error .value := by
      rw [segmentOf_of_not_isKey isKey, Visit.refuse, Value.ofInt, Value.quoted_int, unwritten]
      rfl
    simp only [Visit.check, refused, unwritten, discard_error]

theorem isKey_of_check {limit : Int} {way : List Value}
    (passed : (Node.key way k).check site limit = .ok ()) : k.IsKey := by
  by_contra notKey
  rw [check_key, Visit.check, segmentOf_of_not_isKey notKey] at passed
  obtain ⟨segment, found⟩ := discard_eq_ok_iff.mp passed
  obtain ⟨_, -, thrown⟩ := bind_eq_ok.mp found
  cases thrown

section
variable {limit : Int}

mutual

theorem forM_visits {way : List Value} {depth : Int} (deep : depth = way.length - 1)
    (keys : ∀ v ∈ way, v.IsKey) : ∀ d : Datum,
    (visits ⟨limit, depth⟩ (pathOf way) d).forM (Visit.check site) =
      (nodes way d).forM (Node.check site limit)
  | .map entries => by
    subst deep
    rw [visits, nodes, Int.sub_add_cancel]
    exact forM_cons_congr (bind_pure _).symm fun _ => forM_visitsOfEntries keys entries
  | .list items | .tuple items => by
    subst deep
    rw [visits, nodes, Int.sub_add_cancel]
    exact forM_cons_congr (bind_pure _).symm fun _ => forM_visitsOfItems keys 0 items
  | .shared _ d => by
    rw [visits, nodes]
    exact forM_visits deep keys d
  | .text _ | .none | .bool _ | .int _ | .float _ | .bytes _ | .decimal _ | .date _ _ _
  | .dateTime | .function _ | .helper _ | .cls _ | .form _ _ | .set _ | .object _ | .lookup _ => by
    subst deep
    simp only [visits, nodes]
    exact (bind_pure _).symm

-- Behind a key that is refused the paths may differ, but nothing is checked there any more.
theorem forM_visitsOfEntries {way : List Value} (keys : ∀ v ∈ way, v.IsKey) :
    ∀ entries : List (Value × Datum),
    (visitsOfEntries ⟨limit, way.length⟩ (pathOf way) entries).forM (Visit.check site) =
      (nodesOfEntries way entries).forM (Node.check site limit)
  | [] => rfl
  | (key, d) :: rest => by
    rw [visitsOfEntries, nodesOfEntries, List.cons_append, List.cons_append]
    refine forM_cons_congr (check_key limit way key).symm fun passed => ?_
    have isKey : key.IsKey := isKey_of_check ((check_key limit way key).trans passed)
    have inner : ∀ v ∈ way ++ [key], v.IsKey := by simpa [or_imp, forall_and] using ⟨keys, isKey⟩
    rw [join_pathOf keys]
    exact forM_append_congr (forM_visits (by simp) inner d) (forM_visitsOfEntries keys rest)

theorem forM_visitsOfItems {way : List Value} (keys : ∀ v ∈ way, v.IsKey) (index : Nat) :
    ∀ items : List Datum,
    (visitsOfItems ⟨limit, way.length⟩ (pathOf way) index items).forM (Visit.check site) =
      (nodesOfItems way index items).forM (Node.check site limit)
  | [] => by rfl
  | d :: rest => by
    rw [visitsOfItems, nodesOfItems, List.cons_append, List.cons_append]
    refine forM_cons_congr ?_ fun passed => ?_
    · exact (check_position index).trans (check_key limit way _).symm
    · obtain ⟨numeral, written⟩ := discard_eq_ok_iff.mp passed
      obtain ⟨short, rfl⟩ := ofNat_of_intText written
      have labelled : label (.ofInt index) = Text.ofNat index :=
        label_of_plain ((plain_ofInt index).trans written)
      have inner : ∀ v ∈ way ++ [Value.ofInt index], v.IsKey := by
        simp only [List.mem_append, List.mem_singleton, or_imp, forall_and, forall_eq]
        exact ⟨keys, short⟩
      rw [← labelled, join_pathOf keys]
      exact forM_append_congr (forM_visits (by simp) inner d)
        (forM_visitsOfItems keys (index + 1) rest)

end

end

namespace Node

def Fits (site : Site) (limit : Int) : Node → Prop
  | key _ k => k.IsKey
  | value way d => way.length ≤ limit ∧ d.IsForm site.budget

/-- The fault of a node that does not fit. A key is reported with the path of its mapping, if it can
be shown, and a value with its own. -/
inductive Offends (site : Site) (limit : Int) : Node → Fault → Prop
  | unshown {way : List Value} {k : Value} {f : Fault} (failed : k.quoted {} = .error f) :
      Offends site limit (key way k) f
  | key {way : List Value} {k : Value} {shown : Text} (notKey : ¬k.IsKey)
      (written : k.quoted {} = .ok shown) : Offends site limit (key way k)
        (.own (.invalidShape (.diagnostic (Diagnostic.invalidKey site.locale (pathOf way) shown))
          site.locale (pathOf way)))
  | deep {way : List Value} {d : Datum} (below : limit < way.length) :
      Offends site limit (value way d) (.own (.tooDeep (.diagnostic (Diagnostic.tooDeep limit))))
  | text {way : List Value} {t : Text} {f : Fault} (within : way.length ≤ limit)
      (failed : Template.compile site.budget t = .error f) :
      Offends site limit (value way (.text t)) f
  | leaf {way : List Value} {d : Datum} (within : way.length ≤ limit) (other : ∀ t, d ≠ .text t)
      (formless : ¬d.IsForm site.budget) : Offends site limit (value way d)
        (.own (.invalidShape
          (.diagnostic (Diagnostic.invalidLeaf site.locale (pathOf way) d.kindLabel))
          site.locale (pathOf way)))

variable {limit : Int} {f : Fault}

theorem check_level (depth : Int) : Visit.check site (.level ⟨limit, depth - 1⟩) =
    if limit < depth then .error (.own (.tooDeep (.diagnostic (Diagnostic.tooDeep limit))))
    else .ok () := by
  rw [Visit.check, DepthGuard.enter]
  by_cases below : limit < depth
  · rw [if_pos (Int.le_sub_one_of_lt below), if_pos below, discard_error]
  · rw [if_neg (fun full => below (Int.lt_of_le_sub_one full)), if_neg below, discard_ok]

theorem check_value (way : List Value) (d : Datum) : (value way d).check site limit =
    (if limit < way.length then
      .error (.own (.tooDeep (.diagnostic (Diagnostic.tooDeep limit))))
    else .ok ()) >>= fun _ => (match d with
      | .text t => [.text t]
      | .map _ | .list _ | .tuple _ | .shared .. => []
      | d => [.other (pathOf way) d.kindLabel] : List Visit).forM (Visit.check site) := by
  rw [← check_level]
  rfl

theorem check_of_deep {way : List Value} (d : Datum) (below : limit < way.length) :
    (value way d).check site limit =
      .error (.own (.tooDeep (.diagnostic (Diagnostic.tooDeep limit)))) := by
  rw [check_value, if_pos below]
  rfl

theorem check_of_text {way : List Value} (t : Text) (within : way.length ≤ limit) :
    (value way (.text t)).check site limit = discard (Template.compile site.budget t) := by
  rw [check_value, if_neg (Int.not_lt.mpr within)]
  exact bind_pure (discard (Template.compile site.budget t))

theorem check_of_leaf {way : List Value} {d : Datum} (within : way.length ≤ limit)
    (other : ∀ t, d ≠ .text t) (formless : ¬d.IsForm site.budget) :
    (value way d).check site limit = .error (.own (.invalidShape
      (.diagnostic (Diagnostic.invalidLeaf site.locale (pathOf way) d.kindLabel))
      site.locale (pathOf way))) := by
  rw [check_value, if_neg (Int.not_lt.mpr within)]
  cases d with
  | text t => exact absurd rfl (other t)
  | map | list | tuple | shared => exact absurd trivial formless
  | _ => rfl

theorem check_of_form {way : List Value} {d : Datum} (within : way.length ≤ limit)
    (form : d.IsForm site.budget) : (value way d).check site limit = .ok () := by
  cases d with
  | text t =>
    rw [check_of_text t within]
    exact discard_eq_ok_iff.mpr form
  | map | list | tuple | shared =>
    rw [check_value, if_neg (Int.not_lt.mpr within)]
    rfl
  | _ => cases form

theorem check_of_offends {n : Node} (offends : n.Offends site limit f) :
    n.check site limit = .error f := by
  cases offends with
  | unshown failed =>
    rw [check_key]
    exact discard_eq_error_iff.mpr (Visit.segmentOf_of_unwritten failed)
  | key notKey written =>
    rw [check_key, Visit.check, segmentOf_of_not_isKey notKey, Visit.refuse, written]
    rfl
  | deep below => exact check_of_deep _ below
  | text within failed =>
    rw [check_of_text _ within]
    exact discard_eq_error_iff.mpr failed
  | leaf within other formless => exact check_of_leaf within other formless

/-- A node fits and is passed, or it offends. -/
theorem fits_or_offends (site : Site) (limit : Int) (n : Node) :
    n.Fits site limit ∧ n.check site limit = .ok () ∨
      ¬n.Fits site limit ∧ ∃ f, n.Offends site limit f := by
  cases n with
  | key way k =>
    by_cases isKey : k.IsKey
    · refine .inl ⟨isKey, ?_⟩
      rw [check_key, Visit.check, segmentOf_of_isKey isKey, discard_ok]
    · refine .inr ⟨isKey, ?_⟩
      cases shown : k.quoted {} with
      | error f => exact ⟨f, .unshown shown⟩
      | ok t => exact ⟨_, .key isKey shown⟩
  | value way d =>
    by_cases below : limit < way.length
    · exact .inr ⟨fun fits => absurd below (Int.not_lt.mpr fits.1), _, .deep below⟩
    have within := Int.not_lt.mp below
    by_cases form : d.IsForm site.budget
    · exact .inl ⟨⟨within, form⟩, check_of_form within form⟩
    · refine .inr ⟨fun fits => form fits.2, ?_⟩
      by_cases text : ∃ t, d = .text t
      · obtain ⟨t, rfl⟩ := text
        cases compiled : Template.compile site.budget t with
        | error f => exact ⟨f, .text within compiled⟩
        | ok template => exact absurd ⟨template, compiled⟩ form
      · exact ⟨_, .leaf within (fun t same => text ⟨t, same⟩) form⟩

theorem check_eq_ok_iff {n : Node} : n.check site limit = .ok () ↔ n.Fits site limit := by
  rcases fits_or_offends site limit n with ⟨fits, passed⟩ | ⟨misfit, f, offends⟩
  · exact iff_of_true passed fits
  · rw [check_of_offends offends]
    exact iff_of_false (nofun) misfit

theorem check_eq_error_iff {n : Node} :
    n.check site limit = .error f ↔ n.Offends site limit f := by
  refine ⟨fun failed => ?_, check_of_offends⟩
  rcases fits_or_offends site limit n with ⟨-, passed⟩ | ⟨-, g, offends⟩
  · rw [passed] at failed
    cases failed
  · rw [check_of_offends offends] at failed
    cases failed
    exact offends

end Node

section
variable {limit : Int} {way : List Value}

/-- Nodes of which the first that may not fit has only keys on its way. -/
def Cleared (site : Site) (limit : Int) (ns : List Node) : Prop :=
  ∀ front n back, ns = front ++ n :: back → (∀ m ∈ front, m.Fits site limit) → ∀ v ∈ n.way, v.IsKey

namespace Cleared

theorem cons {n : Node} {ns : List Node} (here : ∀ v ∈ n.way, v.IsKey)
    (later : n.Fits site limit → Cleared site limit ns) : Cleared site limit (n :: ns) := by
  rintro (_ | ⟨first, front⟩) m back whole fits
  · cases whole
    exact here
  · cases whole
    obtain ⟨fits, rest⟩ := List.forall_mem_cons.mp fits
    exact later fits front m back rfl rest

theorem append {ns more : List Node} (first : Cleared site limit ns)
    (later : Cleared site limit more) : Cleared site limit (ns ++ more) := by
  intro front n back whole fits
  rcases List.append_eq_append_iff.mp whole with ⟨gap, rfl, rest⟩ | ⟨_ | ⟨m, gap⟩, inside, rest⟩
  · exact later gap n back rest fun m member => fits m (List.mem_append_right _ member)
  · exact later [] n back (by simpa using rest.symm) (by simp)
  · cases rest
    exact first front _ gap inside fits

end Cleared

theorem nodesOfEntries_cleared (keys : ∀ v ∈ way, v.IsKey) {entries : List (Value × Datum)}
    (each : ∀ p ∈ entries, p.1.IsKey → Cleared site limit (nodes (way ++ [p.1]) p.2)) :
    Cleared site limit (nodesOfEntries way entries) := by
  induction entries with
  | nil => exact fun front n back whole => by simp [nodesOfEntries] at whole
  | cons p rest ih =>
    obtain ⟨first, others⟩ := List.forall_mem_cons.mp each
    rw [nodesOfEntries]
    exact .append (.cons keys (first ·)) (ih others)

theorem nodes_cleared (keys : ∀ v ∈ way, v.IsKey) (d : Datum) :
    Cleared site limit (nodes way d) := by
  induction d using Datum.induction_parts generalizing way with
  | step d ih =>
    rw [nodes_eq]
    refine .cons keys fun _ => nodesOfEntries_cleared keys fun p part isKey => ih p part ?_
    simpa [or_imp, forall_and] using ⟨keys, isKey⟩

end

theorem splitAt_pathOf {way : List Value} (some_ : way ≠ []) (keys : ∀ v ∈ way, v.IsKey) :
    Text.splitAt separator (pathOf way) = way.map label :=
  splitAt_dotted (by simpa using some_) (List.forall_mem_map.mpr fun v onWay =>
    isSegment_label (keys v onWay))

example : pathOf [.text "steps" .unique, .ofInt 1] = "steps.1" := by decide +kernel

theorem compile_checks_nodes (site : Site) (maxDepth : Int) {data : Datum}
    {entries : List (Value × Datum)} (root : data.entries? = some entries) :
    discard (compile site maxDepth data) =
      (nodesOf data).forM (Node.check site (Depth.clamp maxDepth)) := by
  rw [compile_checks, visitsOf, root, nodesOf, Datum.parts_of_entries? root]
  exact forM_visitsOfEntries (List.forall_mem_nil _) entries

/-- Data compile if the root is a mapping and all that is in it fits. Otherwise the fault is that of
the root, or of the first node in depth-first order that does not fit; the path that it is reported
with is made of the keys and positions that lead there. -/
theorem compile_by_nodes (site : Site) (maxDepth : Int) (data : Datum) :
    ((∃ tree, compile site maxDepth data = .ok tree) ↔
      data.entries?.isSome ∧ ∀ n : Node, n.IsIn data → n.Fits site (Depth.clamp maxDepth)) ∧
    (∀ f, compile site maxDepth data = .error f ↔
      data.entries? = none ∧ f = .own (.invalidShape (.diagnostic
        (Diagnostic.rootNotMapping site.locale data.kindLabel)) site.locale []) ∨
      data.entries?.isSome ∧ ∃ front n back, nodesOf data = front ++ n :: back ∧
        (∀ m ∈ front, m.Fits site (Depth.clamp maxDepth)) ∧
        n.Offends site (Depth.clamp maxDepth) f) ∧
    (∀ n : Node, n ∈ nodesOf data ↔ n.IsIn data) ∧
    ∀ front n back, nodesOf data = front ++ n :: back →
      (∀ m ∈ front, m.Fits site (Depth.clamp maxDepth)) →
      (∀ v ∈ n.way, v.IsKey) ∧
        (n.way ≠ [] → Text.splitAt separator (pathOf n.way) = n.way.map label) := by
  refine ⟨?_, fun f => ?_, fun n => mem_nodesOf, fun front n back whole fits => ?_⟩
  · cases root : data.entries? with
    | none => simp [compile, root]
    | some entries =>
      rw [← discard_eq_ok_iff, compile_checks_nodes site maxDepth root, forM_eq_ok_iff]
      simp [mem_nodesOf, Node.check_eq_ok_iff]
  · cases root : data.entries? with
    | none =>
      have refused : compile site maxDepth data = .error (.own (.invalidShape (.diagnostic
          (Diagnostic.rootNotMapping site.locale data.kindLabel)) site.locale [])) := by
        rw [compile, root]
        rfl
      simp [refused, eq_comm]
    | some entries =>
      rw [← discard_eq_error_iff, compile_checks_nodes site maxDepth root, forM_eq_error_iff]
      simp [Node.check_eq_ok_iff, Node.check_eq_error_iff]
  · have cleared : Cleared site (Depth.clamp maxDepth) (nodesOf data) :=
      nodesOfEntries_cleared (List.forall_mem_nil _) fun p _ isKey =>
        nodes_cleared (by simpa using isKey) p.2
    have keys := cleared front n back whole fits
    exact ⟨keys, fun some_ => splitAt_pathOf some_ keys⟩

end Resource
end Phrasebook
