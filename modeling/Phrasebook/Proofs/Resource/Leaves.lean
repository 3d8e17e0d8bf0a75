import Phrasebook.Proofs.Resource.Depth
import Phrasebook.Proofs.Resource.Paths
import Phrasebook.Proofs.Text.Numeral
import Phrasebook.Proofs.Value.Show
/-!
The texts in raw data and the keys they are found under once the data are compiled. The key of a text
is made of the keys and positions on the way to it, each as text.
-/
namespace Phrasebook

namespace Datum

mutual

/-- The texts in a datum, each with the keys and positions on the way to it. -/
def leaves : Datum → List (List Value × Text)
  | .text t => [([], t)]
  | .map entries => leavesOfEntries entries
  | .list items | .tuple items => leavesOfItems 0 items
  | .shared _ d => leaves d
  | _ => []

def leavesOfEntries : List (Value × Datum) → List (List Value × Text)
  | [] => []
  | (key, d) :: rest => (leaves d).map (fun l => (key :: l.1, l.2)) ++ leavesOfEntries rest

def leavesOfItems (index : Nat) : List Datum → List (List Value × Text)
  | [] => []
  | d :: rest =>
    (leaves d).map (fun l => (Value.ofInt index :: l.1, l.2)) ++ leavesOfItems (index + 1) rest

end

mutual

/-- The mappings in a datum, itself included. -/
def mappings : Datum → List (List (Value × Datum))
  | .map entries => entries :: mappingsOfEntries entries
  | .list items | .tuple items => mappingsOfItems items
  | .shared _ d => mappings d
  | _ => []

def mappingsOfEntries : List (Value × Datum) → List (List (Value × Datum))
  | [] => []
  | (_, d) :: rest => mappings d ++ mappingsOfEntries rest

def mappingsOfItems : List Datum → List (List (Value × Datum))
  | [] => []
  | d :: rest => mappings d ++ mappingsOfItems rest

end

theorem leaves_of_entries? {d : Datum} {entries : List (Value × Datum)}
    (root : d.entries? = some entries) : d.leaves = leavesOfEntries entries := by
  fun_induction entries? d with
  | case1 inner =>
    cases root
    rfl
  | case2 mark d ih => exact ih root
  | case3 => cases root

theorem mappings_of_entries? {d : Datum} {entries : List (Value × Datum)}
    (root : d.entries? = some entries) : d.mappings = entries :: mappingsOfEntries entries := by
  fun_induction entries? d with
  | case1 inner =>
    cases root
    rfl
  | case2 mark d ih => exact ih root
  | case3 => cases root

end Datum

namespace Resource

/-- The dotted key of a way through raw data: its keys and positions as texts. -/
def keyOf (way : List Value) : Except Fault Text := (way.mapM (Value.plain {})).map dotted

/-- The text of a key or a position that can be written. -/
def label (v : Value) : Text := (Value.plain {} v).toOption.getD []

theorem label_of_plain {v : Value} {t : Text} (written : Value.plain {} v = .ok t) : label v = t := by
  rw [label, written]
  rfl

theorem plain_int (n : Int) (origin : Origin) :
    Value.plain {} (.int n origin) = Number.intText n :=
  Value.quoted_int {} n origin

theorem plain_ofInt (n : Int) : Value.plain {} (Value.ofInt n) = Number.intText n :=
  plain_int n .unmarked

/-- Only integers and texts become segments: by their numerals, and as they are. -/
theorem segmentOf_cases {site : Site} {path segment : Text} {key : Value}
    (found : segmentOf site path key = .ok segment) :
    (∃ n origin, key = .int n origin ∧ Number.intText n = .ok segment) ∨
      ∃ origin, key = .text segment origin := by
  have ofText {t : Text} {origin : Origin}
      (found : textSegment site path (.text t origin) = .ok segment) : t = segment := by
    simp only [textSegment] at found
    split_ifs at found
    · obtain ⟨_, -, thrown⟩ := Outcome.bind_eq_ok.mp found
      cases thrown
    · cases found
      rfl
  cases key with
  | int n origin =>
    obtain ⟨numeral, written, found⟩ := Outcome.bind_eq_ok.mp found
    exact .inl ⟨n, origin, rfl, by rw [written, ofText found]⟩
  | text t origin => exact .inr ⟨origin, by rw [ofText found]⟩
  | _ =>
    obtain ⟨_, -, thrown⟩ := Outcome.bind_eq_ok.mp found
    cases thrown

theorem plain_of_segmentOf {site : Site} {path segment : Text} {key : Value}
    (found : segmentOf site path key = .ok segment) : Value.plain {} key = .ok segment := by
  rcases segmentOf_cases found with ⟨n, origin, rfl, written⟩ | ⟨origin, rfl⟩
  · rw [plain_int, written]
  · rfl

theorem isSegment_ofNat (n : Nat) : IsSegment (Text.ofNat n) := by
  refine ⟨Text.ofNat_ne_nil n, fun member => ?_⟩
  have low : 48 ≤ separator := (Text.le_of_mem_ofNat member).1
  exact absurd low (by decide)

theorem position?_ofNat {n : Nat} (short : ¬Nat.pow 10 Number.maxDigits ≤ n) :
    position? (Text.ofNat n) = .ok (some n) := by
  have digits : (!(Text.ofNat n).isEmpty && (Text.ofNat n).all Text.isDigit) = true := by
    simpa [Text.ofNat_ne_nil] using fun c member => Text.isDigit_of_mem_ofNat member
  have fits : ¬Number.maxDigits < (Text.ofNat n).length :=
    Nat.not_lt.mpr (Text.length_ofNat_le (by decide) short)
  rw [position?, if_pos digits, Text.decimalNumeral?_ofNat]
  exact if_neg fits

theorem child?_ofNat {n : Nat} {items : List Resource} {r : Resource}
    (short : ¬Nat.pow 10 Number.maxDigits ≤ n) (place : items[n]? = some r) :
    child? (Text.ofNat n) (.sequence items) = .ok (some r) := by
  rw [child?, position?_ofNat short]
  exact congrArg Except.ok place

theorem ofInt_of_intText {n : Int} {t : Text} (written : Number.intText n = .ok t) :
    ¬Nat.pow 10 Number.maxDigits ≤ n.natAbs ∧ t = Text.ofInt n := by
  rw [Number.intText] at written
  split_ifs at written with long
  cases written
  exact ⟨long, rfl⟩

theorem ofNat_of_intText {i : Nat} {t : Text} (written : Number.intText i = .ok t) :
    ¬Nat.pow 10 Number.maxDigits ≤ i ∧ t = Text.ofNat i :=
  ofInt_of_intText written

/-- Two keys that neither are one key nor are written alike, as an integer and its numeral are. -/
structure Apart (a b : Value) : Prop where
  different : a.sameKey b = false
  left : ∀ n origin other, a = .int n origin → b ≠ .text (Text.ofInt n) other
  right : ∀ n origin other, b = .int n origin → a ≠ .text (Text.ofInt n) other

theorem segment_ne_of_apart {site : Site} {path first second : Text} {a b : Value}
    (apart : Apart a b) (foundFirst : segmentOf site path a = .ok first)
    (foundSecond : segmentOf site path b = .ok second) : first ≠ second := by
  rintro rfl
  obtain ⟨different, left, right⟩ := apart
  rcases segmentOf_cases foundFirst with ⟨m, origin, rfl, written⟩ | ⟨origin, rfl⟩
  · obtain ⟨-, rfl⟩ := ofInt_of_intText written
    rcases segmentOf_cases foundSecond with ⟨n, other, rfl, written⟩ | ⟨other, rfl⟩
    · obtain ⟨-, same⟩ := ofInt_of_intText written
      obtain rfl := Text.ofInt_injective same
      simp [Value.sameKey, Value.sameAtom, Value.number?, Value.sameNumber, Number.same] at different
    · exact left m origin other rfl rfl
  · rcases segmentOf_cases foundSecond with ⟨n, other, rfl, written⟩ | ⟨other, rfl⟩
    · obtain ⟨-, rfl⟩ := ofInt_of_intText written
      exact right n other origin rfl rfl
    · simp [Value.sameKey] at different

/-- Ways through raw data, each to a text, against the resource that the data compile to: their keys and
positions can be written, and lead to the templates of the texts; no two ways are written alike. -/
structure Traced (leaves : List (List Value × Text)) (r : Resource) : Prop where
  written : ∀ leaf ∈ leaves, ∀ v ∈ leaf.1,
    Value.plain {} v = .ok (label v) ∧ IsSegment (label v)
  found : ∀ leaf ∈ leaves, ∃ template,
    findFrom (leaf.1.map label) (some r) = .ok (some (.leaf template)) ∧
      template.source = leaf.2
  distinct : (leaves.map fun leaf => leaf.1.map label).Nodup

namespace Traced

theorem nil (r : Resource) : Traced [] r := ⟨by simp, by simp, by simp⟩

/-- One more key or position, under which none of the other ways starts. -/
theorem cons {leaves more : List (List Value × Text)} {r value : Resource} {v : Value}
    (traced : Traced leaves value) (others : Traced more r)
    (written : Value.plain {} v = .ok (label v)) (isSegment : IsSegment (label v))
    (step : child? (label v) r = .ok (some value))
    (fresh : ∀ leaf ∈ more, ∀ rest, leaf.1.map label ≠ label v :: rest) :
    Traced (leaves.map (fun leaf => (v :: leaf.1, leaf.2)) ++ more) r where
  written leaf member := by
    rcases List.mem_append.mp member with here | there
    · obtain ⟨inner, inside, rfl⟩ := List.mem_map.mp here
      exact List.forall_mem_cons.mpr ⟨⟨written, isSegment⟩, traced.written inner inside⟩
    · exact others.written leaf there
  found leaf member := by
    rcases List.mem_append.mp member with here | there
    · obtain ⟨inner, inside, rfl⟩ := List.mem_map.mp here
      obtain ⟨template, found, source⟩ := traced.found inner inside
      refine ⟨template, ?_, source⟩
      rw [List.map_cons, findFrom, step]
      exact found
    · exact others.found leaf there
  distinct := by
    rw [List.map_append, List.map_map]
    refine List.Nodup.append ?_ others.distinct ?_
    · have inner := traced.distinct.map (List.cons_injective (a := label v))
      rw [List.map_map] at inner
      exact inner
    · intro written here there
      obtain ⟨inner, -, rfl⟩ := List.mem_map.mp here
      obtain ⟨leaf, member, same⟩ := List.mem_map.mp there
      exact fresh leaf member _ same

end Traced

theorem head_of_mem_leavesOfEntries {entries : List (Value × Datum)} {leaf : List Value × Text}
    (member : leaf ∈ Datum.leavesOfEntries entries) :
    ∃ e ∈ entries, ∃ rest, leaf.1 = e.1 :: rest := by
  induction entries with
  | nil => cases member
  | cons e rest ih =>
    rcases List.mem_append.mp member with here | there
    · obtain ⟨inner, -, rfl⟩ := List.mem_map.mp here
      exact ⟨e, List.mem_cons_self, inner.1, rfl⟩
    · obtain ⟨e, member, whole⟩ := ih there
      exact ⟨e, List.mem_cons_of_mem _ member, whole⟩

theorem head_of_mem_leavesOfItems {items : List Datum} {index : Nat} {leaf : List Value × Text}
    (member : leaf ∈ Datum.leavesOfItems index items) :
    ∃ i rest, index ≤ i ∧ leaf.1 = Value.ofInt i :: rest := by
  induction items generalizing index with
  | nil => cases member
  | cons d rest ih =>
    rcases List.mem_append.mp member with here | there
    · obtain ⟨inner, -, rfl⟩ := List.mem_map.mp here
      exact ⟨index, inner.1, le_rfl, rfl⟩
    · obtain ⟨i, rest, later, whole⟩ := ih there
      exact ⟨i, rest, Nat.le_of_succ_le later, whole⟩

variable {site : Site}

/-- What is compiled leaves what is done as it is, but for its own segments. -/
theorem CompilesEntries.get? {guard : DepthGuard} {path segment : Text} {done tree : ResourceTree}
    {entries : List (Value × Datum)} (compiled : CompilesEntries site guard path done entries tree)
    (other : ∀ e ∈ entries, segmentOf site path e.1 ≠ .ok segment) :
    tree.get? segment = done.get? segment := by
  induction entries generalizing done with
  | nil =>
    cases compiled
    rfl
  | cons e rest ih =>
    obtain ⟨first, others⟩ := List.forall_mem_cons.mp other
    cases compiled with
    | cons found _ later =>
      rw [ih later others, OrderedMap.get?_insert, if_neg]
      rintro rfl
      exact first found

theorem CompilesEntries.segments {guard : DepthGuard} {path : Text} {done tree : ResourceTree}
    {entries : List (Value × Datum)} (compiled : CompilesEntries site guard path done entries tree) :
    ∀ e ∈ entries, ∃ segment, segmentOf site path e.1 = .ok segment := by
  induction entries generalizing done with
  | nil => simp
  | cons e rest ih =>
    cases compiled with
    | cons found _ later => exact List.forall_mem_cons.mpr ⟨⟨_, found⟩, ih later⟩

mutual

theorem Compiles.traced {guard : DepthGuard} {path : Text} {d : Datum} {r : Resource} :
    Compiles site guard path d r →
    (∀ m ∈ d.mappings, m.Pairwise fun a b => Apart a.1 b.1) → Traced d.leaves r
  | .text _ fromSource, _ => by
    have source := Template.source_of_compile fromSource
    exact ⟨by simp [Datum.leaves], by simp [Datum.leaves, findFrom, source], by simp [Datum.leaves]⟩
  | .map _ compiled, apart => by
    obtain ⟨here, deeper⟩ := List.forall_mem_cons.mp apart
    exact compiled.traced here deeper
  | .list _ compiled, apart | .tuple _ compiled, apart => compiled.traced rfl apart
  | .shared compiled, apart => compiled.traced apart

-- An entry stays where it was put: no later key is written as its own.
theorem CompilesEntries.traced {guard : DepthGuard} {path : Text} {done tree : ResourceTree}
    {entries : List (Value × Datum)} : CompilesEntries site guard path done entries tree →
    (entries.Pairwise fun a b => Apart a.1 b.1) →
    (∀ m ∈ Datum.mappingsOfEntries entries, m.Pairwise fun a b => Apart a.1 b.1) →
    Traced (Datum.leavesOfEntries entries) (.tree tree)
  | .nil, _, _ => .nil _
  | .cons found compiled later, apart, deeper => by
    obtain ⟨apartHere, apart⟩ := List.pairwise_cons.mp apart
    obtain ⟨deeperHere, deeper⟩ := List.forall_mem_append.mp deeper
    have written := plain_of_segmentOf found
    obtain rfl := label_of_plain written
    have differs := fun e member same => segment_ne_of_apart (apartHere e member) found same rfl
    have kept := later.get? differs
    rw [OrderedMap.get?_insert, if_pos rfl] at kept
    refine .cons (compiled.traced deeperHere) (later.traced apart deeper) written
      (segmentOf_ok found) (congrArg Except.ok kept) fun leaf member way same => ?_
    obtain ⟨e, member, tail, whole⟩ := head_of_mem_leavesOfEntries member
    obtain ⟨other, foundOther⟩ := later.segments e member
    rw [whole, List.map_cons, label_of_plain (plain_of_segmentOf foundOther)] at same
    exact differs e member (foundOther.trans (congrArg Except.ok (List.cons.inj same).1))

-- The sequence is looked up in as a whole; what is compiled next is what follows an index in it.
theorem CompilesItems.traced {guard : DepthGuard} {path : Text} {index : Nat} {items : List Datum}
    {values whole : List Resource} : CompilesItems site guard path index items values →
    whole.drop index = values →
    (∀ m ∈ Datum.mappingsOfItems items, m.Pairwise fun a b => Apart a.1 b.1) →
    Traced (Datum.leavesOfItems index items) (.sequence whole)
  | .nil, _, _ => .nil _
  | .cons written compiled later, remain, deeper => by
    obtain ⟨deeperHere, deeper⟩ := List.forall_mem_append.mp deeper
    have place := congrArg (·[0]?) remain
    simp only [List.getElem?_drop, Nat.add_zero, List.getElem?_cons_zero] at place
    have behind := later.traced (by simpa using congrArg List.tail remain) deeper
    obtain ⟨short, rfl⟩ := ofNat_of_intText written
    have writtenKey := (plain_ofInt index).trans written
    have labelled : label (Value.ofInt index) = Text.ofNat index := label_of_plain writtenKey
    have step := child?_ofNat short place
    have isSegment := isSegment_ofNat index
    rw [← labelled] at writtenKey isSegment step
    refine .cons (compiled.traced deeperHere) behind writtenKey isSegment step
      fun leaf member way same => ?_
    obtain ⟨i, tail, after, path⟩ := head_of_mem_leavesOfItems member
    have other := (behind.written leaf member (Value.ofInt i) (by simp [path])).1
    rw [plain_ofInt] at other
    rw [path, List.map_cons, labelled, (ofNat_of_intText other).2] at same
    have sameIndex : i = index := Text.ofNat_injective (List.cons.inj same).1
    omega

end

variable {leaves : List (List Value × Text)} {r : Resource}

theorem Traced.keyOf (traced : Traced leaves r) {leaf : List Value × Text} (member : leaf ∈ leaves) :
    keyOf leaf.1 = .ok (dotted (leaf.1.map label)) := by
  have each : leaf.1.mapM (Value.plain {}) = .ok (leaf.1.map label) :=
    Outcome.mapM_of_ok fun v inside => (traced.written leaf member v inside).1
  rw [Resource.keyOf, each]
  rfl

theorem Traced.segments (traced : Traced leaves r) {leaf : List Value × Text}
    (member : leaf ∈ leaves) : ∀ s ∈ leaf.1.map label, IsSegment s := by
  intro s inside
  obtain ⟨v, onWay, rfl⟩ := List.mem_map.mp inside
  exact (traced.written leaf member v onWay).2

/-- Ways that are written apart have different keys. -/
theorem Traced.nodup_keys (traced : Traced leaves r) (nonempty : ∀ leaf ∈ leaves, leaf.1 ≠ []) :
    (leaves.map fun leaf => Resource.keyOf leaf.1).Nodup := by
  have keys : (leaves.map fun leaf => Resource.keyOf leaf.1) =
      (leaves.map fun leaf => leaf.1.map label).map fun way => .ok (dotted way) := by
    rw [List.map_map]
    exact List.map_congr_left fun leaf member => traced.keyOf member
  rw [keys]
  refine traced.distinct.map_on fun first isFirst second isSecond same => ?_
  have cut {way : List Text} (isWay : way ∈ leaves.map fun leaf => leaf.1.map label) :
      Text.splitAt separator (dotted way) = way := by
    obtain ⟨leaf, member, rfl⟩ := List.mem_map.mp isWay
    exact splitAt_dotted (by simpa using nonempty leaf member) (traced.segments member)
  rw [← cut isFirst, Except.ok.inj same, cut isSecond]

/-- Data that compile have their texts below the root. -/
theorem compile_traced {maxDepth : Int} {data : Datum} {tree : ResourceTree}
    (compiled : compile site maxDepth data = .ok tree)
    (apart : ∀ m ∈ data.mappings, m.Pairwise fun a b => Apart a.1 b.1) :
    Traced data.leaves (.tree tree) ∧ ∀ leaf ∈ data.leaves, leaf.1 ≠ [] := by
  obtain ⟨entries, root, compiled⟩ := compile_eq_ok_iff.mp compiled
  rw [Datum.mappings_of_entries? root] at apart
  rw [Datum.leaves_of_entries? root]
  obtain ⟨here, deeper⟩ := List.forall_mem_cons.mp apart
  refine ⟨compiled.traced here deeper, fun leaf member => ?_⟩
  obtain ⟨e, -, rest, whole⟩ := head_of_mem_leavesOfEntries member
  rw [whole]
  exact List.cons_ne_nil _ _

end Resource
end Phrasebook
