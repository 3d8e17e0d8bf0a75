import Phrasebook.Proofs.OrderedMap
import Phrasebook.Proofs.Resource.Leaves
/-!
What compiling keeps of a document. Raw data and resources are both read as texts, sequences and labelled
entries; in a resource the entries with one label are folded into one.
-/
namespace Phrasebook

inductive Document where
  | text (t : Text)
  | items (parts : List Document)
  | entries (parts : List (Text × Document))

namespace Document

mutual

/-- The document with one entry for each label of a level: it stands in the place of the first of them
and is the last of them. -/
def folded : Document → Document
  | text t => text t
  | items parts => items (foldedItems parts)
  | entries parts => entries (OrderedMap.ofList (foldedEntries parts))

def foldedItems : List Document → List Document
  | [] => []
  | d :: rest => folded d :: foldedItems rest

def foldedEntries : List (Text × Document) → List (Text × Document)
  | [] => []
  | (label, d) :: rest => (label, folded d) :: foldedEntries rest

end

mutual

/-- The number of entries on all levels. -/
def size : Document → Nat
  | text _ => 0
  | items parts => sizeOfItems parts
  | entries parts => sizeOfEntries parts

def sizeOfItems : List Document → Nat
  | [] => 0
  | d :: rest => size d + sizeOfItems rest

def sizeOfEntries : List (Text × Document) → Nat
  | [] => 0
  | (_, d) :: rest => 1 + size d + sizeOfEntries rest

end

mutual

/-- The labels of each level. -/
def levels : Document → List (List Text)
  | text _ => []
  | items parts => levelsOfItems parts
  | entries parts => OrderedMap.keys parts :: levelsOfEntries parts

def levelsOfItems : List Document → List (List Text)
  | [] => []
  | d :: rest => levels d ++ levelsOfItems rest

def levelsOfEntries : List (Text × Document) → List (List Text)
  | [] => []
  | (_, d) :: rest => levels d ++ levelsOfEntries rest

end

/-- No level has a label twice. -/
def Distinct (d : Document) : Prop := ∀ level ∈ d.levels, level.Nodup

theorem keys_foldedEntries (parts : List (Text × Document)) :
    OrderedMap.keys (foldedEntries parts) = OrderedMap.keys parts := by
  induction parts with
  | nil => rfl
  | cons e rest ih => exact congrArg (e.1 :: ·) ih

mutual

theorem folded_of_distinct : ∀ d : Document, (∀ level ∈ d.levels, level.Nodup) → d.folded = d
  | text _, _ => rfl
  | items parts, distinct => congrArg items (foldedItems_of_distinct parts distinct)
  | entries parts, distinct => by
    obtain ⟨here, deeper⟩ := List.forall_mem_cons.mp distinct
    rw [folded, foldedEntries_of_distinct parts deeper, OrderedMap.ofList_eq_self_iff.mpr here]

theorem foldedItems_of_distinct : ∀ parts : List Document,
    (∀ level ∈ levelsOfItems parts, level.Nodup) → foldedItems parts = parts
  | [], _ => rfl
  | d :: rest, distinct => by
    obtain ⟨first, others⟩ := List.forall_mem_append.mp distinct
    rw [foldedItems, folded_of_distinct d first, foldedItems_of_distinct rest others]

theorem foldedEntries_of_distinct : ∀ parts : List (Text × Document),
    (∀ level ∈ levelsOfEntries parts, level.Nodup) → foldedEntries parts = parts
  | [], _ => rfl
  | (label, d) :: rest, distinct => by
    obtain ⟨first, others⟩ := List.forall_mem_append.mp distinct
    rw [foldedEntries, folded_of_distinct d first, foldedEntries_of_distinct rest others]

end

theorem sizeOfEntries_append (m more : List (Text × Document)) :
    sizeOfEntries (m ++ more) = sizeOfEntries m + sizeOfEntries more := by
  induction m with
  | nil => exact (Nat.zero_add _).symm
  | cons e rest ih =>
    simp only [List.cons_append, sizeOfEntries, ih, Nat.add_assoc]

/-- What takes the place of an entry adds no entry on its level. -/
theorem sizeOfEntries_insert_lt {m : OrderedMap Document} {label : Text} (d : Document)
    (present : label ∈ m.keys) :
    sizeOfEntries (m.insert label d) < sizeOfEntries m + sizeOfEntries [(label, d)] := by
  induction m with
  | nil => cases present
  | cons e rest ih =>
    by_cases here : e.1 = label
    · simp only [OrderedMap.insert, if_pos here, sizeOfEntries]
      omega
    · have later : label ∈ OrderedMap.keys rest :=
        (List.mem_cons.mp present).resolve_left (Ne.symm here)
      have smaller := ih later
      simp only [OrderedMap.insert, if_neg here, sizeOfEntries] at smaller ⊢
      omega

/-- Inserting entries keeps all of them if no label is met twice. -/
theorem sizeOfEntries_insertAll (more : List (Text × Document)) {m : OrderedMap Document}
    (distinct : m.keys.Nodup) :
    sizeOfEntries (m.insertAll more) ≤ sizeOfEntries m + sizeOfEntries more ∧
      (sizeOfEntries (m.insertAll more) = sizeOfEntries m + sizeOfEntries more →
        (OrderedMap.keys (m ++ more)).Nodup) := by
  induction more generalizing m with
  | nil => exact ⟨Nat.le_refl _, fun _ => by rwa [List.append_nil]⟩
  | cons e rest ih =>
    obtain ⟨label, d⟩ := e
    obtain ⟨bound, full⟩ := ih (m.nodup_insert label d distinct)
    have whole : sizeOfEntries ((label, d) :: rest) =
        sizeOfEntries [(label, d)] + sizeOfEntries rest := sizeOfEntries_append [(label, d)] rest
    change sizeOfEntries ((m.insert label d).insertAll rest) ≤ _ ∧
      (sizeOfEntries ((m.insert label d).insertAll rest) = _ → _)
    rw [whole]
    by_cases present : label ∈ m.keys
    · have smaller := sizeOfEntries_insert_lt d present
      exact ⟨by omega, fun same => by omega⟩
    · rw [m.insert_of_not_mem label d present, sizeOfEntries_append] at bound full
      rw [m.insert_of_not_mem label d present]
      refine ⟨by omega, fun same => ?_⟩
      rw [List.append_cons]
      exact full (by omega)

mutual

/-- Folding loses entries unless there is nothing to fold. -/
theorem size_folded : ∀ d : Document, d.folded.size ≤ d.size ∧
    (d.folded.size = d.size → ∀ level ∈ d.levels, level.Nodup)
  | text _ => ⟨Nat.le_refl _, fun _ => by simp [levels]⟩
  | items parts => sizeOfItems_folded parts
  | entries parts => by
    obtain ⟨bound, full⟩ := sizeOfEntries_folded parts
    obtain ⟨least, kept⟩ := sizeOfEntries_insertAll (foldedEntries parts) (m := []) List.nodup_nil
    have start : sizeOfEntries [] = 0 := rfl
    rw [start, Nat.zero_add] at least kept
    rw [folded, size, size, OrderedMap.ofList, levels]
    refine ⟨Nat.le_trans least bound, fun same => List.forall_mem_cons.mpr ⟨?_, full (by omega)⟩⟩
    rw [← keys_foldedEntries]
    exact kept (by omega)

theorem sizeOfItems_folded : ∀ parts : List Document,
    sizeOfItems (foldedItems parts) ≤ sizeOfItems parts ∧
      (sizeOfItems (foldedItems parts) = sizeOfItems parts →
        ∀ level ∈ levelsOfItems parts, level.Nodup)
  | [] => ⟨Nat.le_refl _, fun _ => by simp [levelsOfItems]⟩
  | d :: rest => by
    obtain ⟨first, firstFull⟩ := size_folded d
    obtain ⟨others, othersFull⟩ := sizeOfItems_folded rest
    rw [foldedItems, sizeOfItems, sizeOfItems, levelsOfItems]
    exact ⟨by omega, fun same =>
      List.forall_mem_append.mpr ⟨firstFull (by omega), othersFull (by omega)⟩⟩

theorem sizeOfEntries_folded : ∀ parts : List (Text × Document),
    sizeOfEntries (foldedEntries parts) ≤ sizeOfEntries parts ∧
      (sizeOfEntries (foldedEntries parts) = sizeOfEntries parts →
        ∀ level ∈ levelsOfEntries parts, level.Nodup)
  | [] => ⟨Nat.le_refl _, fun _ => by simp [levelsOfEntries]⟩
  | (label, d) :: rest => by
    obtain ⟨first, firstFull⟩ := size_folded d
    obtain ⟨others, othersFull⟩ := sizeOfEntries_folded rest
    rw [foldedEntries, sizeOfEntries, sizeOfEntries, levelsOfEntries]
    exact ⟨by omega, fun same =>
      List.forall_mem_append.mpr ⟨firstFull (by omega), othersFull (by omega)⟩⟩

end

theorem size_folded_eq_iff (d : Document) : d.folded.size = d.size ↔ d.Distinct :=
  ⟨(size_folded d).2, fun distinct => congrArg size (folded_of_distinct d distinct)⟩

theorem folded_eq_self_iff (d : Document) : d.folded = d ↔ d.Distinct :=
  ⟨fun same => (size_folded d).2 (congrArg size same), folded_of_distinct d⟩

end Document

namespace Datum
open Resource (label)

mutual

/-- Raw data as a document, each key by its text. -/
def document : Datum → Document
  | .text t => .text t
  | .map entries => .entries (documentOfEntries entries)
  | .list items | .tuple items => .items (documentOfItems items)
  | .shared _ d => document d
  | _ => .items []

def documentOfEntries : List (Value × Datum) → List (Text × Document)
  | [] => []
  | (key, d) :: rest => (label key, document d) :: documentOfEntries rest

def documentOfItems : List Datum → List Document
  | [] => []
  | d :: rest => document d :: documentOfItems rest

end

/-- A mapping that has an integer and the text of its numeral as keys. -/
def Doubles (m : List (Value × Datum)) : Prop :=
  ∃ n origin other, (∃ d, (Value.int n origin, d) ∈ m) ∧ ∃ d, (Value.text (Text.ofInt n) other, d) ∈ m

theorem document_of_entries? {d : Datum} {entries : List (Value × Datum)}
    (root : d.entries? = some entries) : d.document = .entries (documentOfEntries entries) := by
  fun_induction entries? d with
  | case1 inner =>
    cases root
    rfl
  | case2 mark d ih => exact ih root
  | case3 => cases root

theorem keys_documentOfEntries (entries : List (Value × Datum)) :
    OrderedMap.keys (documentOfEntries entries) = entries.map fun e => label e.1 := by
  induction entries with
  | nil => rfl
  | cons e rest ih => exact congrArg (label e.1 :: ·) ih

mutual

theorem levels_document : ∀ d : Datum,
    d.document.levels = d.mappings.map fun m => m.map fun e => label e.1
  | .text _ | .none | .bool _ | .int _ | .float _ | .bytes _ | .decimal _ | .date _ _ _ | .dateTime
  | .function _ | .helper _ | .cls _ | .form _ _ | .set _ | .object _ | .lookup _ => rfl
  | .map entries => by
    rw [document, Document.levels, keys_documentOfEntries, levelsOfEntries_document, mappings,
      List.map_cons]
  | .list items | .tuple items => levelsOfItems_document items
  | .shared _ d => levels_document d

theorem levelsOfEntries_document : ∀ entries : List (Value × Datum),
    Document.levelsOfEntries (documentOfEntries entries) =
      (mappingsOfEntries entries).map fun m => m.map fun e => label e.1
  | [] => rfl
  | (_, d) :: rest => by
    rw [documentOfEntries, Document.levelsOfEntries, levels_document d,
      levelsOfEntries_document rest, mappingsOfEntries, List.map_append]

theorem levelsOfItems_document : ∀ items : List Datum,
    Document.levelsOfItems (documentOfItems items) =
      (mappingsOfItems items).map fun m => m.map fun e => label e.1
  | [] => rfl
  | d :: rest => by
    rw [documentOfItems, Document.levelsOfItems, levels_document d, levelsOfItems_document rest,
      mappingsOfItems, List.map_append]

end

end Datum

namespace Resource

mutual

/-- A resource as a document, each template by its source. -/
def document : Resource → Document
  | .leaf template => .text template.source
  | .sequence items => .items (documentOfItems items)
  | .tree entries => .entries (documentOfEntries entries)

def documentOfEntries : List (Text × Resource) → List (Text × Document)
  | [] => []
  | (label, r) :: rest => (label, document r) :: documentOfEntries rest

def documentOfItems : List Resource → List Document
  | [] => []
  | r :: rest => document r :: documentOfItems rest

end

theorem documentOfEntries_insert (tree : ResourceTree) (segment : Text) (value : Resource) :
    documentOfEntries (tree.insert segment value) =
      OrderedMap.insert (documentOfEntries tree) segment value.document := by
  induction tree with
  | nil => rfl
  | cons e rest ih =>
    by_cases here : e.1 = segment
    · simp only [OrderedMap.insert, documentOfEntries, if_pos here]
    · simp only [OrderedMap.insert, documentOfEntries, if_neg here]
      exact congrArg ((e.1, e.2.document) :: ·) ih

variable {site : Site}

mutual

/-- What compiles is kept, but for the folding. -/
theorem Compiles.document {guard : DepthGuard} {path : Text} {d : Datum} {r : Resource} :
    Compiles site guard path d r → r.document = d.document.folded
  | .text _ fromSource => congrArg Document.text (Template.source_of_compile fromSource)
  | .map _ compiled => congrArg Document.entries compiled.document
  | .list _ compiled | .tuple _ compiled => congrArg Document.items compiled.document
  | .shared compiled => compiled.document

theorem CompilesEntries.document {guard : DepthGuard} {path : Text} {done tree : ResourceTree}
    {entries : List (Value × Datum)} : CompilesEntries site guard path done entries tree →
    documentOfEntries tree = OrderedMap.insertAll (documentOfEntries done)
      (Document.foldedEntries (Datum.documentOfEntries entries))
  | .nil => rfl
  | .cons found compiled later => by
    rw [later.document, documentOfEntries_insert, compiled.document,
      ← label_of_plain (plain_of_segmentOf found)]
    rfl

theorem CompilesItems.document {guard : DepthGuard} {path : Text} {index : Nat} {items : List Datum}
    {values : List Resource} : CompilesItems site guard path index items values →
    documentOfItems values = Document.foldedItems (Datum.documentOfItems items)
  | .nil => rfl
  | .cons _ compiled later => by
    rw [documentOfItems, compiled.document, later.document]
    rfl

end

/-- The keys of a mapping stand for segments below one path. -/
def Keyed (site : Site) (m : List (Value × Datum)) : Prop :=
  ∃ path, ∀ e ∈ m, ∃ segment, segmentOf site path e.1 = .ok segment

mutual

theorem Compiles.keyed {guard : DepthGuard} {path : Text} {d : Datum} {r : Resource} :
    Compiles site guard path d r → ∀ m ∈ d.mappings, Keyed site m
  | .text .. => by simp [Datum.mappings]
  | .map _ compiled => List.forall_mem_cons.mpr ⟨⟨path, compiled.segments⟩, compiled.keyed⟩
  | .list _ compiled | .tuple _ compiled => compiled.keyed
  | .shared compiled => compiled.keyed

theorem CompilesEntries.keyed {guard : DepthGuard} {path : Text} {done tree : ResourceTree}
    {entries : List (Value × Datum)} : CompilesEntries site guard path done entries tree →
    ∀ m ∈ Datum.mappingsOfEntries entries, Keyed site m
  | .nil => by simp [Datum.mappingsOfEntries]
  | .cons _ compiled later => List.forall_mem_append.mpr ⟨compiled.keyed, later.keyed⟩

theorem CompilesItems.keyed {guard : DepthGuard} {path : Text} {index : Nat} {items : List Datum}
    {values : List Resource} : CompilesItems site guard path index items values →
    ∀ m ∈ Datum.mappingsOfItems items, Keyed site m
  | .nil => by simp [Datum.mappingsOfItems]
  | .cons _ compiled later => List.forall_mem_append.mpr ⟨compiled.keyed, later.keyed⟩

end

theorem label_of_segmentOf {path segment : Text} {key : Value}
    (found : segmentOf site path key = .ok segment) : label key = segment :=
  label_of_plain (plain_of_segmentOf found)

/-- Of the keys of a dictionary only an integer and its numeral are written alike. -/
theorem nodup_labels_iff {m : List (Value × Datum)} (keyed : Keyed site m)
    (distinct : m.Pairwise fun a b => a.1.sameKey b.1 = false) :
    (m.map fun e => label e.1).Nodup ↔ ¬Datum.Doubles m := by
  obtain ⟨path, keyed⟩ := keyed
  constructor
  · rintro nodup ⟨n, origin, other, ⟨d, first⟩, e, second⟩
    obtain ⟨segment, found⟩ := keyed _ first
    obtain ⟨numeral, written, found⟩ := Outcome.bind_eq_ok.mp found
    obtain ⟨-, rfl⟩ := ofInt_of_intText written
    have same : label (.int n origin) = label (.text (Text.ofInt n) other) :=
      label_of_plain ((plain_int n origin).trans written)
    have one := List.inj_on_of_nodup_map nodup first second same
    cases congrArg Prod.fst one
  · intro single
    rw [List.nodup_iff_pairwise_ne, List.pairwise_map]
    refine distinct.imp_of_mem fun {a b} isFirst isSecond different => ?_
    obtain ⟨first, foundFirst⟩ := keyed a isFirst
    obtain ⟨second, foundSecond⟩ := keyed b isSecond
    rw [label_of_segmentOf foundFirst, label_of_segmentOf foundSecond]
    refine segment_ne_of_apart ⟨different, ?_, ?_⟩ foundFirst foundSecond
    · intro n origin other number numeral
      exact single ⟨n, origin, other, ⟨a.2, number ▸ isFirst⟩, b.2, numeral ▸ isSecond⟩
    · intro n origin other number numeral
      exact single ⟨n, origin, other, ⟨b.2, number ▸ isSecond⟩, a.2, numeral ▸ isFirst⟩

/-- The tree of accepted data is their document with the entries of one label folded into one. It is the
whole document, and has as many entries, if and only if no mapping has an integer and its numeral as
keys. -/
theorem document_of_compile {maxDepth : Int} {data : Datum} {tree : ResourceTree}
    (distinct : ∀ m ∈ data.mappings, m.Pairwise fun a b => a.1.sameKey b.1 = false)
    (compiled : compile site maxDepth data = .ok tree) :
    (Resource.tree tree).document = data.document.folded ∧
    (Resource.tree tree).document.size ≤ data.document.size ∧
    ((Resource.tree tree).document = data.document ↔ ∀ m ∈ data.mappings, ¬Datum.Doubles m) ∧
    ((Resource.tree tree).document.size = data.document.size ↔
      ∀ m ∈ data.mappings, ¬Datum.Doubles m) := by
  obtain ⟨entries, root, compiled⟩ := compile_eq_ok_iff.mp compiled
  have folded : (Resource.tree tree).document = data.document.folded := by
    rw [Datum.document_of_entries? root]
    exact congrArg Document.entries compiled.document
  have keyed : ∀ m ∈ data.mappings, Keyed site m := by
    rw [Datum.mappings_of_entries? root]
    exact List.forall_mem_cons.mpr ⟨⟨[], compiled.segments⟩, compiled.keyed⟩
  have unlike : data.document.Distinct ↔ ∀ m ∈ data.mappings, ¬Datum.Doubles m := by
    rw [Document.Distinct, Datum.levels_document, List.forall_mem_map]
    exact forall₂_congr fun m member => nodup_labels_iff (keyed m member) (distinct m member)
  rw [folded, Document.folded_eq_self_iff, Document.size_folded_eq_iff]
  exact ⟨rfl, (Document.size_folded _).1, unlike, unlike⟩

/-- A number and its numeral side by side. -/
def twins : Datum :=
  .map [(.ofInt 1, .text "one"), (.ofText "menu", .text "Menu"), (.ofText "1", .text "uno")]

/-- The first of the two is lost, and the other stands in its place. -/
theorem document_of_compile_twins : ∃ tree, compile ⟨"en", .standard⟩ 100 twins = .ok tree ∧
    (Resource.tree tree).document =
      .entries [(Text.ofString "1", .text "uno"), (Text.ofString "menu", .text "Menu")] ∧
    (Resource.tree tree).document.size < twins.document.size := by
  obtain ⟨tree, compiled⟩ := Outcome.exists_of_toBool
    (x := compile ⟨"en", .standard⟩ 100 twins) (by decide +kernel)
  obtain ⟨folded, -⟩ := document_of_compile (by decide +kernel) compiled
  have number : label (.ofInt 1) = Text.ofString "1" := by decide +kernel
  have numeral : label (.ofText "1") = Text.ofString "1" := rfl
  have word : label (.ofText "menu") = Text.ofString "menu" := rfl
  have written : twins.document = .entries [(Text.ofString "1", .text "one"),
      (Text.ofString "menu", .text "Menu"), (Text.ofString "1", .text "uno")] := by
    simp only [twins, Datum.document, Datum.documentOfEntries, number, numeral, word]
  rw [written] at folded
  refine ⟨tree, compiled, folded, ?_⟩
  rw [folded, written]
  decide +kernel

end Resource
end Phrasebook
