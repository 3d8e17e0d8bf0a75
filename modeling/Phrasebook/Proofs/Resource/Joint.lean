import Phrasebook.Proofs.Resource.Leaves
/-!
Documents for merged trees. Whatever two documents compile to, some document compiles to the merge of
it: the values come from the documents, under the keys that they have in the merge.
-/
namespace Phrasebook.Resource

variable {site : Site}

/-- Some raw value compiles to a resource below a guard, wherever it stands. -/
def Written (site : Site) (guard : DepthGuard) (r : Resource) : Prop :=
  ∃ d, ∀ path, Compiles site guard path d r

theorem textSegment_of_isSegment {segment : Text} (isSegment : IsSegment segment) (path : Text)
    (origin : Origin) : textSegment site path (.text segment origin) = .ok segment := by
  obtain ⟨full, free⟩ := isSegment
  simp [textSegment, full, free]

/-- The place is used for the wording of faults only. -/
theorem segmentOf_elsewhere {path segment : Text} {key : Value}
    (found : segmentOf site path key = .ok segment) (other : Text) :
    segmentOf site other key = .ok segment := by
  have isSegment := segmentOf_ok found
  rcases segmentOf_cases found with ⟨n, origin, rfl, written⟩ | ⟨origin, rfl⟩
  · rw [segmentOf, written]
    exact textSegment_of_isSegment isSegment other _
  · exact textSegment_of_isSegment isSegment other origin

mutual

theorem Compiles.elsewhere {guard : DepthGuard} {path : Text} {d : Datum} {r : Resource} :
    Compiles site guard path d r → ∀ other, Compiles site guard other d r
  | .text entered fromSource, _ => .text entered fromSource
  | .map entered compiled, other => .map entered (compiled.elsewhere other)
  | .list entered compiled, other => .list entered (compiled.elsewhere other)
  | .tuple entered compiled, other => .tuple entered (compiled.elsewhere other)
  | .shared compiled, other => .shared (compiled.elsewhere other)

theorem CompilesEntries.elsewhere {guard : DepthGuard} {path : Text} {done tree : ResourceTree}
    {entries : List (Value × Datum)} : CompilesEntries site guard path done entries tree →
    ∀ other, CompilesEntries site guard other done entries tree
  | .nil, _ => .nil
  | .cons found compiled later, other =>
    .cons (segmentOf_elsewhere found other) (compiled.elsewhere _) (later.elsewhere other)

theorem CompilesItems.elsewhere {guard : DepthGuard} {path : Text} {index : Nat}
    {items : List Datum} {values : List Resource} :
    CompilesItems site guard path index items values →
      ∀ other, CompilesItems site guard other index items values
  | .nil, _ => .nil
  | .cons written compiled later, other =>
    .cons written (compiled.elsewhere _) (later.elsewhere other)

end

theorem Compiles.written {guard : DepthGuard} {path : Text} {d : Datum} {r : Resource}
    (compiled : Compiles site guard path d r) : Written site guard r :=
  ⟨d, compiled.elsewhere⟩

theorem CompilesEntries.written {guard : DepthGuard} {path : Text} {done tree : ResourceTree}
    {entries : List (Value × Datum)} (compiled : CompilesEntries site guard path done entries tree)
    (before : ∀ e ∈ done, Written site guard e.2) : ∀ e ∈ tree, Written site guard e.2 := by
  induction entries generalizing done with
  | nil =>
    cases compiled
    exact before
  | cons entry rest ih =>
    cases compiled with
    | cons found compiled later =>
      refine ih later fun e member => ?_
      rcases OrderedMap.mem_insert _ _ _ member with rfl | old
      · exact compiled.written
      · exact before e old

theorem Compiles.entries_written {guard : DepthGuard} {path : Text} {d : Datum}
    {tree : ResourceTree} : Compiles site guard path d (.tree tree) →
      ∃ inner, guard.enter = .ok inner ∧ ∀ e ∈ tree, Written site inner e.2
  | .map entered compiled => ⟨_, entered, compiled.written (by simp)⟩
  | .shared compiled => compiled.entries_written

/-- A document with a value for each entry. -/
theorem exists_entries {guard : DepthGuard} {entries : ResourceTree} (done : ResourceTree)
    (distinct : (OrderedMap.keys (done ++ entries)).Nodup) (segments : ∀ e ∈ entries, IsSegment e.1)
    (written : ∀ e ∈ entries, Written site guard e.2) :
    ∃ data, ∀ path, CompilesEntries site guard path done data (done ++ entries) := by
  induction entries generalizing done with
  | nil =>
    rw [List.append_nil]
    exact ⟨[], fun path => .nil⟩
  | cons e rest ih =>
    obtain ⟨isSegment, segments⟩ := List.forall_mem_cons.mp segments
    obtain ⟨⟨d, compiled⟩, written⟩ := List.forall_mem_cons.mp written
    have cut : done ++ e :: rest = done ++ [e] ++ rest := by simp
    have fresh : e.1 ∉ OrderedMap.keys done := by
      intro present
      rw [OrderedMap.keys, List.map_append, List.nodup_append] at distinct
      exact distinct.2.2 _ present _ List.mem_cons_self rfl
    rw [cut] at distinct
    obtain ⟨data, later⟩ := ih _ distinct segments written
    refine ⟨(.ofText e.1, d) :: data, fun path => ?_⟩
    have key : segmentOf site path (.ofText e.1) = .ok e.1 :=
      textSegment_of_isSegment isSegment path _
    refine .cons key (compiled _) ?_
    rw [OrderedMap.insert_of_not_mem _ _ _ fresh, cut]
    exact later path

namespace Written

variable {guard : DepthGuard}

theorem sound {r : Resource} (written : Written site guard r) : Sound r := by
  obtain ⟨d, compiled⟩ := written
  exact (compiled []).sound

theorem tree {inner : DepthGuard} {entries : ResourceTree} (entered : guard.enter = .ok inner)
    (sound : Sound (.tree entries)) (written : ∀ e ∈ entries, Written site inner e.2) :
    Written site guard (.tree entries) := by
  cases sound with
  | tree _ distinct segments _ =>
    obtain ⟨data, compiled⟩ := exists_entries [] distinct segments written
    exact ⟨.map data, fun path => .map entered (compiled path)⟩

theorem entries {tree : ResourceTree} (written : Written site guard (.tree tree)) :
    ∃ inner, guard.enter = .ok inner ∧ ∀ e ∈ tree, Written site inner e.2 := by
  obtain ⟨d, compiled⟩ := written
  exact (compiled []).entries_written

end Written

mutual

theorem mergeValue_written {guard : DepthGuard} {old : Option Resource}
    (writtenOld : ∀ r ∈ old, Written site guard r) :
    ∀ new : Resource, Written site guard new → Written site guard (mergeValue old new)
  | .leaf template, written => by
    rwa [mergeValue]
  | .sequence items, written => by
    rwa [mergeValue]
  | .tree entries, written => by
    rcases old with _ | (template | items | before)
    · exact written
    · exact written
    · exact written
    · rw [mergeValue]
      have old := writtenOld _ rfl
      obtain ⟨inner, entered, each⟩ := written.entries
      obtain ⟨_, enteredOld, eachOld⟩ := old.entries
      obtain rfl := Except.ok.inj (entered.symm.trans enteredOld)
      exact .tree entered (merge_sound old.sound written.sound)
        (mergeEntries_written entries eachOld each)

theorem mergeEntries_written {guard : DepthGuard} {old : ResourceTree} :
    ∀ new : List (Text × Resource), (∀ e ∈ old, Written site guard e.2) →
      (∀ e ∈ new, Written site guard e.2) → ∀ e ∈ mergeEntries old new, Written site guard e.2
  | [], writtenOld, _ => writtenOld
  | (key, value) :: rest, writtenOld, written => by
    obtain ⟨writtenValue, written⟩ := List.forall_mem_cons.mp written
    have before : ∀ r ∈ OrderedMap.get? old key, Written site guard r :=
      fun r found => writtenOld _ (OrderedMap.mem_of_get?_eq_some _ _ _ found)
    have merged := mergeValue_written before value writtenValue
    rw [mergeEntries]
    refine mergeEntries_written rest (fun e member => ?_) written
    rcases OrderedMap.mem_insert _ _ _ member with rfl | old
    · exact merged
    · exact writtenOld e old

end

/-- What two documents compile to is merged by some document. -/
theorem exists_joint {maxDepth : Int} {first second : Datum} {b c : ResourceTree}
    (compiledFirst : compile site maxDepth first = .ok b)
    (compiledSecond : compile site maxDepth second = .ok c) :
    ∃ joint, compile site maxDepth joint = .ok (merge b c) := by
  have sound := merge_sound (compile_sound compiledFirst) (compile_sound compiledSecond)
  obtain ⟨_, -, fromFirst⟩ := compile_eq_ok_iff.mp compiledFirst
  obtain ⟨_, -, fromSecond⟩ := compile_eq_ok_iff.mp compiledSecond
  have written := mergeEntries_written c (fromFirst.written (by simp)) (fromSecond.written (by simp))
  cases sound with
  | tree _ distinct segments _ =>
    obtain ⟨data, compiled⟩ := exists_entries [] distinct segments written
    exact ⟨.map data, compile_eq_ok_iff.mpr ⟨data, rfl, compiled []⟩⟩

end Phrasebook.Resource
