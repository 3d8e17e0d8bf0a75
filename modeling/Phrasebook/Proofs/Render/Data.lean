import Phrasebook.Proofs.Render.Reach
import Phrasebook.Value.Datum
/-!
Data that are put on a heap: they reach only what has been put there with them.
-/
namespace Phrasebook

/-- References after marking are those before it and serials given meanwhile. -/
structure Marks (n : Nat) (old : List Ref) (m : Nat) (new : List Ref) : Prop where
  later : n ≤ m
  refs : ∀ x ∈ new, x ∈ old ∨ ∃ k < m, x = .serial k

namespace Marks

variable {n m l : Nat} {old new more last : List Ref}

theorem refl (n : Nat) (refs : List Ref) : Marks n refs n refs :=
  ⟨Nat.le_refl n, fun _ member => .inl member⟩

theorem trans (first : Marks n old m new) (second : Marks m new l last) : Marks n old l last where
  later := Nat.le_trans first.later second.later
  refs x member := by
    rcases second.refs x member with kept | serial
    · rcases first.refs x kept with kept | ⟨k, bound, same⟩
      · exact .inl kept
      · exact .inr ⟨k, Nat.lt_of_lt_of_le bound second.later, same⟩
    · exact .inr serial

theorem append (first : Marks n old m new) (second : Marks m more l last) :
    Marks n (old ++ more) l (new ++ last) where
  later := Nat.le_trans first.later second.later
  refs x member := by
    rcases List.mem_append.mp member with left | right
    · rcases first.refs x left with kept | ⟨k, bound, same⟩
      · exact .inl (List.mem_append.mpr (.inl kept))
      · exact .inr ⟨k, Nat.lt_of_lt_of_le bound second.later, same⟩
    · rcases second.refs x right with kept | serial
      · exact .inl (List.mem_append.mpr (.inr kept))
      · exact .inr serial

theorem mono (marks : Marks n old m new) (fewer : ∀ x ∈ last, x ∈ new) : Marks n old m last :=
  ⟨marks.later, fun x member => marks.refs x (fewer x member)⟩

theorem serial (n : Nat) : Marks n [] (n + 1) [.serial n] where
  later := Nat.le_succ n
  refs _ member := .inr ⟨n, Nat.lt_succ_self n, List.mem_singleton.mp member⟩

end Marks

namespace Value

mutual

theorem marks_markFrom (n : Nat) (v : Value) :
    Marks n v.refs (v.markFrom n).2 (v.markFrom n).1.refs := by
  cases v with
  | tuple xs o =>
    cases o with
    | unmarked => exact (marks_markAllFrom n [] xs).append (.serial _)
    | _ => exact .refl n _
  | slice a b c o =>
    cases o with
    | unmarked =>
      have lower := marks_markFrom n a
      have upper := marks_markFrom (a.markFrom n).2 b
      have step := marks_markFrom (b.markFrom (a.markFrom n).2).2 c
      exact ((lower.append upper).append step).append (.serial _)
    | _ => exact .refl n _
  | method y name o =>
    cases o with
    | unmarked => exact (marks_markFrom n y).append (.serial _)
    | _ => exact .refl n _
  | view part r o =>
    cases o with
    | unmarked => exact (Marks.refl n [.dict r]).append (.serial n)
    | _ => exact .refl n _
  | boundHelper helper c o =>
    cases o with
    | unmarked => exact (Marks.refl n [.context c]).append (.serial n)
    | _ => exact .refl n _
  | int k o | float y o | complex z o | text t o | bytes bs o | decimal d o | form before after o =>
    cases o with
    | unmarked => exact .serial n
    | _ => exact .refl n _
  | _ => exact .refl n _

theorem marks_markAllFrom (n : Nat) (marked xs : List Value) :
    Marks n (refsAll marked.reverse ++ refsAll xs) (markAllFrom n marked xs).2
      (refsAll (markAllFrom n marked xs).1) := by
  cases xs with
  | nil =>
    rw [refsAll, List.append_nil]
    exact .refl n _
  | cons y rest =>
    have head := marks_markFrom n y
    have tail := marks_markAllFrom (y.markFrom n).2 ((y.markFrom n).1 :: marked) rest
    rw [List.reverse_cons, refsAll_append, refsAll, refsAll, List.append_nil,
      List.append_assoc] at tail
    exact ((Marks.refl n _).append (head.append (.refl _ _))).trans tail

end

end Value

namespace Content

theorem refs_fields_zip (names : List Text) (xs : List Value) :
    ∀ x ∈ (fields (names.zip xs)).refs, x ∈ Value.refsAll xs := by
  intro x member
  obtain ⟨v, entry, ref⟩ := Value.mem_refsAll.mp member
  obtain ⟨e, pair, rfl⟩ := List.mem_map.mp entry
  exact Value.mem_refsAll.mpr ⟨e.2, (List.of_mem_zip pair).2, ref⟩

theorem refs_entries_zip (keys values : List Value) :
    ∀ x ∈ (entries (keys.zip values)).refs, x ∈ Value.refsAll keys ++ Value.refsAll values := by
  intro x member
  rcases List.mem_append.mp member with member | member <;>
    obtain ⟨v, entry, ref⟩ := Value.mem_refsAll.mp member <;>
    obtain ⟨e, pair, rfl⟩ := List.mem_map.mp entry
  · exact List.mem_append_left _ (Value.mem_refsAll.mpr ⟨e.1, (List.of_mem_zip pair).1, ref⟩)
  · exact List.mem_append_right _ (Value.mem_refsAll.mpr ⟨e.2, (List.of_mem_zip pair).2, ref⟩)

end Content

namespace Heap

/-- What a heap has got since another. -/
def New (h k : Heap) : Ref → Prop
  | .list r => h.lists.size ≤ r ∧ r < k.lists.size
  | .dict r => h.dicts.size ≤ r ∧ r < k.dicts.size
  | .set r => h.sets.size ≤ r ∧ r < k.sets.size
  | .object r => h.objects.size ≤ r ∧ r < k.objects.size
  | .serial n => n < k.origins
  | .lambda _ | .context _ => False

structure Extends (h k : Heap) : Prop where
  lists : h.lists.size ≤ k.lists.size
  dicts : h.dicts.size ≤ k.dicts.size
  sets : h.sets.size ≤ k.sets.size
  objects : h.objects.size ≤ k.objects.size
  origins : h.origins ≤ k.origins

theorem Extends.refl (h : Heap) : h.Extends h :=
  ⟨Nat.le_refl _, Nat.le_refl _, Nat.le_refl _, Nat.le_refl _, Nat.le_refl _⟩

theorem Extends.trans {h k l : Heap} (first : h.Extends k) (second : k.Extends l) :
    h.Extends l where
  lists := Nat.le_trans first.lists second.lists
  dicts := Nat.le_trans first.dicts second.dicts
  sets := Nat.le_trans first.sets second.sets
  objects := Nat.le_trans first.objects second.objects
  origins := Nat.le_trans first.origins second.origins

theorem New.mono {h k l : Heap} (later : k.Extends l) {x : Ref} (fresh : h.New k x) :
    h.New l x := by
  cases x with
  | list r => exact ⟨fresh.1, Nat.lt_of_lt_of_le fresh.2 later.lists⟩
  | dict r => exact ⟨fresh.1, Nat.lt_of_lt_of_le fresh.2 later.dicts⟩
  | set r => exact ⟨fresh.1, Nat.lt_of_lt_of_le fresh.2 later.sets⟩
  | object r => exact ⟨fresh.1, Nat.lt_of_lt_of_le fresh.2 later.objects⟩
  | serial n => exact Nat.lt_of_lt_of_le fresh later.origins
  | _ => exact fresh.elim

theorem New.owned {h k : Heap} {x : Ref} (fresh : h.New k x) : k.Owns x := by
  cases x with
  | list r => simp [Owns, content?, fresh.2]
  | dict r => simp [Owns, content?, fresh.2]
  | set r => simp [Owns, content?, fresh.2]
  | object r => simp [Owns, content?, fresh.2]
  | serial n => exact fresh
  | _ => exact fresh.elim

/-- A heap that has grown by containers which hold nothing old. -/
structure Grown (h k : Heap) : Prop where
  later : h.Extends k
  within : ∀ x c, h.New k x → k.content? x = some c → ∀ y ∈ c.refs, h.New k y

theorem New.of_content {h k l : Heap} {x : Ref} (fresh : h.New l x) {c : Content}
    (found : k.content? x = some c) : h.New k x := by
  cases x with
  | list r =>
    obtain ⟨xs, entry, -⟩ := Option.map_eq_some_iff.mp found
    exact ⟨fresh.1, (Array.getElem?_eq_some_iff.mp entry).1⟩
  | dict r =>
    obtain ⟨m, entry, -⟩ := Option.map_eq_some_iff.mp found
    exact ⟨fresh.1, (Array.getElem?_eq_some_iff.mp entry).1⟩
  | set r =>
    obtain ⟨xs, entry, -⟩ := Option.map_eq_some_iff.mp found
    exact ⟨fresh.1, (Array.getElem?_eq_some_iff.mp entry).1⟩
  | object r =>
    obtain ⟨m, entry, -⟩ := Option.map_eq_some_iff.mp found
    exact ⟨fresh.1, (Array.getElem?_eq_some_iff.mp entry).1⟩
  | _ => exact absurd found (Option.some_ne_none c).symm

/-- A heap has one container more. -/
theorem Grown.add {h k l : Heap} (grown : h.Grown k) (later : k.Extends l) (new : Content)
    (added : ∀ x c, l.content? x = some c → k.content? x = some c ∨ c = new)
    (fresh : ∀ y ∈ new.refs, h.New l y) : h.Grown l where
  later := grown.later.trans later
  within x c reached found y member := by
    rcases added x c found with old | rfl
    · exact (grown.within x c (reached.of_content old) old y member).mono later
    · exact fresh y member

theorem Grown.mark {h k : Heap} (grown : h.Grown k) {n : Nat} (bound : k.origins ≤ n) :
    h.Grown { k with origins := n } :=
  grown.add ⟨Nat.le_refl _, Nat.le_refl _, Nat.le_refl _, Nat.le_refl _, bound⟩ (.items [])
    (fun _ _ found => .inl found) fun _ member => nomatch member

/-- What marking gives is new if what is marked is. -/
theorem New.marked {h l : Heap} {n : Nat} {old new : List Ref} (marks : Marks n old l.origins new)
    (fresh : ∀ x ∈ old, h.New l x) : ∀ x ∈ new, h.New l x := by
  intro x member
  rcases marks.refs x member with kept | ⟨k, bound, rfl⟩
  · exact fresh x kept
  · exact bound

theorem Grown.placed {h k : Heap} {data : OrderedMap Value} (grown : h.Grown k)
    (fresh : ∀ x ∈ Value.refsAll (data.map (·.2)), h.New k x) : k.Placed data :=
  placed_of_closed fresh (fun x fresh c found => grown.within x c fresh found)
    fun _ fresh => fresh.owned

end Heap

namespace Datum

mutual

/-- Keys and items of sets hold no references. -/
def HasBareKeys : Datum → Prop
  | list items | tuple items => AllHaveBareKeys items
  | map entries | lookup entries => EntriesHaveBareKeys entries
  | set items => Value.refsAll items = []
  | object fields => FieldsHaveBareKeys fields
  | shared _ d => d.HasBareKeys
  | _ => True

def AllHaveBareKeys : List Datum → Prop
  | [] => True
  | d :: rest => d.HasBareKeys ∧ AllHaveBareKeys rest

def EntriesHaveBareKeys : List (Value × Datum) → Prop
  | [] => True
  | (key, d) :: rest => key.refs = [] ∧ d.HasBareKeys ∧ EntriesHaveBareKeys rest

def FieldsHaveBareKeys : List (Text × Datum) → Prop
  | [] => True
  | (_, d) :: rest => d.HasBareKeys ∧ FieldsHaveBareKeys rest

end

/-- A conversion that keeps to what is new. It may use `old`, and gives what `refs` names. -/
def Builds {α : Type} (h : Heap) (old : List Ref) (m : Conversion α) (refs : α → List Ref) : Prop :=
  ∀ k memo, h.Grown k → (∀ e ∈ memo, ∀ x ∈ e.2.refs, h.New k x) → (∀ x ∈ old, h.New k x) →
    ∃ a memo' l, EStateM.run (m.run memo) k = .ok (a, memo') l ∧ h.Grown l ∧ k.Extends l ∧
      (∀ e ∈ memo', ∀ x ∈ e.2.refs, h.New l x) ∧ ∀ x ∈ refs a, h.New l x

namespace Builds

variable {α β : Type} {h : Heap} {old : List Ref}

theorem pure {a : α} {refs : α → List Ref} (known : ∀ x ∈ refs a, x ∈ old) :
    Builds h old (Pure.pure a) refs :=
  fun k memo grown memos fresh =>
    ⟨a, memo, k, rfl, grown, .refl k, memos, fun x member => fresh x (known x member)⟩

theorem bind {m : Conversion α} {n : α → Conversion β} {refs : α → List Ref}
    {more : β → List Ref} (first : Builds h old m refs)
    (second : ∀ a, Builds h (refs a ++ old) (n a) more) : Builds h old (m >>= n) more := by
  intro k memo grown memos fresh
  obtain ⟨a, memo, l, run, grown, later, memos, gives⟩ := first k memo grown memos fresh
  have known : ∀ x ∈ refs a ++ old, h.New l x := fun x member =>
    (List.mem_append.mp member).elim (gives x) fun member => (fresh x member).mono later
  obtain ⟨b, memo, j, run', grown, further, memos, gives⟩ := second a l memo grown memos known
  refine ⟨b, memo, j, ?_, grown, later.trans further, memos, gives⟩
  rw [StateT.run_bind, EStateM.run_bind, run]
  exact run'

theorem ofMemory {m : Memory α} {refs : α → List Ref}
    (spec : ∀ k, h.Grown k → (∀ x ∈ old, h.New k x) → ∃ a l, EStateM.run m k = .ok a l ∧
      h.Grown l ∧ k.Extends l ∧ ∀ x ∈ refs a, h.New l x) : Builds h old (liftM m) refs := by
  intro k memo grown memos fresh
  obtain ⟨a, l, run, grown, later, gives⟩ := spec k grown fresh
  refine ⟨a, memo, l, ?_, grown, later, fun e member x ref => (memos e member x ref).mono later,
    gives⟩
  change EStateM.run (m >>= fun a => Pure.pure (a, memo)) k = _
  rw [EStateM.run_bind, run]
  rfl

variable {items : List Value}

theorem mark {v : Value} (known : ∀ x ∈ v.refs, x ∈ old) :
    Builds h old (liftM (Memory.mark v)) Value.refs := by
  refine .ofMemory fun k grown fresh => ?_
  have marks := Value.marks_markFrom k.origins v
  have later : k.Extends { k with origins := (v.markFrom k.origins).2 } :=
    ⟨Nat.le_refl _, Nat.le_refl _, Nat.le_refl _, Nat.le_refl _, marks.later⟩
  refine ⟨_, _, rfl, grown.mark marks.later, later, Heap.New.marked marks fun x member => ?_⟩
  exact (fresh x (known x member)).mono later

theorem added {α : Type} {table : Array α} {a : α} {make : α → Content} {r : Nat} {c : Content}
    (found : (table.push a)[r]?.map make = some c) :
    table[r]?.map make = some c ∨ c = make a := by
  rw [Array.getElem?_push] at found
  split_ifs at found with last
  · exact .inr (Option.some.inj found).symm
  · exact .inl found

/-- Making a container of values that are known. -/
theorem making {m : Memory Value} {refs : List Ref} (known : ∀ x ∈ refs, x ∈ old)
    (spec : ∀ k, ∃ v l c, EStateM.run m k = .ok v l ∧ k.Extends l ∧
      (∀ x d, l.content? x = some d → k.content? x = some d ∨ d = c) ∧
      Marks k.origins refs l.origins c.refs ∧
      ∀ h : Heap, h.Extends k → ∀ x ∈ v.refs, h.New l x) :
    Builds h old (liftM m) Value.refs := by
  refine .ofMemory fun k grown fresh => ?_
  obtain ⟨v, l, c, run, later, one, marks, new⟩ := spec k
  have all := Heap.New.marked marks fun x member => (fresh x (known x member)).mono later
  exact ⟨v, l, run, grown.add later c one all, later, new h grown.later⟩

theorem newList (known : ∀ x ∈ Value.refsAll items, x ∈ old) :
    Builds h old (liftM (Memory.newList items)) Value.refs := by
  refine making known fun k => ?_
  have marks := Value.marks_markAllFrom k.origins [] items
  have size : k.lists.size < (k.lists.push (Value.markAllFrom k.origins [] items).1).size := by simp
  refine ⟨_, _, .items (Value.markAllFrom k.origins [] items).1, rfl, ?_, ?_, marks, ?_⟩
  · exact ⟨Nat.le_of_lt size, Nat.le_refl _, Nat.le_refl _, Nat.le_refl _, marks.later⟩
  · intro x d found
    cases x with
    | list r => exact added found
    | _ => exact .inl found
  · intro h later x member
    rw [List.mem_singleton.mp member]
    exact ⟨later.lists, size⟩

theorem newSet (known : ∀ x ∈ Value.refsAll items, x ∈ old) :
    Builds h old (liftM (Memory.newSet items)) Value.refs := by
  refine making known fun k => ?_
  have marks := Value.marks_markAllFrom k.origins [] items
  have size : k.sets.size < (k.sets.push (Value.markAllFrom k.origins [] items).1).size := by simp
  refine ⟨_, _, .items (Value.markAllFrom k.origins [] items).1, rfl, ?_, ?_, marks, ?_⟩
  · exact ⟨Nat.le_refl _, Nat.le_refl _, Nat.le_of_lt size, Nat.le_refl _, marks.later⟩
  · intro x d found
    cases x with
    | set r => exact added found
    | _ => exact .inl found
  · intro h later x member
    rw [List.mem_singleton.mp member]
    exact ⟨later.sets, size⟩

theorem newDict {entries : Entries} (known : ∀ x ∈ (Content.entries entries).refs, x ∈ old) :
    Builds h old (liftM (Memory.newDict entries)) Value.refs := by
  refine making known fun k => ?_
  have keys := Value.marks_markAllFrom k.origins [] (entries.map (·.1))
  generalize made : Value.markAllFrom k.origins [] (entries.map (·.1)) = ks at keys
  have values := Value.marks_markAllFrom ks.2 [] (entries.map (·.2))
  generalize madeValues : Value.markAllFrom ks.2 [] (entries.map (·.2)) = vs at values
  have size : k.dicts.size < (k.dicts.push (ks.1.zip vs.1)).size := by simp
  have marks := (keys.append values).mono (Content.refs_entries_zip ks.1 vs.1)
  refine ⟨_, { k with origins := vs.2, dicts := k.dicts.push (ks.1.zip vs.1) },
    .entries (ks.1.zip vs.1), by subst made madeValues; rfl, ?_, ?_, marks, ?_⟩
  · exact ⟨Nat.le_refl _, Nat.le_of_lt size, Nat.le_refl _, Nat.le_refl _, marks.later⟩
  · intro x d found
    cases x with
    | dict r => exact added found
    | _ => exact .inl found
  · intro h later x member
    rw [List.mem_singleton.mp member]
    exact ⟨later.dicts, size⟩

theorem newObject {fields : OrderedMap Value}
    (known : ∀ x ∈ (Content.fields fields).refs, x ∈ old) :
    Builds h old (liftM (Memory.newObject fields)) Value.refs := by
  refine making known fun k => ?_
  have values := Value.marks_markAllFrom k.origins [] (fields.map (·.2))
  generalize made : Value.markAllFrom k.origins [] (fields.map (·.2)) = vs at values
  have size : k.objects.size < (k.objects.push ((fields.map Prod.fst).zip vs.1)).size := by simp
  have marks := values.mono (Content.refs_fields_zip (fields.map Prod.fst) vs.1)
  refine ⟨_, { k with origins := vs.2, objects := k.objects.push ((fields.map Prod.fst).zip vs.1) },
    .fields ((fields.map Prod.fst).zip vs.1), by subst made; rfl, ?_, ?_, marks, ?_⟩
  · exact ⟨Nat.le_refl _, Nat.le_refl _, Nat.le_refl _, Nat.le_of_lt size, marks.later⟩
  · intro x d found
    cases x with
    | object r => exact added found
    | _ => exact .inl found
  · intro h later x member
    rw [List.mem_singleton.mp member]
    exact ⟨later.objects, size⟩

theorem remembered (mark : Nat) {m : Conversion Value} (builds : Builds h old m Value.refs) :
    Builds h old (remembered mark m) Value.refs := by
  intro k memo grown memos fresh
  cases met : memo.lookup mark with
  | some v =>
    obtain ⟨before, after, split, -⟩ := List.lookup_eq_some_iff.mp met
    have known : (mark, v) ∈ memo := by
      rw [split]
      exact List.mem_append_right _ List.mem_cons_self
    refine ⟨v, memo, k, ?_, grown, .refl k, memos, memos (mark, v) known⟩
    rw [Datum.remembered, StateT.run_bind, StateT.run_get, pure_bind, met]
    rfl
  | none =>
    obtain ⟨v, memo, l, run, grown, later, memos, new⟩ := builds k memo grown memos fresh
    refine ⟨v, (mark, v) :: memo, l, ?_, grown, later, ?_, new⟩
    · rw [Datum.remembered, StateT.run_bind, StateT.run_get, pure_bind, met, StateT.run_bind,
        EStateM.run_bind, run]
      rfl
    · intro e member
      rcases List.mem_cons.mp member with rfl | member
      · exact new
      · exact memos e member

end Builds

theorem refs_atom? (d : Datum) : (d.atom?.getD .none).refs = [] := by
  cases d with
  | text t =>
    simp only [atom?, Option.getD_some, Value.ofText]
    split_ifs <;> rfl
  | bytes bs =>
    simp only [atom?, Option.getD_some, Value.ofBytes]
    split_ifs <;> rfl
  | _ => rfl

theorem mem_inserted (items acc : List Value) :
    ∀ v ∈ items.foldl Value.insertItem acc, v ∈ acc ∨ v ∈ items := by
  induction items generalizing acc with
  | nil => exact fun v member => .inl member
  | cons x rest ih =>
    intro v member
    rcases ih (Value.insertItem acc x) v member with before | after
    · rw [Value.insertItem] at before
      split_ifs at before
      · exact .inl before
      · rcases List.mem_append.mp before with kept | last
        · exact .inl kept
        · exact .inr (List.mem_cons.mpr (.inl (List.mem_singleton.mp last)))
    · exact .inr (List.mem_cons_of_mem x after)

variable {h : Heap} {old : List Ref}

mutual

theorem convert_builds (d : Datum) (bare : d.HasBareKeys) (old : List Ref) :
    Builds h old (convert d) Value.refs := by
  cases d with
  | list items =>
    exact .bind (convertAll_builds items bare old) fun vs => .newList fun x member =>
      List.mem_append_left _ member
  | tuple items =>
    refine .bind (convertAll_builds items bare old) fun vs => .mark fun x member => ?_
    simpa [Value.ofItems, Value.refs, Origin.refs] using List.mem_append_left old member
  | map entries =>
    exact .bind (convertEntries_builds entries bare old) fun m => .newDict fun x member =>
      List.mem_append_left _ member
  | set items =>
    refine .newSet fun x member => ?_
    obtain ⟨v, inserted, ref⟩ := Value.mem_refsAll.mp member
    have given := (mem_inserted items [] v inserted).resolve_left (List.not_mem_nil)
    have none : x ∈ Value.refsAll items := Value.mem_refsAll.mpr ⟨v, given, ref⟩
    rw [bare] at none
    cases none
  | object fields =>
    exact .bind (convertFields_builds fields bare old) fun m => .newObject fun x member =>
      List.mem_append_left _ member
  | lookup entries =>
    refine .bind (convertEntries_builds entries bare old) fun m => ?_
    refine .bind (.newDict fun x member => List.mem_append_left _ member) fun v => ?_
    cases v <;> exact .pure fun x member => List.mem_append_left _ member
  | shared mark d =>
    exact .remembered mark (convert_builds d bare old)
  | _ => exact .mark fun x member => by rw [refs_atom?] at member; cases member

theorem convertAll_builds (ds : List Datum) (bare : AllHaveBareKeys ds) (old : List Ref) :
    Builds h old (convertAll ds) Value.refsAll := by
  cases ds with
  | nil => exact .pure fun x member => nomatch member
  | cons d rest =>
    refine .bind (convert_builds d bare.1 old) fun v => ?_
    refine .bind (convertAll_builds rest bare.2 _) fun vs => .pure fun x member => ?_
    rcases List.mem_append.mp member with head | tail
    · exact List.mem_append_right _ (List.mem_append_left _ head)
    · exact List.mem_append_left _ tail

theorem convertEntries_builds (es : List (Value × Datum)) (bare : EntriesHaveBareKeys es)
    (old : List Ref) : Builds h old (convertEntries es) fun m => (Content.entries m).refs := by
  cases es with
  | nil => exact .pure fun x member => nomatch member
  | cons e rest =>
    obtain ⟨key, d⟩ := e
    refine .bind (convert_builds d bare.2.1 old) fun v => ?_
    refine .bind (convertEntries_builds rest bare.2.2 _) fun m => .pure fun x member => ?_
    simp only [Content.refs, List.map_cons, Value.refsAll, bare.1, List.nil_append,
      List.mem_append] at member ⊢
    tauto

theorem convertFields_builds (fs : List (Text × Datum)) (bare : FieldsHaveBareKeys fs)
    (old : List Ref) : Builds h old (convertFields fs) fun m => (Content.fields m).refs := by
  cases fs with
  | nil => exact .pure fun x member => nomatch member
  | cons f rest =>
    obtain ⟨name, d⟩ := f
    refine .bind (convert_builds d bare.1 old) fun v => ?_
    refine .bind (convertFields_builds rest bare.2 _) fun m => .pure fun x member => ?_
    simp only [Content.refs, List.map_cons, Value.refsAll, List.mem_append] at member ⊢
    tauto

end

/-- Data that are put on a heap can be placed there, whatever else it holds. -/
theorem toNamedValues_placed (fields : List (Text × Datum)) (bare : FieldsHaveBareKeys fields)
    (h : Heap) : ∃ data k, EStateM.run (toNamedValues fields) h = .ok data k ∧ k.Placed data := by
  have empty : h.Grown h := by
    refine ⟨.refl h, fun x c fresh found => ?_⟩
    cases x with
    | list r | dict r | set r | object r => exact absurd fresh.2 (Nat.not_lt.mpr fresh.1)
    | _ => exact absurd found (Option.some_ne_none c).symm
  obtain ⟨data, memo, k, run, grown, -, -, new⟩ :=
    convertFields_builds fields bare [] h [] empty (fun _ member => nomatch member)
      fun _ member => nomatch member
  refine ⟨data, k, ?_, grown.placed new⟩
  rw [StateT.run] at run
  rw [toNamedValues, StateT.run', map_eq_pure_bind, EStateM.run_bind, run]
  rfl

end Datum
end Phrasebook
