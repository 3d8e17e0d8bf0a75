import Phrasebook.OrderedMap
import Mathlib.Data.List.Nodup
/-!
Laws of ordered maps: what is found after an insertion or an erasure, and where the keys stand.
-/
namespace Phrasebook.OrderedMap

variable {α : Type} (m : OrderedMap α) (key other : Text) (value : α)

@[simp] theorem get?_nil : get? ([] : OrderedMap α) key = none := rfl

theorem get?_cons (e : Text × α) (rest : OrderedMap α) :
    get? (e :: rest) key = if e.1 = key then some e.2 else get? rest key := by
  obtain ⟨first, content⟩ := e
  by_cases same : first = key
  · subst same
    simp [get?]
  · have differs : (key == first) = false := beq_eq_false_iff_ne.mpr (Ne.symm same)
    simp [get?, List.lookup_cons, differs, same]

theorem get?_insert :
    (m.insert key value).get? other = if key = other then some value else m.get? other := by
  induction m with
  | nil => simp [insert, get?_cons]
  | cons e rest ih =>
    simp only [insert]
    split_ifs with here there there
    · simp [get?_cons, here, there]
    · have skipped : e.1 ≠ other := fun equal => there (here.symm.trans equal)
      simp [get?_cons, skipped]
    · have skipped : e.1 ≠ other := fun equal => here (equal.trans there.symm)
      rw [get?_cons, if_neg skipped, ih, if_pos there]
    · simp only [get?_cons, ih, if_neg there]

theorem get?_erase :
    (m.erase key).get? other = if key = other then none else m.get? other := by
  induction m with
  | nil => simp [erase]
  | cons e rest ih =>
    by_cases here : e.1 = key
    · have dropped : erase (e :: rest) key = erase rest key := by simp [erase, here]
      rw [dropped, ih, get?_cons, here]
      split_ifs <;> rfl
    · have kept : erase (e :: rest) key = e :: erase rest key := by simp [erase, here]
      rw [kept, get?_cons, get?_cons, ih]
      split_ifs with found there
      · exact absurd (found.trans there.symm) here
      · rfl
      · rfl
      · rfl

theorem mem_keys_iff : key ∈ m.keys ↔ (m.get? key).isSome := by
  induction m with
  | nil => simp [keys]
  | cons e rest ih =>
    rw [get?_cons]
    split_ifs with here
    · simp [keys, here]
    · simpa [keys, Ne.symm here] using ih

theorem has_eq : m.has key = (m.get? key).isSome := by
  induction m with
  | nil => rfl
  | cons e rest ih =>
    rw [get?_cons]
    split_ifs with here
    · simp [has, here]
    · have differs : (e.1 == key) = false := beq_eq_false_iff_ne.mpr here
      simpa [has, differs] using ih

/-- A present key keeps its place, a new one comes last. -/
theorem keys_insert :
    (m.insert key value).keys = if key ∈ m.keys then m.keys else m.keys ++ [key] := by
  induction m with
  | nil => simp [insert, keys]
  | cons e rest ih =>
    by_cases here : e.1 = key
    · simp [insert, keys, here]
    · simp only [insert, if_neg here]
      change e.1 :: (insert rest key value).keys = _
      have mem : key ∈ keys (e :: rest) ↔ key ∈ keys rest := by simp [keys, Ne.symm here]
      rw [ih]
      simp only [mem]
      split_ifs <;> rfl

theorem insert_of_not_mem (fresh : key ∉ m.keys) : m.insert key value = m ++ [(key, value)] := by
  induction m with
  | nil => rfl
  | cons e rest ih =>
    obtain ⟨other, fresh⟩ : key ≠ e.1 ∧ key ∉ keys rest := by simpa [keys] using fresh
    rw [insert, if_neg (Ne.symm other), ih fresh, List.cons_append]

theorem insert_insert (old new : α) :
    (m.insert key old).insert key new = m.insert key new := by
  induction m with
  | nil => simp [insert]
  | cons e rest ih =>
    simp only [insert]
    split_ifs with here
    · rw [insert, if_pos here]
    · rw [insert, if_neg here, ih]

theorem keys_erase : (m.erase key).keys = m.keys.filter (· != key) := by
  simp [erase, keys, List.filter_map, Function.comp_def]

theorem nodup_insert (distinct : m.keys.Nodup) : (m.insert key value).keys.Nodup := by
  rw [keys_insert]
  split_ifs with present
  · exact distinct
  · exact distinct.append (List.nodup_singleton key) (by simpa using present)

theorem nodup_erase (distinct : m.keys.Nodup) : (m.erase key).keys.Nodup := by
  rw [keys_erase]
  exact distinct.filter _

theorem mem_insert {e : Text × α} (member : e ∈ m.insert key value) :
    e = (key, value) ∨ e ∈ m := by
  induction m with
  | nil => exact .inl (by simpa [insert] using member)
  | cons first rest ih =>
    by_cases here : first.1 = key
    · simp only [insert, if_pos here, List.mem_cons] at member
      rcases member with rfl | member
      · exact .inl (by rw [here])
      · exact .inr (List.mem_cons_of_mem _ member)
    · simp only [insert, if_neg here, List.mem_cons] at member
      rcases member with rfl | member
      · exact .inr List.mem_cons_self
      · exact (ih member).imp id (List.mem_cons_of_mem _)

theorem forall_insertAll {P : α → Prop} {m more : OrderedMap α} (old : ∀ e ∈ m, P e.2)
    (new : ∀ e ∈ more, P e.2) : ∀ e ∈ m.insertAll more, P e.2 := by
  induction more generalizing m with
  | nil => exact old
  | cons e rest ih =>
    obtain ⟨here, later⟩ := List.forall_mem_cons.mp new
    refine ih (m := m.insert e.1 e.2) (fun other member => ?_) later
    rcases mem_insert m e.1 e.2 member with rfl | member
    · exact here
    · exact old other member

theorem get?_append (more : OrderedMap α) :
    get? (m ++ more) key = (get? m key).or (get? more key) :=
  List.lookup_append

theorem insertAll_append (more later : OrderedMap α) :
    m.insertAll (more ++ later) = (m.insertAll more).insertAll later :=
  List.foldl_append

theorem nodup_insertAll (more : OrderedMap α) (distinct : m.keys.Nodup) :
    (m.insertAll more).keys.Nodup := by
  induction more generalizing m with
  | nil => exact distinct
  | cons e rest ih => exact ih (m.insert e.1 e.2) (m.nodup_insert e.1 e.2 distinct)

theorem insertAll_of_nodup {more : OrderedMap α} (distinct : (keys (m ++ more)).Nodup) :
    m.insertAll more = m ++ more := by
  induction more generalizing m with
  | nil => exact (List.append_nil m).symm
  | cons e rest ih =>
    have split : m ++ e :: rest = (m ++ [e]) ++ rest := List.append_cons m e rest
    have fresh : e.1 ∉ m.keys := by
      rw [keys, List.map_append, List.nodup_append] at distinct
      exact fun present => distinct.2.2 _ present _ List.mem_cons_self rfl
    calc m.insertAll (e :: rest) = (m ++ [e]).insertAll rest :=
          congrArg (insertAll · rest) (m.insert_of_not_mem e.1 e.2 fresh)
      _ = m ++ [e] ++ rest := ih (m ++ [e]) (split ▸ distinct)
      _ = m ++ e :: rest := split.symm

/-- A list of entries is a map as it is where no key occurs twice. -/
theorem ofList_eq_self_iff {entries : OrderedMap α} :
    ofList entries = entries ↔ entries.keys.Nodup := by
  constructor
  · intro same
    exact same ▸ nodup_insertAll [] entries List.nodup_nil
  · exact insertAll_of_nodup []

/-- What was inserted last is found. -/
theorem get?_insertAll (more : OrderedMap α) :
    (m.insertAll more).get? key = (get? more.reverse key).or (m.get? key) := by
  induction more generalizing m with
  | nil => rfl
  | cons e rest ih =>
    calc (m.insertAll (e :: rest)).get? key
        = (get? rest.reverse key).or ((m.insert e.1 e.2).get? key) := ih _
      _ = (get? rest.reverse key).or ((get? [e] key).or (m.get? key)) := by
        rw [get?_insert, get?_cons, get?_nil]
        split_ifs <;> rfl
      _ = (get? (e :: rest).reverse key).or (m.get? key) := by
        rw [← Option.or_assoc, ← get?_append, List.reverse_cons]

theorem mem_of_get?_eq_some (found : m.get? key = some value) : (key, value) ∈ m := by
  induction m with
  | nil => cases found
  | cons e rest ih =>
    rw [get?_cons] at found
    split_ifs at found with here
    · obtain ⟨first, content⟩ := e
      cases here
      cases found
      exact List.mem_cons_self
    · exact List.mem_cons_of_mem _ (ih found)

theorem get?_eq_some_iff (distinct : m.keys.Nodup) :
    m.get? key = some value ↔ (key, value) ∈ m := by
  refine ⟨m.mem_of_get?_eq_some key value, fun member => ?_⟩
  induction m with
  | nil => cases member
  | cons e rest ih =>
    obtain ⟨fresh, distinct⟩ : e.1 ∉ keys rest ∧ (keys rest).Nodup := by
      simpa [keys] using distinct
    rw [get?_cons]
    rcases List.mem_cons.mp member with rfl | later
    · simp
    · have other : e.1 ≠ key := fun here =>
        fresh (here ▸ List.mem_map_of_mem (f := Prod.fst) later)
      rw [if_neg other]
      exact ih distinct later

/-- Maps with the same keys in the same order and the same values are equal. -/
theorem ext_get? {m n : OrderedMap α} (distinct : m.keys.Nodup) (sameKeys : m.keys = n.keys)
    (same : ∀ key, m.get? key = n.get? key) : m = n := by
  induction m generalizing n with
  | nil => exact (List.map_eq_nil_iff.mp sameKeys.symm).symm
  | cons e rest ih =>
    obtain _ | ⟨e', rest'⟩ := n
    · cases sameKeys
    · obtain ⟨first, later⟩ : e.1 = e'.1 ∧ keys rest = keys rest' := List.cons.inj sameKeys
      obtain ⟨fresh, distinct⟩ : e.1 ∉ keys rest ∧ (keys rest).Nodup := by
        simpa [keys] using distinct
      have absent {m : OrderedMap α} (fresh : e.1 ∉ m.keys) : m.get? e.1 = none := by
        rwa [mem_keys_iff, Option.not_isSome_iff_eq_none] at fresh
      have value : e.2 = e'.2 := by simpa [get?_cons, first] using same e.1
      have tail : rest = rest' := by
        refine ih distinct later fun key => ?_
        by_cases here : e.1 = key
        · rw [← here, absent fresh, absent (later ▸ fresh)]
        · simpa [get?_cons, here, ← first] using same key
      rw [tail, Prod.ext first value]

end Phrasebook.OrderedMap
