import Phrasebook.Proofs.Renaming.Value
/-!
What values refer to. A value is found again behind a renaming as far as its references are.
-/
namespace Phrasebook

/-- What a value can refer to, the serials of origins included. -/
inductive Ref where
  | list (r : Nat)
  | dict (r : Nat)
  | set (r : Nat)
  | object (r : Nat)
  | lambda (r : Nat)
  | context (r : Nat)
  | serial (n : Nat)
  deriving DecidableEq

def Ref.rename (ρ : Renaming) : Ref → Ref
  | list r => list (ρ.list r)
  | dict r => dict (ρ.dict r)
  | set r => set (ρ.set r)
  | object r => object (ρ.object r)
  | lambda r => lambda (ρ.lambda r)
  | context r => context (ρ.context r)
  | serial n => serial (ρ.serial n)

def Origin.refs : Origin → List Ref
  | .made n => [.serial n]
  | _ => []

namespace Value

mutual

/-- The references in a value, outside of containers. -/
def refs : Value → List Ref
  | int _ o | float _ o | complex _ o | text _ o | bytes _ o | decimal _ o | form _ _ o => o.refs
  | tuple items o => refsAll items ++ o.refs
  | slice a b c o => refs a ++ refs b ++ refs c ++ o.refs
  | list r => [.list r]
  | dict r | lookup r => [.dict r]
  | set r => [.set r]
  | object r => [.object r]
  | view _ r o => .dict r :: o.refs
  | boundHelper _ c o => .context c :: o.refs
  | method x _ o => refs x ++ o.refs
  | lambda r => [.lambda r]
  | _ => []

def refsAll : List Value → List Ref
  | [] => []
  | x :: xs => refs x ++ refsAll xs

end

theorem refsAll_append (xs ys : List Value) : refsAll (xs ++ ys) = refsAll xs ++ refsAll ys := by
  induction xs with
  | nil => rfl
  | cons x xs ih => rw [List.cons_append, refsAll, refsAll, ih, List.append_assoc]

theorem mem_refsAll {x : Ref} {xs : List Value} : x ∈ refsAll xs ↔ ∃ v ∈ xs, x ∈ v.refs := by
  induction xs with
  | nil => simp [refsAll]
  | cons v xs ih => simp [refsAll, ih]

end Value

/-- One renaming undoes another at a reference, also at the reader of a context. -/
def Ref.Restored (back forth : Renaming) (x : Ref) : Prop :=
  (x.rename back).rename forth = x ∧ ∀ r, x = .context r → forth.reader (back.reader r) = r

theorem Renaming.IsInjective.undone {ρ : Renaming} (injective : ρ.IsInjective) :
    ∃ back : Renaming, ∀ x, Ref.Restored ρ back x := by
  obtain ⟨list, listBack⟩ := injective.list.hasLeftInverse
  obtain ⟨dict, dictBack⟩ := injective.dict.hasLeftInverse
  obtain ⟨set, setBack⟩ := injective.set.hasLeftInverse
  obtain ⟨object, objectBack⟩ := injective.object.hasLeftInverse
  obtain ⟨lambda, lambdaBack⟩ := injective.lambda.hasLeftInverse
  obtain ⟨context, contextBack⟩ := injective.context.hasLeftInverse
  obtain ⟨reader, readerBack⟩ := injective.reader.hasLeftInverse
  obtain ⟨serial, serialBack⟩ := injective.serial.hasLeftInverse
  refine ⟨⟨list, dict, set, object, lambda, id, context, reader, serial, 0, 0⟩,
    fun x => ⟨?_, fun r _ => readerBack r⟩⟩
  cases x with
  | list r => exact congrArg Ref.list (listBack r)
  | dict r => exact congrArg Ref.dict (dictBack r)
  | set r => exact congrArg Ref.set (setBack r)
  | object r => exact congrArg Ref.object (objectBack r)
  | lambda r => exact congrArg Ref.lambda (lambdaBack r)
  | context r => exact congrArg Ref.context (contextBack r)
  | serial n => exact congrArg Ref.serial (serialBack n)

section
variable {back forth : Renaming}

theorem Origin.rename_rename (o : Origin) (restored : ∀ x ∈ o.refs, x.Restored back forth) :
    (o.rename back).rename forth = o := by
  cases o with
  | made n =>
    have serial := (restored (.serial n) (List.mem_singleton_self _)).1
    simp only [Ref.rename, Ref.serial.injEq] at serial
    simp [Origin.rename, serial]
  | _ => rfl

mutual

theorem Value.rename_rename (v : Value) (restored : ∀ x ∈ v.refs, x.Restored back forth) :
    (v.rename back).rename forth = v := by
  have origin : ∀ o : Origin, (∀ x ∈ o.refs, x.Restored back forth) →
      (o.rename back).rename forth = o := fun o restored => o.rename_rename restored
  cases v with
  | tuple xs o =>
    simp only [refs, List.mem_append] at restored
    have items := Value.renameAll_renameAll xs fun y mem => restored y (.inl mem)
    simp only [rename, renameAll_eq, items, origin o fun y mem => restored y (.inr mem)]
  | slice a b c o =>
    simp only [refs, List.mem_append] at restored
    have lower := Value.rename_rename a fun y mem => restored y (.inl (.inl (.inl mem)))
    have upper := Value.rename_rename b fun y mem => restored y (.inl (.inl (.inr mem)))
    have step := Value.rename_rename c fun y mem => restored y (.inl (.inr mem))
    simp only [rename, lower, upper, step, origin o fun y mem => restored y (.inr mem)]
  | method x name o =>
    simp only [refs, List.mem_append] at restored
    have receiver := Value.rename_rename x fun y mem => restored y (.inl mem)
    simp only [rename, receiver, origin o fun y mem => restored y (.inr mem)]
  | boundHelper h r o =>
    obtain ⟨context, others⟩ := List.forall_mem_cons.mp restored
    have same : forth.contextFor h (back.contextFor h r) = r := by
      simp only [Renaming.contextFor]
      split_ifs
      · exact context.2 r rfl
      · exact Ref.context.inj context.1
    simp only [rename, same, origin o others]
  | view part r o =>
    obtain ⟨dict, others⟩ := List.forall_mem_cons.mp restored
    simp only [rename, Ref.dict.inj dict.1, origin o others]
  | list r => exact congrArg list (Ref.list.inj (List.forall_mem_singleton.mp restored).1)
  | dict r => exact congrArg dict (Ref.dict.inj (List.forall_mem_singleton.mp restored).1)
  | set r => exact congrArg set (Ref.set.inj (List.forall_mem_singleton.mp restored).1)
  | object r => exact congrArg object (Ref.object.inj (List.forall_mem_singleton.mp restored).1)
  | lookup r => exact congrArg lookup (Ref.dict.inj (List.forall_mem_singleton.mp restored).1)
  | lambda r => exact congrArg lambda (Ref.lambda.inj (List.forall_mem_singleton.mp restored).1)
  | int _ o | float _ o | complex _ o | text _ o | bytes _ o | decimal _ o | form _ _ o =>
    simp only [rename, origin o restored]
  | _ => rfl

theorem Value.renameAll_renameAll (xs : List Value)
    (restored : ∀ x ∈ Value.refsAll xs, x.Restored back forth) :
    (xs.map (Value.rename back)).map (Value.rename forth) = xs := by
  cases xs with
  | nil => rfl
  | cons x xs =>
    simp only [Value.refsAll, List.mem_append] at restored
    have head := Value.rename_rename x fun y mem => restored y (.inl mem)
    have tail := Value.renameAll_renameAll xs fun y mem => restored y (.inr mem)
    simp only [List.map_cons, head, tail]

end

end

/-- What a container holds. -/
inductive Content where
  | items (xs : List Value)
  | entries (m : Entries)
  | fields (m : OrderedMap Value)

namespace Content

def rename (ρ : Renaming) : Content → Content
  | items xs => items (xs.map (Value.rename ρ))
  | entries m => entries (Entries.rename ρ m)
  | fields m => fields (OrderedMap.rename ρ m)

def refs : Content → List Ref
  | items xs => Value.refsAll xs
  | entries m => Value.refsAll (m.map (·.1)) ++ Value.refsAll (m.map (·.2))
  | fields m => Value.refsAll (m.map (·.2))

theorem rename_rename {back forth : Renaming} (c : Content)
    (restored : ∀ x ∈ c.refs, x.Restored back forth) : (c.rename back).rename forth = c := by
  cases c with
  | items xs =>
    have items := Value.renameAll_renameAll xs restored
    simp only [rename, items]
  | entries m =>
    simp only [refs, List.mem_append] at restored
    have keys := Value.renameAll_renameAll _ fun y mem => restored y (.inl mem)
    have values := Value.renameAll_renameAll _ fun y mem => restored y (.inr mem)
    rw [← Entries.keys_rename, ← Entries.keys_rename] at keys
    rw [← Entries.values_rename, ← Entries.values_rename] at values
    exact congrArg entries ((List.zip_of_prod keys values).trans (List.zip_of_prod rfl rfl).symm)
  | fields m =>
    have values := Value.renameAll_renameAll _ restored
    have names : ((m.rename back).rename forth).map (·.1) = m.map (·.1) := by
      rw [OrderedMap.keys_rename, OrderedMap.keys_rename]
    rw [← OrderedMap.values_rename, ← OrderedMap.values_rename] at values
    exact congrArg fields ((List.zip_of_prod names values).trans (List.zip_of_prod rfl rfl).symm)

theorem rename_injective {ρ : Renaming} (injective : ρ.IsInjective) :
    Function.Injective (rename ρ) := by
  obtain ⟨back, restored⟩ := injective.undone
  intro c d same
  rw [← rename_rename c fun x _ => restored x, same, rename_rename d fun x _ => restored x]

end Content
end Phrasebook
