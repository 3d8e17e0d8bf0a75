import Phrasebook.Method.Text
import Phrasebook.Proofs.Renaming.Reading
/-!
Methods of texts and bytes in a heap and in its image.
-/
namespace Phrasebook.Method

open Value (rename)

variable {ρ : Renaming} {h h' : Heap}

namespace StringKind

@[simp] theorem read?_rename (k : StringKind) (v : Value) : k.read? (v.rename ρ) = k.read? v := by
  cases k <;> cases v <;> rfl

@[simp] theorem rename_ofChars (k : StringKind) (t : Text) :
    (k.ofChars t).rename ρ = k.ofChars t := by
  cases k <;> simp [ofChars]

@[simp] theorem rename_built (k : StringKind) (t : Text) : (k.built t).rename ρ = k.built t := by
  cases k <;> simp [built]

@[simp] theorem read_rename (k : StringKind) (v : Value) : k.read (v.rename ρ) = k.read v := by
  rw [read, read, read?_rename]

@[simp] theorem needle_rename (k : StringKind) (v : Value) :
    k.needle (v.rename ρ) = k.needle v := by
  simp only [needle, read_rename, Value.int?_rename]

theorem anyOf_rename (k : StringKind) (test : Text → Bool) (xs : List Value) :
    k.anyOf test (xs.map (rename ρ)) = k.anyOf test xs := by
  induction xs with
  | nil => rfl
  | cons v rest ih => rw [List.map_cons, anyOf, anyOf, read_rename, ih]

end StringKind

section
variable (k : StringKind) (v : Value) (t u : Text)

@[simp] theorem part_rename :
    Subject.part ⟨k, v.rename ρ, t⟩ u = (Subject.part ⟨k, v, t⟩ u).rename ρ := by
  simp only [Subject.part]
  split_ifs <;> simp

@[simp] theorem remade_rename :
    Subject.remade ⟨k, v.rename ρ, t⟩ u = (Subject.remade ⟨k, v, t⟩ u).rename ρ := by
  simp only [Subject.remade]
  split_ifs <;> simp

end

theorem cutSet_rename (k : StringKind) (v : Value) : cutSet k (v.rename ρ) = cutSet k v := by
  have other : (k.read (v.rename ρ)).map (fun chars : Text => (chars.contains ·)) =
      (k.read v).map fun chars : Text => (chars.contains ·) := by
    rw [StringKind.read_rename]
  cases v with
  | none => rfl
  | _ => exact other

theorem affixes_rename (v : Value) : affixes (v.rename ρ) = (affixes v).map (rename ρ) := by
  cases v <;> simp [affixes]

theorem fillOf_rename (k : StringKind) (xs : List Value) :
    fillOf k (xs.map (rename ρ)) = fillOf k xs := by
  cases xs with
  | nil => rfl
  | cons v rest => rw [List.map_cons, fillOf, fillOf, StringKind.read_rename]

section
variable (k : StringKind) (v : Value) (t : Text) (c : Call)

theorem trimmed_rename (trim : (Code → Bool) → Text → Text) :
    trimmed ⟨k, v.rename ρ, t⟩ trim (c.rename ρ) = (trimmed ⟨k, v, t⟩ trim c).map (rename ρ) := by
  rw [trimmed, trimmed, Call.positional_rename, Outcome.bind_map, Outcome.map_bind]
  congr
  funext args
  cases args with
  | nil => simp
  | cons w rest =>
    simp only [List.map_cons, cutSet_rename, part_rename, Outcome.map_bind]
    rfl

theorem replaced_rename (injective : ρ.IsInjective) :
    replaced ⟨k, v.rename ρ, t⟩ (c.rename ρ) = (replaced ⟨k, v, t⟩ c).map (rename ρ) := by
  rw [replaced, replaced, Call.positional_rename, Outcome.bind_map, Outcome.map_bind]
  congr
  funext args
  rcases args with _ | ⟨old, _ | ⟨new, count⟩⟩
  · rfl
  · rfl
  · simp only [List.map_cons, List.head?_map, Value.toLimit_rename, StringKind.read_rename,
      Value.identical_rename injective, Outcome.map_bind]
    congr
    funext sought
    congr
    funext other
    congr
    funext limit
    rw [Outcome.map_pure]
    split_ifs <;> simp

theorem affixed_rename (test : Text → Text → Option Int → Option Int → Bool) :
    affixed ⟨k, v.rename ρ, t⟩ test (c.rename ρ) = (affixed ⟨k, v, t⟩ test c).map (rename ρ) := by
  rw [affixed, affixed, Call.positional_rename, Outcome.bind_map, Outcome.map_bind]
  congr
  funext args
  cases args with
  | nil => rfl
  | cons w bounds =>
    simp only [List.map_cons, List.head?_map, List.getElem?_map, Value.toBound_rename,
      affixes_rename, StringKind.anyOf_rename, Outcome.map_bind]
    rfl

theorem searched_rename {α : Type} (search : Text → Text → Option Int → Option Int → α) :
    searched ⟨k, v.rename ρ, t⟩ search (c.rename ρ) = searched ⟨k, v, t⟩ search c := by
  rw [searched, searched, Call.positional_rename, Outcome.bind_map]
  congr
  funext args
  cases args with
  | nil => rfl
  | cons w bounds =>
    simp only [List.map_cons, List.head?_map, List.getElem?_map, Value.toBound_rename,
      StringKind.needle_rename]

theorem parted_rename (part : Text → Text → Text × Text × Text) :
    parted ⟨k, v.rename ρ, t⟩ part (c.rename ρ) = (parted ⟨k, v, t⟩ part c).map (rename ρ) := by
  rw [parted, parted, Call.positional_rename, Outcome.bind_map, Outcome.map_bind]
  congr
  funext args
  rcases args with _ | ⟨w, _ | ⟨x, rest⟩⟩
  · rfl
  · simp only [List.map_cons, List.map_nil, StringKind.read_rename, Outcome.map_bind, part_rename]
    congr
    funext sought
    congr
    funext sep
    rw [Outcome.map_pure, Value.rename_ofItems, List.map_cons, List.map_cons, List.map_cons,
      List.map_nil]
    split_ifs <;> simp
  · rfl

theorem filled_rename (fill : Code → Int → Text → Text) :
    filled ⟨k, v.rename ρ, t⟩ fill (c.rename ρ) = (filled ⟨k, v, t⟩ fill c).map (rename ρ) := by
  rw [filled, filled, Call.positional_rename, Outcome.bind_map, Outcome.map_bind]
  congr
  funext args
  cases args with
  | nil => rfl
  | cons width rest =>
    simp only [List.map_cons, Value.toInt_rename, fillOf_rename, remade_rename, Outcome.map_bind]
    rfl

theorem zeroFilled_rename :
    zeroFilled ⟨k, v.rename ρ, t⟩ (c.rename ρ) = (zeroFilled ⟨k, v, t⟩ c).map (rename ρ) := by
  rw [zeroFilled, zeroFilled, Call.positional_rename, Outcome.bind_map, Outcome.map_bind]
  congr
  funext args
  rcases args with _ | ⟨w, _ | ⟨x, rest⟩⟩
  · rfl
  · simp only [List.map_cons, List.map_nil, Value.toInt_rename, remade_rename, Outcome.map_bind]
    rfl
  · rfl

theorem tabSize_rename : tabSize (c.rename ρ) = tabSize c := by
  rw [tabSize, tabSize, Call.named_rename, Outcome.bind_map]
  congr
  funext args
  rcases args with _ | ⟨_ | size, _ | ⟨x, rest⟩⟩
  · rfl
  · rfl
  · rfl
  · exact Value.toInt_rename size
  · rfl

theorem tabbed_rename :
    tabbed ⟨k, v.rename ρ, t⟩ (c.rename ρ) = (tabbed ⟨k, v, t⟩ c).map (rename ρ) := by
  rw [tabbed, tabbed, tabSize_rename, Outcome.map_bind]
  congr
  funext size
  simp only [Outcome.map_pure, remade_rename]
  split_ifs <;> simp

theorem keepsEnds_rename : keepsEnds (c.rename ρ) = keepsEnds c := by
  rw [keepsEnds, keepsEnds, Call.named_rename, Outcome.bind_map]
  congr
  funext args
  rcases args with _ | ⟨_ | keep, _ | ⟨x, rest⟩⟩
  · rfl
  · rfl
  · rfl
  · simp
  · rfl

theorem without_rename (isAffix : Text → Text → Bool) (cut : Nat → Text → Text) :
    without ⟨k, v.rename ρ, t⟩ isAffix cut (c.rename ρ) =
      (without ⟨k, v, t⟩ isAffix cut c).map (rename ρ) := by
  rw [without, without, Call.positional_rename, Outcome.bind_map, Outcome.map_bind]
  congr
  funext args
  rcases args with _ | ⟨w, _ | ⟨x, rest⟩⟩
  · rfl
  · simp only [List.map_cons, List.map_nil, StringKind.read_rename, Outcome.map_bind, part_rename]
    congr
    funext affix
    rw [Outcome.map_pure]
    split_ifs <;> rfl
  · rfl

theorem map_part_rename (us : List Text) :
    us.map (Subject.part ⟨k, v.rename ρ, t⟩) =
      (us.map (Subject.part ⟨k, v, t⟩)).map (rename ρ) := by
  rw [List.map_map]
  exact List.map_congr_left fun u _ => part_rename k v t u

theorem splitParts_rename (byBlank : Option Nat → Text → List Text)
    (bySep : Text → Option Nat → Text → List Text) (limit : Option Nat) (sep : Option Value) :
    splitParts ⟨k, v.rename ρ, t⟩ byBlank bySep limit (sep.map (rename ρ)) =
      (splitParts ⟨k, v, t⟩ byBlank bySep limit sep).map (List.map (rename ρ)) := by
  have blank : Except.ok ((byBlank limit t).map
      (if limit = some 0 then k.ofChars else Subject.part ⟨k, v.rename ρ, t⟩)) =
      (Except.ok ((byBlank limit t).map
        (if limit = some 0 then k.ofChars else Subject.part ⟨k, v, t⟩)) :
        Except Fault (List Value)).map (List.map (rename ρ)) := by
    split_ifs
    · simp [Except.map, Function.comp_def]
    · simp only [Except.map, map_part_rename]
  have sought : ∀ w, (do pure ((bySep (← nonEmpty (← k.read (rename ρ w))) limit t).map
      (Subject.part ⟨k, v.rename ρ, t⟩))) =
      (do pure ((bySep (← nonEmpty (← k.read w)) limit t).map
        (Subject.part ⟨k, v, t⟩)) : Except Fault (List Value)).map (List.map (rename ρ)) := by
    intro w
    simp only [StringKind.read_rename, map_part_rename, Outcome.map_bind, Outcome.map_pure]
  cases sep with
  | none => exact blank
  | some w =>
    cases w with
    | none => exact blank
    | _ => exact sought _

theorem splitWith_rename (byBlank : Option Nat → Text → List Text)
    (bySep : Text → Option Nat → Text → List Text) :
    splitWith ⟨k, v.rename ρ, t⟩ byBlank bySep (c.rename ρ) =
      (splitWith ⟨k, v, t⟩ byBlank bySep c).map (List.map (rename ρ)) := by
  rw [splitWith, splitWith, Call.named_rename, Outcome.bind_map, Outcome.map_bind]
  congr
  funext args
  rcases args with _ | ⟨sep, _ | ⟨limit, _ | ⟨x, rest⟩⟩⟩
  · rfl
  · rfl
  · simp only [List.map_cons, List.map_nil, Value.toLimit_rename, splitParts_rename,
      Outcome.map_bind]
  · rfl

theorem linesOf_rename :
    linesOf ⟨k, v.rename ρ, t⟩ (c.rename ρ) =
      (linesOf ⟨k, v, t⟩ c).map (List.map (rename ρ)) := by
  rw [linesOf, linesOf, keepsEnds_rename, Outcome.map_bind]
  congr
  funext keep
  rw [map_part_rename, Outcome.map_pure]

theorem nameOr_rename (default : String) (name : Option Value) :
    nameOr default (name.map (rename ρ)) = nameOr default name := by
  cases name with
  | none => rfl
  | some v => cases v <;> rfl

theorem coding_rename : coding (c.rename ρ) = coding c := by
  rw [coding, coding, Call.named_rename, Outcome.bind_map]
  congr
  funext args
  rcases args with _ | ⟨charset, _ | ⟨treatment, _ | ⟨x, rest⟩⟩⟩
  · rfl
  · rfl
  · simp only [List.map_cons, List.map_nil, nameOr_rename]
  · rfl

theorem encoded_rename : encoded t (c.rename ρ) = (encoded t c).map (rename ρ) := by
  simp only [encoded, coding_rename, Outcome.map_bind, Outcome.map_pure, Value.rename_ofBytes]

theorem decoded_rename (bs : List UInt8) :
    decoded bs (c.rename ρ) = (decoded bs c).map (rename ρ) := by
  simp only [decoded, coding_rename, Outcome.map_bind]
  congr
  funext names
  split_ifs
  · simp
  · simp only [Outcome.map_bind, Outcome.map_pure, Value.rename_ofText]

theorem hexMark_rename : hexMark (v.rename ρ) = hexMark v := by
  cases v <;> rfl

theorem groupSize_rename (size : Option Value) :
    groupSize (size.map (rename ρ)) = groupSize size := by
  cases size with
  | none => rfl
  | some v => exact Value.toInt_rename v

theorem inHex_rename (bs : List UInt8) : inHex bs (c.rename ρ) = (inHex bs c).map (rename ρ) := by
  simp only [inHex, Call.named_rename, Outcome.bind_map, Outcome.map_bind]
  congr
  funext args
  rcases args with _ | ⟨mark, _ | ⟨size, _ | ⟨x, rest⟩⟩⟩
  · rfl
  · rfl
  · cases mark with
    | none =>
      simp only [List.map_cons, List.map_nil, groupSize_rename, Option.map_none, Outcome.map_bind,
        Outcome.map_pure, Value.rename_ofText]
    | some v =>
      simp only [List.map_cons, List.map_nil, groupSize_rename, Option.map_some, hexMark_rename,
        Outcome.map_bind, Outcome.map_pure, Value.rename_ofText]
  · rfl

theorem joined_rename (image : Heap.Image ρ h h') :
    joined ⟨k, v.rename ρ, t⟩ h' (c.rename ρ) = (joined ⟨k, v, t⟩ h c).map (rename ρ) := by
  have parts : ∀ items : List Value, (items.map (rename ρ)).mapM k.read = items.mapM k.read := by
    intro items
    simp [Function.comp_def]
  rw [joined, joined, Call.positional_rename, Outcome.bind_map, Outcome.map_bind]
  congr
  funext args
  rcases args with _ | ⟨x, _ | ⟨y, rest⟩⟩
  · rfl
  · simp only [List.map_cons, List.map_nil, Value.items_rename image, Outcome.bind_map, parts,
      Outcome.map_bind]
    congr
    funext items
    congr
    funext texts
    rcases items with _ | ⟨item, _ | ⟨other, more⟩⟩ <;> simp
  · rfl

omit k v t c in
/-- One branch of a choice of methods. -/
theorem choice_rename {p : Prop} [Decidable p] {x x' : Except Fault Value}
    {others others' : Option (Except Fault Value)} (chosen : x' = x.map (rename ρ))
    (rest : others' = others.map (Except.map (rename ρ))) :
    (if p then some x' else others') =
      (if p then some x else others).map (Except.map (rename ρ)) := by
  subst chosen rest
  split_ifs <;> rfl

theorem common?_rename (image : Heap.Image ρ h h') (name : Text) :
    common? ⟨k, v.rename ρ, t⟩ h' name (c.rename ρ) =
      (common? ⟨k, v, t⟩ h name c).map (Except.map (rename ρ)) := by
  have position : ∀ p, positionOr p = (positionOr p).rename ρ := by
    intro p
    cases p <;> rfl
  have found : ∀ p, positionOf p = (positionOf p).map (rename ρ) := by
    intro p
    cases p <;> rfl
  refine choice_rename (trimmed_rename k v t c _) ?_
  refine choice_rename (trimmed_rename k v t c _) ?_
  refine choice_rename (trimmed_rename k v t c _) ?_
  refine choice_rename (joined_rename k v t c image) ?_
  refine choice_rename (replaced_rename k v t c image.injective) ?_
  refine choice_rename (affixed_rename k v t c _) ?_
  refine choice_rename (affixed_rename k v t c _) ?_
  refine choice_rename (by simp only [searched_rename, Outcome.map_map, ← position]) ?_
  refine choice_rename (by simp only [searched_rename, Outcome.map_map, ← position]) ?_
  refine choice_rename (by simp only [searched_rename, Outcome.map_bind, ← found]) ?_
  refine choice_rename (by simp only [searched_rename, Outcome.map_bind, ← found]) ?_
  refine choice_rename (by simp only [searched_rename, Outcome.map_map, Value.rename_ofInt]) ?_
  refine choice_rename (parted_rename k v t c _) ?_
  refine choice_rename (parted_rename k v t c _) ?_
  refine choice_rename (without_rename k v t c _ _) ?_
  refine choice_rename (without_rename k v t c _ _) ?_
  refine choice_rename (filled_rename k v t c _) ?_
  refine choice_rename (filled_rename k v t c _) ?_
  refine choice_rename (filled_rename k v t c _) ?_
  refine choice_rename (zeroFilled_rename k v t c) ?_
  refine choice_rename (tabbed_rename k v t c) ?_
  rw [Call.empty_rename]
  cases caseMap? name with
  | some f =>
    simp only [Option.map_some, Outcome.map_bind, Outcome.map_pure, StringKind.rename_built]
  | none =>
    cases test? k name with
    | some p =>
      simp only [Option.map_some, Outcome.map_bind, Outcome.map_pure]
      rfl
    | none => rfl

theorem ofString_mirrors (name : Text) :
    Memory.Mirrors ρ (rename ρ) (ofString ⟨k, v, t⟩ name c)
      (ofString ⟨k, v.rename ρ, t⟩ name (c.rename ρ)) := by
  refine .ite (.bind (.ofExcept (splitWith_rename k v t c _ _)) fun parts =>
    Memory.newList_mirrors parts) ?_
  refine .ite (.bind (.ofExcept (splitWith_rename k v t c _ _)) fun parts =>
    Memory.newList_mirrors parts) ?_
  refine .ite (.bind (.ofExcept (linesOf_rename k v t c)) fun lines =>
    Memory.newList_mirrors lines) ?_
  refine .read fun h h' image => .ofExcept ?_
  rw [common?_rename k v t c image]
  cases common? ⟨k, v, t⟩ h name c <;> rfl

theorem ofText_mirrors (name : Text) :
    Memory.Mirrors ρ (rename ρ) (ofText v t name c) (ofText (v.rename ρ) t name (c.rename ρ)) :=
  .ite (.ofExcept (encoded_rename t c)) (ofString_mirrors .text v t c name)

theorem ofBytes_mirrors (o : Origin) (bs : List UInt8) (name : Text) :
    Memory.Mirrors ρ (rename ρ) (ofBytes (.bytes bs o) bs name c)
      (ofBytes ((Value.bytes bs o).rename ρ) bs name (c.rename ρ)) :=
  .ite (.ofExcept (decoded_rename c bs))
    (.ite (.ofExcept (inHex_rename c bs)) (ofString_mirrors .bytes (.bytes bs o) _ c name))

end

end Phrasebook.Method
