import Phrasebook.Proofs.Renaming.Printf
import Phrasebook.Value.Operator
/-!
Operators and the limits on them, in a heap and in its image.
-/
namespace Phrasebook

namespace Limits

variable {ρ : Renaming} {h h' : Heap}

@[simp] theorem checkExponent_rename (v : Value) :
    checkExponent (v.rename ρ) = checkExponent v := by
  cases v <;> rfl

@[simp] theorem checkPower_rename (a b : Value) :
    checkPower (a.rename ρ) (b.rename ρ) = checkPower a b := by
  rw [checkPower, checkPower, checkExponent_rename, Value.int?_rename, Value.int?_rename]

@[simp] theorem checkPrintf_rename (template : Text) (v : Value) :
    checkPrintf template (v.rename ρ) = checkPrintf template v := by
  cases v with
  | tuple xs o => simp [checkPrintf]
  | _ => rfl

@[simp] theorem ownLength?_rename (v : Value) : ownLength? (v.rename ρ) = ownLength? v := by
  cases v <;> rfl

@[simp] theorem checkCall_rename (f : Value) (args keywords : List Value) :
    checkCall (f.rename ρ) (args.map (Value.rename ρ)) (keywords.map (Value.rename ρ)) =
      checkCall f args keywords := by
  cases f with
  | method receiver name o =>
    have given : (args.map (Value.rename ρ) ++ keywords.map (Value.rename ρ)).filterMap Value.int? =
        (args ++ keywords).filterMap Value.int? := by
      rw [← List.map_append, List.filterMap_map]
      congr 1
      exact funext (Value.int?_rename ρ)
    simp only [Value.rename, checkCall, ownLength?_rename, given, List.getElem?_map]
    cases args[1]? with
    | none => rfl
    | some new => simp only [Option.map_some, ownLength?_rename]
  | _ => rfl

variable (image : Heap.Image ρ h h')
include image

theorem repeatable?_rename (v : Value) : repeatable? h' (v.rename ρ) = repeatable? h v := by
  cases v <;> simp [repeatable?, image.list]

theorem checkRepetition_rename (a b : Value) :
    checkRepetition h' (a.rename ρ) (b.rename ρ) = checkRepetition h a b := by
  rw [checkRepetition, checkRepetition, repeatable?_rename image, Value.int?_rename]

theorem checkProduct_rename (a b : Value) :
    checkProduct h' (a.rename ρ) (b.rename ρ) = checkProduct h a b := by
  simp only [checkProduct, checkRepetition_rename image, Value.int?_rename]

end Limits

namespace Value

variable {ρ : Renaming} {h h' : Heap}

theorem numeric_rename (f : Number → Number → Except Fault Number) (a b : Value) :
    numeric f (a.rename ρ) (b.rename ρ) = (numeric f a b).map (rename ρ) := by
  rw [numeric, numeric, number?_rename, number?_rename]
  cases a.number? with
  | none => rfl
  | some m =>
    cases b.number? with
    | none => rfl
    | some n => simp [Outcome.map_map]

theorem unaryNumber_rename (f : Number → Except Fault Number) (a : Value) :
    unaryNumber f (a.rename ρ) = (unaryNumber f a).map (rename ρ) := by
  rw [unaryNumber, unaryNumber, number?_rename]
  cases a.number? with
  | none => rfl
  | some n => simp [Outcome.map_map]

theorem repeated_map {α β : Type} (f : α → β) (xs : List α) (n : Int) :
    repeated (xs.map f) n = (repeated xs n).map (List.map f) := by
  simp only [repeated, List.isEmpty_map]
  split_ifs
  · rfl
  · rfl
  · simp [Except.map, List.map_flatten]

section
variable {α β : Type} {f : α → β} {make : List α → Value} {make' : List β → Value}
  (makes : ∀ ys, make' (ys.map f) = (make ys).rename ρ)
include makes

theorem repeatedAs_rename (v : Value) {xs : List α} {xs' : List β} (items : xs' = xs.map f)
    (n : Int) : repeatedAs (v.rename ρ) make' xs' n = (repeatedAs v make xs n).map (rename ρ) := by
  subst items
  simp only [repeatedAs, repeated_map]
  split_ifs
  · rfl
  · simp [Outcome.map_map, makes]

theorem appended_rename (a b : Value) {xs ys : List α} {xs' ys' : List β}
    (items : xs' = xs.map f) (more : ys' = ys.map f) :
    appended (a.rename ρ) (b.rename ρ) make' xs' ys' = (appended a b make xs ys).rename ρ := by
  subst items more
  simp only [appended, List.isEmpty_map, ← List.map_append, makes]
  split_ifs <;> rfl

end

theorem builtText_map_id (t : Text) : builtText (t.map id) = (builtText t).rename ρ := by simp

theorem builtBytes_map_id (bs : List UInt8) :
    builtBytes (bs.map id) = (builtBytes bs).rename ρ := by simp

theorem ofItems_map (xs : List Value) : ofItems (xs.map (rename ρ)) = (ofItems xs).rename ρ :=
  (rename_ofItems ρ xs).symm

@[simp] theorem isSetView_rename (v : Value) : (v.rename ρ).isSetView = v.isSetView := by
  cases v with
  | view part r o => cases part <;> rfl
  | _ => rfl

section
variable (image : Heap.Image ρ h h')
include image

theorem setDifference_mirrors (a b : Value) :
    Memory.Mirrors ρ (rename ρ) (setDifference h a b)
      (setDifference h' (a.rename ρ) (b.rename ρ)) := by
  have injective := image.injective
  simp only [setDifference, isSet_rename, isSetView_rename]
  split_ifs
  · refine .bind (.ofExcept (items_rename image a)) fun left => ?_
    refine .bind (.ofExcept (items_rename image b)) fun right => ?_
    have fresh := insertItems_rename injective [] left
    rw [List.map_nil] at fresh
    simp only [List.all_map, Function.comp_def, isHashable_rename, fresh, List.filter_map,
      List.any_map, sameKey_rename injective]
    split_ifs
    · exact .bind (f := id) (.throw _) fun _ => Memory.newSet_mirrors _
    · exact Memory.newSet_mirrors _
  · exact .throw _

theorem sum_mirrors (a b : Value) :
    Memory.Mirrors ρ (rename ρ) (sum h a b) (sum h' (a.rename ρ) (b.rename ρ)) := by
  have other : Memory.Mirrors ρ (rename ρ) (ofExcept (numeric Number.add a b))
      (ofExcept (numeric Number.add (a.rename ρ) (b.rename ρ))) :=
    .ofExcept (numeric_rename Number.add a b)
  cases a with
  | text s o =>
    cases b with
    | text t p =>
      have sum := appended_rename (ρ := ρ) builtText_map_id (text s o) (text t p)
        (List.map_id s).symm (List.map_id t).symm
      exact .pure' sum
    | _ => exact other
  | bytes s o =>
    cases b with
    | bytes t p =>
      have sum := appended_rename (ρ := ρ) builtBytes_map_id (bytes s o) (bytes t p)
        (List.map_id s).symm (List.map_id t).symm
      exact .pure' sum
    | _ => exact other
  | tuple xs o =>
    cases b with
    | tuple ys p =>
      have sum := appended_rename ofItems_map (tuple xs o) (tuple ys p) (renameAll_eq ρ xs)
        (renameAll_eq ρ ys)
      exact .pure' sum
    | _ => exact other
  | list r =>
    cases b with
    | list s =>
      have items : h'.list (ρ.list r) ++ h'.list (ρ.list s) =
          (h.list r ++ h.list s).map (rename ρ) := by
        rw [image.list, image.list, List.map_append]
      change Memory.Mirrors ρ _ (Memory.newList _) (Memory.newList _)
      rw [items]
      exact Memory.newList_mirrors _
    | _ => exact other
  | _ => exact other

theorem repetition_mirrors (a b : Value) :
    Option.Rel (Memory.Mirrors ρ (rename ρ)) (repetition h a b)
      (repetition h' (a.rename ρ) (b.rename ρ)) := by
  simp only [repetition, int?_rename]
  cases b.int? with
  | none => exact .none
  | some n =>
    cases a with
    | text t o =>
      exact .some (.ofExcept (repeatedAs_rename builtText_map_id _ (List.map_id t).symm n))
    | bytes bs o =>
      exact .some (.ofExcept (repeatedAs_rename builtBytes_map_id _ (List.map_id bs).symm n))
    | tuple xs o =>
      exact .some (.ofExcept (repeatedAs_rename ofItems_map _ (renameAll_eq ρ xs) n))
    | list r =>
      have times := repeated_map (rename ρ) (h.list r) n
      rw [← image.list] at times
      exact .some (.bind (.ofExcept times) fun items => Memory.newList_mirrors items)
    | _ => exact .none

theorem product_mirrors (a b : Value) :
    Memory.Mirrors ρ (rename ρ) (product h a b) (product h' (a.rename ρ) (b.rename ρ)) := by
  have left := repetition_mirrors image a b
  have right := repetition_mirrors image b a
  simp only [product]
  generalize repetition h a b = m at left ⊢
  generalize repetition h' (a.rename ρ) (b.rename ρ) = m' at left ⊢
  generalize repetition h b a = n at right ⊢
  generalize repetition h' (b.rename ρ) (a.rename ρ) = n' at right ⊢
  cases left with
  | some mirrors => exact mirrors
  | none =>
    cases right with
    | some mirrors => exact mirrors
    | none => exact .ofExcept (numeric_rename Number.multiply a b)

theorem remainder_rename (a b : Value) :
    remainder h' (a.rename ρ) (b.rename ρ) = (remainder h a b).map (rename ρ) := by
  have other := numeric_rename (ρ := ρ) Number.modulo a b
  cases a with
  | text t o => exact Printf.formatText_rename image (text t o) t b
  | bytes bs o => exact Printf.formatBytes_rename image bs b
  | _ => exact other

theorem checkBinary_rename (op : BinaryOp) (a b : Value) :
    checkBinary h' op (a.rename ρ) (b.rename ρ) = checkBinary h op a b := by
  cases op with
  | mul => exact Limits.checkProduct_rename image a b
  | pow => exact Limits.checkPower_rename a b
  | mod => cases a <;> simp [checkBinary]
  | _ => rfl

theorem apply_mirrors (op : BinaryOp) (a b : Value) :
    Memory.Mirrors ρ (rename ρ) (apply h op a b) (apply h' op (a.rename ρ) (b.rename ρ)) := by
  cases op with
  | add => exact sum_mirrors image a b
  | sub =>
    simp only [apply, number?_rename]
    cases a.number? with
    | none => exact setDifference_mirrors image a b
    | some m =>
      cases b.number? with
      | none => exact setDifference_mirrors image a b
      | some n => exact .ofExcept (numeric_rename Number.subtract a b)
  | mul => exact product_mirrors image a b
  | div => exact .ofExcept (numeric_rename Number.divide a b)
  | floorDiv => exact .ofExcept (numeric_rename Number.floorDivide a b)
  | mod => exact .ofExcept (remainder_rename image a b)
  | pow => exact .ofExcept (numeric_rename Number.power a b)
  | _ => exact .throw _

theorem unary_rename (op : UnaryOp) (a : Value) :
    unary h' op (a.rename ρ) = (unary h op a).map (rename ρ) := by
  have number : ∀ f, unaryNumber f (a.rename ρ) = (unaryNumber f a).map (rename ρ) :=
    fun f => unaryNumber_rename f a
  cases op with
  | not => simp [unary, Except.map, truth_rename image]
  | negative => exact number Number.negate
  | positive => cases a <;> first | rfl | exact number Number.plus
  | invert => exact number Number.invert

theorem holds_rename (op : CompareOp) (a b : Value) :
    holds h' op (a.rename ρ) (b.rename ρ) = holds h op a b := by
  cases op <;> simp [holds, same_rename image, compareBy_rename image, contains_rename image,
    identical_rename image.injective]

end

theorem binary_mirrors (op : BinaryOp) (a b : Value) :
    Memory.Mirrors ρ (rename ρ) (binary op a b) (binary op (a.rename ρ) (b.rename ρ)) := by
  refine .read fun h h' image => ?_
  rw [checkBinary_rename image]
  exact .bind (.same _) fun _ => apply_mirrors image op a b

end Value
end Phrasebook
