import Phrasebook.Method.Construct
import Phrasebook.Method.Dispatch
import Phrasebook.Proofs.Ordinary.Format
/-!
Methods and classes fail with ordinary faults only.
-/
namespace Phrasebook

namespace Call

@[grind .] theorem positional_ordinary (c : Call) (least most : Nat) :
    Ordinary (c.positional least most) := by
  grind [positional]

@[grind .] theorem named_ordinary (c : Call) (params : List Text) : Ordinary (c.named params) := by
  grind [named]

@[grind .] theorem empty_ordinary (c : Call) : Ordinary c.empty := by
  grind [empty]

end Call

namespace Value

@[grind .] theorem toInt_ordinary (v : Value) : Ordinary v.toInt := by
  grind [toInt]

@[grind .] theorem toPosition_ordinary (v : Value) : Ordinary v.toPosition := by
  grind [toPosition]

@[grind .] theorem toBound_ordinary (v : Option Value) : Ordinary (toBound v) := by
  fun_cases toBound v <;> grind

@[grind .] theorem toLimit_ordinary (v : Option Value) : Ordinary (toLimit v) := by
  cases v <;> grind [toLimit]

end Value

namespace Method

namespace StringKind

variable (k : StringKind)

@[grind .] theorem read_ordinary (v : Value) : Ordinary (k.read v) := by
  grind [read]

@[grind .] theorem needle_ordinary (v : Value) : Ordinary (k.needle v) := by
  fun_cases needle k v <;> grind

@[grind .] theorem anyOf_ordinary (test : Text → Bool) (vs : List Value) :
    Ordinary (k.anyOf test vs) := by
  induction vs with
  | nil => exact .ok false
  | cons v rest ih => grind [anyOf]

end StringKind

@[grind .] theorem nonEmpty_ordinary (t : Text) : Ordinary (nonEmpty t) := by
  grind [nonEmpty]

@[grind .] theorem fillOf_ordinary (k : StringKind) (vs : List Value) : Ordinary (fillOf k vs) := by
  cases vs <;> grind [fillOf]

@[grind .] theorem cutSet_ordinary (k : StringKind) (v : Value) : Ordinary (cutSet k v) := by
  fun_cases cutSet k v <;> grind

section
variable (s : Subject) (c : Call)

@[grind .] theorem trimmed_ordinary (trim : (Code → Bool) → Text → Text) :
    Ordinary (trimmed s trim c) := by
  grind [trimmed]

@[grind .] theorem splitParts_ordinary (byBlank : Option Nat → Text → List Text)
    (bySep : Text → Option Nat → Text → List Text) (limit : Option Nat) (v : Option Value) :
    Ordinary (splitParts s byBlank bySep limit v) := by
  fun_cases splitParts s byBlank bySep limit v <;> grind

@[grind .] theorem splitWith_ordinary (byBlank : Option Nat → Text → List Text)
    (bySep : Text → Option Nat → Text → List Text) : Ordinary (splitWith s byBlank bySep c) := by
  grind [splitWith]

@[grind .] theorem keepsEnds_ordinary : Ordinary (keepsEnds c) := by
  grind [keepsEnds]

@[grind .] theorem linesOf_ordinary : Ordinary (linesOf s c) := by
  grind [linesOf]

@[grind .] theorem joined_ordinary (h : Heap) : Ordinary (joined s h c) := by
  have parts (items : List Value) : Ordinary (items.mapM s.kind.read) :=
    .mapM s.kind.read_ordinary items
  refine .bind (c.positional_ordinary 1 1) fun args => ?_
  rcases args with _ | ⟨v, _ | ⟨w, rest⟩⟩
  · exact .throw .type
  · refine .bind (v.items_ordinary h) fun items => .bind (parts items) fun texts => ?_
    rcases items with _ | ⟨item, _ | ⟨other, rest⟩⟩ <;> exact .pure _
  · exact .throw .type

@[grind .] theorem replaced_ordinary : Ordinary (replaced s c) := by
  grind [replaced]

@[grind .] theorem affixed_ordinary (test : Text → Text → Option Int → Option Int → Bool) :
    Ordinary (affixed s test c) := by
  grind [affixed]

@[grind .] theorem searched_ordinary {α : Type}
    (search : Text → Text → Option Int → Option Int → α) : Ordinary (searched s search c) := by
  grind [searched]

@[grind .] theorem positionOf_ordinary (p : Option Nat) : Ordinary (positionOf p) := by
  cases p <;> grind [positionOf]

@[grind .] theorem parted_ordinary (part : Text → Text → Text × Text × Text) :
    Ordinary (parted s part c) := by
  grind [parted]

@[grind .] theorem filled_ordinary (fill : Code → Int → Text → Text) :
    Ordinary (filled s fill c) := by
  grind [filled]

@[grind .] theorem zeroFilled_ordinary : Ordinary (zeroFilled s c) := by
  grind [zeroFilled]

@[grind .] theorem tabSize_ordinary : Ordinary (tabSize c) := by
  grind [tabSize]

@[grind .] theorem tabbed_ordinary : Ordinary (tabbed s c) := by
  grind [tabbed]

@[grind .] theorem without_ordinary (isAffix : Text → Text → Bool) (cut : Nat → Text → Text) :
    Ordinary (without s isAffix cut c) := by
  grind [without]

@[grind .] theorem nameOr_ordinary (default : String) (v : Option Value) :
    Ordinary (nameOr default v) := by
  fun_cases nameOr default v <;> grind

@[grind .] theorem coding_ordinary : Ordinary (coding c) := by
  grind [coding]

@[grind .] theorem mapped_ordinary {α : Type} (names : Text × Text) (unmapped : FaultKind)
    (f : Charset → Option Treatment → Except Encoding.Failure α) :
    Ordinary (mapped names unmapped f) := by
  unfold mapped
  split
  · exact .error (.unworded .lookup)
  · rename_i charset found
    cases f charset (Treatment.ofName? names.2) with
    | ok a => exact .ok a
    | error failure => cases failure <;> exact .error (.unworded _)

@[grind .] theorem encoded_ordinary (t : Text) : Ordinary (encoded t c) := by
  grind [encoded]

@[grind .] theorem decoded_ordinary (bs : List UInt8) : Ordinary (decoded bs c) := by
  grind [decoded]

@[grind .] theorem hexMark_ordinary (v : Value) : Ordinary (hexMark v) := by
  fun_cases hexMark v <;> grind

@[grind .] theorem groupSize_ordinary (v : Option Value) : Ordinary (groupSize v) := by
  cases v <;> grind [groupSize]

@[grind .] theorem inHex_ordinary (bs : List UInt8) : Ordinary (inHex bs c) := by
  refine .bind (c.named_ordinary _) fun given => ?_
  grind

/-- A method, or else those that are tried after it. -/
theorem choice_ordinary {p : Prop} [Decidable p] {x y : Except Fault Value}
    {rest : Option (Except Fault Value)} (first : Ordinary x)
    (later : rest = some y → Ordinary y) : (if p then some x else rest) = some y → Ordinary y := by
  grind

theorem common?_ordinary {h : Heap} {name : Text} {x : Except Fault Value} :
    common? s h name c = some x → Ordinary x := by
  refine choice_ordinary (trimmed_ordinary s c _) ?_
  refine choice_ordinary (trimmed_ordinary s c _) ?_
  refine choice_ordinary (trimmed_ordinary s c _) ?_
  refine choice_ordinary (joined_ordinary s c h) ?_
  refine choice_ordinary (replaced_ordinary s c) ?_
  refine choice_ordinary (affixed_ordinary s c _) ?_
  refine choice_ordinary (affixed_ordinary s c _) ?_
  refine choice_ordinary (.map (searched_ordinary s c _)) ?_
  refine choice_ordinary (.map (searched_ordinary s c _)) ?_
  refine choice_ordinary (.bind (searched_ordinary s c _) positionOf_ordinary) ?_
  refine choice_ordinary (.bind (searched_ordinary s c _) positionOf_ordinary) ?_
  refine choice_ordinary (.map (.bind (searched_ordinary s c _) fun _ => .pure _)) ?_
  refine choice_ordinary (parted_ordinary s c _) ?_
  refine choice_ordinary (parted_ordinary s c _) ?_
  refine choice_ordinary (without_ordinary s c _ _) ?_
  refine choice_ordinary (without_ordinary s c _ _) ?_
  refine choice_ordinary (filled_ordinary s c _) ?_
  refine choice_ordinary (filled_ordinary s c _) ?_
  refine choice_ordinary (filled_ordinary s c _) ?_
  refine choice_ordinary (zeroFilled_ordinary s c) ?_
  refine choice_ordinary (tabbed_ordinary s c) ?_
  grind

@[grind .] theorem ofString_ordinary (name : Text) : Memory.Ordinary (ofString s name c) := by
  have other (h : Heap) : Ordinary ((common? s h name c).getD (.error .type)) := by
    cases found : common? s h name c with
    | none => exact .error .type
    | some x => exact common?_ordinary s c found
  grind [ofString]

@[grind .] theorem ofText_ordinary (self : Value) (t name : Text) :
    Memory.Ordinary (ofText self t name c) := by
  grind [ofText]

@[grind .] theorem ofBytes_ordinary (self : Value) (bs : List UInt8) (name : Text) :
    Memory.Ordinary (ofBytes self bs name c) := by
  grind [ofBytes]

end

@[grind .] theorem ofInt_ordinary (self : Value) (n : Int) (name : Text) :
    Ordinary (ofInt self n name) := by
  grind [ofInt]

@[grind .] theorem ofFloat_ordinary (self : Value) (x : Float) (name : Text) :
    Ordinary (ofFloat self x name) := by
  grind [ofFloat]

@[grind .] theorem numberMethod_ordinary (self : Value) (name : Text) :
    Ordinary (numberMethod self name) := by
  fun_cases numberMethod self name <;> grind

@[grind .] theorem ofNumber_ordinary (self : Value) (name : Text) (c : Call) :
    Ordinary (ofNumber self name c) := by
  grind [ofNumber]

end Method
end Phrasebook
