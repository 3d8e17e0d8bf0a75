import Phrasebook.Proofs.Ordinary.Value
import Phrasebook.Value.Operator
/-!
Formatting and the operators fail with ordinary faults only. The one operator table that can lack an
entry is that of the binary operators, and what it says then names the operator.
-/
namespace Phrasebook

namespace FormatSpec

variable (s : FormatSpec)

@[grind .] theorem formatCharacter_ordinary (n : Int) : Ordinary (s.formatCharacter n) := by
  grind [formatCharacter]

@[grind .] theorem formatFloat_ordinary (x : Float) : Ordinary (s.formatFloat x) := by
  grind [formatFloat]

@[grind .] theorem formatInt_ordinary (n : Int) : Ordinary (s.formatInt n) := by
  grind [formatInt]

@[grind .] theorem formatText_ordinary (t : Text) : Ordinary (s.formatText t) := by
  grind [formatText]

@[grind .] theorem formatComplex_ordinary (z : Complex) : Ordinary (s.formatComplex z) := by
  grind [formatComplex]

@[grind .] theorem formatDecimal_ordinary (d : Decimal) : Ordinary (s.formatDecimal d) := by
  unfold formatDecimal
  dsimp only
  split
  · exact .error .value
  · cases d <;> exact .ok _

end FormatSpec

namespace Value

@[grind .] theorem format_ordinary (h : Heap) (v : Value) (spec : Text) :
    Ordinary (format h v spec) := by
  grind [format]

@[grind .] theorem formatted_ordinary (h : Heap) (v : Value) (spec : Text) :
    Ordinary (formatted h v spec) := by
  grind [formatted]

end Value

namespace Limits

@[grind .] theorem checkBits_ordinary (bits : Int) : Ordinary (checkBits bits) := by
  grind [checkBits, Fault.IsOrdinary.limit Denies.bits]

@[grind .] theorem checkLength_ordinary (length : Int) : Ordinary (checkLength length) := by
  grind [checkLength, Fault.IsOrdinary.limit Denies.length]

@[grind .] theorem checkRepetition_ordinary (h : Heap) (sequence times : Value) :
    Ordinary (checkRepetition h sequence times) := by
  grind [checkRepetition, Fault.IsOrdinary.limit Denies.repetition]

@[grind .] theorem exponentError_isOrdinary (shown : Text) : (exponentError shown).IsOrdinary :=
  .limit (.exponent shown)

@[grind .] theorem checkExponent_ordinary (right : Value) : Ordinary (checkExponent right) := by
  fun_cases checkExponent right <;> grind

@[grind .] theorem checkPower_ordinary (left right : Value) : Ordinary (checkPower left right) := by
  grind [checkPower]

@[grind .] theorem checkProduct_ordinary (h : Heap) (left right : Value) :
    Ordinary (checkProduct h left right) := by
  grind [checkProduct]

@[grind .] theorem readNumeral_ordinary (digits : Text) : Ordinary (readNumeral digits) := by
  grind [readNumeral]

@[grind .] theorem checkSpec_ordinary (spec : Text) : Ordinary (checkSpec spec) := by
  grind [checkSpec]

@[grind .] theorem checkPrintf_ordinary (template : Text) (values : Value) :
    Ordinary (checkPrintf template values) := by
  fun_cases checkPrintf template values
  grind

@[grind .] theorem checkCall_ordinary (f : Value) (args keywords : List Value) :
    Ordinary (checkCall f args keywords) := by
  fun_cases checkCall f args keywords <;> grind

end Limits

namespace Printf

/-- A computation that uses up arguments, whose faults are ordinary. -/
def Use.Ordinary {α : Type} (m : Use α) : Prop := ∀ a, Phrasebook.Ordinary (m.run a)

namespace Use.Ordinary

variable {α β : Type}

@[grind .] theorem pure (a : α) : Use.Ordinary (Pure.pure a) := fun _ => .ok _

@[grind ←] theorem fail {f : Fault} (ordinary : f.IsOrdinary) :
    Use.Ordinary (Printf.fail f : Use α) :=
  fun _ => .error ordinary

@[grind .] theorem get : Use.Ordinary MonadState.get := fun _ => .ok _

@[grind .] theorem modify (f : Arguments → Arguments) : Use.Ordinary (modify f) := fun _ => .ok _

@[grind ←] theorem bind {m : Use α} {n : α → Use β} (first : Use.Ordinary m)
    (second : ∀ a, Use.Ordinary (n a)) : Use.Ordinary (m >>= n) :=
  fun a => .bind (first a) fun r => second r.1 r.2

end Use.Ordinary

@[grind .] theorem nextArgument_ordinary : Use.Ordinary nextArgument := by
  grind [nextArgument]

@[grind .] theorem useKey_ordinary (h : Heap) (key : Value) : Use.Ordinary (useKey h key) := by
  refine .bind .get fun a => ?_
  rcases a.mapping with _ | v
  · exact .fail .type
  · cases v with
    | dict r =>
      have found := Value.entryOf_ordinary h (h.dict r) key
      dsimp only
      cases entry : Value.entryOf h (h.dict r) key with
      | ok v => exact .modify _
      | error f => exact .fail (found f entry)
    | _ => exact .fail .type

@[grind .] theorem keyPart_ordinary (h : Heap) (isBytes : Bool) (t : Text) :
    Use.Ordinary (keyPart h isBytes t) := by
  fun_cases keyPart h isBytes t <;> grind

@[grind .] theorem starArgument_ordinary : Use.Ordinary starArgument := by
  grind [starArgument]

@[grind .] theorem widthPart_ordinary (c : Conversion) (t : Text) :
    Use.Ordinary (widthPart c t) := by
  fun_cases widthPart c t <;> grind

@[grind .] theorem precisionPart_ordinary (c : Conversion) (t : Text) :
    Use.Ordinary (precisionPart c t) := by
  fun_cases precisionPart c t <;> grind

@[grind .] theorem truncated_ordinary (v : Value) : Ordinary (truncated v) := by
  grind [truncated]

@[grind .] theorem floatOf_ordinary (v : Value) : Ordinary (floatOf v) := by
  grind [floatOf]

@[grind .] theorem integerDigits_ordinary (c : Conversion) (letter : Code) (v : Value) :
    Ordinary (integerDigits c letter v) := by
  grind [integerDigits]

@[grind .] theorem floatDigits_ordinary (c : Conversion) (letter : Code) (v : Value) :
    Ordinary (floatDigits c letter v) := by
  grind [floatDigits]

@[grind .] theorem character_ordinary (isBytes : Bool) (v : Value) :
    Ordinary (character isBytes v) := by
  fun_cases character isBytes v <;> grind

@[grind .] theorem bytesOf_ordinary (v : Value) : Ordinary (bytesOf v) := by
  fun_cases bytesOf v <;> grind

@[grind .] theorem convert_ordinary (h : Heap) (isBytes : Bool) (c : Conversion) (letter : Code)
    (v : Value) : Ordinary (convert h isBytes c letter v) := by
  grind [convert]

@[grind .] theorem conversion_ordinary (h : Heap) (isBytes : Bool) (t : Text) :
    Use.Ordinary (conversion h isBytes t) := by
  refine .bind (keyPart_ordinary h isBytes t) fun t => ?_
  refine .bind (widthPart_ordinary _ _) fun r => .bind (precisionPart_ordinary _ _) fun r => ?_
  dsimp only
  rcases dropLength r.2 with _ | ⟨letter, rest⟩
  · exact .fail .value
  · refine .bind nextArgument_ordinary fun v => ?_
    cases written : convert h isBytes r.1 letter v with
    | ok written =>
      split_ifs
      · exact .bind (.fail (.unworded .overflow)) fun _ => .pure _
      · exact .pure _
    | error f =>
      have ordinary := convert_ordinary h isBytes r.1 letter v f written
      split_ifs
      · exact .bind (.fail (.unworded .overflow)) fun _ => .fail ordinary
      · exact .fail ordinary

theorem convertAll_ordinary (h : Heap) (isBytes : Bool) (out : List Piece) (fuel : Nat) (t : Text) :
    Use.Ordinary (convertAll h isBytes out fuel t) := by
  induction fuel generalizing out t with
  | zero => exact .fail .value
  | succ fuel ih => grind [convertAll]

@[grind .] theorem pieces_ordinary (h : Heap) (isBytes : Bool) (template : Text) (v : Value) :
    Ordinary (pieces h isBytes template v) := by
  have all := convertAll_ordinary h isBytes [] (template.length + 1) template (.ofValue isBytes v)
  grind [pieces]

@[grind .] theorem formatText_ordinary (h : Heap) (template : Value) (t : Text) (v : Value) :
    Ordinary (formatText h template t v) := by
  grind [formatText]

@[grind .] theorem formatBytes_ordinary (h : Heap) (bs : List UInt8) (v : Value) :
    Ordinary (formatBytes h bs v) := by
  grind [formatBytes]

end Printf

namespace Value

@[grind .] theorem setDifference_ordinary (h : Heap) (a b : Value) :
    Memory.Ordinary (setDifference h a b) := by
  grind [setDifference]

@[grind ←] theorem numeric_ordinary {f : Number → Number → Except Fault Number}
    (each : ∀ m n, Ordinary (f m n)) (a b : Value) : Ordinary (numeric f a b) := by
  grind [numeric]

@[grind .] theorem repeated_ordinary {α : Type} (xs : List α) (times : Int) :
    Ordinary (repeated xs times) := by
  grind [repeated]

@[grind .] theorem repeatedAs_ordinary {α : Type} (v : Value) (make : List α → Value)
    (xs : List α) (times : Int) : Ordinary (repeatedAs v make xs times) := by
  grind [repeatedAs]

theorem repetition_ordinary {h : Heap} {sequence times : Value} {m : Memory Value}
    (repeats : repetition h sequence times = some m) : Memory.Ordinary m := by
  rw [repetition] at repeats
  cases number : times.int? with
  | none => simp [number] at repeats
  | some n =>
    simp only [number, Option.bind_eq_bind, Option.bind_some] at repeats
    cases sequence <;> grind

@[grind .] theorem sum_ordinary (h : Heap) (a b : Value) : Memory.Ordinary (sum h a b) := by
  fun_cases sum h a b <;> grind

@[grind .] theorem product_ordinary (h : Heap) (a b : Value) : Memory.Ordinary (product h a b) := by
  fun_cases product h a b <;> grind [repetition_ordinary]

@[grind .] theorem remainder_ordinary (h : Heap) (a b : Value) : Ordinary (remainder h a b) := by
  fun_cases remainder h a b <;> grind

@[grind .] theorem checkBinary_ordinary (h : Heap) (op : BinaryOp) (a b : Value) :
    Ordinary (checkBinary h op a b) := by
  fun_cases checkBinary h op a b <;> grind

/-- An operator in the table gives ordinary faults only. -/
theorem binary_ordinary {op : BinaryOp} (allowed : op.isAllowed = true) (a b : Value) :
    Memory.Ordinary (binary op a b) := by
  have applied (h : Heap) : Memory.Ordinary (apply h op a b) := by
    cases op <;> grind [apply, BinaryOp.isAllowed]
  grind [binary]

/-- An operator that is not in the table is refused. -/
theorem binary_foreign {op : BinaryOp} (foreign : op.isAllowed = false) (a b : Value) :
    binary op a b = throw (.violation ("Unsupported syntax in template expression: " ++ op.label)) := by
  cases op with
  | matMul | bitAnd | bitOr | bitXor | shiftLeft | shiftRight => rfl
  | _ => cases foreign

@[grind ←] theorem unaryNumber_ordinary {f : Number → Except Fault Number}
    (each : ∀ n, Ordinary (f n)) (a : Value) : Ordinary (unaryNumber f a) := by
  grind [unaryNumber]

@[grind .] theorem unary_ordinary (h : Heap) (op : UnaryOp) (a : Value) :
    Ordinary (unary h op a) := by
  fun_cases unary h op a <;> grind

@[grind .] theorem holds_ordinary (h : Heap) (op : CompareOp) (a b : Value) :
    Ordinary (holds h op a b) := by
  fun_cases holds h op a b <;> grind

end Value
end Phrasebook
