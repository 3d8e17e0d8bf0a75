import Phrasebook.Number.Arithmetic
import Phrasebook.Plural.Rule
import Phrasebook.Proofs.Ordinary.Fault
import Phrasebook.Proofs.Value.Show
import Phrasebook.Value.Attribute
/-!
Numbers and values fail with ordinary faults only: comparing, writing, looking up and computing.
-/
namespace Phrasebook

namespace Number

@[grind .] theorem sameDecimal_ordinary (a b : Decimal) : Ordinary (sameDecimal a b) := by
  grind [sameDecimal]

@[grind .] theorem same_ordinary (a b : Number) : Ordinary (same a b) := by
  fun_cases same a b <;> grind

@[grind .] theorem orderDecimal_ordinary (a b : Decimal) : Ordinary (orderDecimal a b) := by
  grind [orderDecimal]

@[grind .] theorem order_ordinary (a b : Number) : Ordinary (order a b) := by
  fun_cases order a b <;> grind

@[grind .] theorem intText_ordinary (n : Int) : Ordinary (intText n) := by
  grind [intText]

@[grind .] theorem toFloat_ordinary (n : Int) : Ordinary (toFloat n) := by
  grind [toFloat]

@[grind .] theorem divisionByZero_isOrdinary : divisionByZero.IsOrdinary := .unworded .zeroDivision

@[grind .] theorem unify_ordinary (a b : Number) : Ordinary (unify a b) := by
  fun_cases unify a b <;> grind

@[grind .] theorem ofDecimal_ordinary (r : Except Decimal.Trap Decimal) : Ordinary (ofDecimal r) := by
  fun_cases ofDecimal r <;> grind

@[grind .] theorem add_ordinary (a b : Number) : Ordinary (add a b) := by
  grind [add]

@[grind .] theorem subtract_ordinary (a b : Number) : Ordinary (subtract a b) := by
  grind [subtract]

@[grind .] theorem multiply_ordinary (a b : Number) : Ordinary (multiply a b) := by
  grind [multiply]

@[grind .] theorem intQuotient_ordinary (a b : Int) : Ordinary (intQuotient a b) := by
  grind [intQuotient]

@[grind .] theorem divide_ordinary (a b : Number) : Ordinary (divide a b) := by
  fun_cases divide a b <;> grind

@[grind .] theorem floorDivide_ordinary (a b : Number) : Ordinary (floorDivide a b) := by
  grind [floorDivide]

@[grind .] theorem modulo_ordinary (a b : Number) : Ordinary (modulo a b) := by
  grind [modulo]

@[grind .] theorem complexPower_ordinary (a b : Complex) : Ordinary (complexPower a b) := by
  grind [complexPower]

@[grind .] theorem floatPower_ordinary (a b : Float) : Ordinary (floatPower a b) := by
  grind [floatPower]

@[grind .] theorem power_ordinary (a b : Number) : Ordinary (power a b) := by
  grind [power]

@[grind .] theorem negate_ordinary (n : Number) : Ordinary n.negate := by
  fun_cases negate n <;> grind

@[grind .] theorem plus_ordinary (n : Number) : Ordinary n.plus := by
  fun_cases plus n <;> grind

@[grind .] theorem invert_ordinary (n : Number) : Ordinary n.invert := by
  fun_cases invert n <;> grind

@[grind .] theorem magnitude_ordinary (n : Number) : Ordinary n.magnitude := by
  fun_cases magnitude n <;> grind

end Number

namespace Value

section
variable {p : Value → Except Fault Bool} (each : ∀ a, Ordinary (p a))
include each

theorem allM_ordinary (xs : List Value) : Ordinary (allM p xs) := by
  induction xs with
  | nil => exact .ok true
  | cons x rest ih => grind [allM]

theorem anyM_ordinary (xs : List Value) : Ordinary (anyM p xs) := by
  induction xs with
  | nil => exact .ok false
  | cons x rest ih => grind [anyM]

end

section
variable {same : Value → Value → Except Fault Bool} (each : ∀ a b, Ordinary (same a b))
include each

theorem allPairs_ordinary (xs ys : List Value) : Ordinary (allPairs same xs ys) := by
  induction xs generalizing ys with
  | nil => cases ys <;> exact .ok _
  | cons x xs ih => cases ys <;> grind [allPairs]

theorem sameItemBy_ordinary (a b : Value) : Ordinary (sameItemBy same a b) := by
  grind [sameItemBy]

theorem sameEntries_ordinary (m n rest : Entries) : Ordinary (sameEntries same m n rest) := by
  induction rest with
  | nil => exact .ok _
  | cons e rest ih => grind [sameEntries, sameItemBy_ordinary each]

theorem sameFields_ordinary (m n rest : OrderedMap Value) : Ordinary (sameFields same m n rest) := by
  induction rest with
  | nil => exact .ok _
  | cons e rest ih => grind [sameFields, sameItemBy_ordinary each]

theorem setHolds_ordinary (h : Heap) (container item : Value) :
    Ordinary (setHolds same h container item) := by
  fun_cases setHolds same h container item <;> grind [sameItemBy_ordinary each]

theorem sameSets_ordinary (h : Heap) (a b : Value) : Ordinary (sameSets same h a b) := by
  grind [sameSets, allM_ordinary (setHolds_ordinary each h b)]

theorem sameOther_ordinary (h : Heap) (a b : Value) : Ordinary (sameOther same h a b) := by
  grind [sameOther, sameSets_ordinary each h]

end

theorem sameWithin_ordinary (h : Heap) (fuel : Nat) (a b : Value) :
    Ordinary (sameWithin h fuel a b) := by
  induction fuel generalizing a b with
  | zero => exact .error (.unworded .recursion)
  | succ fuel ih =>
    have items := sameItemBy_ordinary ih
    unfold sameWithin
    split <;> grind [allPairs_ordinary items, sameEntries_ordinary ih, sameFields_ordinary ih,
      sameOther_ordinary ih]

@[grind .] theorem same_ordinary (h : Heap) (a b : Value) : Ordinary (same h a b) :=
  sameWithin_ordinary h nestingLimit a b

@[grind .] theorem sameItem_ordinary (h : Heap) (a b : Value) : Ordinary (sameItem h a b) :=
  sameItemBy_ordinary (same_ordinary h) a b

@[grind .] theorem dropCommon_ordinary (h : Heap) (xs ys : List Value) :
    Ordinary (dropCommon h xs ys) := by
  fun_induction dropCommon h xs ys <;> grind

@[grind .] theorem compareSets_ordinary (h : Heap) (op : Comparison) (a b : Value)
    (xs ys : List Value) : Ordinary (compareSets h op a b xs ys) := by
  have subset (container : Value) (items : List Value) :
      Ordinary (allM (setHolds (same h) h container) items) :=
    allM_ordinary (setHolds_ordinary (same_ordinary h) h container) items
  fun_cases compareSets h op a b xs ys <;> grind

@[grind .] theorem compareOther_ordinary (h : Heap) (op : Comparison) (a b : Value) :
    Ordinary (compareOther h op a b) := by
  grind [compareOther]

theorem compareWithin_ordinary (h : Heap) (op : Comparison) (fuel : Nat) (a b : Value) :
    Ordinary (compareWithin h op fuel a b) := by
  induction fuel generalizing a b with
  | zero => exact .error (.unworded .recursion)
  | succ fuel ih =>
    have sequences (xs ys : List Value) :
        Ordinary (compareSequences (compareWithin h op fuel) h op xs ys) := by
      grind [compareSequences]
    unfold compareWithin
    split <;> grind

@[grind .] theorem compareBy_ordinary (h : Heap) (op : Comparison) (a b : Value) :
    Ordinary (compareBy h op a b) :=
  compareWithin_ordinary h op nestingLimit a b

@[grind .] theorem contains_ordinary (h : Heap) (container item : Value) :
    Ordinary (contains h container item) := by
  have anywhere := anyM_ordinary (sameItem_ordinary h item)
  have held := setHolds_ordinary (same_ordinary h) h
  fun_cases contains h container item <;> grind

theorem isOrdinary_of_isUnwritable {f : Fault} (unwritable : IsUnwritable f) : f.IsOrdinary := by
  rcases unwritable with rfl | rfl
  · exact .unworded .value
  · exact .unworded .recursion

@[grind .] theorem quoted_ordinary (h : Heap) (v : Value) : Ordinary (quoted h v) :=
  fun f failed => isOrdinary_of_isUnwritable (quoted_failsOnly h v f failed)

@[grind .] theorem plain_ordinary (h : Heap) (v : Value) : Ordinary (plain h v) := by
  fun_cases plain h v <;> grind

@[grind .] theorem shown_ordinary (h : Heap) (v : Value) : Ordinary (shown h v) := by
  fun_cases shown h v <;> grind

@[grind .] theorem asciiQuoted_ordinary (h : Heap) (v : Value) : Ordinary (asciiQuoted h v) := by
  grind [asciiQuoted]

@[grind .] theorem items_ordinary (h : Heap) (v : Value) : Ordinary (v.items h) := by
  fun_cases items h v <;> grind

@[grind .] theorem bound_ordinary (v : Value) : Ordinary (bound v) := by
  fun_cases bound v <;> grind

@[grind .] theorem sliceOf?_ordinary {α : Type} (xs : List α) (lower upper step : Value) :
    Ordinary (sliceOf? xs lower upper step) := by
  grind [sliceOf?]

@[grind .] theorem sliceOf_ordinary {α : Type} (v : Value) (make : List α → Value) (xs : List α)
    (lower upper step : Value) : Ordinary (sliceOf v make xs lower upper step) := by
  grind [sliceOf]

@[grind ←] theorem itemOf_ordinary {α : Type} {missing : Fault} (ordinary : missing.IsOrdinary)
    (xs : List α) (index : Value) : Ordinary (itemOf missing xs index) := by
  grind [itemOf]

@[grind .] theorem entryOf_ordinary (h : Heap) (entries : Entries) (key : Value) :
    Ordinary (entryOf h entries key) := by
  grind [entryOf]

@[grind .] theorem itemAt_ordinary (h : Heap) (target index : Value) :
    Ordinary (itemAt h target index) := by
  fun_cases itemAt h target index <;> grind

@[grind .] theorem sliceAt_ordinary (h : Heap) (target lower upper step : Value) :
    Memory.Ordinary (sliceAt h target lower upper step) := by
  fun_cases sliceAt h target lower upper step <;> grind

@[grind .] theorem subscript_ordinary (target index : Value) :
    Memory.Ordinary (subscript target index) := by
  grind [subscript]

@[grind .] theorem classMember_ordinary (k : Kind) (name : Text) : Ordinary (classMember k name) := by
  grind [classMember]

@[grind .] theorem methodOf_ordinary (v : Value) (name : Text) : Ordinary (methodOf v name) := by
  grind [methodOf]

@[grind .] theorem member_ordinary (h : Heap) (v : Value) (name : Text) :
    Ordinary (member h v name) := by
  fun_cases member h v name <;> grind

end Value
end Phrasebook
