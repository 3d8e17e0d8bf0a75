import Phrasebook.Value.Identity
import Mathlib.Logic.Function.Basic
import Mathlib.Tactic.SplitIfs
/-!
Values under a renaming of their references and serials. Kinds, numbers and truth about keys do not
notice the names; identity does not notice an injective renaming.
-/
namespace Phrasebook

/-- Whether a helper looks into the store. -/
def Helper.asksStore : Helper → Bool
  | translate | relocale => true
  | tag | pluralize => false

/-- New names for all that values refer to, and for the serials of their origins. A context has a name
of its own for the helpers that look into the store, its reader. `sorts` says how many sorts are
under way besides, and `delay` by how much the clock is ahead. -/
structure Renaming where
  list : Nat → Nat
  dict : Nat → Nat
  set : Nat → Nat
  object : Nat → Nat
  lambda : Nat → Nat
  run : Nat → Nat
  context : Nat → Nat
  reader : Nat → Nat
  serial : Nat → Nat
  sorts : Nat
  delay : Nat

/-- Different names stay different. -/
structure Renaming.IsInjective (ρ : Renaming) : Prop where
  list : Function.Injective ρ.list
  dict : Function.Injective ρ.dict
  set : Function.Injective ρ.set
  object : Function.Injective ρ.object
  lambda : Function.Injective ρ.lambda
  run : Function.Injective ρ.run
  context : Function.Injective ρ.context
  reader : Function.Injective ρ.reader
  serial : Function.Injective ρ.serial

/-- The name of a context for a helper. -/
def Renaming.contextFor (ρ : Renaming) (h : Helper) : Nat → Nat :=
  if h.asksStore then ρ.reader else ρ.context

theorem Renaming.contextFor_eq {ρ : Renaming} (readers : ρ.reader = ρ.context) (h : Helper) :
    ρ.contextFor h = ρ.context := by
  rw [contextFor, readers, ite_self]

def Origin.rename (ρ : Renaming) : Origin → Origin
  | .made n => .made (ρ.serial n)
  | o => o

namespace Value

mutual

def rename (ρ : Renaming) : Value → Value
  | none => none
  | bool b => bool b
  | int n o => int n (o.rename ρ)
  | float x o => float x (o.rename ρ)
  | complex z o => complex z (o.rename ρ)
  | text t o => text t (o.rename ρ)
  | bytes bs o => bytes bs (o.rename ρ)
  | ellipsis => ellipsis
  | decimal d o => decimal d (o.rename ρ)
  | date y m d => date y m d
  | tuple items o => tuple (renameAll ρ items) (o.rename ρ)
  | slice a b c o => slice (rename ρ a) (rename ρ b) (rename ρ c) (o.rename ρ)
  | list r => list (ρ.list r)
  | dict r => dict (ρ.dict r)
  | set r => set (ρ.set r)
  | object r => object (ρ.object r)
  | view part r o => view part (ρ.dict r) (o.rename ρ)
  | function f => function f
  | helper h => helper h
  | boundHelper h c o => boundHelper h (ρ.contextFor h c) (o.rename ρ)
  | form before after o => form before after (o.rename ρ)
  | lookup r => lookup (ρ.dict r)
  | cls k => cls k
  | method x name o => method (rename ρ x) name (o.rename ρ)
  | unbound k name => unbound k name
  | unboundPart k name => unboundPart k name
  | lambda r => lambda (ρ.lambda r)

def renameAll (ρ : Renaming) : List Value → List Value
  | [] => []
  | x :: xs => rename ρ x :: renameAll ρ xs

end

attribute [simp] rename

@[simp] theorem renameAll_eq (ρ : Renaming) (xs : List Value) :
    renameAll ρ xs = xs.map (rename ρ) := by
  induction xs with
  | nil => rfl
  | cons x xs ih => rw [renameAll, ih, List.map_cons]

end Value

def Entries.rename (ρ : Renaming) (m : Entries) : Entries :=
  m.map fun e => (e.1.rename ρ, e.2.rename ρ)

@[simp] theorem Entries.rename_nil (ρ : Renaming) : Entries.rename ρ [] = [] := rfl

@[simp] theorem Entries.rename_cons (ρ : Renaming) (e : Value × Value) (m : Entries) :
    Entries.rename ρ (e :: m) = (e.1.rename ρ, e.2.rename ρ) :: m.rename ρ := rfl

@[simp] theorem Entries.length_rename (ρ : Renaming) (m : Entries) :
    (m.rename ρ).length = m.length := List.length_map _

theorem Entries.keys_rename (ρ : Renaming) (m : Entries) :
    (m.rename ρ).map (·.1) = (m.map (·.1)).map (Value.rename ρ) := by
  simp [Entries.rename]

theorem Entries.values_rename (ρ : Renaming) (m : Entries) :
    (m.rename ρ).map (·.2) = (m.map (·.2)).map (Value.rename ρ) := by
  simp [Entries.rename]

def OrderedMap.rename (ρ : Renaming) (m : OrderedMap Value) : OrderedMap Value :=
  m.map fun e => (e.1, e.2.rename ρ)

@[simp] theorem OrderedMap.rename_nil (ρ : Renaming) : OrderedMap.rename ρ [] = [] := rfl

@[simp] theorem OrderedMap.rename_cons (ρ : Renaming) (e : Text × Value) (m : OrderedMap Value) :
    OrderedMap.rename ρ (e :: m) = (e.1, e.2.rename ρ) :: m.rename ρ := rfl

@[simp] theorem OrderedMap.length_rename (ρ : Renaming) (m : OrderedMap Value) :
    (m.rename ρ).length = m.length := List.length_map _

theorem OrderedMap.keys_rename (ρ : Renaming) (m : OrderedMap Value) :
    (m.rename ρ).map (·.1) = m.map (·.1) := by
  simp [OrderedMap.rename]

theorem OrderedMap.values_rename (ρ : Renaming) (m : OrderedMap Value) :
    (m.rename ρ).map (·.2) = (m.map (·.2)).map (Value.rename ρ) := by
  simp [OrderedMap.rename]

theorem OrderedMap.any_key_rename (ρ : Renaming) (m : OrderedMap Value) (p : Text → Bool) :
    (m.rename ρ).any (fun e => p e.1) = m.any fun e => p e.1 := by
  simp [OrderedMap.rename, Function.comp_def]

theorem OrderedMap.zip_rename (ρ : Renaming) (names : List Text) (values : List Value) :
    names.zip (values.map (Value.rename ρ)) = OrderedMap.rename ρ (names.zip values) := by
  rw [List.zip_map_right]
  rfl

namespace Value

variable (ρ : Renaming)

@[simp] theorem rename_ofInt (n : Int) : (ofInt n).rename ρ = ofInt n := rfl

@[simp] theorem rename_ofFloat (x : Float) : (ofFloat x).rename ρ = ofFloat x := rfl

@[simp] theorem rename_ofComplex (z : Complex) : (ofComplex z).rename ρ = ofComplex z := rfl

@[simp] theorem rename_ofDecimal (d : Decimal) : (ofDecimal d).rename ρ = ofDecimal d := rfl

@[simp] theorem rename_ofName (t : Text) : (ofName t).rename ρ = ofName t := rfl

@[simp] theorem rename_ofText (t : Text) : (ofText t).rename ρ = ofText t := by
  rw [ofText]
  split_ifs <;> rfl

@[simp] theorem rename_builtText (t : Text) : (builtText t).rename ρ = builtText t := by
  rw [builtText]
  split_ifs <;> rfl

@[simp] theorem rename_ofBytes (bs : List UInt8) : (ofBytes bs).rename ρ = ofBytes bs := by
  rw [ofBytes]
  split_ifs <;> rfl

@[simp] theorem rename_builtBytes (bs : List UInt8) : (builtBytes bs).rename ρ = builtBytes bs := by
  rw [builtBytes]
  split_ifs <;> rfl

@[simp] theorem rename_ofItems (items : List Value) :
    (ofItems items).rename ρ = ofItems (items.map (rename ρ)) := by
  simp [ofItems, Origin.rename]

@[simp] theorem rename_ofBounds (a b c : Value) :
    (ofBounds a b c).rename ρ = ofBounds (a.rename ρ) (b.rename ρ) (c.rename ρ) := by
  simp [ofBounds, Origin.rename]

@[simp] theorem rename_ofNumber (n : Number) : (ofNumber n).rename ρ = ofNumber n := by
  cases n <;> rfl

@[simp] theorem rename_ofLiteral (place : Place) (l : Literal) :
    (ofLiteral place l).rename ρ = ofLiteral place l := by
  cases l with
  | text t =>
    rw [ofLiteral]
    split_ifs <;> rfl
  | bytes bs =>
    rw [ofLiteral]
    split_ifs <;> rfl
  | _ => rfl

@[simp] theorem kind_rename (v : Value) : (v.rename ρ).kind = v.kind := by
  cases v <;> simp [kind]

@[simp] theorem number?_rename (v : Value) : (v.rename ρ).number? = v.number? := by
  cases v <;> simp [number?]

@[simp] theorem int?_rename (v : Value) : (v.rename ρ).int? = v.int? := by
  cases v <;> simp [int?]

@[simp] theorem isCallable_rename (v : Value) : (v.rename ρ).isCallable = v.isCallable := by
  cases v <;> simp [isCallable]

end Value

theorem OrderedMap.entries_rename (ρ : Renaming) (m : OrderedMap Value) :
    ((m.rename ρ).map fun e => (Value.ofName e.1, e.2)) =
      Entries.rename ρ (m.map fun e => (Value.ofName e.1, e.2)) := by
  simp [rename, Entries.rename]

theorem Renaming.beq_eq {f : Nat → Nat} (injective : Function.Injective f) (m n : Nat) :
    (f m == f n) = (m == n) := by
  rw [Bool.eq_iff_iff, beq_iff_eq, beq_iff_eq]
  exact injective.eq_iff

namespace Value

variable {ρ : Renaming} (injective : ρ.IsInjective)
include injective

theorem sameOrigin_rename (o p : Origin) :
    sameOrigin (o.rename ρ) (p.rename ρ) = sameOrigin o p := by
  cases o with
  | made m =>
    cases p with
    | made n =>
      rw [Bool.eq_iff_iff]
      simp [sameOrigin, Origin.rename, injective.serial.eq_iff]
    | _ => rfl
  | _ => cases p <;> rfl

theorem identical_rename (a b : Value) : (a.rename ρ).identical (b.rename ρ) = a.identical b := by
  have list := Renaming.beq_eq injective.list
  have dict := Renaming.beq_eq injective.dict
  have set := Renaming.beq_eq injective.set
  have object := Renaming.beq_eq injective.object
  have lambda := Renaming.beq_eq injective.lambda
  have origin := sameOrigin_rename injective
  cases a <;> cases b <;> first | rfl | simp only [rename, identical, list, dict, set, object,
    lambda, origin, renameAll_eq, List.isEmpty_map]

theorem sameAtom_rename (a b : Value) : (a.rename ρ).sameAtom (b.rename ρ) = a.sameAtom b := by
  rw [sameAtom, identical_rename injective, number?_rename, number?_rename, sameAtom]

mutual

theorem sameKey_rename (a b : Value) : (a.rename ρ).sameKey (b.rename ρ) = a.sameKey b := by
  have atom := sameAtom_rename injective a b
  cases a with
  | tuple xs o =>
    cases b with
    | tuple ys p => simpa [sameKey] using sameKeys_rename xs ys
    | _ => simpa [sameKey] using atom
  | method x name o =>
    cases b with
    | method y other p => simp [sameKey, identical_rename injective]
    | _ => simpa [sameKey] using atom
  | text | bytes | date => cases b <;> first | exact atom | simp [sameKey]
  | _ =>
    simp only [rename, sameKey]
    exact atom

theorem sameKeys_rename (xs ys : List Value) :
    sameKeys (xs.map (rename ρ)) (ys.map (rename ρ)) = sameKeys xs ys := by
  cases xs with
  | nil => cases ys <;> rfl
  | cons x xs =>
    cases ys with
    | nil => rfl
    | cons y ys =>
      rw [List.map_cons, List.map_cons, sameKeys, sameKeys, sameKey_rename x y,
        sameKeys_rename xs ys]

end

omit injective

mutual

@[simp] theorem isHashable_rename (v : Value) : (v.rename ρ).isHashable = v.isHashable := by
  cases v with
  | tuple xs o => simpa [isHashable] using areHashable_rename xs
  | _ => simp [isHashable]

theorem areHashable_rename (xs : List Value) :
    areHashable (xs.map (rename ρ)) = areHashable xs := by
  cases xs with
  | nil => rfl
  | cons x xs =>
    rw [List.map_cons, areHashable, areHashable, isHashable_rename x, areHashable_rename xs]

end

include injective

theorem insertItem_rename (items : List Value) (x : Value) :
    insertItem (items.map (rename ρ)) (x.rename ρ) = (insertItem items x).map (rename ρ) := by
  simp only [insertItem, List.any_map, Function.comp_def, sameKey_rename injective]
  split_ifs
  · rfl
  · rw [List.map_append, List.map_singleton]

theorem insertItems_rename (items xs : List Value) :
    (xs.map (rename ρ)).foldl insertItem (items.map (rename ρ)) =
      (xs.foldl insertItem items).map (rename ρ) := by
  induction xs generalizing items with
  | nil => rfl
  | cons x rest ih =>
    rw [List.map_cons, List.foldl_cons, insertItem_rename injective, ih, List.foldl_cons]

end Value

namespace Entries

variable {ρ : Renaming} (injective : ρ.IsInjective) (m : Entries) (key value : Value)
include injective

theorem find?_rename : (m.rename ρ).find? (key.rename ρ) = (m.find? key).map (Value.rename ρ) := by
  simp only [find?, rename, List.find?_map, Function.comp_def, Value.sameKey_rename injective,
    Option.map_map]

theorem has_rename : (m.rename ρ).has (key.rename ρ) = m.has key := by
  simp only [has, rename, List.any_map, Function.comp_def, Value.sameKey_rename injective]

theorem insert_rename :
    (m.rename ρ).insert (key.rename ρ) (value.rename ρ) = (m.insert key value).rename ρ := by
  induction m with
  | nil => rfl
  | cons e rest ih =>
    simp only [rename, List.map_cons, insert, Value.sameKey_rename injective] at ih ⊢
    split_ifs
    · rfl
    · rw [ih, List.map_cons]

theorem erase_rename : (m.rename ρ).erase (key.rename ρ) = (m.erase key).rename ρ := by
  simp only [erase, rename, List.filter_map, Function.comp_def, Value.sameKey_rename injective]

theorem insertAll_rename (more : Entries) :
    (m.rename ρ).insertAll (more.rename ρ) = (m.insertAll more).rename ρ := by
  induction more generalizing m with
  | nil => rfl
  | cons e rest ih =>
    change ((m.rename ρ).insert (e.1.rename ρ) (e.2.rename ρ)).insertAll (rename ρ rest) = _
    rw [insert_rename injective, ih]
    rfl

end Entries
end Phrasebook
