import Phrasebook.Value.Identity
/-!
Raw data as trees, before they are put on a heap or compiled. Keys of dictionaries and items of sets
are immutable values. What stands in several places under one mark becomes one value.
-/
namespace Phrasebook

inductive Datum where
  | none
  | bool (b : Bool)
  | int (n : Int)
  | float (x : Float)
  | text (t : Text)
  | bytes (bs : List UInt8)
  | decimal (d : Decimal)
  | date (year month day : Nat)
  | dateTime
  | function (f : HostFunction)
  | helper (h : Helper)
  | cls (kind : Kind)
  | form (before after : Text)
  | list (items : List Datum)
  | tuple (items : List Datum)
  | map (entries : List (Value × Datum))
  | set (items : List Value)
  | object (fields : List (Text × Datum))
  | lookup (entries : List (Value × Datum))
  | shared (mark : Nat) (datum : Datum)

instance : Inhabited Datum := ⟨.none⟩

namespace Datum

/-- The value of a datum without parts. -/
def atom? : Datum → Option Value
  | none => some .none
  | bool b => some (.bool b)
  | int n => some (.ofInt n)
  | float x => some (.ofFloat x)
  | text t => some (.ofText t)
  | bytes bs => some (.ofBytes bs)
  | decimal d => some (.ofDecimal d)
  | date y m d => some (.date y m d)
  | function f => some (.function f)
  | helper h => some (.helper h)
  | cls k => some (.cls k)
  | form before after => some (.form before after .unmarked)
  | _ => Option.none

def kindLabel : Datum → Text
  | dateTime => "datetime"
  | list _ => Kind.list.label
  | tuple _ => Kind.tuple.label
  | map _ => Kind.dict.label
  | set _ => Kind.set.label
  | object _ => Kind.object.label
  | lookup _ => Kind.lookup.label
  | shared _ d => d.kindLabel
  | d => (d.atom?.getD .none).kind.label

/-- The entries of a mapping. -/
def entries? : Datum → Option (List (Value × Datum))
  | map entries => some entries
  | shared _ d => entries? d
  | _ => Option.none

/-- Puts a datum under a key. A present key keeps its place. -/
def insertEntry : List (Value × Datum) → Value → Datum → List (Value × Datum)
  | [], key, d => [(key, d)]
  | e :: rest, key, d =>
    if e.1.sameKey key then (e.1, d) :: rest else e :: insertEntry rest key d

/-- A dictionary of entries, the last of several under one key. -/
def ofEntries (entries : List (Value × Datum)) : Datum :=
  map (entries.foldl (fun m e => insertEntry m e.1 e.2) [])

/-- Whether a datum can be a key. -/
def key? : Datum → Option Value
  | tuple items => (keys? items).map .ofItems
  | shared _ d => key? d
  | d => match d.atom? with
    | some v => if v.isHashable then some v else Option.none
    | Option.none => Option.none
where
  keys? : List Datum → Option (List Value)
    | [] => some []
    | d :: rest => match key? d, keys? rest with
      | some v, some vs => some (v :: vs)
      | _, _ => Option.none

/-- Conversions that remember the values of the marks they have met. -/
abbrev Conversion := StateT (List (Nat × Value)) Memory

/-- The value that a mark stands for, made when the mark is met first. -/
def remembered (mark : Nat) (make : Conversion Value) : Conversion Value := do
  match (← get).lookup mark with
  | some v => pure v
  | Option.none => do
    let v ← make
    modify ((mark, v) :: ·)
    pure v

mutual

def convert : Datum → Conversion Value
  | list items => do Memory.newList (← convertAll items)
  | tuple items => do Memory.mark (.ofItems (← convertAll items))
  | map entries => do Memory.newDict (← convertEntries entries)
  | set items => Memory.newSet (items.foldl Value.insertItem [])
  | object fields => do Memory.newObject (← convertFields fields)
  | lookup entries => do
    match ← Memory.newDict (← convertEntries entries) with
    | .dict r => pure (.lookup r)
    | v => pure v
  | shared mark d => remembered mark (convert d)
  | d => Memory.mark (d.atom?.getD .none)

def convertAll : List Datum → Conversion (List Value)
  | [] => pure []
  | d :: rest => do
    let v ← convert d
    pure (v :: (← convertAll rest))

def convertEntries : List (Value × Datum) → Conversion Entries
  | [] => pure []
  | (key, d) :: rest => do
    let v ← convert d
    pure ((key, v) :: (← convertEntries rest))

def convertFields : List (Text × Datum) → Conversion (OrderedMap Value)
  | [] => pure []
  | (name, d) :: rest => do
    let v ← convert d
    pure ((name, v) :: (← convertFields rest))

end

def toValue (d : Datum) : Memory Value := (convert d).run' []

/-- The entries of a dictionary whose keys are texts, which alone can be template names. -/
def named : Datum → List (Text × Datum)
  | map entries => entries.filterMap fun e => match e.1 with
    | .text name _ => some (name, e.2)
    | _ => Option.none
  | _ => []

def toNamedValues (fields : List (Text × Datum)) : Memory (OrderedMap Value) :=
  (convertFields fields).run' []

end Datum
end Phrasebook
