import Phrasebook.Expr.Basic
import Phrasebook.Number.Basic
import Phrasebook.OrderedMap
/-!
Values of template expressions. Lists, dictionaries, sets and objects can change and are references
into a heap; all else stands for itself, with an origin that tells values of equal content apart. A
lambda refers to a closure that the renderer keeps apart from the heap, so that no operation on
values can look inside it.
-/
namespace Phrasebook

/-- Functions that an application puts into template data. -/
inductive HostFunction where
  | upper | join | boom | apply | twice | keywords | length
  deriving DecidableEq

/-- Functions that receive the rendering context as their first argument. -/
inductive Helper where
  | tag | translate | relocale | pluralize
  deriving DecidableEq

inductive Kind where
  | none | bool | int | float | complex | text | bytes | ellipsis | decimal | date | tuple | slice
  | list | dict | set | object | keys | values | items
  | function | builtin | boundHelper | lookup | cls | method | part | lambda
  deriving DecidableEq

/-- The parts of a dictionary that a view shows. -/
inductive DictPart where
  | keys | values | items
  deriving DecidableEq

/-- Where an immutable value was made: by a literal, or as one of those made in the course of
evaluation. A unique one is the only one of its content. A new value is unmarked until it leaves the
operation that made it. -/
inductive Origin where
  | unmarked
  | unique
  | literal (place : Place)
  | made (serial : Nat)
  deriving DecidableEq

inductive Value where
  | none
  | bool (b : Bool)
  | int (n : Int) (origin : Origin)
  | float (x : Float) (origin : Origin)
  | complex (z : Complex) (origin : Origin)
  | text (t : Text) (origin : Origin)
  | bytes (bs : List UInt8) (origin : Origin)
  | ellipsis
  | decimal (d : Decimal) (origin : Origin)
  | date (year month day : Nat)
  | tuple (items : List Value) (origin : Origin)
  | slice (lower upper step : Value) (origin : Origin)
  | list (ref : Nat)
  | dict (ref : Nat)
  | set (ref : Nat)
  | object (ref : Nat)
  | view (part : DictPart) (ref : Nat) (origin : Origin)
  | function (f : HostFunction)
  | helper (h : Helper)
  | boundHelper (h : Helper) (context : Nat) (origin : Origin)
  | form (before after : Text) (origin : Origin)
  | lookup (ref : Nat)
  | cls (kind : Kind)
  | method (receiver : Value) (name : Text) (origin : Origin)
  | unbound (kind : Kind) (name : Text)
  | unboundPart (kind : Kind) (name : Text)
  | lambda (ref : Nat)

instance : Inhabited Value := ⟨.none⟩

/-- Entries of a dictionary in the order of first insertion. -/
abbrev Entries := List (Value × Value)

/-- The containers that can change, and how many origins have been given. A reference beyond the end
is an empty container. `sorting` names the lists that are being sorted, the latest last, and whether
they have been given items since. -/
structure Heap where
  lists : Array (List Value) := #[]
  dicts : Array (Entries) := #[]
  sets : Array (List Value) := #[]
  objects : Array (OrderedMap Value) := #[]
  origins : Nat := 0
  sorting : List (Nat × Bool) := []

/-- Computations that may read and change containers. -/
abbrev Memory := EStateM Fault Heap

namespace Kind

def label : Kind → Text
  | .none => "NoneType" | .bool => "bool" | .int => "int" | .float => "float"
  | .complex => "complex" | .text => "str" | .bytes => "bytes" | .ellipsis => "ellipsis"
  | .decimal => "Decimal" | .date => "date" | .tuple => "tuple" | .slice => "slice" | .list => "list"
  | .dict => "dict" | .set => "set" | .object => "SimpleNamespace" | .keys => "dict_keys"
  | .values => "dict_values" | .items => "dict_items" | .function => "function"
  | .builtin => "builtin_function_or_method" | .boundHelper => "BoundHelper"
  | .lookup => "partial" | .cls => "type" | .method => "method_descriptor"
  | .part => "getset_descriptor"
  | .lambda => "_TemplateLambda"

/-- The name of a class in reports on missing attributes, with its module where it has one. -/
def fullLabel : Kind → Text
  | .decimal => "decimal.Decimal"
  | .date => "datetime.date"
  | .object => "types.SimpleNamespace"
  | .lookup => "functools.partial"
  | k => k.label

end Kind

namespace HostFunction

def label : HostFunction → Text
  | .upper => "upper" | .join => "join" | .boom => "boom" | .apply => "apply"
  | .twice => "twice" | .keywords => "kw" | .length => "len"

def all : List HostFunction := [.upper, .join, .boom, .apply, .twice, .keywords, .length]

/-- The one function that is part of the host itself. -/
def kind : HostFunction → Kind
  | .length => .builtin
  | _ => .function

end HostFunction

namespace Helper

def label : Helper → Text
  | .tag => "tag" | .translate => "tr" | .relocale => "relocale" | .pluralize => "pluralize"

end Helper

namespace DictPart

def kind : DictPart → Kind
  | .keys => .keys | .values => .values | .items => .items

end DictPart

namespace Value

def ofInt (n : Int) : Value := int n .unmarked

def ofFloat (x : Float) : Value := float x .unmarked

def ofComplex (z : Complex) : Value := complex z .unmarked

/-- Whether texts of these characters are unique: the empty one, and single characters of eight
bits. -/
def isSingle : Text → Bool
  | [] => true
  | [c] => c < 256
  | _ => false

/-- A text read off another or off bytes. Single characters read off are unique. -/
def ofText (t : Text) : Value := text t (if isSingle t then .unique else .unmarked)

/-- A text put together. -/
def builtText (t : Text) : Value := text t (if t.isEmpty then .unique else .unmarked)

/-- A text that is a name in an expression. -/
def ofName (t : Text) : Value := text t .unique

/-- Bytes read off others or off a text. Single bytes read off are unique. -/
def ofBytes (bs : List UInt8) : Value :=
  bytes bs (if bs.length ≤ 1 then .unique else .unmarked)

/-- Bytes put together. -/
def builtBytes (bs : List UInt8) : Value :=
  bytes bs (if bs.isEmpty then .unique else .unmarked)

def ofDecimal (d : Decimal) : Value := decimal d .unmarked

def ofItems (items : List Value) : Value := tuple items .unmarked

def ofBounds (lower upper step : Value) : Value := slice lower upper step .unmarked

def kind : Value → Kind
  | none => .none | bool _ => .bool | int .. => .int | float .. => .float
  | complex .. => .complex | text .. => .text | bytes .. => .bytes | ellipsis => .ellipsis
  | decimal .. => .decimal | date .. => .date | tuple .. => .tuple | slice .. => .slice
  | list _ => .list | dict _ => .dict | set _ => .set | object _ => .object
  | view part .. => part.kind | function f => f.kind | helper _ => .function
  | boundHelper .. => .boundHelper | form .. => .function | lookup _ => .lookup | cls _ => .cls
  | method .. => .builtin | unbound .. => .method | unboundPart .. => .part
  | lambda _ => .lambda

def ofLiteral (place : Place) : Literal → Value
  | .none => none
  | .bool b => bool b
  | .int n => int n (.literal place)
  | .float x => float x (.literal place)
  | .imaginary x => complex ⟨0, x⟩ (.literal place)
  | .text t => text t (if isSingle t then .unique else .literal place)
  | .bytes bs => bytes bs (if bs.length ≤ 1 then .unique else .literal place)
  | .ellipsis => ellipsis

/-- The number a value is; truth values count as one and zero. -/
def number? : Value → Option Number
  | bool b => some (.int (if b then 1 else 0))
  | int n _ => some (.int n)
  | float x _ => some (.float x)
  | complex z _ => some (.complex z)
  | decimal d _ => some (.decimal d)
  | _ => Option.none

/-- The integer a value is; truth values count as one and zero. -/
def int? : Value → Option Int
  | bool b => some (if b then 1 else 0)
  | int n _ => some n
  | _ => Option.none

def ofNumber : Number → Value
  | .int n => ofInt n
  | .float x => ofFloat x
  | .complex z => ofComplex z
  | .decimal d => ofDecimal d

/-- Whether calling the value can be tried. -/
def isCallable : Value → Bool
  | function _ | helper _ | boundHelper .. | form .. | lookup _ | cls _ | method .. | unbound ..
  | lambda _ => true
  | _ => false

def isHelper : Value → Bool
  | helper _ => true
  | _ => false

mutual

/-- Gives origins to a value and to what is in it, from a serial on; those that have one keep it. -/
def markFrom (n : Nat) : Value → Value × Nat
  | int k .unmarked => (int k (.made n), n + 1)
  | float x .unmarked => (float x (.made n), n + 1)
  | complex z .unmarked => (complex z (.made n), n + 1)
  | text t .unmarked => (text t (.made n), n + 1)
  | bytes bs .unmarked => (bytes bs (.made n), n + 1)
  | decimal d .unmarked => (decimal d (.made n), n + 1)
  | tuple xs .unmarked =>
    let (xs, n) := markAllFrom n [] xs
    (tuple xs (.made n), n + 1)
  | slice a b c .unmarked =>
    let (a, n) := markFrom n a
    let (b, n) := markFrom n b
    let (c, n) := markFrom n c
    (slice a b c (.made n), n + 1)
  | view part r .unmarked => (view part r (.made n), n + 1)
  | boundHelper f c .unmarked => (boundHelper f c (.made n), n + 1)
  | form before after .unmarked => (form before after (.made n), n + 1)
  | method x name .unmarked =>
    let (x, n) := markFrom n x
    (method x name (.made n), n + 1)
  | v => (v, n)

/-- Marks values, those marked before them being given in reverse. -/
def markAllFrom (n : Nat) (marked : List Value) : List Value → List Value × Nat
  | [] => (marked.reverse, n)
  | x :: xs =>
    let (x, n) := markFrom n x
    markAllFrom n (x :: marked) xs

end

end Value

namespace Heap

def list (h : Heap) (r : Nat) : List Value := (h.lists[r]?).getD []

def dict (h : Heap) (r : Nat) : Entries := (h.dicts[r]?).getD []

def set (h : Heap) (r : Nat) : List Value := (h.sets[r]?).getD []

def object (h : Heap) (r : Nat) : OrderedMap Value := (h.objects[r]?).getD []

end Heap

namespace Memory

def mark (v : Value) : Memory Value :=
  modifyGet fun h =>
    let (v, n) := v.markFrom h.origins
    (v, { h with origins := n })

def markAll (items : List Value) : Memory (List Value) :=
  modifyGet fun h =>
    let (items, n) := Value.markAllFrom h.origins [] items
    (items, { h with origins := n })

def markEntries (entries : Entries) : Memory Entries := do
  let keys ← markAll (entries.map (·.1))
  let values ← markAll (entries.map (·.2))
  pure (keys.zip values)

def markFields (fields : OrderedMap Value) : Memory (OrderedMap Value) := do
  let values ← markAll (fields.map (·.2))
  pure ((fields.map (·.1)).zip values)

def newList (items : List Value) : Memory Value := do
  let items ← markAll items
  modifyGet fun h => (.list h.lists.size, { h with lists := h.lists.push items })

/-- A new dictionary; the keys are known to differ. -/
def newDict (entries : Entries) : Memory Value := do
  let entries ← markEntries entries
  modifyGet fun h => (.dict h.dicts.size, { h with dicts := h.dicts.push entries })

/-- A new set; the items are known to differ. -/
def newSet (items : List Value) : Memory Value := do
  let items ← markAll items
  modifyGet fun h => (.set h.sets.size, { h with sets := h.sets.push items })

def newObject (fields : OrderedMap Value) : Memory Value := do
  let fields ← markFields fields
  modifyGet fun h => (.object h.objects.size, { h with objects := h.objects.push fields })

def writeList (r : Nat) (items : List Value) : Memory Unit := do
  let items ← markAll items
  modify fun h => { h with
    lists := h.lists.setIfInBounds r items
    sorting := h.sorting.map fun s => (s.1, s.2 || (s.1 == r && !items.isEmpty)) }

/-- Takes the items out of a list for the time of a sort, of which it gives the number. -/
def beginSort (r : Nat) : Memory (List Value × Nat) :=
  modifyGet fun h => ((h.list r, h.sorting.length), { h with
    lists := h.lists.setIfInBounds r []
    sorting := h.sorting ++ [(r, false)] })

/-- Puts items back into the list that was sorted, and says whether it was given others
meanwhile. -/
def endSort (sort r : Nat) (items : List Value) : Memory Bool := do
  let wasFilled ← modifyGet fun h =>
    (h.sorting[sort]?.any (·.2), { h with sorting := h.sorting.take sort })
  writeList r items
  pure wasFilled

def writeDict (r : Nat) (entries : Entries) : Memory Unit := do
  let entries ← markEntries entries
  modify fun h => { h with dicts := h.dicts.setIfInBounds r entries }

def writeSet (r : Nat) (items : List Value) : Memory Unit := do
  let items ← markAll items
  modify fun h => { h with sets := h.sets.setIfInBounds r items }

end Memory
end Phrasebook
