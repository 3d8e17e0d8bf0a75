import Phrasebook.Text.Basic
/-!
Maps from texts that keep the order of first insertion. A new value for a present key takes the old
one's place.
-/
namespace Phrasebook

abbrev OrderedMap (α : Type) := List (Text × α)

namespace OrderedMap

variable {α : Type}

def get? (m : OrderedMap α) (key : Text) : Option α := m.lookup key

def has (m : OrderedMap α) (key : Text) : Bool := m.any fun e => e.1 == key

def insert : OrderedMap α → Text → α → OrderedMap α
  | [], key, value => [(key, value)]
  | e :: rest, key, value =>
    if e.1 = key then (e.1, value) :: rest else e :: insert rest key value

def erase (m : OrderedMap α) (key : Text) : OrderedMap α := m.filter fun e => e.1 != key

def keys (m : OrderedMap α) : List Text := m.map (·.1)

def insertAll (m : OrderedMap α) (entries : List (Text × α)) : OrderedMap α :=
  entries.foldl (fun m e => insert m e.1 e.2) m

def ofList (entries : List (Text × α)) : OrderedMap α := insertAll [] entries

end OrderedMap
end Phrasebook
