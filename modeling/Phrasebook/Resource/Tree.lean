import Phrasebook.Number.Basic
import Phrasebook.OrderedMap
import Phrasebook.Template.Compile
import Phrasebook.Text.Class
/-!
Resource trees: templates under dotted keys. Trees are merged key by key; a sequence counts as one
value. The main functions are `merge`, `keys` and `find`.
-/
namespace Phrasebook

inductive Resource where
  | leaf (template : Template)
  | sequence (items : List Resource)
  | tree (entries : List (Text × Resource))

instance : Inhabited Resource := ⟨.tree []⟩

abbrev ResourceTree := OrderedMap Resource

namespace Resource

def separator : Code := 46

def join (path segment : Text) : Text :=
  if path.isEmpty then segment else path ++ separator :: segment

mutual

/-- What a new value makes of the one in its place: trees are merged, all else is replaced. -/
def mergeValue : Option Resource → Resource → Resource
  | some (.tree old), .tree new => .tree (mergeEntries old new)
  | _, .tree new => .tree new
  | _, .leaf t => .leaf t
  | _, .sequence items => .sequence items

def mergeEntries (old : List (Text × Resource)) :
    List (Text × Resource) → List (Text × Resource)
  | [] => old
  | (key, value) :: rest =>
    mergeEntries (OrderedMap.insert old key (mergeValue (OrderedMap.get? old key) value)) rest

end

def merge (old new : ResourceTree) : ResourceTree := mergeEntries old new

mutual

/-- The dotted paths of the values in a tree, depth first. -/
def keysOf (path : Text) : Resource → List Text
  | .tree entries => keysFrom path entries
  | .leaf _ | .sequence _ => [path]

def keysFrom (path : Text) : List (Text × Resource) → List Text
  | [] => []
  | (key, value) :: rest => keysOf (join path key) value ++ keysFrom path rest

end

def keys (tree : ResourceTree) : List Text := keysFrom [] tree

/-- The position that a segment names in a sequence. Digits without place value are no numeral. -/
def position? (segment : Text) : Except Fault (Option Nat) :=
  if !segment.isEmpty && segment.all Text.isDigit then
    match Text.decimalNumeral? segment with
    | some n => if Number.maxDigits < segment.length then .error .value else .ok (some n)
    | none => .error .value
  else .ok none

def child? (segment : Text) : Resource → Except Fault (Option Resource)
  | .tree entries => .ok (OrderedMap.get? entries segment)
  | .sequence items => do
    match ← position? segment with
    | some i => pure items[i]?
    | none => pure none
  | .leaf _ => .ok none

def findFrom : List Text → Option Resource → Except Fault (Option Resource)
  | [], r => .ok r
  | _ :: _, none => .ok none
  | segment :: rest, some r => do findFrom rest (← child? segment r)

/-- The value under a dotted key; the empty key names the whole. -/
def find (key : Text) (root : Option Resource) : Except Fault (Option Resource) :=
  if key.isEmpty then .ok root else findFrom (Text.splitAt separator key) root

end Resource
end Phrasebook
