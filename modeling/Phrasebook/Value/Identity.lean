import Phrasebook.Value.Basic
/-!
Identity of values, sameness of dictionary keys, and which values can be keys. None of these looks
into a container that can change.
-/
namespace Phrasebook.Value

/-- Whether two origins are one. An unmarked value is none but itself. -/
def sameOrigin : Origin → Origin → Bool
  | .unmarked, _ => false
  | a, b => a == b

/-- Integers of which there is one each. -/
def isShared (n : Int) : Bool := -5 ≤ n && n ≤ 256

/-- Whether two values are one: references to one container, or immutable values of one origin. Small
integers and the empty tuple exist only once. -/
def identical : Value → Value → Bool
  | none, none | ellipsis, ellipsis => true
  | bool a, bool b => a == b
  | int a o, int b p => a == b && (isShared a || sameOrigin o p)
  | text a o, text b p => sameOrigin o p && a == b
  | bytes a o, bytes b p => sameOrigin o p && a == b
  | float _ o, float _ p | complex _ o, complex _ p | decimal _ o, decimal _ p => sameOrigin o p
  | tuple xs o, tuple ys p => (xs.isEmpty && ys.isEmpty) || sameOrigin o p
  | slice _ _ _ o, slice _ _ _ p | view _ _ o, view _ _ p => sameOrigin o p
  | boundHelper _ _ o, boundHelper _ _ p | form _ _ o, form _ _ p => sameOrigin o p
  | method _ _ o, method _ _ p => sameOrigin o p
  | list r, list s => r == s
  | dict r, dict s => r == s
  | set r, set s => r == s
  | object r, object s => r == s
  | function f, function g => f == g
  | helper f, helper g => f == g
  | lookup r, lookup s => r == s
  | cls a, cls b => a == b
  | unbound a x, unbound b y | unboundPart a x, unboundPart b y => a == b && x == y
  | lambda r, lambda s => r == s
  | _, _ => false

def sameNumber (a b : Number) : Bool := match a.same b with
  | .ok b => b
  | .error _ => false

/-- Whether two values are one, or the same number. -/
def sameAtom (a b : Value) : Bool :=
  identical a b || match a.number?, b.number? with
    | some m, some n => sameNumber m n
    | _, _ => false

mutual

/-- Whether two values are the same key. Texts and numbers are by content, numbers whatever their
kind. -/
def sameKey : Value → Value → Bool
  | tuple xs _, tuple ys _ => sameKeys xs ys
  | method a x _, method b y _ => identical a b && x == y
  | text a _, text b _ => a == b
  | bytes a _, bytes b _ => a == b
  | date a b c, date x y z => a == x && b == y && c == z
  | a, b => sameAtom a b

def sameKeys : List Value → List Value → Bool
  | [], [] => true
  | x :: xs, y :: ys => sameKey x y && sameKeys xs ys
  | _, _ => false

end

def isQuiet : Decimal → Bool
  | .notANumber _ signaling _ => !signaling
  | _ => true

mutual

/-- Whether a value can be a key: it cannot change, and neither can anything in it. -/
def isHashable : Value → Bool
  | slice .. | list _ | dict _ | set _ | object _ => false
  | view part .. => part == .values
  | decimal d _ => isQuiet d
  | tuple xs _ => areHashable xs
  | _ => true

def areHashable : List Value → Bool
  | [] => true
  | x :: xs => isHashable x && areHashable xs

end

end Phrasebook.Value

namespace Phrasebook

namespace Entries

def find? (m : Entries) (key : Value) : Option Value :=
  (List.find? (fun e => e.1.sameKey key) m).map (·.2)

def has (m : Entries) (key : Value) : Bool := m.any fun e => e.1.sameKey key

/-- A present key keeps its place and its spelling. -/
def insert : Entries → Value → Value → Entries
  | [], key, value => [(key, value)]
  | e :: rest, key, value =>
    if e.1.sameKey key then (e.1, value) :: rest else e :: insert rest key value

def erase (m : Entries) (key : Value) : Entries := m.filter fun e => !e.1.sameKey key

def insertAll (m : Entries) (more : Entries) : Entries :=
  more.foldl (fun m e => insert m e.1 e.2) m

end Entries

namespace Value

def insertItem (items : List Value) (x : Value) : List Value :=
  if items.any (·.sameKey x) then items else items ++ [x]

end Value
end Phrasebook
