import Phrasebook.Locale.Tag
import Phrasebook.Resource.Compile
import Phrasebook.Resource.KeyCache
/-!
The store of resource trees by normalized tag. Loading compiles first and then merges, so that data
that cannot be compiled change nothing; what is asked about keys goes through a cache.
-/
namespace Phrasebook

structure ResourceStore where
  budget : Budget := .standard
  maxDepth : Int := Depth.defaultLimit
  trees : OrderedMap ResourceTree := []
  cache : KeyCache := {}
  unrecognized : List Text := []

namespace ResourceStore

def treeOf (s : ResourceStore) (code : Text) : ResourceTree := (s.trees.get? code).getD []

private def unrecognizedWarning (code : Text) : LogRecord :=
  ⟨.warning, "Locale " ++ Text.Quoted.text code
    ++ " is not recognized by CLDR data; loading anyway"⟩

def add (s : ResourceStore) (code : Text) (tree : ResourceTree) :
    ResourceStore × List LogRecord :=
  let isNew := !s.unrecognized.contains code && !Locale.isKnown code
  let (dropped, cache) := s.cache.invalidate code
  let store := { s with
    trees := s.trees.insert code (Resource.merge (s.treeOf code) tree)
    cache := cache
    unrecognized := if isNew then code :: s.unrecognized else s.unrecognized }
  (store,
    (if isNew then [unrecognizedWarning code] else [])
      ++ (if dropped then [⟨.debug, "Key-set cache invalidated for " ++ code⟩] else [])
      ++ [⟨.info, "Loaded locale " ++ code ++ ": " ++ Text.ofNat tree.length
        ++ " top-level keys merged"⟩])

def load (s : ResourceStore) (tag : Text) (data : Datum) :
    Except Fault ResourceStore × List LogRecord :=
  let code := Locale.normalize tag
  let warnings := Resource.compileWarnings s.maxDepth data
  match Resource.compile ⟨code, s.budget⟩ s.maxDepth data with
  | .ok tree =>
    let (store, records) := s.add code tree
    (.ok store, warnings ++ records)
  | .error f => (.error f, warnings)

def clear (s : ResourceStore) : ResourceStore × List LogRecord :=
  ({ s with trees := [], cache := s.cache.clear }, [⟨.info, "Reset all locales"⟩])

def remove (s : ResourceStore) (tag : Text) : ResourceStore × List LogRecord :=
  let code := Locale.normalize tag
  ({ s with trees := s.trees.erase code, cache := (s.cache.invalidate code).2 },
    [⟨.info, "Reset locale " ++ code⟩])

/-- The tags with a tree, in the order of their first load. -/
def locales (s : ResourceStore) : List Text := s.trees.keys

def hasLocale (s : ResourceStore) (tag : Text) : Bool := s.trees.has (Locale.normalize tag)

def find (s : ResourceStore) (tag key : Text) : Except Fault (Option Resource) :=
  Resource.find key ((s.trees.get? (Locale.normalize tag)).map .tree)

def lookup (s : ResourceStore) (tag key : Text) : Except Fault (Option Template) := do
  match ← s.find tag key with
  | some (.leaf t) => pure (some t)
  | _ => pure none

def keys (s : ResourceStore) (tag : Text) : List Text × ResourceStore :=
  let code := Locale.normalize tag
  match s.cache.get code with
  | (some keys, cache) => (keys, { s with cache := cache })
  | (none, cache) =>
    let keys := Resource.keys (s.treeOf code)
    (keys, { s with cache := cache.put code keys })

/-- The keys of `reference` that `target` lacks. -/
def missing (s : ResourceStore) (target reference : Text) : List Text × ResourceStore :=
  let (present, s) := s.keys target
  let (wanted, s) := s.keys reference
  (wanted.filter fun k => !present.contains k, s)

/-- The keys of `target` that `reference` lacks. -/
def extra (s : ResourceStore) (target reference : Text) : List Text × ResourceStore :=
  s.missing reference target

/-- How many keys of `reference` there are, and how many of them `target` has. -/
structure Progress where
  present : Nat
  total : Nat

def progress (s : ResourceStore) (target reference : Text) : Progress × ResourceStore :=
  let (wanted, s) := s.keys reference
  if wanted.isEmpty then (⟨0, 0⟩, s)
  else
    let (lacking, s) := s.missing target reference
    (⟨wanted.length - lacking.length, wanted.length⟩, s)

/-- The share as a number, one when nothing is wanted. -/
def Progress.share (p : Progress) : Float :=
  if p.total = 0 then 1 else Binary.ofRatio false p.present p.total

def tagList (tags : List Text) : Text :=
  "[" ++ Text.joinWith ", " (tags.map Text.Quoted.text) ++ "]"

def describe (s : ResourceStore) : Text := "ResourceStore(locales=" ++ tagList s.locales ++ ")"

end ResourceStore
end Phrasebook
