import Phrasebook.Resource.Tree
import Phrasebook.Value.Datum
import Phrasebook.Value.Show
/-!
Compiling raw data into a resource tree. Mappings become trees, lists and tuples sequences, texts
templates; the first thing in depth-first order that fits nowhere is reported with its path.
-/
namespace Phrasebook.Resource

/-- What compilation knows of its place: the locale, and the budget of the templates. -/
structure Site where
  locale : Text
  budget : Budget

private def shapeError (d : Diagnostic) (locale path : Text) : Fault :=
  .own (.invalidShape (.diagnostic d) locale path)

/-- A text as a segment. It is neither empty nor does it contain the separator. -/
def textSegment (site : Site) (path : Text) (key : Value) : Except Fault Text :=
  let refuse : Except Fault Text := do
    let shown ← Value.quoted {} key
    throw (shapeError (Diagnostic.invalidKey site.locale path shown) site.locale path)
  match key with
  | .text t _ => if t.isEmpty || t.contains separator then refuse else .ok t
  | _ => refuse

/-- The key as a segment. An integer stands for its numeral. -/
def segmentOf (site : Site) (path : Text) : Value → Except Fault Text
  | .int n _ => do textSegment site path (Value.ofText (← Number.intText n))
  | v => textSegment site path v

private def leafError (site : Site) (path kind : Text) : Fault :=
  shapeError (Diagnostic.invalidLeaf site.locale path kind) site.locale path

mutual

/-- Compiles a value one level below `guard`. -/
def compileValue (site : Site) (guard : DepthGuard) (path : Text) : Datum → Except Fault Resource
  | .text t => do
    let _ ← guard.enter
    pure (.leaf (← Template.compile site.budget t))
  | .map entries => do
    let guard ← guard.enter
    pure (.tree (← compileEntries site guard path [] entries))
  | .list items => do
    let guard ← guard.enter
    pure (.sequence (← compileItems site guard path 0 items))
  | .tuple items => do
    let guard ← guard.enter
    pure (.sequence (← compileItems site guard path 0 items))
  | .shared _ d => compileValue site guard path d
  | d => do
    let _ ← guard.enter
    throw (leafError site path d.kindLabel)

def compileEntries (site : Site) (guard : DepthGuard) (path : Text)
    (done : ResourceTree) : List (Value × Datum) → Except Fault ResourceTree
  | [] => .ok done
  | (key, d) :: rest => do
    let segment ← segmentOf site path key
    let value ← compileValue site guard (join path segment) d
    compileEntries site guard path (done.insert segment value) rest

def compileItems (site : Site) (guard : DepthGuard) (path : Text) (index : Nat) :
    List Datum → Except Fault (List Resource)
  | [] => .ok []
  | d :: rest => do
    let numeral ← Number.intText index
    let value ← compileValue site guard (join path numeral) d
    pure (value :: (← compileItems site guard path (index + 1) rest))

end

/-- Compiles the data of a locale, whose root has to be a mapping. -/
def compile (site : Site) (maxDepth : Int) (data : Datum) : Except Fault ResourceTree :=
  match data.entries? with
  | some entries => compileEntries site (DepthGuard.new maxDepth) [] [] entries
  | none =>
    .error (shapeError (Diagnostic.rootNotMapping site.locale data.kindLabel) site.locale [])

/-- The warnings of compiling: a limit is clamped once the root is known to be a mapping. -/
def compileWarnings (maxDepth : Int) (data : Datum) : List LogRecord :=
  if data.entries?.isSome then Depth.clampWarnings maxDepth else []

end Phrasebook.Resource
