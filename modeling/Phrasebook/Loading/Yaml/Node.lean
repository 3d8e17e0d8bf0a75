import Phrasebook.Loading.Yaml.Token
import Phrasebook.OrderedMap
/-!
Nodes of YAML documents: scalars, sequences and mappings with their tags. An alias stands for the
node that carries its anchor. A text holds one document at most.
-/
namespace Phrasebook.Yaml

inductive Node where
  | scalar (tag : Option Text) (text : Text) (plain : Bool)
  | sequence (tag : Option Text) (items : List Node)
  | mapping (tag : Option Text) (pairs : List (Node × Node))

instance : Inhabited Node := ⟨.scalar none [] true⟩

namespace Node

/-- The node where nothing is written. -/
def absent (tag : Option Text) : Node := scalar tag [] true

/-- Tokens still to be read, and the anchored nodes. -/
structure Source where
  tokens : List Token
  anchors : OrderedMap Node := []

abbrev Build := StateT Source Option

private def fail {α : Type} : Build α := fun _ => none

private def ahead : Build (Option Token) := do return (← get).tokens.head?

private def advance : Build Unit := modify fun s => { s with tokens := s.tokens.drop 1 }

/-- Whether the next token is one of some; the end of the text is none of any. -/
private def nextIn (tokens : List Token) : Build Bool := do
  return (← ahead).any tokens.contains

private def accept (t : Token) : Build Bool := do
  if (← ahead) == some t then
    advance
    pure true
  else pure false

private def expect (t : Token) : Build Unit := do if !(← accept t) then fail

def coreTag : Text := "tag:yaml.org,2002:"

private def fullTag (handle : Option Text) (suffix : Text) : Build Text :=
  match handle with
  | none => pure suffix
  | some [33] => pure (33 :: suffix)
  | some [33, 33] => pure (coreTag ++ suffix)
  | some _ => fail

/-- Anchor and tag in front of a node, in either order. -/
private def properties : Build (Option Text × Option Text) := do
  let anchor? : Build (Option Text) := do
    match ← ahead with
    | some (.anchor name) =>
      advance
      pure (some name)
    | _ => pure none
  let tag? : Build (Option Text) := do
    match ← ahead with
    | some (.tag handle suffix) =>
      advance
      return some (← fullTag handle suffix)
    | _ => pure none
  match ← anchor? with
  | some name => return (some name, ← tag?)
  | none =>
    let tag ← tag?
    return (← anchor?, tag)

private def anchored (anchor : Option Text) (node : Node) : Build Node := do
  match anchor with
  | some name =>
    if (← get).anchors.has name then fail
    modify fun s => { s with anchors := s.anchors.insert name node }
    pure node
  | none => pure node

mutual

/-- A node; without a block context only flow collections and scalars. A list that begins at the
indentation of its key counts as indented if `indentless`. -/
private def node (block indentless : Bool) : Nat → Build Node
  | 0 => fail
  | fuel + 1 => do
    match ← ahead with
    | some (.alias_ name) =>
      advance
      match (← get).anchors.get? name with
      | some n => pure n
      | none => fail
    | _ =>
      let (anchor, tag) ← properties
      match ← ahead with
      | some (.scalar t plain) =>
        advance
        anchored anchor (.scalar tag t plain)
      | some .blockEntry =>
        if indentless then
          anchored anchor (.sequence tag (← indentlessItems [] fuel))
        else bare anchor tag
      | some .flowSequenceStart =>
        advance
        anchored anchor (.sequence tag (← flowItems true [] fuel))
      | some .flowMappingStart =>
        advance
        anchored anchor (.mapping tag (← flowPairs true [] fuel))
      | some .sequenceStart =>
        if block then
          advance
          anchored anchor (.sequence tag (← blockItems [] fuel))
        else bare anchor tag
      | some .mappingStart =>
        if block then
          advance
          anchored anchor (.mapping tag (← blockPairs [] fuel))
        else bare anchor tag
      | _ => bare anchor tag
where
  bare (anchor tag : Option Text) : Build Node :=
    if anchor.isNone && tag.isNone then fail else anchored anchor (absent tag)

private def nodeUnless (stops : List Token) (block indentless : Bool) : Nat → Build Node
  | 0 => fail
  | fuel + 1 => do
    if (← nextIn stops) || (← ahead).isNone then pure (absent none)
    else node block indentless fuel

private def blockItems (out : List Node) : Nat → Build (List Node)
  | 0 => fail
  | fuel + 1 => do
    if ← accept .blockEntry then
      let n ← nodeUnless [.blockEntry, .blockEnd] true false fuel
      blockItems (n :: out) fuel
    else
      expect .blockEnd
      pure out.reverse

private def indentlessItems (out : List Node) : Nat → Build (List Node)
  | 0 => fail
  | fuel + 1 => do
    if ← accept .blockEntry then
      let n ← nodeUnless [.blockEntry, .key, .value, .blockEnd] true false fuel
      indentlessItems (n :: out) fuel
    else pure out.reverse

private def blockPairs (out : List (Node × Node)) : Nat → Build (List (Node × Node))
  | 0 => fail
  | fuel + 1 => do
    if ← accept .key then
      let k ← nodeUnless [.key, .value, .blockEnd] true true fuel
      let v ← if ← accept .value then nodeUnless [.key, .value, .blockEnd] true true fuel
        else pure (absent none)
      blockPairs ((k, v) :: out) fuel
    else
      expect .blockEnd
      pure out.reverse

private def flowItems (first : Bool) (out : List Node) : Nat → Build (List Node)
  | 0 => fail
  | fuel + 1 => do
    if ← accept .flowSequenceEnd then pure out.reverse
    else
      if !first then expect .flowEntry
      if ← accept .key then
        let k ← nodeUnless [.value, .flowEntry, .flowSequenceEnd] false false fuel
        let v ← if ← accept .value then
            nodeUnless [.flowEntry, .flowSequenceEnd] false false fuel
          else pure (absent none)
        flowItems false (.mapping none [(k, v)] :: out) fuel
      else if ← accept .flowSequenceEnd then pure out.reverse
      else
        let n ← node false false fuel
        flowItems false (n :: out) fuel

private def flowPairs (first : Bool) (out : List (Node × Node)) :
    Nat → Build (List (Node × Node))
  | 0 => fail
  | fuel + 1 => do
    if ← accept .flowMappingEnd then pure out.reverse
    else
      if !first then expect .flowEntry
      if ← accept .key then
        let k ← nodeUnless [.value, .flowEntry, .flowMappingEnd] false false fuel
        let v ← if ← accept .value then
            nodeUnless [.flowEntry, .flowMappingEnd] false false fuel
          else pure (absent none)
        flowPairs false ((k, v) :: out) fuel
      else if ← accept .flowMappingEnd then pure out.reverse
      else
        let k ← node false false fuel
        flowPairs false ((k, absent none) :: out) fuel

end

private def skipEnds : Nat → Build Unit
  | 0 => pure ()
  | fuel + 1 => do if ← accept .documentEnd then skipEnds fuel

private def skipDirectives : Nat → Build Unit
  | 0 => pure ()
  | fuel + 1 => do if ← accept .directive then skipDirectives fuel

private def content (fuel : Nat) : Build Node :=
  nodeUnless [.directive, .documentStart, .documentEnd] true false fuel

private def document (fuel : Nat) : Build (Option Node) := do
  if ← nextIn [.directive, .documentStart] then
    skipDirectives fuel
    expect .documentStart
    let n ← content fuel
    skipEnds fuel
    pure (some n)
  else if (← ahead).isNone then pure none
  else
    let n ← node true false fuel
    skipEnds fuel
    pure (some n)

/-- The document that tokens make; nothing may follow it. -/
def ofTokens? (tokens : List Token) : Option (Option Node) :=
  match (document (4 * tokens.length + 4)).run { tokens := tokens } with
  | some (n, s) => if s.tokens.isEmpty then some n else none
  | none => none

end Node
end Phrasebook.Yaml
