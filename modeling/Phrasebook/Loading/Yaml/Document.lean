import Phrasebook.Loading.Yaml.Scalar
/-!
The data of YAML documents. Mappings may take over the entries of others by a merge key; their own
entries win.
-/
namespace Phrasebook.Yaml

private def malformed {α : Type} : Except Fault α := .error (.unworded .yaml)

private def isTagged (name : String) : Option Text → Bool
  | none => true
  | some tag => tag == [33] || tag == Node.coreTag ++ Text.ofString name

private def kindOf (tag : Option Text) (t : Text) (plain : Bool) : Option ScalarKind :=
  match tag with
  | none => some (if plain then .ofPlain t else .text)
  | some [33] => some (.ofPlain t)
  | some tag => ScalarKind.ofTag? tag

private def isMergeKey : Node → Bool
  | .scalar tag t plain => kindOf tag t plain == some .merge
  | _ => false

/-- The pairs that the value of a merge key brings in, the earlier winning. -/
private def mergedPairs : Nat → Node → Option (List (Node × Node))
  | 0, _ => none
  | fuel + 1, n => match n with
    | .mapping _ pairs => flattenWith (mergedPairs fuel) pairs
    | .sequence _ items => do
      let lists ← items.mapM fun i => match i with
        | .mapping _ pairs => flattenWith (mergedPairs fuel) pairs
        | _ => none
      some lists.reverse.flatten
    | _ => none
where
  flattenWith (merged : Node → Option (List (Node × Node))) (pairs : List (Node × Node)) :
      Option (List (Node × Node)) := do
    let brought ← (pairs.filter fun p => isMergeKey p.1).mapM fun p => merged p.2
    some (brought.flatten ++ pairs.filter fun p => !isMergeKey p.1)

/-- The pairs of a mapping with those of its merge keys in front. -/
private def flattened (fuel : Nat) (pairs : List (Node × Node)) : Option (List (Node × Node)) :=
  mergedPairs.flattenWith (mergedPairs fuel) pairs

def Node.toDatum : Nat → Node → Except Fault Datum
  | 0, _ => .error (.unworded .recursion)
  | fuel + 1, n => match n with
    | .scalar tag t plain => match kindOf tag t plain with
      | some kind => kind.read t
      | none => malformed
    | .sequence tag items =>
      if isTagged "seq" tag then do pure (.list (← items.mapM (toDatum fuel)))
      else malformed
    | .mapping tag pairs =>
      if isTagged "map" tag then
        match flattened fuel pairs with
        | none => malformed
        | some pairs => do
          let entries ← pairs.mapM fun p => do
            let key ← match p.1 with
              | .scalar none [61] true => Except.ok (Datum.text [61])
              | k => toDatum fuel k
            match key with
            | .dateTime => malformed
            | key => match key.key? with
              | some k => do pure (k, ← toDatum fuel p.2)
              | none => malformed
          pure (Datum.ofEntries entries)
      else malformed

def maxNesting : Nat := 1000

/-- Reads a document; an empty one holds nothing. -/
def read (t : Text) : Except Fault Datum :=
  match Token.ofText? t with
  | none => malformed
  | some tokens => match Node.ofTokens? tokens with
    | none => malformed
    | some none => .ok .none
    | some (some n) => n.toDatum maxNesting

end Phrasebook.Yaml
