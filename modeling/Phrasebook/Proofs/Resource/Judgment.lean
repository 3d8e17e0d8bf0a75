import Phrasebook.Proofs.Outcome
import Phrasebook.Resource.Compile
/-!
Compilation that succeeds, as a judgment on raw data and resources. Each level is entered, each key and
each position is a segment, and the parts compile below these.
-/
namespace Phrasebook.Resource

mutual

inductive Compiles (site : Site) : DepthGuard → Text → Datum → Resource → Prop
  | text {guard inner : DepthGuard} {path t : Text} {template : Template}
      (entered : guard.enter = .ok inner)
      (fromSource : Template.compile site.budget t = .ok template) :
      Compiles site guard path (.text t) (.leaf template)
  | map {guard inner : DepthGuard} {path : Text} {entries : List (Value × Datum)}
      {tree : ResourceTree} (entered : guard.enter = .ok inner)
      (compiled : CompilesEntries site inner path [] entries tree) :
      Compiles site guard path (.map entries) (.tree tree)
  | list {guard inner : DepthGuard} {path : Text} {items : List Datum} {values : List Resource}
      (entered : guard.enter = .ok inner) (compiled : CompilesItems site inner path 0 items values) :
      Compiles site guard path (.list items) (.sequence values)
  | tuple {guard inner : DepthGuard} {path : Text} {items : List Datum} {values : List Resource}
      (entered : guard.enter = .ok inner) (compiled : CompilesItems site inner path 0 items values) :
      Compiles site guard path (.tuple items) (.sequence values)
  | shared {guard : DepthGuard} {path : Text} {mark : Nat} {d : Datum} {r : Resource}
      (compiled : Compiles site guard path d r) : Compiles site guard path (.shared mark d) r

inductive CompilesEntries (site : Site) :
    DepthGuard → Text → ResourceTree → List (Value × Datum) → ResourceTree → Prop
  | nil {guard : DepthGuard} {path : Text} {done : ResourceTree} :
      CompilesEntries site guard path done [] done
  | cons {guard : DepthGuard} {path segment : Text} {done tree : ResourceTree} {key : Value}
      {d : Datum} {value : Resource} {rest : List (Value × Datum)}
      (found : segmentOf site path key = .ok segment)
      (compiled : Compiles site guard (join path segment) d value)
      (later : CompilesEntries site guard path (done.insert segment value) rest tree) :
      CompilesEntries site guard path done ((key, d) :: rest) tree

inductive CompilesItems (site : Site) :
    DepthGuard → Text → Nat → List Datum → List Resource → Prop
  | nil {guard : DepthGuard} {path : Text} {index : Nat} : CompilesItems site guard path index [] []
  | cons {guard : DepthGuard} {path numeral : Text} {index : Nat} {d : Datum} {value : Resource}
      {rest : List Datum} {values : List Resource} (written : Number.intText index = .ok numeral)
      (compiled : Compiles site guard (join path numeral) d value)
      (later : CompilesItems site guard path (index + 1) rest values) :
      CompilesItems site guard path index (d :: rest) (value :: values)

end

variable {site : Site}

mutual

theorem compiles_of_compileValue {guard : DepthGuard} {path : Text} {r : Resource} : ∀ d : Datum,
    compileValue site guard path d = .ok r → Compiles site guard path d r
  | .text t, compiled => by
    rw [compileValue] at compiled
    obtain ⟨inner, entered, compiled⟩ := Outcome.bind_eq_ok.mp compiled
    obtain ⟨template, fromSource, compiled⟩ := Outcome.bind_eq_ok.mp compiled
    cases compiled
    exact .text entered fromSource
  | .map entries, compiled => by
    rw [compileValue] at compiled
    obtain ⟨inner, entered, compiled⟩ := Outcome.bind_eq_ok.mp compiled
    obtain ⟨tree, compiledEntries, compiled⟩ := Outcome.bind_eq_ok.mp compiled
    cases compiled
    exact .map entered (compiles_of_compileEntries entries compiledEntries)
  | .list items, compiled => by
    rw [compileValue] at compiled
    obtain ⟨inner, entered, compiled⟩ := Outcome.bind_eq_ok.mp compiled
    obtain ⟨values, compiledItems, compiled⟩ := Outcome.bind_eq_ok.mp compiled
    cases compiled
    exact .list entered (compiles_of_compileItems items compiledItems)
  | .tuple items, compiled => by
    rw [compileValue] at compiled
    obtain ⟨inner, entered, compiled⟩ := Outcome.bind_eq_ok.mp compiled
    obtain ⟨values, compiledItems, compiled⟩ := Outcome.bind_eq_ok.mp compiled
    cases compiled
    exact .tuple entered (compiles_of_compileItems items compiledItems)
  | .shared _ d, compiled => by
    rw [compileValue] at compiled
    exact .shared (compiles_of_compileValue d compiled)
  | .none, compiled | .bool _, compiled | .int _, compiled | .float _, compiled
  | .bytes _, compiled | .decimal _, compiled | .date _ _ _, compiled | .dateTime, compiled
  | .function _, compiled | .helper _, compiled | .cls _, compiled | .form _ _, compiled
  | .set _, compiled | .object _, compiled | .lookup _, compiled => by
    simp only [compileValue] at compiled
    obtain ⟨_, -, thrown⟩ := Outcome.bind_eq_ok.mp compiled
    cases thrown

theorem compiles_of_compileEntries {guard : DepthGuard} {path : Text} {done tree : ResourceTree} :
    ∀ entries : List (Value × Datum), compileEntries site guard path done entries = .ok tree →
      CompilesEntries site guard path done entries tree
  | [], compiled => by
    cases compiled
    exact .nil
  | (key, d) :: rest, compiled => by
    rw [compileEntries] at compiled
    obtain ⟨segment, found, compiled⟩ := Outcome.bind_eq_ok.mp compiled
    obtain ⟨value, compiledValue, compiled⟩ := Outcome.bind_eq_ok.mp compiled
    exact .cons found (compiles_of_compileValue d compiledValue)
      (compiles_of_compileEntries rest compiled)

-- The equation is no pattern here: matching on it would evaluate the bound on positions.
theorem compiles_of_compileItems {guard : DepthGuard} {path : Text} {index : Nat}
    {values : List Resource} : ∀ items : List Datum,
    compileItems site guard path index items = .ok values →
      CompilesItems site guard path index items values
  | [] => by
    intro compiled
    cases compiled
    exact .nil
  | d :: rest => by
    intro compiled
    rw [compileItems] at compiled
    obtain ⟨numeral, written, compiled⟩ := Outcome.bind_eq_ok.mp compiled
    obtain ⟨value, compiledValue, compiled⟩ := Outcome.bind_eq_ok.mp compiled
    obtain ⟨values, compiledRest, compiled⟩ := Outcome.bind_eq_ok.mp compiled
    cases compiled
    exact .cons written (compiles_of_compileValue d compiledValue)
      (compiles_of_compileItems rest compiledRest)

end

mutual

theorem Compiles.compileValue_eq {guard : DepthGuard} {path : Text} {d : Datum} {r : Resource} :
    Compiles site guard path d r → compileValue site guard path d = .ok r
  | .text entered fromSource => by
    rw [compileValue, entered, fromSource]
    rfl
  | .map entered compiled => by
    rw [compileValue, entered]
    change (compileEntries .. >>= _) = _
    rw [compiled.compileEntries_eq]
    rfl
  | .list entered compiled | .tuple entered compiled => by
    rw [compileValue, entered]
    change (compileItems .. >>= _) = _
    rw [compiled.compileItems_eq]
    rfl
  | .shared compiled => by
    rw [compileValue]
    exact compiled.compileValue_eq

theorem CompilesEntries.compileEntries_eq {guard : DepthGuard} {path : Text}
    {done tree : ResourceTree} {entries : List (Value × Datum)} :
    CompilesEntries site guard path done entries tree →
      compileEntries site guard path done entries = .ok tree
  | .nil => rfl
  | .cons found compiled later => by
    rw [compileEntries, found]
    change (compileValue .. >>= _) = _
    rw [compiled.compileValue_eq]
    exact later.compileEntries_eq

theorem CompilesItems.compileItems_eq {guard : DepthGuard} {path : Text} {index : Nat}
    {items : List Datum} {values : List Resource} :
    CompilesItems site guard path index items values →
      compileItems site guard path index items = .ok values
  | .nil => rfl
  | .cons written compiled later => by
    rw [compileItems, written]
    change (compileValue .. >>= _) = _
    rw [compiled.compileValue_eq]
    change (compileItems .. >>= _) = _
    rw [later.compileItems_eq]
    rfl

end

/-- What compiles is a mapping whose entries do. -/
theorem compile_eq_ok_iff {maxDepth : Int} {data : Datum} {tree : ResourceTree} :
    compile site maxDepth data = .ok tree ↔ ∃ entries, data.entries? = some entries ∧
      CompilesEntries site (DepthGuard.new maxDepth) [] [] entries tree := by
  rw [compile]
  cases data.entries? with
  | none => simp
  | some entries =>
    simp only [Option.some.injEq, exists_eq_left']
    exact ⟨compiles_of_compileEntries entries, CompilesEntries.compileEntries_eq⟩

end Phrasebook.Resource
