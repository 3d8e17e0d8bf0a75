import Phrasebook.Proofs.Resource.Leaves
import Phrasebook.Proofs.Template.Compile
/-!
How compiling raw data fails. The data are gone through depth first, each thing met is checked, and the
first check that fails ends it.
-/
namespace Phrasebook

open Outcome

/-- The faults that loading data is documented to end with. -/
def Fault.IsDocumented : Fault → Prop
  | .own (.invalidShape ..) | .own (.templateSyntax ..) | .own (.tooDeep ..) => True
  | _ => False

namespace Resource

/-- What is met on the way through raw data: a level to go down, a key, a position in a sequence, a
text, another datum, and a root that is no mapping. -/
inductive Visit where
  | level (guard : DepthGuard)
  | key (path : Text) (key : Value)
  | position (index : Nat)
  | text (source : Text)
  | other (path kind : Text)
  | root (kind : Text)

namespace Visit

def check (site : Site) : Visit → Except Fault Unit
  | .level guard => discard guard.enter
  | .key path k => discard (segmentOf site path k)
  | .position index => discard (Number.intText index)
  | .text source => discard (Template.compile site.budget source)
  | .other path kind =>
    .error (.own (.invalidShape (.diagnostic (Diagnostic.invalidLeaf site.locale path kind))
      site.locale path))
  | .root kind =>
    .error (.own (.invalidShape (.diagnostic (Diagnostic.rootNotMapping site.locale kind))
      site.locale []))

/-- A key or a position that cannot be written, and a template whose expressions are not read. -/
def Escapes : Visit → Fault → Prop
  | .key _ k, f => Value.quoted {} k = .error f
  | .position index, f => Number.intText index = .error f
  | .text source, f => Template.Escapes source f
  | _, _ => False

end Visit

mutual

def visits (guard : DepthGuard) (path : Text) : Datum → List Visit
  | .text t => [.level guard, .text t]
  | .map entries => .level guard :: visitsOfEntries ⟨guard.limit, guard.depth + 1⟩ path entries
  | .list items | .tuple items =>
    .level guard :: visitsOfItems ⟨guard.limit, guard.depth + 1⟩ path 0 items
  | .shared _ d => visits guard path d
  | d => [.level guard, .other path d.kindLabel]

def visitsOfEntries (guard : DepthGuard) (path : Text) : List (Value × Datum) → List Visit
  | [] => []
  | (key, d) :: rest =>
    .key path key :: visits guard (join path (label key)) d ++ visitsOfEntries guard path rest

def visitsOfItems (guard : DepthGuard) (path : Text) (index : Nat) : List Datum → List Visit
  | [] => []
  | d :: rest =>
    .position index :: visits guard (join path (Text.ofNat index)) d
      ++ visitsOfItems guard path (index + 1) rest

end

/-- All that is met in the data of a locale, in the order in which they are compiled. -/
def visitsOf (maxDepth : Int) (data : Datum) : List Visit :=
  match data.entries? with
  | some entries => visitsOfEntries (DepthGuard.new maxDepth) [] entries
  | none => [.root data.kindLabel]

section
variable {site : Site} {guard : DepthGuard}

theorem enter_eq_ok {inner : DepthGuard} (entered : guard.enter = .ok inner) :
    inner = ⟨guard.limit, guard.depth + 1⟩ := by
  rw [DepthGuard.enter] at entered
  split_ifs at entered
  cases entered
  rfl

mutual

theorem compileValue_checks (guard : DepthGuard) (path : Text) : ∀ d : Datum,
    discard (compileValue site guard path d) = (visits guard path d).forM (Visit.check site)
  | .text t => by
    rw [compileValue, visits]
    refine discard_bind fun _ _ => ?_
    rw [discard_bind_pure]
    exact (bind_pure _).symm
  | .map entries => by
    rw [compileValue, visits]
    refine discard_bind fun inner entered => ?_
    obtain rfl := enter_eq_ok entered
    rw [discard_bind_pure, compileEntries_checks]
  | .list items => by
    rw [compileValue, visits]
    refine discard_bind fun inner entered => ?_
    obtain rfl := enter_eq_ok entered
    rw [discard_bind_pure, compileItems_checks]
  | .tuple items => by
    rw [compileValue, visits]
    refine discard_bind fun inner entered => ?_
    obtain rfl := enter_eq_ok entered
    rw [discard_bind_pure, compileItems_checks]
  | .shared _ d => by
    rw [compileValue, visits]
    exact compileValue_checks guard path d
  | .none | .bool _ | .int _ | .float _ | .bytes _ | .decimal _ | .date _ _ _ | .dateTime
  | .function _ | .helper _ | .cls _ | .form _ _ | .set _ | .object _ | .lookup _ => by
    simp only [compileValue, visits]
    exact discard_bind fun _ _ => rfl

theorem compileEntries_checks (guard : DepthGuard) (path : Text) (done : ResourceTree) :
    ∀ entries : List (Value × Datum), discard (compileEntries site guard path done entries) =
      (visitsOfEntries guard path entries).forM (Visit.check site)
  | [] => rfl
  | (key, d) :: rest => by
    rw [compileEntries, visitsOfEntries]
    refine discard_bind fun segment found => ?_
    -- The paths further on are only used where the key has become a segment.
    obtain rfl := label_of_plain (plain_of_segmentOf found)
    exact discard_bind_append (compileValue_checks guard _ d) fun value _ =>
      compileEntries_checks guard path _ rest

theorem compileItems_checks (guard : DepthGuard) (path : Text) (index : Nat) :
    ∀ items : List Datum, discard (compileItems site guard path index items) =
      (visitsOfItems guard path index items).forM (Visit.check site)
  | [] => by rfl
  | d :: rest => by
    rw [compileItems, visitsOfItems]
    refine discard_bind fun numeral written => ?_
    obtain rfl := (ofNat_of_intText written).2
    refine discard_bind_append (compileValue_checks guard _ d) fun value _ => ?_
    rw [discard_bind_pure]
    exact compileItems_checks guard path (index + 1) rest

end

theorem compile_checks (site : Site) (maxDepth : Int) (data : Datum) :
    discard (compile site maxDepth data) = (visitsOf maxDepth data).forM (Visit.check site) := by
  rw [compile, visitsOf]
  cases data.entries? with
  | none => rfl
  | some entries => exact compileEntries_checks _ _ _ entries

end

namespace Visit

variable {site : Site} {v : Visit} {f : Fault}

/-- A key that is refused is shown in the report of that. -/
def refuse (site : Site) (path : Text) (k : Value) : Except Fault Text := do
  let shown ← Value.quoted {} k
  throw (.own (.invalidShape (.diagnostic (Diagnostic.invalidKey site.locale path shown))
    site.locale path))

theorem refuse_fault {path : Text} {k : Value} (failed : refuse site path k = .error f) :
    f.IsDocumented ∨ Value.quoted {} k = .error f := by
  rw [refuse] at failed
  rcases shown : Value.quoted {} k with g | t
  · rw [shown] at failed
    exact .inr failed
  · rw [shown] at failed
    cases failed
    exact .inl trivial

theorem textSegment_fault {path : Text} {k : Value} (failed : textSegment site path k = .error f) :
    f.IsDocumented ∨ Value.quoted {} k = .error f := by
  cases k with
  | text t origin =>
    simp only [textSegment] at failed
    split_ifs at failed
    exact refuse_fault failed
  | _ => exact refuse_fault failed

theorem segmentOf_fault {path : Text} {k : Value} (failed : segmentOf site path k = .error f) :
    f.IsDocumented ∨ Value.quoted {} k = .error f := by
  cases k with
  | int n origin =>
    rw [Value.quoted_int]
    rcases written : Number.intText n with g | numeral
    · rw [segmentOf, written] at failed
      exact .inr failed
    · rw [segmentOf, written] at failed
      have numeralFailed : textSegment site path (Value.ofText numeral) = .error f := failed
      refine .inl ((textSegment_fault numeralFailed).resolve_right ?_)
      simp [Value.ofText, Value.quoted_text]
  | _ => exact textSegment_fault failed

theorem segmentOf_of_unwritten {path : Text} {k : Value}
    (unwritten : Value.quoted {} k = .error f) : segmentOf site path k = .error f := by
  have refused : refuse site path k = .error f := by
    rw [refuse, unwritten]
    rfl
  cases k with
  | int n origin =>
    rw [Value.quoted_int] at unwritten
    rw [segmentOf, unwritten]
    rfl
  | text t origin =>
    rw [Value.quoted_text] at unwritten
    cases unwritten
  | _ => exact refused

theorem check_of_escapes (escapes : v.Escapes f) : v.check site = .error f := by
  cases v with
  | key path k => exact discard_eq_error_iff.mpr (segmentOf_of_unwritten escapes)
  | position index => exact discard_eq_error_iff.mpr escapes
  | text source => exact discard_eq_error_iff.mpr (Template.compile_of_escapes escapes)
  | level | other | root => cases escapes

theorem check_fault (failed : v.check site = .error f) : f.IsDocumented ∨ v.Escapes f := by
  cases v with
  | level guard =>
    have refused := discard_eq_error_iff.mp failed
    rw [DepthGuard.enter] at refused
    split_ifs at refused
    cases refused
    exact .inl trivial
  | key path k => exact segmentOf_fault (discard_eq_error_iff.mp failed)
  | position index => exact .inr (discard_eq_error_iff.mp failed)
  | text source =>
    rcases Template.compile_cases (discard_eq_error_iff.mp failed) with ⟨report, rfl⟩ | escapes
    · exact .inl trivial
    · exact .inr escapes
  | other path kind | root kind =>
    cases failed
    exact .inl trivial

theorem Escapes.kind (escapes : v.Escapes f) :
    f = .value ∨ f = .unworded .encoding ∨ f = .unworded .recursion := by
  cases v with
  | key path k => exact (Value.quoted_failsOnly _ _ f escapes).imp_right .inr
  | position index => exact (Value.intText_failsOnly _ f escapes).imp_right .inr
  | text source => exact .inr (Template.Escapes.kind escapes)
  | level | other | root => cases escapes

theorem Escapes.not_isDocumented (escapes : v.Escapes f) : ¬f.IsDocumented := by
  rcases escapes.kind with rfl | rfl | rfl <;> exact id

end Visit
end Resource
end Phrasebook
