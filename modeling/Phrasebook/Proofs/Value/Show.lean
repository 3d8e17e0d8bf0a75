import Phrasebook.Proofs.Outcome
import Phrasebook.Value.Show
import Mathlib.Tactic.SplitIfs
/-!
Writing a value. It fails only if an integer in the value is too long, or if the value nests too deep.
-/
namespace Phrasebook.Value

open Outcome

/-- The faults of writing a value. -/
def IsUnwritable (f : Fault) : Prop := f = .value ∨ f = .unworded .recursion

theorem intText_failsOnly (n : Int) : FailsOnly IsUnwritable (Number.intText n) := by
  rw [Number.intText]
  split_ifs
  · exact .error (.inl rfl)
  · exact .ok _

theorem atomText_failsOnly (v : Value) : FailsOnly IsUnwritable (atomText v) := by
  fun_cases atomText v with
  | case3 n => exact intText_failsOnly n
  | _ => exact .ok _

theorem quotedWithin_failsOnly (h : Heap) (fuel : Nat) (open_ : List Value) (v : Value) :
    FailsOnly IsUnwritable (quotedWithin h fuel open_ v) := by
  induction fuel generalizing open_ v with
  | zero => exact .error (.inr rfl)
  | succ fuel ih =>
    have parts (items : List Value) : FailsOnly IsUnwritable
        (do pure (commaJoin (← items.mapM (quotedWithin h fuel (v :: open_))))) :=
      (FailsOnly.mapM (ih (v :: open_)) items).bind fun _ => .ok _
    simp only [quotedWithin]
    split_ifs
    · exact .ok _
    · cases v with
      | tuple xs o =>
        rcases xs with _ | ⟨x, _ | ⟨y, ys⟩⟩
        · exact (parts _).bind fun _ => .ok _
        · exact (ih _ _).bind fun _ => .ok _
        · exact (parts _).bind fun _ => .ok _
      | slice a b c o => exact (FailsOnly.mapM (ih open_) _).bind fun _ => .ok _
      | list r | view part r o => exact (parts _).bind fun _ => .ok _
      | set r =>
        dsimp only
        split_ifs
        · exact .ok _
        · exact (parts _).bind fun _ => .ok _
      | dict r =>
        exact (FailsOnly.mapM (fun e => (ih _ _).bind fun _ => (ih _ _).bind fun _ => .ok _) _).bind
          fun _ => .ok _
      | object r =>
        exact (FailsOnly.mapM (fun e => (ih _ _).bind fun _ => .ok _) _).bind fun _ => .ok _
      | lookup r => exact (ih _ _).bind fun _ => .ok _
      | _ => exact atomText_failsOnly _

theorem quoted_int (h : Heap) (n : Int) (origin : Origin) :
    quoted h (.int n origin) = Number.intText n := by
  rw [quoted, nestingLimit, quotedWithin]
  · simp [atomText]
  all_goals simp

theorem quoted_text (h : Heap) (t : Text) (origin : Origin) :
    quoted h (.text t origin) = .ok (Text.Quoted.text t) := by
  rw [quoted, nestingLimit, quotedWithin]
  · simp [atomText]
  all_goals simp

theorem quoted_failsOnly (h : Heap) (v : Value) : FailsOnly IsUnwritable (quoted h v) :=
  quotedWithin_failsOnly h nestingLimit [] v

end Phrasebook.Value
