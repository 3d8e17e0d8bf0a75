import Phrasebook.Proofs.Ordinary.Value
import Phrasebook.Value.Compare
/-!
Sorting fails as a comparison of two items does, and with nothing else.
-/
namespace Phrasebook

open Outcome (FailsOnly StopsOnly)

namespace Sorting

variable {P : Fault → Prop} {α : Type}

section
variable {p : α → Except Fault Bool} (each : ∀ a, FailsOnly P (p a))
include each

theorem leap_failsOnly (xs : Array α) (start fuel last next : Nat) :
    FailsOnly P (leap p xs start fuel last next) := by
  induction fuel generalizing last next with
  | zero => exact .ok _
  | succ fuel ih => grind [leap]

theorem halve_failsOnly (upper : Bool) (xs : Array α) (start fuel low high : Nat) :
    FailsOnly P (halve p upper xs start fuel low high) := by
  induction fuel generalizing low high with
  | zero => exact .ok _
  | succ fuel ih => grind [halve]

theorem gallop_failsOnly (upper : Bool) (xs : Array α) (start : Nat) :
    FailsOnly P (gallop p upper xs start) := by
  grind [gallop, leap_failsOnly each, halve_failsOnly each]

end

/-- A merge that stops on a fault stops on one of a sort. -/
def Stop.FaultOnly (P : Fault → Prop) (stop : Stop) : Prop := ∀ f, stop = .failed f → P f

@[grind .] theorem Stop.exhausted_faultOnly : Stop.exhausted.FaultOnly P := fun _ same => nomatch same

@[grind .] theorem Stop.lastKept_faultOnly : Stop.lastKept.FaultOnly P := fun _ same => nomatch same

section
variable {less : Less α} (each : ∀ a b, FailsOnly P (less a b))

namespace Merging

theorem lift_stopsOnly {β : Type} {x : Except Fault β} (only : FailsOnly P x) :
    StopsOnly (Stop.FaultOnly P) (lift x : Merging α β) := by
  cases x with
  | error f =>
    refine .throw fun g same => ?_
    cases same
    exact only f rfl
  | ok b => exact .pure b

@[grind .] theorem takeKept_stopsOnly (n : Nat) :
    StopsOnly (Stop.FaultOnly P) (takeKept n : Merging α Unit) := by
  grind [takeKept]

@[grind .] theorem takeOther_stopsOnly (n : Nat) :
    StopsOnly (Stop.FaultOnly P) (takeOther n : Merging α Unit) := by
  grind [takeOther]

@[grind .] theorem nextKept_stopsOnly : StopsOnly (Stop.FaultOnly P) (nextKept : Merging α α) := by
  grind [nextKept]

@[grind .] theorem nextOther_stopsOnly : StopsOnly (Stop.FaultOnly P) (nextOther : Merging α α) := by
  grind [nextOther]

include each

theorem gallopKept_stopsOnly (backward : Bool) :
    StopsOnly (Stop.FaultOnly P) (gallopKept less backward) := by
  refine .bind nextOther_stopsOnly fun y => .bind .get fun m => ?_
  refine .bind (lift_stopsOnly (gallop_failsOnly (fun x => ?_) backward m.kept m.i)) fun n => ?_
  · grind
  · grind

theorem gallopOther_stopsOnly (backward : Bool) :
    StopsOnly (Stop.FaultOnly P) (gallopOther less backward) := by
  refine .bind nextKept_stopsOnly fun x => .bind .get fun m => ?_
  refine .bind (lift_stopsOnly (gallop_failsOnly (fun y => ?_) backward m.other m.j)) fun n => ?_
  · grind
  · grind

theorem run_stopsOnly (backward : Bool) (fuel : Nat) (galloping : Bool) (inKept inOther : Nat) :
    StopsOnly (Stop.FaultOnly P) (run less backward fuel galloping inKept inOther) := by
  induction fuel generalizing galloping inKept inOther with
  | zero => exact .pure ()
  | succ fuel ih =>
    have compared (x y : α) : StopsOnly (Stop.FaultOnly P)
        (lift (if backward then less x y else less y x) : Merging α Bool) :=
      lift_stopsOnly (by grind)
    have kept := gallopKept_stopsOnly each
    have other := gallopOther_stopsOnly each
    grind [run]

end Merging

include each

theorem mergeToward_faults (backward : Bool) (patience : Nat) (kept other : Array α) {f : Fault}
    (failed : (mergeToward less backward patience kept other).1.fault = some f) : P f := by
  have run := Merging.run_stopsOnly each backward
  have work : StopsOnly (Stop.FaultOnly P) (do
      Merging.takeOther 1
      if kept.size = 1 then throw .lastKept
      Merging.run less backward (2 * (kept.size + other.size)) false 0 0 : Merging α Unit) := by
    grind
  rw [mergeToward] at failed
  split at failed
  · cases failed
  · rename_i stop m ended
    cases stop with
    | failed g =>
      cases failed
      exact work ended f rfl
    | _ => cases failed

theorem merge_faults (patience : Nat) (xs ys : List α) {f : Fault}
    (failed : (merge less patience xs ys).1.fault = some f) : P f := by
  have sought (upper : Bool) (x : α) (behind : Bool) (zs : Array α) : FailsOnly P
      (gallop (fun y => (if behind then less y x else less x y).map (!·)) upper zs 0) :=
    gallop_failsOnly (fun y => by grind) upper zs 0
  unfold merge at failed
  split at failed
  · cases failed
  · rename_i y rest
    split at failed
    · rename_i g stopped
      cases failed
      exact sought false y false _ f stopped
    · rename_i n found
      dsimp only at failed
      split at failed
      · cases failed
      · rename_i x last
        split at failed
        · rename_i g stopped
          cases failed
          exact sought true x true _ f stopped
        · split_ifs at failed
          · exact mergeToward_faults each _ _ _ _ failed
          · exact mergeToward_faults each _ _ _ _ failed

theorem runFrom_failsOnly (descending : Bool) (last : α) (out xs : List α) :
    FailsOnly P (runFrom less descending last out xs) := by
  induction xs generalizing last out with
  | nil => exact .ok _
  | cons x rest ih => grind [runFrom]

theorem naturalRun_failsOnly (xs : List α) : FailsOnly P (naturalRun less xs) := by
  fun_cases naturalRun less xs <;> grind [runFrom_failsOnly each]

theorem placeIn_failsOnly (sorted : Array α) (x : α) (fuel low high : Nat) :
    FailsOnly P (placeIn less sorted x fuel low high) := by
  induction fuel generalizing low high with
  | zero => exact .ok _
  | succ fuel ih => grind [placeIn]

theorem insertAll_faults (sorted : Array α) (xs : List α) {f : Fault}
    (failed : (insertAll less sorted xs).fault = some f) : P f := by
  induction xs generalizing sorted with
  | nil => cases failed
  | cons x rest ih =>
    have placed := placeIn_failsOnly each sorted x (sorted.size + 1) 0 sorted.size
    grind [insertAll, FailsOnly]

theorem mergeAt_stopsOnly (above : Nat) : StopsOnly P (mergeAt less above) := by
  have merged := merge_faults each
  grind [mergeAt]

theorem mergeDeeper_stopsOnly (power fuel : Nat) : StopsOnly P (mergeDeeper less power fuel) := by
  induction fuel with
  | zero => exact .pure ()
  | succ fuel ih => grind [mergeDeeper, mergeAt_stopsOnly each]

theorem settle_stopsOnly (total length : Nat) : StopsOnly P (settle less total length) := by
  grind [settle, mergeDeeper_stopsOnly each]

theorem nextRun_stopsOnly (total least : Nat) : StopsOnly P (nextRun less total least) := by
  refine .bind .get fun p => ?_
  split
  · refine .bind (.pure _) fun r => .bind (.set _) fun _ => ?_
    split
    · rename_i f failed
      exact .throw (insertAll_faults each _ _ failed)
    · exact .bind (settle_stopsOnly each _ _) fun _ => .modify _
  · rename_i f failed
    exact .throw_bind (naturalRun_failsOnly each _ f failed) _

theorem takeRuns_stopsOnly (total least fuel : Nat) :
    StopsOnly P (takeRuns less total least fuel) := by
  induction fuel with
  | zero => exact .pure ()
  | succ fuel ih => grind [takeRuns, nextRun_stopsOnly each]

theorem mergeRest_stopsOnly (fuel : Nat) : StopsOnly P (mergeRest less fuel) := by
  induction fuel with
  | zero => exact .pure ()
  | succ fuel ih => grind [mergeRest, mergeAt_stopsOnly each]

theorem sort_faults (xs : List α) {f : Fault} (failed : (sort less xs).fault = some f) : P f := by
  have runs := takeRuns_stopsOnly each
  have work (total : Nat) : StopsOnly P (do
      takeRuns less total (minRun total) total
      mergeRest less total : Work α Unit) :=
    .bind (takeRuns_stopsOnly each total (minRun total) total) fun _ =>
      mergeRest_stopsOnly each total
  rw [sort] at failed
  split at failed
  · cases failed
  · rename_i g p ended
    cases failed
    exact work _ ended

end
end Sorting

theorem Value.sortKeyed_faults (h : Heap) (reverse : Bool) (xs : List Keyed) {f : Fault}
    (failed : (sortKeyed h reverse xs).2 = some f) : f.IsOrdinary :=
  Sorting.sort_faults (fun _ _ => compareBy_ordinary h .less _ _) _ failed

end Phrasebook
