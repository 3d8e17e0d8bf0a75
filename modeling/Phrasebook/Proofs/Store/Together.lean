import Phrasebook.Proofs.Resource.Joint
import Phrasebook.Proofs.Resource.Merge
import Phrasebook.Proofs.Store.History
import Phrasebook.Proofs.Store.Lookup
/-!
Loading two documents one after the other against loading what they make together. The trees are
merged from the left in the first case, and from the right in the second.
-/
namespace Phrasebook
namespace ResourceStore
open Resource (HidesNothing compile merge)

theorem treeOf_load {s : ResourceStore} {tag : Text} {data : Datum} {tree : ResourceTree}
    (compiled : compile ⟨Locale.normalize tag, s.budget⟩ s.maxDepth data = .ok tree)
    (locale : Text) : (s.next (.load tag data)).treeOf locale =
      if Locale.normalize tag = locale then merge (s.treeOf (Locale.normalize tag)) tree
      else s.treeOf locale := by
  rw [next_load_of_ok compiled, treeOf_add]

theorem limits_run (budget : Budget) (maxDepth : Int) (s : RenderState) (calls : List StoreCall) :
    let t := (StoreCall.run { s with store := fresh budget maxDepth } calls).store
    t.budget = budget ∧ t.maxDepth = maxDepth := by
  intro t
  have recorded := recorded_foldl budget maxDepth calls
  rw [show t = calls.foldl next (fresh budget maxDepth) from StoreCall.store_run _ calls]
  exact recorded.limits

theorem run_concat (s : RenderState) (calls : List StoreCall) (call : StoreCall) :
    (StoreCall.run s (calls ++ [call])).store = (StoreCall.run s calls).store.next call := by
  rw [StoreCall.store_run, StoreCall.store_run, List.foldl_append]
  rfl

/-- What a locale has after one more load. -/
theorem treeOf_run_load {budget : Budget} {maxDepth : Int} {tag : Text} {data : Datum}
    {tree : ResourceTree}
    (compiled : compile ⟨Locale.normalize tag, budget⟩ maxDepth data = .ok tree) (s : RenderState)
    (calls : List StoreCall) (locale : Text) :
    let t calls := (StoreCall.run { s with store := fresh budget maxDepth } calls).store
    (t (calls ++ [.load tag data])).treeOf locale =
      if Locale.normalize tag = locale then merge ((t calls).treeOf (Locale.normalize tag)) tree
      else (t calls).treeOf locale := by
  intro t
  obtain ⟨sameBudget, sameDepth⟩ := limits_run budget maxDepth s calls
  rw [show t (calls ++ [.load tag data]) = (t calls).next (.load tag data) from run_concat ..]
  apply treeOf_load
  rw [sameBudget, sameDepth, compiled]

/-- Of three sound trees, it matters not which two are merged first, exactly if the second hides
nothing. So it is with documents: two of them always make one together, and after any calls on a fresh
store, loading them one after the other leaves what loading that one leaves, exactly if the first of
them hides nothing of what was there. Both are so with the order of keys and without it. -/
theorem merge_assoc_and_loads (budget : Budget) (maxDepth : Int) (s : RenderState)
    (calls : List StoreCall) (tag : Text) :
    let t calls := (StoreCall.run { s with store := fresh budget maxDepth } calls).store
    let code := Locale.normalize tag
    (∀ a b c : ResourceTree,
      Resource.Sound (.tree a) → Resource.Sound (.tree b) → Resource.Sound (.tree c) →
      (merge (merge a b) c = merge a (merge b c) ↔ HidesNothing (· = ·) a b c) ∧
      (Resource.Alike (.tree (merge (merge a b) c)) (.tree (merge a (merge b c))) ↔
        HidesNothing Resource.Alike a b c)) ∧
    ∀ first second b c, compile ⟨code, budget⟩ maxDepth first = .ok b →
      compile ⟨code, budget⟩ maxDepth second = .ok c →
      (∃ joint, compile ⟨code, budget⟩ maxDepth joint = .ok (merge b c)) ∧
      ∀ joint, compile ⟨code, budget⟩ maxDepth joint = .ok (merge b c) →
        let before := t calls
        let two := t (calls ++ [.load tag first, .load tag second])
        let one := t (calls ++ [.load tag joint])
        (∀ locale, locale ≠ code → two.treeOf locale = one.treeOf locale) ∧
        (two.treeOf code = one.treeOf code ↔ HidesNothing (· = ·) (before.treeOf code) b c) ∧
        (Resource.Alike (.tree (two.treeOf code)) (.tree (one.treeOf code)) ↔
          HidesNothing Resource.Alike (before.treeOf code) b c) := by
  intro t code
  refine ⟨fun a b c soundA soundB soundC => ⟨?_, ?_⟩, ?_⟩
  · exact Resource.merge_assoc_iff soundA soundB soundC
  · exact Resource.merge_assoc_alike_iff soundA soundB soundC
  intro first second b c fromFirst fromSecond
  refine ⟨Resource.exists_joint fromFirst fromSecond, fun joint fromJoint => ?_⟩
  intro before two one
  have soundA : Resource.Sound (.tree (before.treeOf code)) :=
    allSound_run budget maxDepth s calls code
  have soundB : Resource.Sound (.tree b) := Resource.compile_sound fromFirst
  have soundC : Resource.Sound (.tree c) := Resource.compile_sound fromSecond
  have split : calls ++ [.load tag first, .load tag second] =
      calls ++ [.load tag first] ++ [.load tag second] := by simp
  have afterTwo (locale : Text) : two.treeOf locale =
      if code = locale then merge (merge (before.treeOf code) b) c
      else before.treeOf locale := by
    have later := treeOf_run_load fromSecond s (calls ++ [.load tag first]) locale
    rw [← split] at later
    have here := treeOf_run_load fromFirst s calls
    simp only [here] at later
    rw [show two.treeOf locale = _ from later]
    split_ifs <;> rfl
  have afterOne (locale : Text) : one.treeOf locale =
      if code = locale then merge (before.treeOf code) (merge b c) else before.treeOf locale :=
    treeOf_run_load fromJoint s calls locale
  refine ⟨fun locale other => ?_, ?_, ?_⟩
  · rw [afterTwo, afterOne, if_neg (Ne.symm other), if_neg (Ne.symm other)]
  · rw [afterTwo, afterOne, if_pos rfl, if_pos rfl]
    exact Resource.merge_assoc_iff soundA soundB soundC
  · rw [afterTwo, afterOne, if_pos rfl, if_pos rfl]
    exact Resource.merge_assoc_alike_iff soundA soundB soundC

/-- A panel with one label. -/
def panel (name label : Text) : Datum := .map [(.ofText "view", .map [(.ofText name, .text label)])]

def panelTree (name label : Text) : ResourceTree :=
  [("view", .tree [(name, .leaf (.constant label))])]

theorem panels_loaded_together :
    let t calls := (StoreCall.run { store := fresh .standard 100 } calls).store
    let before : List StoreCall := [.load "en" (panel "open" "Open")]
    ∃ joint, compile ⟨"en", .standard⟩ 100 joint =
        .ok (merge (panelTree "close" "Close") (panelTree "open" "Show")) ∧
      (t (before ++ [.load "en" (panel "close" "Close"), .load "en" (panel "open" "Show")])).treeOf
          "en" = (t (before ++ [.load "en" joint])).treeOf "en" := by
  intro t before
  have fromFirst : compile ⟨"en", .standard⟩ 100 (panel "close" "Close") =
      .ok (panelTree "close" "Close") := rfl
  have fromSecond : compile ⟨"en", .standard⟩ 100 (panel "open" "Show") =
      .ok (panelTree "open" "Show") := rfl
  obtain ⟨-, documents⟩ := merge_assoc_and_loads .standard 100 {} before "en"
  obtain ⟨⟨joint, fromJoint⟩, loads⟩ := documents _ _ _ _ fromFirst fromSecond
  obtain ⟨-, exact, -⟩ := loads joint fromJoint
  refine ⟨joint, fromJoint, exact.mpr ?_⟩
  refine Resource.hidesNothing_of_paths (Resource.compile_sound fromFirst)
    (fun path listed new => ?_) _
  obtain rfl : path = ["view", "close"] := by
    simpa [panelTree, Resource.pathsOf, Resource.pathsFrom] using listed
  exact nofun

/-- A label in place of the panel hides its first entry: with the last two documents together, the
entry is still there. -/
theorem panel_hidden :
    ∃ b : ResourceTree,
      compile ⟨"en", .standard⟩ 100 (.map [(.ofText "view", .text "View")]) = .ok b ∧
      ¬Resource.Alike
        (.tree (merge (merge (panelTree "open" "Open") b) (panelTree "close" "Close")))
        (.tree (merge (panelTree "open" "Open") (merge b (panelTree "close" "Close")))) := by
  refine ⟨[("view", .leaf (.constant "View"))], rfl, fun alike => ?_⟩
  have entry := alike ["view", "open"]
  cases entry

end ResourceStore
end Phrasebook
