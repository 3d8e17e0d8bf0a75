import Phrasebook.Proofs.Ordinary.Container
import Phrasebook.Proofs.Ordinary.Sort
import Phrasebook.Render.Invoke
/-!
What calls read from their arguments, and plural rules, fail with ordinary faults only.
-/
namespace Phrasebook

namespace Count

@[grind .] theorem modulo_ordinary (c : Count) (m : Nat) : Ordinary (c.modulo m) := by
  fun_cases modulo c m <;> grind

@[grind .] theorem equals_ordinary (c : Count) (m : Nat) : Ordinary (c.equals m) := by
  fun_cases equals c m <;> grind

@[grind .] theorem order_ordinary (c : Count) (m : Nat) : Ordinary (c.order m) := by
  fun_cases order c m <;> grind

@[grind .] theorem atMost_ordinary (c : Count) (m : Nat) : Ordinary (c.atMost m) :=
  .map (c.order_ordinary m)

@[grind .] theorem atLeast_ordinary (c : Count) (m : Nat) : Ordinary (c.atLeast m) :=
  .map (c.order_ordinary m)

@[grind .] theorem within_ordinary (c : Count) (low high : Nat) : Ordinary (c.within low high) := by
  grind [within]

end Count

namespace PluralRule

@[grind .] theorem isFew_ordinary (c : Count) : Ordinary (isFew c) := by
  grind [isFew, Count.below]

@[grind .] theorem unitOne_ordinary (c : Count) : Ordinary (unitOne c) := by
  grind [unitOne]

@[grind .] theorem arabicIndex_ordinary (c : Count) : Ordinary (arabicIndex c) := by
  refine .bind (c.equals_ordinary 0) fun isZero => ?_
  cases isZero with
  | true => exact .pure 0
  | false =>
    refine .bind (c.equals_ordinary 1) fun isOne => ?_
    cases isOne with
    | true => exact .pure 1
    | false => grind

theorem index_ordinary (rule : PluralRule) (c : Count) : Ordinary (rule.index c) := by
  fun_cases index rule c <;> grind [Count.above]

end PluralRule

namespace Render

@[grind .] theorem keywordOf_ordinary (e : Value × Value) : Ordinary (keywordOf e) := by
  fun_cases keywordOf e <;> grind

theorem callOf_ordinary (args : List Value) (keywords : Entries) :
    Ordinary (callOf args keywords) := by
  have each := Outcome.FailsOnly.mapM keywordOf_ordinary keywords
  grind [callOf]

/-- What a template sees of a value fails ordinarily, but for what partial functions hide. -/
theorem shownMember_failsOnly {P : Fault → Prop} (ordinary : ∀ {f : Fault}, f.IsOrdinary → P f)
    {attr : Text} (hidden : P (.violation
      ("Access to attribute '" ++ attr ++ "' of a partial function is not allowed")))
    (h : Heap) (target : Value) : Outcome.FailsOnly P (shownMember h target attr) := by
  have member (v : Value) : Outcome.FailsOnly P (v.member h attr) :=
    fun f failed => ordinary (v.member_ordinary h attr f failed)
  fun_cases shownMember h target attr with
  | case1 r v found => exact .ok v
  | case2 r missing => exact member (.dict r)
  | case3 r => exact .error hidden
  | case4 => exact member _

end Render

namespace Interpreter

@[grind .] theorem present_ordinary (v : Option Value) : Ordinary (present v) := by
  cases v <;> grind [present]

@[grind .] theorem required_ordinary (c : Call) (params : List String) :
    Ordinary (required c params) := by
  have each (given : List (Option Value)) := Outcome.FailsOnly.mapM present_ordinary given
  grind [required]

theorem keywordLists_ordinary (c : Call) : Memory.Ordinary (keywordLists c) := by
  have lists (xs : OrderedMap Value) :
      Memory.Ordinary (xs.mapM fun k => Memory.newList [.ofName k.1, k.2]) :=
    .mapM (fun k => Memory.newList_ordinary _) xs
  grind [keywordLists]

theorem lengthOf_ordinary (h : Heap) (c : Call) : Ordinary (lengthOf h c) := by
  grind [lengthOf]

theorem separatorOf_ordinary (c : Call) : Ordinary (separatorOf c) := by
  grind [separatorOf]

theorem formText_ordinary (h : Heap) (before after : Text) (c : Call) :
    Ordinary (formText h before after c) := by
  grind [formText]

theorem sortSettings_ordinary (c : Call) : Ordinary (sortSettings c) := by
  grind [sortSettings]

@[grind .] theorem tagOf_ordinary (v : Value) : Ordinary (tagOf v) := by
  fun_cases tagOf v <;> grind

theorem countOf_ordinary (v : Value) : Ordinary (countOf v) := by
  grind [countOf]

theorem formsLength_ordinary (h : Heap) (forms : Value) : Ordinary (formsLength h forms) := by
  grind [formsLength]

theorem requestOf_ordinary (h : Heap) (tag : Value) : Ordinary (requestOf h tag) := by
  grind [requestOf]

theorem taggedText_ordinary (h : Heap) (c : Call) : Ordinary (taggedText h c) := by
  grind [taggedText]

theorem keyOf_ordinary (c : Call) : Ordinary (keyOf c) := by
  fun_cases keyOf c <;> grind

theorem choiceOf_ordinary (c : Call) : Ordinary (choiceOf c) := by
  grind [choiceOf]

end Interpreter

namespace Template

theorem partText_ordinary (h : Heap) (v : Value) : Ordinary (partText h v) := by
  fun_cases partText h v <;> grind

end Template
end Phrasebook
