import Phrasebook.Proofs.Plural.Exact
import Phrasebook.Proofs.Plural.Warning
import Phrasebook.Proofs.Render.Outcome
import Phrasebook.Proofs.Value.Show
/-!
The text for a count, when it is exact and the forms are texts: the count, and behind it the form at
the index of its rule. It is missing only for counts that are too long to be written or that the
rule refuses.
-/
namespace Phrasebook

open Outcome (bind_eq_ok ok_bind Succeeds)
open Interpreter (countOf)

namespace Value

/-- Integers, truth values among them, and decimals. -/
def IsExact : Value → Prop
  | bool _ | int .. | decimal .. => True
  | _ => False

/-- The items of a list or a tuple. -/
inductive Holds (h : Heap) : Value → List Value → Prop
  | list (r : Nat) : Holds h (list r) (h.list r)
  | tuple (items : List Value) (o : Origin) : Holds h (tuple items o) items

/-- Forms that are texts, in a list or a tuple. -/
def HoldsTexts (h : Heap) (forms : Value) (labels : List Text) : Prop :=
  ∃ items, Holds h forms items ∧ items.Forall₂ (fun v t => ∃ o, v = text t o) labels

variable {h : Heap} {forms count : Value} {items : List Value} {labels : List Text}

theorem Holds.truth_eq (held : Holds h forms items) : forms.truth h = !items.isEmpty := by
  cases held <;> rfl

theorem Holds.formsLength_eq (held : Holds h forms items) :
    Interpreter.formsLength h forms = .ok items.length := by
  cases held <;> rfl

theorem itemOf_natural {α : Type} (missing : Fault) {xs : List α} {i : Nat} {x : α}
    (near : i < 10) (found : xs[i]? = some x) : itemOf missing xs (.ofInt i) = .ok x := by
  have below : ¬((i : Int) < -maxIndex ∨ maxIndex ≤ i) := by
    have : (10 : Int) < maxIndex := by decide
    omega
  have item : itemAt? xs (i : Int) = some x := by
    rw [itemAt?, if_pos (Int.natCast_nonneg i), Int.toNat_natCast, found]
  simp only [itemOf, ofInt, int?, if_neg below, item]

theorem Holds.subscript_eq (held : Holds h forms items) {i : Nat} {v : Value} (near : i < 10)
    (found : items[i]? = some v) : itemAt h forms (.ofInt i) = .ok v := by
  cases held with
  | list r => exact itemOf_natural _ near found
  | tuple items o => exact itemOf_natural _ near found

/-- A value stands alone as it stands in a text. -/
theorem shown_eq (h : Heap) (v : Value) :
    ∃ origin : Text → Origin, v.shown h = (v.plain h).map fun t => .text t (origin t) := by
  cases v with
  | text t o => exact ⟨fun _ => o, rfl⟩
  | bool b => exact ⟨fun _ => .unique, rfl⟩
  | _ => exact ⟨fun t => if t.isEmpty then .unique else .unmarked, rfl⟩

/-- Integers of too many digits are not written. -/
def IsTooLong : Value → Prop
  | int n _ => Nat.pow 10 Number.maxDigits ≤ n.natAbs
  | _ => False

theorem plain_of_exact (h : Heap) (exact_ : count.IsExact) :
    count.IsTooLong ∧ count.plain h = .error .value ∨
      ¬count.IsTooLong ∧ Succeeds (count.plain h) := by
  cases count with
  | bool b => exact .inr ⟨id, by cases b <;> exact ⟨_, rfl⟩⟩
  | decimal d o => exact .inr ⟨id, _, rfl⟩
  | int n o =>
    have written : (int n o).plain h = Number.intText n := quoted_int h n o
    rw [written, Number.intText]
    by_cases long : Nat.pow 10 Number.maxDigits ≤ n.natAbs
    · exact .inl ⟨long, if_pos long⟩
    · exact .inr ⟨long, _, if_neg long⟩
  | _ => cases exact_

end Value

namespace PluralRule

variable (rule : PluralRule) {count : Value}

/-- The counts that a rule refuses among values. -/
def RefusesValue : Value → Prop
  | .decimal d _ => rule.Refuses d
  | _ => False

theorem index_of_exact (exact_ : count.IsExact) :
    rule.RefusesValue count ∧ (countOf count >>= rule.index) = .error (.unworded .arithmetic) ∨
    ¬rule.RefusesValue count ∧ Succeeds (countOf count >>= rule.index) := by
  cases count with
  | bool b => exact .inr ⟨id, _, index_natural rule (Int.natAbs (if b then 1 else 0))⟩
  | int n o => exact .inr ⟨id, _, index_natural rule n.natAbs⟩
  | decimal d o => exact index_countOf_decimal rule d o
  | _ => cases exact_

/-- The counts without a text: those that are too long, and with forms those that are refused. -/
def Fails (labels : List Text) (count : Value) : Prop :=
  count.IsTooLong ∨ labels ≠ [] ∧ rule.RefusesValue count

/-- What is read for a count: the count itself, and behind it the form at the index for its
magnitude, or else the last one. -/
def Reads (h : Heap) (count : Value) (labels : List Text) (t : Text) : Prop :=
  ∃ shown, count.plain h = .ok shown ∧ (labels = [] ∧ t = shown ∨
    ∃ c i label, countOf count = .ok c ∧ rule.index c = .ok i ∧
      labels[min i (labels.length - 1)]? = some label ∧ t = shown ++ 32 :: label)

theorem forms_le : rule.forms ≤ 6 := by cases rule <;> decide

end PluralRule

namespace PluralEngine

variable {h : Heap} {count forms : Value} {size : Nat}

theorem clampIndex_min (e : PluralEngine) (rule : PluralRule) (index : Nat) (some_ : 0 < size) :
    (e.clampIndex rule index size).1 = min index (size - 1) := by
  unfold clampIndex
  dsimp only
  split_ifs <;> dsimp only <;> omega

theorem select_fst (e : PluralEngine) (count : Value) (tag : Text) (o : Origin)
    (sized : Interpreter.formsLength h forms = .ok size) (some_ : 0 < size) :
    (e.select h count forms (.text tag o)).1 =
      (countOf count >>= (e.ruleFor tag).1.index).map (min · (size - 1)) := by
  have chosen : choice h (e.ruleFor tag).1 count forms =
      (countOf count >>= (e.ruleFor tag).1.index).map (·, size) := by
    unfold choice
    rw [sized, Outcome.map_bind]
    rfl
  unfold select
  simp only [Interpreter.tagOf, chosen]
  cases countOf count >>= (e.ruleFor tag).1.index with
  | error f => rfl
  | ok index => exact congrArg Except.ok (clampIndex_min _ _ index some_)

end PluralEngine

namespace Interpreter

open Render (engineOf withEngine useEngine useEngine_bind outcome_congr outcome_look
  outcome_look_bind)
open Value (HoldsTexts Holds)

variable (lower : Interpreter) (owner : EngineOwner) {count forms : Value} {labels : List Text}
  (tag : Text) (o : Origin) (s : RenderState)

theorem fillForm_text (count : Value) (label : Text) (o : Origin) :
    (lower.fillForm (.text label o) count).outcome s =
      (count.plain s.heap).map fun shown => .builtText (shown ++ 32 :: label) := by
  unfold fillForm
  rw [if_neg (by simp [Value.isCallable]), outcome_look_bind]
  cases count.plain s.heap with
  | error f => rfl
  | ok shown =>
    rw [ok_bind, outcome_look_bind]
    rfl

theorem outcome_selectForm_nil (language : Value) (literal : HoldsTexts s.heap forms []) :
    ∃ origin : Text → Origin, (lower.selectForm owner count forms language).outcome s =
      (count.plain s.heap).map fun t => .text t (origin t) := by
  obtain ⟨items, held, texts⟩ := literal
  obtain rfl := List.forall₂_nil_right_iff.mp texts
  obtain ⟨origin, shown⟩ := Value.shown_eq s.heap count
  refine ⟨origin, ?_⟩
  rw [outcome_congr (selectForm_eq lower owner count forms language s), held.truth_eq,
    if_neg (by decide), outcome_look, shown]

theorem outcome_subscript_bind {items : List Value} (held : Holds s.heap forms items) {i : Nat}
    {v : Value} (near : i < 10) (found : items[i]? = some v) (next : Value → Render Value) :
    (Render.ofMemory (forms.subscript (.ofInt i)) >>= next).outcome s = (next v).outcome s := by
  have run : EStateM.run (Render.ofMemory (forms.subscript (.ofInt i))) s = .ok v s := by
    refine Render.run_ofMemory_eq_ok.mpr ⟨s.heap, ?_, rfl⟩
    change EStateM.run (ofExcept (Value.itemAt s.heap forms (.ofInt i))) s.heap = _
    rw [held.subscript_eq near found]
    rfl
  change Render.ofMemory (forms.subscript (.ofInt i)) s = .ok v s at run
  simp only [Render.outcome, bind, EStateM.bind, run]

theorem outcome_useEngine_bind {α β : Type} (ask : PluralEngine → α × PluralEngine × List LogRecord)
    (next : α → Render β) :
    (useEngine owner ask >>= next).outcome s =
      (next (ask (engineOf s owner)).1).outcome
        (withEngine s owner (ask (engineOf s owner)).2.1 (ask (engineOf s owner)).2.2) := by
  rw [Render.outcome, useEngine_bind, Render.outcome]

variable (count) in
theorem outcome_selectForm (literal : HoldsTexts s.heap forms labels) (some_ : labels ≠ []) :
    (∀ f, (countOf count >>= ((engineOf s owner).ruleFor tag).1.index) = .error f →
      (lower.selectForm owner count forms (.text tag o)).outcome s = .error f) ∧
    ∀ i label, (countOf count >>= ((engineOf s owner).ruleFor tag).1.index) = .ok i →
      labels[min i (labels.length - 1)]? = some label →
      (lower.selectForm owner count forms (.text tag o)).outcome s =
        (count.plain s.heap).map fun shown => .builtText (shown ++ 32 :: label) := by
  obtain ⟨items, held, texts⟩ := literal
  have size : items.length = labels.length := texts.length_eq
  have positive : 0 < items.length := by
    rw [size]
    exact List.length_pos_iff.mpr some_
  have truth : forms.truth s.heap = true := by
    rw [held.truth_eq]
    cases items <;> simp_all
  have selected := PluralEngine.select_fst (engineOf s owner) count tag o held.formsLength_eq
    positive
  rw [outcome_congr (selectForm_eq lower owner count forms (.text tag o) s), if_pos truth,
    bind_assoc]
  rw [outcome_useEngine_bind, selected, size]
  refine ⟨fun f refused => ?_, fun i label given found => ?_⟩
  · rw [refused]
    rfl
  · obtain ⟨c, -, indexed⟩ := bind_eq_ok.mp given
    have near : i < 10 := by
      have inside := PluralRule.index_gives _ c i indexed
      have := ((engineOf s owner).ruleFor tag).1.forms_le
      omega
    obtain ⟨inside, rfl⟩ := List.getElem?_eq_some_iff.mp found
    obtain ⟨origin, item⟩ := texts.get (size ▸ inside) inside
    have stored : items[min i (labels.length - 1)]? = some (.text _ origin) :=
      List.getElem?_eq_some_iff.mpr ⟨size ▸ inside, item⟩
    rw [given]
    have same := Render.heap_withEngine s owner
      ((engineOf s owner).select s.heap count forms (.text tag o)).2.1
      ((engineOf s owner).select s.heap count forms (.text tag o)).2.2
    rw [← same] at held
    refine (outcome_subscript_bind _ held (by omega) stored _).trans ?_
    rw [fillForm_text, same]
    rfl

/-- An exact count with forms that are texts, in whatever state an engine is, gives the text that it
has under the rule of its tag, unless it is too long to be written or there are forms and the rule
refuses it; then there is none. -/
theorem selectForm_of_exact (exact_ : count.IsExact) (literal : HoldsTexts s.heap forms labels) :
    (¬((engineOf s owner).ruleFor tag).1.Fails labels count → ∃ t p,
      (lower.selectForm owner count forms (.text tag o)).outcome s = .ok (.text t p) ∧
      ((engineOf s owner).ruleFor tag).1.Reads s.heap count labels t) ∧
    (((engineOf s owner).ruleFor tag).1.Fails labels count → ∃ f,
      (lower.selectForm owner count forms (.text tag o)).outcome s = .error f) := by
  have written := Value.plain_of_exact s.heap exact_
  rcases eq_or_ne labels [] with rfl | some_
  · obtain ⟨origin, ended⟩ := outcome_selectForm_nil lower owner s (.text tag o) literal
    rw [ended]
    rcases written with ⟨long, unwritten⟩ | ⟨short, shown, written⟩
    · rw [unwritten]
      exact ⟨fun succeeds => absurd (.inl long) succeeds, fun _ => ⟨_, rfl⟩⟩
    · rw [written]
      refine ⟨fun _ => ⟨shown, _, rfl, shown, written, .inl ⟨rfl, rfl⟩⟩, ?_⟩
      rintro (long | ⟨some_, -⟩)
      · exact absurd long short
      · exact absurd rfl some_
  · obtain ⟨fails, gives⟩ := outcome_selectForm lower owner count tag o s literal some_
    rcases PluralRule.index_of_exact ((engineOf s owner).ruleFor tag).1 exact_ with
      ⟨refused, failed⟩ | ⟨accepted, i, given⟩
    · exact ⟨fun succeeds => absurd (.inr ⟨some_, refused⟩) succeeds, fun _ => ⟨_, fails _ failed⟩⟩
    obtain ⟨c, counted, indexed⟩ := bind_eq_ok.mp given
    have inside : min i (labels.length - 1) < labels.length := by
      have := List.length_pos_iff.mpr some_
      omega
    have found := List.getElem?_eq_getElem inside
    rw [gives i _ given found]
    rcases written with ⟨long, unwritten⟩ | ⟨short, shown, written⟩
    · rw [unwritten]
      exact ⟨fun succeeds => absurd (.inl long) succeeds, fun _ => ⟨_, rfl⟩⟩
    · rw [written]
      refine ⟨fun _ => ⟨_, _, rfl, shown, written, .inr ?_⟩, ?_⟩
      · exact ⟨c, i, _, counted, indexed, found, rfl⟩
      rintro (long | ⟨-, refused⟩)
      · exact absurd long short
      · exact absurd refused accepted

/-- Russian forms for five, and none for a decimal that is too large to be divided by ten. -/
theorem selectForm_of_exact_russian :
    let lower := full
    let s : RenderState := {}
    let forms : Value := .tuple [.text "a" .unique, .text "b" .unique, .text "c" .unique] .unmarked
    (∃ t p, (lower.selectForm .facade (.int 5 .unique) forms (.text "ru" .unmarked)).outcome s =
      .ok (.text t p) ∧ PluralRule.russian.Reads s.heap (.int 5 .unique) ["a", "b", "c"] t) ∧
    ∃ f, (lower.selectForm .facade (.decimal (.finite false 1 29) .unmarked) forms
      (.text "ru" .unmarked)).outcome s = .error f := by
  intro lower s forms
  have literal : HoldsTexts s.heap forms ["a", "b", "c"] :=
    ⟨_, .tuple _ _, .cons ⟨_, rfl⟩ (.cons ⟨_, rfl⟩ (.cons ⟨_, rfl⟩ .nil))⟩
  have russian : ((engineOf s .facade).ruleFor "ru").1 = .russian := by decide +kernel
  have few : ¬PluralRule.russian.Fails ["a", "b", "c"] (.int 5 .unique) := by
    rintro (long | ⟨-, refused⟩)
    · have large (k : Nat) (some_ : 1 ≤ k) : 6 ≤ Nat.pow 10 k :=
        Nat.le_trans (by decide) (Nat.pow_le_pow_right (by decide) some_)
      exact Nat.not_le_of_lt (large Number.maxDigits (by decide)) long
    · exact refused
  have large : PluralRule.russian.Fails ["a", "b", "c"]
      (.decimal (.finite false 1 29) .unmarked) := by
    refine .inr ⟨by simp, ?_⟩
    change Decimal.reach 29 ≤ Decimal.size 1 29
    norm_num [Decimal.reach, Decimal.size, Decimal.precision]
  have whole : (Value.int 5 .unique).IsExact := trivial
  have decimal : (Value.decimal (.finite false 1 29) .unmarked).IsExact := trivial
  obtain ⟨given, -⟩ := selectForm_of_exact lower .facade "ru" .unmarked s whole literal
  obtain ⟨-, refused⟩ := selectForm_of_exact lower .facade "ru" .unmarked s decimal literal
  rw [russian] at given refused
  exact ⟨given few, refused large⟩

end Interpreter

end Phrasebook
