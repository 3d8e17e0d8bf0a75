import Phrasebook.Plural.Engine
import Phrasebook.Proofs.Locale.NormalForm
import Phrasebook.Proofs.OrderedMap
/-!
Runs of a plural engine. What stands for a tag is what was given last, in the table or by a
registration; what stands for the default language is settled when the engine is made, from the
whole tag, and no registration changes it.
-/
namespace Phrasebook

/-- What a caller can ask of an engine. -/
inductive PluralCall where
  | ruleFor (tag : Text)
  | register (tag : Text) (rule : PluralRule)
  | clampIndex (rule : PluralRule) (index forms : Nat)
  | resetWarnings

namespace PluralCall

def registered? : PluralCall → Option (Text × PluralRule)
  | register tag rule => some (tag, rule)
  | _ => none

def registrations (calls : List PluralCall) : List (Text × PluralRule) :=
  calls.filterMap registered?

end PluralCall

namespace PluralEngine

variable (e : PluralEngine) (table : List (Text × PluralRule)) (language tag : Text)
  (calls : List PluralCall)

/-- What becomes of an engine by one call. -/
def next (e : PluralEngine) : PluralCall → PluralEngine
  | .ruleFor tag => (e.ruleFor tag).2.1
  | .register tag rule => e.register tag rule
  | .clampIndex rule index forms => (e.clampIndex rule index forms).2.1
  | .resetWarnings => e.resetWarnings

def run (e : PluralEngine) (calls : List PluralCall) : PluralEngine := calls.foldl next e

def inNormalForm (entries : List (Text × PluralRule)) : List (Text × PluralRule) :=
  entries.map fun entry => (Locale.normalize entry.1, entry.2)

/-- The rule given last to a code in normal form. -/
def lastRule? (entries : List (Text × PluralRule)) (code : Text) : Option PluralRule :=
  (inNormalForm entries).reverse.lookup code

/-- The rule that a default language gives an engine when it is made. -/
def firstDefault (table : List (Text × PluralRule)) (language : Text) : PluralRule :=
  (lastRule? table (Locale.normalize language)).getD .english

/-- What the entries have for a tag or else for its language. -/
def resolved? (entries : List (Text × PluralRule)) (tag : Text) : Option PluralRule :=
  (lastRule? entries (Locale.normalize tag)).or (lastRule? entries (Locale.base tag))

private theorem inNormalForm_append (older newer : List (Text × PluralRule)) :
    inNormalForm (older ++ newer) = inNormalForm older ++ inNormalForm newer := by
  simp [inNormalForm]

theorem lastRule?_append (older newer : List (Text × PluralRule)) (code : Text) :
    lastRule? (older ++ newer) code = (lastRule? newer code).or (lastRule? older code) := by
  rw [lastRule?, inNormalForm_append, List.reverse_append, List.lookup_append]
  rfl

theorem lastRule?_eq_none_iff (entries : List (Text × PluralRule)) (code : Text) :
    lastRule? entries code = none ↔ ∀ entry ∈ entries, Locale.normalize entry.1 ≠ code := by
  simp only [lastRule?, inNormalForm, List.lookup_eq_none_iff, List.mem_reverse,
    List.forall_mem_map, bne_iff_ne, ne_comm]

theorem next_rules (call : PluralCall) :
    (e.next call).rules = e.rules.insertAll (inNormalForm call.registered?.toList) := by
  cases call with
  | ruleFor tag =>
    simp only [next, PluralEngine.ruleFor]
    split
    · rfl
    · split_ifs <;> rfl
  | register tag rule => rfl
  | clampIndex rule index forms =>
    simp only [next, PluralEngine.clampIndex]
    split_ifs <;> rfl
  | resetWarnings => rfl

theorem next_defaultRule (call : PluralCall) : (e.next call).defaultRule = e.defaultRule := by
  cases call with
  | ruleFor tag =>
    simp only [next, PluralEngine.ruleFor]
    split
    · rfl
    · split_ifs <;> rfl
  | register tag rule => rfl
  | clampIndex rule index forms =>
    simp only [next, PluralEngine.clampIndex]
    split_ifs <;> rfl
  | resetWarnings => rfl

theorem run_rules : (e.run calls).rules =
    e.rules.insertAll (inNormalForm (PluralCall.registrations calls)) := by
  induction calls generalizing e with
  | nil => rfl
  | cons call later ih =>
    have split : PluralCall.registrations (call :: later) =
        call.registered?.toList ++ PluralCall.registrations later := by
      cases given : call.registered? <;> simp [PluralCall.registrations, given]
    calc (e.run (call :: later)).rules
        = ((e.next call).run later).rules := rfl
      _ = (e.next call).rules.insertAll (inNormalForm (PluralCall.registrations later)) := ih _
      _ = _ := by rw [next_rules, split, inNormalForm_append, OrderedMap.insertAll_append]

theorem run_defaultRule : (e.run calls).defaultRule = e.defaultRule := by
  induction calls generalizing e with
  | nil => rfl
  | cons call later ih => exact (ih (e.next call)).trans (e.next_defaultRule call)

theorem get?_run_new (code : Text) : ((new table language).run calls).rules.get? code =
    lastRule? (table ++ PluralCall.registrations calls) code := by
  rw [run_rules, OrderedMap.get?_insertAll, lastRule?_append]
  congr 1
  exact (OrderedMap.get?_insertAll _ _ _).trans (Option.or_none ..)

theorem defaultRule_run_new :
    ((new table language).run calls).defaultRule = firstDefault table language := by
  rw [run_defaultRule]
  have built := get?_run_new table language [] (Locale.normalize language)
  rw [PluralCall.registrations, List.filterMap_nil, List.append_nil] at built
  exact congrArg (Option.getD · _) built

theorem entry?_run_new : entry? ((new table language).run calls) tag =
    resolved? (table ++ PluralCall.registrations calls) tag := by
  have sameBase : Locale.base (Locale.normalize tag) = Locale.base tag := by
    rw [Locale.base, Locale.normalize_normalize, Locale.base]
  simp only [get?_run_new, sameBase, resolved?, entry?]
  cases lastRule? (table ++ PluralCall.registrations calls) (Locale.normalize tag) <;> rfl

theorem ruleFor_fst : (e.ruleFor tag).1 = ( e.entry? tag).getD e.defaultRule := by
  cases found : e.entry? tag with
  | some rule => simp [ruleFor, found]
  | none =>
    simp only [ruleFor, found]
    split_ifs <;> rfl

/-- Which rule a tag has after any calls. -/
theorem ruleFor_run_new : (((new table language).run calls).ruleFor tag).1 =
    (resolved? (table ++ PluralCall.registrations calls) tag).getD
      (firstDefault table language) := by
  rw [ruleFor_fst, entry?_run_new, defaultRule_run_new]

theorem resolved?_eq_none_iff (entries : List (Text × PluralRule)) : resolved? entries tag = none ↔
    ∀ entry ∈ entries, Locale.normalize entry.1 ≠ Locale.normalize tag ∧
      Locale.normalize entry.1 ≠ Locale.base tag := by
  simp only [resolved?, Option.or_eq_none_iff, lastRule?_eq_none_iff, ← forall₂_and]

/-- A default language with an entry of its own keeps the rule of that entry while it is not
registered anew. -/
theorem resolved?_of_tabled (entered : (lastRule? table (Locale.normalize language)).isSome)
    (kept : ∀ entry ∈ PluralCall.registrations calls,
      Locale.normalize entry.1 ≠ Locale.normalize language) :
    resolved? (table ++ PluralCall.registrations calls) language =
      some (firstDefault table language) := by
  obtain ⟨rule, found⟩ := Option.isSome_iff_exists.mp entered
  have latest : lastRule? (table ++ PluralCall.registrations calls) (Locale.normalize language)
      = some rule := by
    rw [lastRule?_append, (lastRule?_eq_none_iff _ _).mpr kept, Option.none_or, found]
  simp [resolved?, latest, firstDefault, found]

/-- An unknown tag follows the rule that the default language had when the engine was made, which is
the one the engine itself applies to the default language only while the entries say so. -/
theorem ruleFor_unknown
    (unknown : ∀ entry ∈ table ++ PluralCall.registrations calls,
      Locale.normalize entry.1 ≠ Locale.normalize tag ∧
        Locale.normalize entry.1 ≠ Locale.base tag) :
    (((new table language).run calls).ruleFor tag).1 = firstDefault table language ∧
    ((((new table language).run calls).ruleFor tag).1 =
        (((new table language).run calls).ruleFor language).1 ↔
      ∀ rule, resolved? (table ++ PluralCall.registrations calls) language = some rule →
        rule = firstDefault table language) ∧
    ((lastRule? table (Locale.normalize language)).isSome →
      (∀ entry ∈ PluralCall.registrations calls,
        Locale.normalize entry.1 ≠ Locale.normalize language) →
      (((new table language).run calls).ruleFor tag).1 =
        (((new table language).run calls).ruleFor language).1) := by
  have follows : (((new table language).run calls).ruleFor tag).1 =
      firstDefault table language := by
    rw [ruleFor_run_new, (resolved?_eq_none_iff _ _).mpr unknown, Option.getD_none]
  refine ⟨follows, ?_, fun entered kept => ?_⟩
  · rw [follows, ruleFor_run_new]
    cases resolved? (table ++ PluralCall.registrations calls) language with
    | none => simp
    | some rule => simp [eq_comm]
  · rw [follows, ruleFor_run_new, resolved?_of_tabled table language calls entered kept,
      Option.getD_some]

/-- A regional default has no entry of its own: unknown tags do not follow its language. -/
theorem ruleFor_unknown_regional :
    ((new languageRules "ru-RU").ruleFor "xx").1 = .english ∧
      ((new languageRules "ru-RU").ruleFor "ru-RU").1 = .russian := by
  obtain ⟨follows, agree, -⟩ := ruleFor_unknown languageRules "ru-RU" "xx" [] (by decide +kernel)
  have first : firstDefault languageRules "ru-RU" = .english := by decide +kernel
  have now : resolved? (languageRules ++ PluralCall.registrations []) "ru-RU" = some .russian := by
    decide +kernel
  refine ⟨follows.trans first, ?_⟩
  have current := ruleFor_run_new languageRules "ru-RU" "ru-RU" []
  rwa [now] at current

end PluralEngine
end Phrasebook
