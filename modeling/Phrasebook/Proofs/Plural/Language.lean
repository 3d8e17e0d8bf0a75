import Phrasebook.Proofs.Plural.Engine
import Phrasebook.Resource.Store
/-!
The language of a tag, as a store and an engine read it. A store normalizes it once more, an engine
does not: they part where the language ends in a blank.
-/
namespace Phrasebook

open Locale (separator normalize base EndsInBlank normalize_normalize normalize_base base_base
  normalize_base_eq_self_iff base_base_eq_self_iff)

namespace ResourceStore

variable (s : ResourceStore) {tag other : Text}

theorem find_congr (same : normalize tag = normalize other) (key : Text) :
    s.find tag key = s.find other key := by
  rw [find, find, same]

theorem lookup_congr (same : normalize tag = normalize other) (key : Text) :
    s.lookup tag key = s.lookup other key := by
  rw [lookup, lookup, s.find_congr same]

end ResourceStore

namespace PluralEngine

variable (table : List (Text × PluralRule)) (language tag : Text) (calls : List PluralCall)

/-- No entry stands under a text that is not in normal form. -/
theorem lastRule?_of_not_normal {entries : List (Text × PluralRule)} {code : Text}
    (notNormal : normalize code ≠ code) : lastRule? entries code = none := by
  rw [lastRule?_eq_none_iff]
  rintro entry - rfl
  exact notNormal (normalize_normalize entry.1)

theorem ruleFor_run_new_of_absent
    (absent : lastRule? (table ++ PluralCall.registrations calls) (normalize tag) = none) :
    (((new table language).run calls).ruleFor tag).1 =
      (lastRule? (table ++ PluralCall.registrations calls) (base tag)).getD
        (firstDefault table language) := by
  rw [ruleFor_run_new, resolved?, absent, Option.none_or]

/-- A store reads the language of a tag without the blank at its end. An engine reads it as it is: a
tag without an entry of its own has the rule of its language, unless a blank stands at the end of the
language; then it has that of the default language, whatever is registered. -/
theorem ruleFor_by_language :
    separator ∉ base tag ∧
    (∀ s : ResourceStore, s.hasLocale (base tag) = s.trees.has (Text.strip (base tag)) ∧
      ∀ key, s.lookup (base tag) key = s.lookup (Text.strip (base tag)) key) ∧
    (¬EndsInBlank (base tag) →
      normalize (base tag) = base tag ∧ base (base tag) = base tag ∧
      ∀ table language calls rule,
        lastRule? (table ++ PluralCall.registrations calls) (normalize tag) = none →
        lastRule? (table ++ PluralCall.registrations calls) (normalize (base tag)) = some rule →
          (((new table language).run calls).ruleFor tag).1 = rule) ∧
    (EndsInBlank (base tag) →
      normalize (base tag) = Text.strip (base tag) ∧ normalize (base tag) ≠ base tag ∧
      base (base tag) = Text.strip (base tag) ∧
      ∀ table language calls,
        lastRule? (table ++ PluralCall.registrations calls) (normalize tag) = none →
          (((new table language).run calls).ruleFor tag).1 = firstDefault table language) := by
  refine ⟨Locale.separator_not_mem_base tag, fun s => ⟨?_, fun key => ?_⟩, fun trimmed => ?_,
    fun blank => ?_⟩
  · rw [ResourceStore.hasLocale, normalize_base]
  · refine s.lookup_congr ?_ key
    rw [← normalize_base, normalize_normalize]
  · have fixed : normalize (base tag) = base tag := (normalize_base_eq_self_iff tag).mpr trimmed
    refine ⟨fixed, (base_base_eq_self_iff tag).mpr trimmed, ?_⟩
    intro table language calls rule absent found
    rw [fixed] at found
    rw [ruleFor_run_new_of_absent table language tag calls absent, found, Option.getD_some]
  · have moved : normalize (base tag) ≠ base tag := fun fixed =>
      (normalize_base_eq_self_iff tag).mp fixed blank
    refine ⟨normalize_base tag, moved, base_base tag, ?_⟩
    intro table language calls absent
    rw [ruleFor_run_new_of_absent table language tag calls absent, lastRule?_of_not_normal moved,
      Option.getD_none]

/-- Russian under the rules of English, for a blank before the hyphen. -/
theorem ruleFor_by_language_blank :
    ¬EndsInBlank (base "ru-RU") ∧ EndsInBlank (base "ru -RU") ∧
      ((new languageRules "en").ruleFor "ru-RU").1 = .russian ∧
      ((new languageRules "en").ruleFor "ru -RU").1 = .english ∧
      normalize (base "ru -RU") = normalize (base "ru-RU") := by
  obtain ⟨-, -, trimmed, -⟩ := ruleFor_by_language "ru-RU"
  obtain ⟨-, -, -, blank⟩ := ruleFor_by_language "ru -RU"
  have plain : base "ru-RU" = "ru" := by decide +kernel
  have spaced : base "ru -RU" = "ru " := by decide +kernel
  have noBlank : ¬EndsInBlank (base "ru-RU") := by
    rw [plain]
    simp [EndsInBlank]
    decide
  have endsInBlank : EndsInBlank (base "ru -RU") := by
    rw [spaced]
    exact ⟨32, rfl, by decide⟩
  obtain ⟨fixed, -, russian⟩ := trimmed noBlank
  obtain ⟨stripped, -, -, english⟩ := blank endsInBlank
  refine ⟨noBlank, endsInBlank, ?_, ?_, ?_⟩
  · exact russian languageRules "en" [] .russian (by decide +kernel) (by decide +kernel)
  · exact (english languageRules "en" [] (by decide +kernel)).trans (by decide +kernel)
  · rw [fixed, stripped, spaced, plain]
    decide +kernel

end PluralEngine
end Phrasebook
