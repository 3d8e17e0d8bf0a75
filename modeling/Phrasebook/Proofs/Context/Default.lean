import Phrasebook.Proofs.Context.Chain
import Phrasebook.Proofs.Store.Run
/-!
What the default language lends to other locales: they find what it has itself, but not what only its
base language has.
-/
namespace Phrasebook.Context

variable {store : ResourceStore} {config : Config} {engine engine' : EngineOwner}
  {request home : Option Text} {data data' : OrderedMap Value} {key tag : Text}
  {template : Template}

theorem mem_chain_iff {c : Context} (opted : c.config.defaultOnMissing = true) :
    tag ∈ c.chain ↔ tag = c.language ∨ tag = c.base ∨ tag = c.config.defaultLanguage := by
  simp only [chain, opted]
  split_ifs with same
  · simp [same]
  · simp

theorem fresh_of_loaded (loaded : Resolution.isLoaded store config request = true) :
    fresh store config engine request data = ⟨config, engine, Resolution.requested config request,
      Locale.base (Resolution.requested config request), data⟩ := by
  have resolved := Resolution.resolve_of_loaded loaded
  simp only [fresh, new, resolved]

theorem fresh_of_unloaded (unloaded : Resolution.isLoaded store config request = false) :
    fresh store config engine request data =
      ⟨config, engine, config.defaultLanguage, config.defaultBase, data⟩ := by
  have resolved := Resolution.resolve_of_unloaded unloaded
  simp only [fresh, new, resolved]

theorem fresh_default (isHome : Resolution.requested config home = config.defaultLanguage) :
    fresh store config engine home data =
      ⟨config, engine, config.defaultLanguage, config.defaultBase, data⟩ := by
  cases loaded : Resolution.isLoaded store config home
  · exact fresh_of_unloaded loaded
  · rw [fresh_of_loaded loaded, isHome]
    rfl

/-- A locale of which something is loaded, but which lacks a key as the default language does. -/
def Lacks (store : ResourceStore) (config : Config) (request : Option Text) (key : Text) : Prop :=
  Resolution.isLoaded store config request = true ∧ ∀ tag ∈ [Resolution.requested config request,
      Locale.base (Resolution.requested config request), config.defaultLanguage],
    store.lookup tag key = .ok none

section
variable (opted : config.defaultOnMissing = true)
include opted

/-- What is found for the default language is its own, or that of its base. -/
theorem found_for_default
    (found : (⟨config, engine', config.defaultLanguage, config.defaultBase, data'⟩ : Context).found?
      store key = .ok (some template)) :
    store.lookup config.defaultLanguage key = .ok (some template) ∨
      store.lookup config.defaultLanguage key = .ok none ∧
        store.lookup config.defaultBase key = .ok (some template) := by
  rw [found?_eq] at found
  rcases own : store.lookup config.defaultLanguage key with f | _ | t
  · rw [chain, ResourceStore.firstTemplate_of_error own] at found
    cases found
  · refine .inr ⟨rfl, ?_⟩
    obtain ⟨front, tag, back, cut, -, here⟩ :=
      (ResourceStore.firstTemplate_eq_iff (by simp)).mp found
    have member : tag ∈ front ++ tag :: back := by simp
    rw [← cut, mem_chain_iff opted] at member
    rcases member with rfl | rfl | rfl
    · rw [own] at here
      cases here
    · exact here
    · rw [own] at here
      cases here
  · rw [chain, ResourceStore.firstTemplate_of_found own] at found
    exact .inl found

theorem found_of_loaded (loaded : Resolution.isLoaded store config request = true)
    (readable : ∀ tag ∈ [Resolution.requested config request,
      Locale.base (Resolution.requested config request), config.defaultLanguage],
        ∀ f, store.lookup tag key ≠ .error f) :
    (fresh store config engine request data).found? store key = .ok none ∧
        Lacks store config request key ∨
      (∃ t, (fresh store config engine request data).found? store key = .ok (some t)) ∧
        ¬Lacks store config request key := by
  have whole : ∀ {P : Text → Prop}, (∀ tag ∈ (fresh store config engine request data).chain, P tag) ↔
      ∀ tag ∈ [Resolution.requested config request,
        Locale.base (Resolution.requested config request), config.defaultLanguage], P tag := by
    intro P
    refine forall_congr' fun tag => imp_congr_left ?_
    rw [fresh_of_loaded loaded, mem_chain_iff opted]
    simp
  rw [found?_eq]
  rcases first : store.firstTemplate key (fresh store config engine request data).chain with f | _ | t
  · obtain ⟨front, tag, back, cut, -, here⟩ :=
      (ResourceStore.firstTemplate_eq_iff (by simp)).mp first
    exact absurd here (whole.mpr readable tag (by simp [cut]) f)
  · exact .inl ⟨rfl, loaded, whole.mp (ResourceStore.firstTemplate_eq_none_iff.mp first)⟩
  · refine .inr ⟨⟨t, rfl⟩, fun lacks => ?_⟩
    rw [ResourceStore.firstTemplate_eq_none_iff.mpr (whole.mpr lacks.2)] at first
    cases first

/-- What is found for the default language is found for a request, unless its locale lacks the key. -/
theorem found_or_lacks
    (found : (⟨config, engine', config.defaultLanguage, config.defaultBase, data'⟩ : Context).found?
      store key = .ok (some template))
    (readable : ∀ tag ∈ [Resolution.requested config request,
      Locale.base (Resolution.requested config request)], ∀ f, store.lookup tag key ≠ .error f) :
    (fresh store config engine request data).found? store key = .ok none ∧
        Lacks store config request key ∨
      (∃ t, (fresh store config engine request data).found? store key = .ok (some t)) ∧
        ¬Lacks store config request key := by
  cases loaded : Resolution.isLoaded store config request
  · refine .inr ⟨⟨template, ?_⟩, fun lacks => ?_⟩
    · rw [found?_eq] at found ⊢
      rw [fresh_of_unloaded loaded]
      exact found
    · rw [lacks.1] at loaded
      cases loaded
  · refine found_of_loaded opted loaded ?_
    simp only [List.forall_mem_cons] at readable ⊢
    refine ⟨readable.1, readable.2.1, fun f failed => ?_, by simp⟩
    have inDefault := found_for_default opted found
    rw [failed] at inDefault
    simp at inDefault

/-- What a context for the default language finds, one for any other locale finds, too, and renders
no key for it; unless that is loaded and lacks the key, which the default language does not have
itself but in its base. -/
theorem finds_with_default
    (isHome : Resolution.requested config home = config.defaultLanguage)
    (found : (fresh store config engine' home data').found? store key = .ok (some template))
    (readable : ∀ tag ∈ [Resolution.requested config request,
      Locale.base (Resolution.requested config request)], ∀ f, store.lookup tag key ≠ .error f) :
    let c := fresh store config engine request data
    ((∃ t records, c.found? store key = .ok (some t) ∧
        c.findTemplate store key = .ok (t, records)) ↔ ¬Lacks store config request key) ∧
      (Lacks store config request key → c.found? store key = .ok none ∧
        store.lookup config.defaultLanguage key = .ok none ∧
        store.lookup config.defaultBase key = .ok (some template)) := by
  intro c
  rw [fresh_default isHome] at found
  have inDefault := found_for_default opted found
  have either : c.found? store key = .ok none ∧ Lacks store config request key ∨
      (∃ t, c.found? store key = .ok (some t)) ∧ ¬Lacks store config request key :=
    found_or_lacks opted found readable
  rcases either with ⟨absent, lacks⟩ | ⟨⟨t, present⟩, has⟩
  · refine ⟨⟨?_, fun has => absurd lacks has⟩, fun _ => ⟨absent, ?_⟩⟩
    · rintro ⟨t, records, present, -⟩
      rw [absent] at present
      cases present
    · have own := lacks.2 config.defaultLanguage (by simp)
      refine ⟨own, (inDefault.resolve_left fun taken => ?_).2⟩
      rw [own] at taken
      cases taken
  · refine ⟨⟨fun _ => has, fun _ => ?_⟩, fun lacks => absurd lacks has⟩
    rcases c.findTemplate_cases store key with
      ⟨f, failed, -⟩ | ⟨t', records, taken, given⟩ | ⟨absent, -⟩
    · rw [present] at failed
      cases failed
    · exact ⟨t', records, taken, given⟩
    · rw [present] at absent
      cases absent

end

/-- A store after loading a phrase for one locale, and nothing for French. -/
def phraseFor (tag : Text) : ResourceStore :=
  (StoreCall.run {} [.load tag (.map [(.text "k" .unmarked, .text "Hello")]),
    .load "fr" (.map [])]).store

theorem finds_phrase_of_default :
    let config : Config := { defaultLanguage := "en-us", defaultOnMissing := true }
    let c := fresh (phraseFor "en-US") config .facade (some "fr") []
    ((∃ t records, c.found? (phraseFor "en-US") "k" = .ok (some t) ∧
        c.findTemplate (phraseFor "en-US") "k" = .ok (t, records)) ↔
      ¬Lacks (phraseFor "en-US") config (some "fr") "k") ∧
    (Lacks (phraseFor "en-US") config (some "fr") "k" →
      c.found? (phraseFor "en-US") "k" = .ok none ∧
        (phraseFor "en-US").lookup "en-us" "k" = .ok none ∧
        (phraseFor "en-US").lookup "en" "k" = .ok (some (.constant "Hello"))) := by
  have found : (fresh (phraseFor "en-US") { defaultLanguage := "en-us", defaultOnMissing := true }
      .facade none []).found? (phraseFor "en-US") "k" = .ok (some (.constant "Hello")) := rfl
  have readable : ∀ f, (phraseFor "en-US").lookup "fr" "k" ≠ .error f := by
    intro f failed
    cases (failed : Except.ok none = Except.error f)
  refine finds_with_default rfl rfl found ?_
  intro tag member
  have same : tag = "fr" := by
    rcases List.mem_cons.mp member with here | later
    · exact here
    · exact List.mem_singleton.mp later
  rw [same]
  exact readable

/-- The phrase of the default's base language is found for the default language, and for French the
key is the text. -/
theorem phrase_of_base_not_lent :
    let config : Config := { defaultLanguage := "en-us", defaultOnMissing := true }
    (fresh (phraseFor "en") config .facade (some "en-us") []).found? (phraseFor "en") "k" =
      .ok (some (.constant "Hello")) ∧
    (fresh (phraseFor "en") config .facade (some "fr") []).found? (phraseFor "en") "k" = .ok none ∧
    ∃ records, (fresh (phraseFor "en") config .facade (some "fr") []).findTemplate
      (phraseFor "en") "k" = .ok (.constant "k", records) :=
  ⟨rfl, rfl, _, rfl⟩

end Phrasebook.Context
