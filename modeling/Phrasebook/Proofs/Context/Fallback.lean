import Phrasebook.Proofs.Simulation.Rendering
/-!
What the less specific locales of a store have to do with a render: nothing, once the requested locale
has the key, or its language has it alone, and nothing among the data asks the store by itself.
-/
namespace Phrasebook

namespace Simulation

/-- Two runs over any stores, in which nothing asks the store. -/
def overStores : Simulation where
  shift := 1
  runs first second := second = first
  stores _ _ := True
  kept _ _ := True
  scope _ _ _ := True
  template _ := True
  allowed _ := True
  excused _ := False
  refl _ := trivial
  trans _ _ := trivial
  runtime _ := trivial
  refused _ _ := trivial
  parts _ _ _ := trivial
  items _ _ _ := trivial
  body _ _ _ := trivial
  timing := @Run.timing_of_eq
  data same _ _ _ _ _ := by rw [same]

theorem overStores_guards : overStores.Guards := guards_of_same Iff.rfl fun _ _ => trivial

theorem overStores_starts : overStores.Starts where
  unexcused _ := id
  size same := congrArg Array.size same
  push _ _ _ same := congrArg (Array.push · _) same
  kept _ _ := trivial
  parts _ _ _ _ := trivial

theorem overStores_follows (n : Nat) :
    (Interpreter.ofFrames n).Follows overStores (Interpreter.ofFrames n) :=
  Interpreter.ofFrames_follows overStores_guards (fun _ => asks_of_shift Nat.one_ne_zero _ _) n

end Simulation

theorem Value.bindTo_quiet {v : Value} (quiet : v.asksStore = false) (id : Nat) :
    (v.bindTo id).asksStore = false := by
  cases v <;> exact quiet

theorem Context.dataWith_quiet {c : Context} (configured : c.config.templateData.IsQuiet)
    (given : c.templateData.IsQuiet) {data : OrderedMap Value} (called : data.IsQuiet) :
    (c.dataWith data).IsQuiet := by
  have default : OrderedMap.IsQuiet
      (OrderedMap.ofList [(Text.ofString "pluralize", Value.helper .pluralize)]) :=
    List.forall_mem_singleton.mpr rfl
  exact ((default.insertAll configured).insertAll given).insertAll called

namespace Render

/-- A key for which both stores give one template is rendered alike. -/
theorem renderKey_agrees (n : Nat) {s : RenderState} (image : s.Image (.past 1) s) {r : Nat}
    {c : Context} (held : s.contexts[r]? = some c) {key : Text} {data : OrderedMap Value}
    (quiet : (c.dataWith data).IsQuiet) {t : Template} {records : List LogRecord}
    (found : c.findTemplate s.store key = .ok (t, records)) {other : ResourceStore}
    (foundThere : c.findTemplate other key = .ok (t, records)) :
    (renderKey (.ofFrames n) r key data).outcome { s with store := other } =
      (renderKey (.ofFrames n) r key data).outcome s := by
  have bound : ((c.dataWith data).map fun e => e.2.bindTo r).map (Value.rename (.past 1)) =
      (c.dataWith data).map fun e => e.2.bindTo r := by
    refine Value.map_still (.inl (List.forall_mem_map.mpr fun e member => ?_))
    exact Value.bindTo_quiet (quiet e member) r
  rw [renderKey_of_found (outcome_context held) found,
    renderKey_of_found (s := { s with store := other }) (outcome_context held) foundThere]
  have near : Simulation.overStores.Near { s with log := records.reverse ++ s.log } s.runs other :=
    ⟨{ image with }, fun _ _ _ _ => trivial, rfl, trivial⟩
  have follows := renderFound_follows (Simulation.overStores_follows n)
    Simulation.overStores_starts r key (t := t) trivial bound
  exact (follows.ended near fun f _ => Simulation.overStores_starts.unexcused f).1

end Render

namespace ResourceStore

variable {S₁ S₂ : ResourceStore} {tag key : Text}

/-- Two stores hold the same tree for a locale, or none both. -/
def SameTree (S₁ S₂ : ResourceStore) (tag : Text) : Prop :=
  S₁.trees.get? (Locale.normalize tag) = S₂.trees.get? (Locale.normalize tag)

/-- Two stores of which a locale sees the same: its own tree, where that has the key, or else the
tree of its language, where that has it. -/
def SeesSame (S₁ S₂ : ResourceStore) (tag key : Text) : Prop :=
  S₁.SameTree S₂ tag ∧ (∃ t, S₁.lookup tag key = .ok (some t)) ∨
  S₁.lookup tag key = .ok none ∧ S₂.lookup tag key = .ok none ∧
    S₁.SameTree S₂ (Locale.base tag) ∧ ∃ t, S₁.lookup (Locale.base tag) key = .ok (some t)

theorem SameTree.lookup (same : S₁.SameTree S₂ tag) (key : Text) :
    S₂.lookup tag key = S₁.lookup tag key := by
  rw [ResourceStore.lookup, find, ← show S₁.trees.get? _ = S₂.trees.get? _ from same]
  rfl

theorem hasLocale_of_found {t : Template} (found : S₁.lookup tag key = .ok (some t)) :
    S₁.hasLocale tag = true := by
  by_contra unloaded
  rw [lookup_of_unloaded (by simpa using unloaded)] at found
  cases found

end ResourceStore

namespace Context

variable {c : Context} {store : ResourceStore} {key : Text} {t : Template}

theorem findTemplate_of_own (found : store.lookup c.language key = .ok (some t)) :
    c.findTemplate store key = .ok (t, []) := by
  rw [findTemplate, chainTemplate, found]
  rfl

theorem findTemplate_of_base (absent : store.lookup c.language key = .ok none)
    (found : store.lookup c.base key = .ok (some t)) :
    c.findTemplate store key = .ok (t, [c.baseRecord key]) := by
  have other : c.base ≠ c.language := by
    intro same
    rw [same, absent] at found
    cases found
  rw [findTemplate, chainTemplate, absent, if_neg other, found]
  rfl

end Context

namespace Facade

/-- Makes a context for a request, and renders a key in it. -/
def renderFor (config : Config) (owner : EngineOwner) (request : Option Text)
    (data : OrderedMap Value) (key : Text) (more : OrderedMap Value) : Render Text := do
  renderIn (← createContext config owner request data) key more

theorem outcome_renderFor (config : Config) (owner : EngineOwner) (request : Option Text)
    (data : OrderedMap Value) (key : Text) (more : OrderedMap Value) (s : RenderState) :
    (renderFor config owner request data key more).outcome s =
      (Context.fresh s.store config owner request data).rendering
        { s with log := (Context.new s.store config owner request data).2.reverse ++ s.log }
        key more := rfl

section
variable {config : Config} {request : Option Text} {S₁ S₂ : ResourceStore} {key : Text}
  (named : Locale.normalize (request.getD []) ≠ [])
include named

theorem requested_of_named :
    Resolution.requested config request = Locale.normalize (request.getD []) :=
  if_neg (by simpa using named)

/-- A request for a named locale that has a key, or whose language has it, is not redirected. -/
theorem new_of_found {store : ResourceStore} {t : Template} {tag : Text}
    (member : tag = Locale.normalize (request.getD []) ∨
      tag = Locale.base (Locale.normalize (request.getD [])))
    (found : store.lookup tag key = .ok (some t)) (owner : EngineOwner) (data : OrderedMap Value) :
    Context.new store config owner request data =
      (⟨config, owner, Locale.normalize (request.getD []),
        Locale.base (Locale.normalize (request.getD [])), data⟩, []) := by
  have loaded : Resolution.isLoaded store config request = true := by
    rw [Resolution.isLoaded, requested_of_named named, Bool.or_eq_true]
    rcases member with rfl | rfl
    · exact .inl (ResourceStore.hasLocale_of_found found)
    · exact .inr (ResourceStore.hasLocale_of_found found)
  have resolved := Resolution.resolve_of_loaded loaded
  rw [requested_of_named named] at resolved
  exact Prod.ext (by simp only [Context.new, resolved]) (Resolution.records_of_loaded loaded)

variable (config) in
/-- Stores of which a locale sees the same resolve a request for it alike, and give one template. -/
theorem contexts_of_seesSame (owner : EngineOwner) (data : OrderedMap Value)
    (sees : S₁.SeesSame S₂ (Locale.normalize (request.getD [])) key) :
    ∃ c t records, c.config = config ∧ c.templateData = data ∧
      Context.new S₁ config owner request data = (c, []) ∧
      Context.new S₂ config owner request data = (c, []) ∧
      c.findTemplate S₁ key = .ok (t, records) ∧ c.findTemplate S₂ key = .ok (t, records) := by
  let c : Context := ⟨config, owner, Locale.normalize (request.getD []),
    Locale.base (Locale.normalize (request.getD [])), data⟩
  rcases sees with ⟨same, t, found⟩ | ⟨absent₁, absent₂, same, t, found⟩
  · have there := (same.lookup key).trans found
    exact ⟨c, t, [], rfl, rfl, new_of_found named (.inl rfl) found owner data,
      new_of_found named (.inl rfl) there owner data,
      Context.findTemplate_of_own found, Context.findTemplate_of_own there⟩
  · have there := (same.lookup key).trans found
    exact ⟨c, t, [c.baseRecord key], rfl, rfl, new_of_found named (.inr rfl) found owner data,
      new_of_found named (.inr rfl) there owner data,
      Context.findTemplate_of_base absent₁ found, Context.findTemplate_of_base absent₂ there⟩

/-- Where no data ask the store, a key renders alike over two stores of which the requested locale
sees the same, whatever the other locales and the default language are there. -/
theorem renderFor_of_seesSame {s : RenderState} (quiet : s.IsQuiet)
    (configured : config.templateData.IsQuiet) {data more : OrderedMap Value}
    (given : data.IsQuiet) (called : more.IsQuiet) (owner : EngineOwner)
    (sees : S₁.SeesSame S₂ (Locale.normalize (request.getD [])) key) :
    (renderFor config owner request data key more).outcome { s with store := S₁ } =
      (renderFor config owner request data key more).outcome { s with store := S₂ } := by
  obtain ⟨c, t, records, rfl, rfl, made₁, made₂, found₁, found₂⟩ :=
    contexts_of_seesSame config named owner data sees
  have before : s.Image (.past 1) s := RenderState.still (.inl quiet)
  have contexts := before.contexts.push c
  rw [Context.still (.inl ⟨configured, given⟩)] at contexts
  have image : RenderState.Image (.past 1) { s with contexts := s.contexts.push c, store := S₁ }
      { s with contexts := s.contexts.push c, store := S₁ } :=
    { before with contexts, store := rfl }
  have held : (s.contexts.push c)[s.contexts.size]? = some c := Array.getElem?_push_size
  have agrees := Render.renderKey_agrees Interpreter.frames image held
    (Context.dataWith_quiet configured given called) found₁ found₂
  rw [outcome_renderFor, outcome_renderFor, Context.fresh, made₁, Context.fresh, made₂]
  exact agrees.symm

end

/-- A store after loading one phrase for each of some locales. -/
def phrases (given : List (Text × Text)) : ResourceStore :=
  (StoreCall.run {} (given.map fun p =>
    .load p.1 (.map [(.text "k" .unmarked, .text p.2)]))).store

theorem renderFor_of_phrase_in_base :
    let config : Config := { defaultLanguage := "de", defaultOnMissing := true }
    let count : OrderedMap Value := [(Text.ofString "n", .ofInt 2)]
    (phrases [("en", "Hello")]).SeesSame (phrases [("de", "Hallo"), ("en", "Hello")]) "en-us" "k" ∧
    (renderFor config .facade (some "en-US") [] "k" count).outcome
        { store := phrases [("en", "Hello")] } =
      (renderFor config .facade (some "en-US") [] "k" count).outcome
        { store := phrases [("de", "Hallo"), ("en", "Hello")] } := by
  have sees : (phrases [("en", "Hello")]).SeesSame (phrases [("de", "Hallo"), ("en", "Hello")])
      "en-us" "k" := .inr ⟨rfl, rfl, rfl, .constant "Hello", rfl⟩
  have named : Locale.normalize ((some "en-US" : Option Text).getD []) ≠ [] := by decide
  have quiet : RenderState.IsQuiet {} := ⟨by simp, by simp, by simp, by simp, by simp, by simp, by simp⟩
  have empty : OrderedMap.IsQuiet [] := List.forall_mem_nil _
  have called : OrderedMap.IsQuiet [(Text.ofString "n", .ofInt 2)] := List.forall_mem_singleton.mpr rfl
  exact ⟨sees, renderFor_of_seesSame named quiet empty empty called .facade sees⟩

/-- An empty tag is no locale of its own: it asks for the default language, whatever has been loaded
under it. -/
theorem phrase_of_empty_tag :
    Locale.normalize ((some "" : Option Text).getD []) = [] ∧
    (phrases [("", "A")]).SeesSame (phrases [("", "A"), ("en", "B")]) "" "k" ∧
    (renderFor {} .facade (some "") [] "k" []).outcome { store := phrases [("", "A")] } = .ok "k" ∧
    (renderFor {} .facade (some "") [] "k" []).outcome
      { store := phrases [("", "A"), ("en", "B")] } = .ok "B" :=
  ⟨rfl, .inl ⟨rfl, .constant "A", rfl⟩, rfl, rfl⟩

end Facade
end Phrasebook
