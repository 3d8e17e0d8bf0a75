import Phrasebook.Proofs.OrderedMap
import Phrasebook.Proofs.Outcome
import Phrasebook.Render.Context
import Mathlib.Tactic.SplitIfs
/-!
The locale that a request resolves to, and the chain of locales of a context: looking a key up along
it takes the first template there is, and fails where the first look-up that does not come back empty
fails.
-/
namespace Phrasebook

/-- The first template that some locales have for a key. -/
def ResourceStore.firstTemplate (s : ResourceStore) (key : Text) :
    List Text → Except Fault (Option Template)
  | [] => .ok none
  | tag :: rest => do
    match ← s.lookup tag key with
    | some t => pure (some t)
    | none => s.firstTemplate key rest

namespace ResourceStore

variable {s : ResourceStore} {key tag : Text} {rest tags : List Text}

theorem firstTemplate_of_found {t : Template} (found : s.lookup tag key = .ok (some t)) :
    s.firstTemplate key (tag :: rest) = .ok (some t) := by
  rw [firstTemplate, found]
  rfl

theorem firstTemplate_of_none (absent : s.lookup tag key = .ok none) :
    s.firstTemplate key (tag :: rest) = s.firstTemplate key rest := by
  rw [firstTemplate, absent]
  rfl

theorem firstTemplate_of_error {f : Fault} (failed : s.lookup tag key = .error f) :
    s.firstTemplate key (tag :: rest) = .error f := by
  rw [firstTemplate, failed]
  rfl

/-- The first look-up that does not come back empty decides. -/
theorem firstTemplate_eq_iff {r : Except Fault (Option Template)} (decided : r ≠ .ok none) :
    s.firstTemplate key tags = r ↔
      ∃ front tag back, tags = front ++ tag :: back ∧
        (∀ t ∈ front, s.lookup t key = .ok none) ∧ s.lookup tag key = r := by
  induction tags with
  | nil =>
    constructor
    · intro empty
      exact absurd empty.symm decided
    · rintro ⟨front, tag, back, cut, -⟩
      simp at cut
  | cons tag rest ih =>
    by_cases absent : s.lookup tag key = .ok none
    · rw [firstTemplate_of_none absent, ih]
      constructor
      · rintro ⟨front, tag', back, rfl, before, here⟩
        refine ⟨tag :: front, tag', back, rfl, ?_, here⟩
        exact List.forall_mem_cons.mpr ⟨absent, before⟩
      · rintro ⟨_ | ⟨first, front⟩, tag', back, cut, before, here⟩
        · cases cut
          exact absurd (here.symm.trans absent) decided
        · cases cut
          exact ⟨front, tag', back, rfl, (List.forall_mem_cons.mp before).2, here⟩
    · have taken : s.firstTemplate key (tag :: rest) = s.lookup tag key := by
        rcases here : s.lookup tag key with f | _ | t
        · exact firstTemplate_of_error here
        · exact absurd here absent
        · exact firstTemplate_of_found here
      rw [taken]
      constructor
      · intro here
        exact ⟨[], tag, rest, rfl, by simp, here⟩
      · rintro ⟨_ | ⟨first, front⟩, tag', back, cut, before, here⟩
        · cases cut
          exact here
        · cases cut
          exact absurd (List.forall_mem_cons.mp before).1 absent

theorem firstTemplate_eq_none_iff :
    s.firstTemplate key tags = .ok none ↔ ∀ tag ∈ tags, s.lookup tag key = .ok none := by
  induction tags with
  | nil => simp [firstTemplate]
  | cons tag rest ih =>
    rcases here : s.lookup tag key with f | _ | t
    · simp [firstTemplate_of_error here, here]
    · simp [firstTemplate_of_none here, here, ih]
    · simp [firstTemplate_of_found here, here]

theorem lookup_of_unloaded (unloaded : s.hasLocale tag = false) : s.lookup tag key = .ok none := by
  have absent : s.trees.get? (Locale.normalize tag) = none := by
    simpa [hasLocale, OrderedMap.has_eq] using unloaded
  rw [lookup, find, absent, Option.map_none, Resource.find]
  split_ifs
  · rfl
  · cases Text.splitAt Resource.separator key <;> rfl

end ResourceStore

theorem Render.context_of_held {s : RenderState} {id : Nat} {c : Context}
    (held : s.contexts[id]? = some c) : context id s = .ok c s := by
  change EStateM.Result.ok (s.contexts[id]?.getD _) s = _
  rw [held]
  rfl

namespace Resolution

/-- The normal form of a request; an empty one is for the default language. -/
def requested (config : Config) (request : Option Text) : Text :=
  let code := Locale.normalize (request.getD [])
  if code.isEmpty then config.defaultLanguage else code

/-- Whether a request need not fall back to the default language. -/
def isLoaded (store : ResourceStore) (config : Config) (request : Option Text) : Bool :=
  store.hasLocale (requested config request) || store.hasLocale (Locale.base (requested config request))

variable {store : ResourceStore} {config : Config} {request : Option Text}

theorem resolve_of_loaded (loaded : isLoaded store config request = true) :
    (resolve store config request).1 =
      ⟨requested config request, Locale.base (requested config request)⟩ := by
  change (ite _ _ _ : Resolution × List LogRecord).1 = _
  exact congrArg Prod.fst (if_pos loaded)

theorem records_of_loaded (loaded : isLoaded store config request = true) :
    (resolve store config request).2 = [] := by
  change (ite _ _ _ : Resolution × List LogRecord).2 = _
  exact congrArg Prod.snd (if_pos loaded)

theorem resolve_of_unloaded (unloaded : isLoaded store config request = false) :
    (resolve store config request).1 = ⟨config.defaultLanguage, config.defaultBase⟩ := by
  change (ite _ _ _ : Resolution × List LogRecord).1 = _
  exact congrArg Prod.fst (if_neg (ne_true_of_eq_false unloaded))

end Resolution

namespace Context

variable (c : Context) (store : ResourceStore) (key : Text)

/-- A context that has just been made. -/
def fresh (store : ResourceStore) (config : Config) (engine : EngineOwner) (request : Option Text)
    (data : OrderedMap Value) : Context :=
  (new store config engine request data).1

/-- Where a context looks a key up, the closest locale first. -/
def chain : List Text :=
  c.language :: ((if c.base = c.language then [] else [c.base])
    ++ if c.config.defaultOnMissing then [c.config.defaultLanguage] else [])

/-- The template that a context finds for a key. -/
def found? : Except Fault (Option Template) :=
  (c.chainTemplate store key).map (Option.map Prod.fst)

theorem found?_eq : c.found? store key = store.firstTemplate key c.chain := by
  have last : (do
      if c.config.defaultOnMissing then
        match ← store.lookup c.config.defaultLanguage key with
        | some t => pure (some (t, [defaultRecord c key]))
        | none => pure none
      else pure none : Except Fault (Option (Template × List LogRecord))).map (Option.map Prod.fst) =
      store.firstTemplate key (if c.config.defaultOnMissing then [c.config.defaultLanguage] else []) := by
    split_ifs
    · rw [ResourceStore.firstTemplate]
      rcases store.lookup c.config.defaultLanguage key with f | _ | t <;> rfl
    · rfl
  rw [found?, chainTemplate, chain]
  rcases own : store.lookup c.language key with f | _ | t
  · rw [ResourceStore.firstTemplate_of_error own]
    rfl
  · rw [ResourceStore.firstTemplate_of_none own]
    by_cases same : c.base = c.language
    · simp only [if_pos same, List.nil_append]
      exact last
    · simp only [if_neg same, List.singleton_append]
      rcases inBase : store.lookup c.base key with f | _ | t
      · rw [ResourceStore.firstTemplate_of_error inBase]
        rfl
      · rw [ResourceStore.firstTemplate_of_none inBase]
        exact last
      · rw [ResourceStore.firstTemplate_of_found inBase]
        rfl
  · rw [ResourceStore.firstTemplate_of_found own]
    rfl

/-- What a context renders for a key, the key itself included. -/
theorem findTemplate_cases :
    (∃ f, c.found? store key = .error f ∧ c.findTemplate store key = .error f) ∨
    (∃ t records, c.found? store key = .ok (some t) ∧
      c.findTemplate store key = .ok (t, records)) ∨
    c.found? store key = .ok none ∧ c.findTemplate store key =
      if c.config.allowMissing then .ok (.constant key, [missingRecord c key])
      else .error (.own (.keyNotFound (.diagnostic (Diagnostic.keyNotFound c.language key))
        c.language key)) := by
  rw [found?, findTemplate]
  rcases c.chainTemplate store key with f | _ | ⟨t, records⟩
  · exact .inl ⟨f, rfl, rfl⟩
  · refine .inr (.inr ⟨rfl, ?_⟩)
    split_ifs <;> rfl
  · exact .inr (.inl ⟨t, records, rfl, rfl⟩)

end Context
end Phrasebook
