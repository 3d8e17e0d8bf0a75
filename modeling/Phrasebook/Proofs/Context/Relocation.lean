import Phrasebook.Proofs.Config.Override
import Phrasebook.Proofs.Context.Chain
import Phrasebook.Proofs.Store.Run
/-!
Moving a context to another locale. What it was moved to before plays no part: it ends up where a
context that is made for the requested tag starts, and is at rest there.
-/
namespace Phrasebook

namespace Resolution

variable {store : ResourceStore} {config : Config} {request : Option Text}

theorem records_of_unloaded (unloaded : isLoaded store config request = false) :
    (resolve store config request).2 =
      if requested config request = config.defaultLanguage then []
      else [fallbackRecord (requested config request) (Locale.base (requested config request))
        config.defaultLanguage] := by
  change (ite _ _ _ : Resolution × List LogRecord).2 = _
  exact congrArg Prod.snd (if_neg (ne_true_of_eq_false unloaded))

/-- Either way, the two tags fit together. -/
theorem base_resolve (store : ResourceStore) (config : Config) (request : Option Text) :
    (resolve store config request).1.base =
      Locale.base (resolve store config request).1.language := by
  rcases loaded : isLoaded store config request
  · rw [resolve_of_unloaded loaded, Config.defaultBase]
  · rw [resolve_of_loaded loaded]

theorem hasLocale_resolve (store : ResourceStore) (config : Config) (request : Option Text) :
    let resolved := (resolve store config request).1
    store.hasLocale resolved.language = true ∨ store.hasLocale resolved.base = true ∨
      resolved.language = config.defaultLanguage := by
  rcases loaded : isLoaded store config request
  · rw [resolve_of_unloaded loaded]
    exact .inr (.inr rfl)
  · rw [resolve_of_loaded loaded]
    simpa [isLoaded, ← or_assoc] using Or.inl loaded

/-- A tag that a request can resolve to. -/
structure IsProper (tag : Text) : Prop where
  normal : Locale.normalize tag = tag
  nonempty : tag ≠ []

theorem isProper_default {given : Config} (made : given.checked = .ok config) :
    IsProper config.defaultLanguage := by
  obtain ⟨acceptable, rfl⟩ := Config.checked_eq_ok_iff.mp made
  exact ⟨Locale.normalize_normalize given.defaultLanguage, acceptable.1⟩

theorem isProper_requested (proper : IsProper config.defaultLanguage) (request : Option Text) :
    IsProper (requested config request) := by
  unfold requested
  dsimp only
  split_ifs with empty
  · exact proper
  · exact ⟨Locale.normalize_normalize _, by simpa using empty⟩

theorem isProper_resolve (proper : IsProper config.defaultLanguage) (store : ResourceStore)
    (request : Option Text) : IsProper (resolve store config request).1.language := by
  rcases loaded : isLoaded store config request
  · rw [resolve_of_unloaded loaded]
    exact proper
  · rw [resolve_of_loaded loaded]
    exact isProper_requested proper request

theorem requested_of_isProper {tag : Text} (proper : IsProper tag) :
    requested config (some tag) = tag := by
  rw [requested, Option.getD_some, proper.normal]
  exact if_neg (by simpa using proper.nonempty)

/-- Resolving what has been resolved gives the same, without a word. -/
theorem resolve_resolve (proper : IsProper config.defaultLanguage) (store : ResourceStore)
    (request : Option Text) :
    let resolved := (resolve store config request).1
    resolve store config (some resolved.language) = (resolved, []) := by
  intro resolved
  have itself : requested config (some resolved.language) = resolved.language :=
    requested_of_isProper (isProper_resolve proper store request)
  have base : resolved.base = Locale.base resolved.language := base_resolve store config request
  rcases loaded : isLoaded store config (some resolved.language)
  · -- the default language is the only one without resources that is resolved to
    have isDefault : resolved.language = config.defaultLanguage := by
      rcases hasLocale_resolve store config request with own | inBase | isDefault
      · simp [isLoaded, itself, resolved, own] at loaded
      · simp [isLoaded, itself, ← base, resolved, inBase] at loaded
      · exact isDefault
    refine Prod.ext ?_ ?_
    · rw [resolve_of_unloaded loaded, Config.defaultBase, ← isDefault, ← base]
    · rw [records_of_unloaded loaded, itself, if_pos isDefault]
  · refine Prod.ext ?_ (records_of_loaded loaded)
    rw [resolve_of_loaded loaded, itself, ← base]

end Resolution

theorem Render.stateAfter_discard {α : Type} (m : Render α) (s : RenderState) :
    stateAfter (discard m) s = m.stateAfter s := by
  change stateAfter (Functor.map (fun _ => ()) m) s = _
  simp only [stateAfter, Functor.map, EStateM.map]
  cases m s <;> rfl

/-- What can happen between two looks at the locale of a context. -/
inductive ContextCall where
  | locale (request : Option Text)
  | store (call : StoreCall)

namespace ContextCall

def perform (id : Nat) : ContextCall → Render Unit
  | locale request => discard (Facade.relocate id request)
  | store call => call.perform

/-- The state after some calls. A call that fails is followed by the next one. -/
def run (id : Nat) (s : RenderState) (calls : List ContextCall) : RenderState :=
  calls.foldl (fun s call => (call.perform id).stateAfter s) s

end ContextCall

namespace Context

/-- What a context can become by moving: all but its locale stays. -/
def IsMoved (c d : Context) : Prop := d = { c with language := d.language, base := d.base }

theorem IsMoved.refl (c : Context) : c.IsMoved c := rfl

theorem IsMoved.trans {c d e : Context} (first : c.IsMoved d) (second : d.IsMoved e) :
    c.IsMoved e := by
  rw [IsMoved] at first second ⊢
  rw [second, first]

theorem IsMoved.config_eq {c d : Context} (moved : c.IsMoved d) : d.config = c.config := by
  rw [show d = _ from moved]

theorem relocated_eq (c : Context) (store : ResourceStore) (tag : Text) :
    let resolved := Resolution.resolve store c.config (some tag)
    c.relocated store tag =
      ({ c with language := resolved.1.language, base := resolved.1.base }, resolved.2) := rfl

theorem isMoved_relocated (c : Context) (store : ResourceStore) (tag : Text) :
    c.IsMoved (c.relocated store tag).1 := rfl

/-- A context that has been moved stays where it is if it is moved there. -/
theorem relocated_relocated {c : Context}
    (proper : Resolution.IsProper c.config.defaultLanguage) (store : ResourceStore) (tag : Text) :
    let moved := (c.relocated store tag).1
    moved.relocated store moved.language = (moved, []) := by
  intro moved
  have still : Resolution.resolve store moved.config (some moved.language) =
      (⟨moved.language, moved.base⟩, []) :=
    Resolution.resolve_resolve proper store (some tag)
  rw [relocated_eq, still]

end Context

namespace Facade

variable {s : RenderState} {id : Nat} {c : Context}

theorem relocate_none (held : s.contexts[id]? = some c) : relocate id none s = .ok c.language s := by
  simp only [relocate, bind, EStateM.bind, Render.context_of_held held]
  rfl

theorem relocate_eq (held : s.contexts[id]? = some c) (tag : Text) :
    relocate id (some tag) s = .ok (c.relocated s.store tag).1.language
      { s with
        log := (c.relocated s.store tag).2.reverse ++ s.log
        contexts := s.contexts.setIfInBounds id (c.relocated s.store tag).1 } := by
  simp only [relocate, bind, EStateM.bind, Render.context_of_held held]
  rfl

theorem relocate_some (held : s.contexts[id]? = some c) (tag : Text) :
    ∃ s', relocate id (some tag) s = .ok (c.relocated s.store tag).1.language s' ∧
      s'.contexts[id]? = some (c.relocated s.store tag).1 ∧ s'.store = s.store := by
  obtain ⟨inside, -⟩ := Array.getElem?_eq_some_iff.mp held
  exact ⟨_, relocate_eq held tag, Array.getElem?_setIfInBounds_self_of_lt inside, rfl⟩

/-- Moving a context to where it is leaves the whole state as it is. -/
theorem relocate_of_still (held : s.contexts[id]? = some c) {tag : Text}
    (still : c.relocated s.store tag = (c, [])) : relocate id (some tag) s = .ok c.language s := by
  obtain ⟨inside, here⟩ := Array.getElem?_eq_some_iff.mp held
  have same : s.contexts.setIfInBounds id c = s.contexts := by
    simp [Array.setIfInBounds, inside, ← here]
  rw [relocate_eq held, still, same]
  rfl

end Facade

namespace ContextCall

variable {s : RenderState} {id : Nat} {c : Context}

/-- One call leaves a context what it is, at most in another place. -/
theorem held_perform (held : s.contexts[id]? = some c) (call : ContextCall) :
    ∃ d, ((call.perform id).stateAfter s).contexts[id]? = some d ∧ c.IsMoved d := by
  cases call with
  | locale request =>
    rw [perform, Render.stateAfter_discard, Render.stateAfter]
    cases request with
    | none =>
      rw [Facade.relocate_none held]
      exact ⟨c, held, .refl c⟩
    | some tag =>
      obtain ⟨s', moved, heldAfter, -⟩ := Facade.relocate_some held tag
      rw [moved]
      exact ⟨_, heldAfter, c.isMoved_relocated s.store tag⟩
  | store call =>
    rw [perform, StoreCall.contexts_perform]
    exact ⟨c, held, .refl c⟩

theorem held_run (held : s.contexts[id]? = some c) (calls : List ContextCall) :
    ∃ d, (run id s calls).contexts[id]? = some d ∧ c.IsMoved d := by
  induction calls generalizing s c with
  | nil => exact ⟨c, held, .refl c⟩
  | cons call rest ih =>
    obtain ⟨d, held, moved⟩ := held_perform held call
    obtain ⟨e, held, later⟩ := ih held
    exact ⟨e, held, moved.trans later⟩

end ContextCall

namespace Facade

/-- Whatever a context has been moved to before, and whatever the store has been asked in between, a
move to a tag gives it the language and the base language of a new context for this tag. Moving it
to the language that it then has changes nothing. -/
theorem relocate_as_created {given : Config} {s : RenderState} {id : Nat} {c : Context}
    (made : given.checked = .ok c.config) (held : s.contexts[id]? = some c)
    (calls : List ContextCall) (tag : Text) :
    let before := ContextCall.run id s calls
    ∃ moved after,
      relocate id (some tag) before = .ok moved.language after ∧
      after.contexts[id]? = some moved ∧ after.store = before.store ∧
      (∀ engine data,
        let fresh := Context.fresh before.store c.config engine (some tag) data
        (∃ created,
          createContext c.config engine (some tag) data before = .ok before.contexts.size created ∧
          created.contexts[before.contexts.size]? = some fresh) ∧
        moved.language = fresh.language ∧ moved.base = fresh.base) ∧
      relocate id (some moved.language) after = .ok moved.language after ∧
      (after.store.hasLocale moved.language = true ∨ after.store.hasLocale moved.base = true ∨
        moved.language = c.config.defaultLanguage) ∧
      moved.base = Locale.base moved.language := by
  intro before
  have proper := Resolution.isProper_default made
  obtain ⟨d, held, stayed⟩ := ContextCall.held_run held calls
  have sameConfig : d.config = c.config := stayed.config_eq
  rw [← sameConfig] at proper ⊢
  obtain ⟨after, moves, heldAfter, sameStore⟩ := relocate_some held tag
  refine ⟨(d.relocated before.store tag).1, after, moves, heldAfter, sameStore,
    fun engine data => ?_, ?_, ?_, Resolution.base_resolve before.store d.config (some tag)⟩
  · exact ⟨⟨_, rfl, Array.getElem?_push_size⟩, rfl, rfl⟩
  · refine relocate_of_still heldAfter ?_
    rw [sameStore]
    exact Context.relocated_relocated proper before.store tag
  · rw [sameStore]
    exact Resolution.hasLocale_resolve before.store d.config (some tag)

/-- A context that has fallen back to its default language goes to a region of a language that has
been loaded meanwhile. -/
theorem relocate_as_created_region :
    let s : RenderState := { contexts := #[⟨{}, .shared, "en", "en", []⟩] }
    let calls : List ContextCall :=
      [.locale (some "ru"), .store (.load "ru" (.map [(.ofText "yes", .text "да")])),
       .locale (some ""), .store (.reset (some "en")), .locale none]
    let before := ContextCall.run 0 s calls
    ({} : Config).checked = .ok {} ∧ s.contexts[0]? = some ⟨{}, .shared, "en", "en", []⟩ ∧
      ∃ moved after, relocate 0 (some "RU_ru") before = .ok "ru-ru" after ∧
        after.contexts[0]? = some moved ∧ moved.base = ("ru" : Text) ∧
        relocate 0 (some "ru-ru") after = .ok "ru-ru" after := by
  intro s calls before
  have made : ({} : Config).checked = .ok {} := by rfl
  have held : s.contexts[0]? = some ⟨{}, .shared, "en", "en", []⟩ := rfl
  obtain ⟨moved, after, moves, heldAfter, -, asFresh, rests, -, base⟩ :=
    relocate_as_created made held calls "RU_ru"
  have language : moved.language = ("ru-ru" : Text) := by
    rw [(asFresh .shared []).2.1]
    unfold calls s
    decide +kernel
  rw [language] at moves rests base
  exact ⟨made, held, moved, after, moves, heldAfter, base.trans (by decide), rests⟩

end Facade
end Phrasebook
