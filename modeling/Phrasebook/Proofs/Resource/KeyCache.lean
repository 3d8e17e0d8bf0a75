import Phrasebook.Proofs.OrderedMap
import Phrasebook.Resource.KeyCache
import Mathlib.Data.Finset.Card
import Mathlib.Data.List.DropRight
/-!
What a cache of keys holds and has counted after any calls: for each locale the keys that were put
last, unless they were dropped since, and of the calls since the cache was emptied those that found
something, those that did not, and those that dropped something.
-/
namespace Phrasebook

/-- What a caller can ask of a cache. -/
inductive CacheCall where
  | get (locale : Text)
  | put (locale : Text) (keys : List Text)
  | invalidate (locale : Text)
  | clear

/-- What a caller is given back. -/
inductive CacheAnswer where
  | found (keys : Option (List Text))
  | dropped (any : Bool)
  | done

namespace CacheCall

def perform : CacheCall → KeyCache → CacheAnswer × KeyCache
  | get locale, c => (.found (c.get locale).1, (c.get locale).2)
  | put locale keys, c => (.done, c.put locale keys)
  | invalidate locale, c => (.dropped (c.invalidate locale).1, (c.invalidate locale).2)
  | clear, c => (.done, c.clear)

/-- The cache after some calls. -/
def run (c : KeyCache) (calls : List CacheCall) : KeyCache :=
  calls.foldl (fun c call => (call.perform c).2) c

/-- The calls, each with its answer. -/
def transcript (c : KeyCache) : List CacheCall → List (CacheCall × CacheAnswer)
  | [] => []
  | call :: rest => (call, (call.perform c).1) :: transcript (call.perform c).2 rest

/-- Whether a call leaves what is held for a locale as it is. -/
def leaves (locale : Text) : CacheCall → Bool
  | get _ => true
  | put other _ | invalidate other => other != locale
  | clear => false

/-- Keys that were put for a locale, and neither replaced nor dropped since. -/
def Holds (history : List CacheCall) (locale : Text) (keys : List Text) : Prop :=
  ∃ before after, history = before ++ put locale keys :: after ∧
    ∀ call ∈ after, call.leaves locale = true

/-- The part of a transcript behind the last call that empties the cache. -/
def sinceClear (events : List (CacheCall × CacheAnswer)) : List (CacheCall × CacheAnswer) :=
  events.rtakeWhile fun e => !e.1 matches .clear

/-- Whether a call asks for keys. -/
def isGet (e : CacheCall × CacheAnswer) : Bool := e.1 matches .get _

/-- Whether a call was given keys, be it none at all. -/
def isHit (e : CacheCall × CacheAnswer) : Bool := e.2 matches .found (some _)

/-- Whether a call dropped something. -/
def isDrop (e : CacheCall × CacheAnswer) : Bool := e.2 matches .dropped true

variable {history : List CacheCall} {call : CacheCall} {locale : Text} {keys : List Text}

theorem run_concat (c : KeyCache) (history : List CacheCall) (call : CacheCall) :
    run c (history ++ [call]) = (call.perform (run c history)).2 := List.foldl_append

theorem transcript_concat (c : KeyCache) (history : List CacheCall) (call : CacheCall) :
    transcript c (history ++ [call]) =
      transcript c history ++ [(call, (call.perform (run c history)).1)] := by
  induction history generalizing c with
  | nil => rfl
  | cons first rest ih => exact congrArg (_ :: ·) (ih _)

theorem sinceClear_concat (events : List (CacheCall × CacheAnswer)) (e : CacheCall × CacheAnswer) :
    sinceClear (events ++ [e]) = if e.1 matches .clear then [] else sinceClear events ++ [e] := by
  rw [sinceClear, List.rtakeWhile_concat]
  cases e.1 <;> rfl

theorem not_holds_nil : ¬Holds [] locale keys := by
  rintro ⟨before, after, split, -⟩
  cases before <;> cases split

theorem holds_concat :
    Holds (history ++ [call]) locale keys ↔
      call = put locale keys ∨ call.leaves locale = true ∧ Holds history locale keys := by
  constructor
  · rintro ⟨before, after, split, left⟩
    rcases List.eq_nil_or_concat after with rfl | ⟨after, last, rfl⟩
    · exact .inl (List.singleton_inj.mp (List.append_inj' split rfl).2)
    · have split : history ++ [call] = (before ++ put locale keys :: after) ++ [last] := by
        simpa using split
      obtain ⟨rfl, same⟩ := List.append_inj' split rfl
      rw [List.singleton_inj.mp same]
      exact .inr ⟨left last (by simp), before, after, rfl,
        fun other member => left other (by simp [member])⟩
  · rintro (rfl | ⟨left, before, after, rfl, since⟩)
    · exact ⟨history, [], rfl, by simp⟩
    · refine ⟨before, after ++ [call], by simp, fun other member => ?_⟩
      rcases List.mem_append.mp member with old | new
      · exact since other old
      · rwa [List.mem_singleton.mp new]

end CacheCall

namespace KeyCache
open CacheCall

variable {c : KeyCache} {history : List CacheCall} {locale : Text}

@[simp] theorem entries_invalidate (c : KeyCache) (locale : Text) :
    (c.invalidate locale).2.entries = c.entries.erase locale := by
  rw [invalidate]
  split_ifs with present
  · rfl
  · refine (List.filter_eq_self.mpr fun e member => bne_iff_ne.mpr fun same => ?_).symm
    exact present (List.any_eq_true.mpr ⟨e, member, beq_iff_eq.mpr same⟩)

theorem mem_invalidate {e : Text × List Text} :
    e ∈ (c.invalidate locale).2.entries ↔ e ∈ c.entries ∧ e.1 ≠ locale := by
  simp [OrderedMap.erase]

theorem has_invalidate (c : KeyCache) (locale : Text) :
    (c.invalidate locale).2.entries.has locale = false := by
  rw [OrderedMap.has_eq, entries_invalidate, OrderedMap.get?_erase, if_pos rfl, Option.isSome_none]

theorem invalidate_invalidate (c : KeyCache) (locale : Text) :
    ((c.invalidate locale).2.invalidate locale).2 = (c.invalidate locale).2 := by
  rw [invalidate, if_neg (Bool.eq_false_iff.mp (c.has_invalidate locale))]

/-- A cache has counted some calls. -/
structure Counted (events : List (CacheCall × CacheAnswer)) (c : KeyCache) : Prop where
  hits : c.hits = events.countP isHit
  gets : c.hits + c.misses = events.countP isGet
  drops : c.invalidations = events.countP isDrop

/-- A cache holds what a history has given it. -/
structure Recorded (history : List CacheCall) (c : KeyCache) : Prop where
  entries : ∀ locale keys, c.entries.get? locale = some keys ↔ Holds history locale keys
  distinct : c.entries.keys.Nodup

theorem Counted.concat {events : List (CacheCall × CacheAnswer)} {e : CacheCall × CacheAnswer}
    {later : KeyCache} (counted : Counted events c) (hits : later.hits = c.hits + (isHit e).toNat)
    (gets : later.hits + later.misses = c.hits + c.misses + (isGet e).toNat)
    (drops : later.invalidations = c.invalidations + (isDrop e).toNat) :
    Counted (events ++ [e]) later := by
  have one (p : CacheCall × CacheAnswer → Bool) :
      (events ++ [e]).countP p = events.countP p + (p e).toNat := by
    rw [List.countP_append, List.countP_singleton]
    cases p e <;> rfl
  exact ⟨by rw [one, hits, counted.hits], by rw [one, gets, counted.gets],
    by rw [one, drops, counted.drops]⟩

theorem Counted.step {events : List (CacheCall × CacheAnswer)}
    (counted : Counted (sinceClear events) c) (call : CacheCall) :
    Counted (sinceClear (events ++ [(call, (call.perform c).1)])) (call.perform c).2 := by
  rw [sinceClear_concat]
  cases call with
  | get locale =>
    rcases found : c.entries.get? locale with _ | keys
    · have missed : c.get locale = (none, { c with misses := c.misses + 1 }) := by
        rw [KeyCache.get, found]
      rw [perform, missed]
      exact counted.concat rfl rfl rfl
    · have hit : c.get locale = (some keys, { c with hits := c.hits + 1 }) := by
        rw [KeyCache.get, found]
      rw [perform, hit]
      exact counted.concat rfl (Nat.add_right_comm c.hits 1 c.misses) rfl
  | put locale keys => exact counted.concat rfl rfl rfl
  | invalidate locale =>
    rcases present : c.entries.has locale with _ | _
    · have kept : c.invalidate locale = (false, c) := by simp [KeyCache.invalidate, present]
      rw [perform, kept]
      exact counted.concat rfl rfl rfl
    · have dropped : c.invalidate locale = (true, { c with
          entries := c.entries.erase locale
          invalidations := c.invalidations + 1 }) := if_pos present
      rw [perform, dropped]
      exact counted.concat rfl rfl rfl
  | clear => exact ⟨rfl, rfl, rfl⟩

theorem Recorded.step (recorded : Recorded history c) (call : CacheCall) :
    Recorded (history ++ [call]) (call.perform c).2 := by
  obtain ⟨entries, distinct⟩ := recorded
  cases call with
  | get locale =>
    have same : (c.get locale).2.entries = c.entries := by
      rw [KeyCache.get]
      split <;> rfl
    refine ⟨fun other keys => ?_, same ▸ distinct⟩
    simp [perform, same, holds_concat, leaves, entries]
  | put locale keys =>
    refine ⟨fun other found => ?_, c.entries.nodup_insert locale keys distinct⟩
    change (c.entries.insert locale keys).get? other = _ ↔ _
    rw [OrderedMap.get?_insert, holds_concat]
    split_ifs with same
    · simp [same, leaves]
    · simp [same, leaves, entries]
  | invalidate locale =>
    have erased : (perform (.invalidate locale) c).2.entries = c.entries.erase locale :=
      c.entries_invalidate locale
    refine ⟨fun other keys => ?_, erased ▸ c.entries.nodup_erase locale distinct⟩
    rw [erased, OrderedMap.get?_erase, holds_concat]
    split_ifs with same
    · simp [same, leaves]
    · simp [same, leaves, entries]
  | clear =>
    refine ⟨fun other keys => ?_, List.nodup_nil⟩
    change none = some keys ↔ _
    simp [holds_concat, leaves]

theorem recorded_run (calls : List CacheCall) : Recorded calls (run {} calls) := by
  induction calls using List.reverseRecOn with
  | nil => exact ⟨fun locale keys => iff_of_false (by simp [run]) not_holds_nil, List.nodup_nil⟩
  | append_singleton history call ih =>
    rw [run_concat]
    exact ih.step call

theorem counted_run (calls : List CacheCall) :
    Counted (sinceClear (transcript {} calls)) (run {} calls) := by
  induction calls using List.reverseRecOn with
  | nil => exact ⟨rfl, rfl, rfl⟩
  | append_singleton history call ih =>
    rw [run_concat, transcript_concat]
    exact ih.step call

theorem get_eq (c : KeyCache) (locale : Text) : (c.get locale).1 = c.entries.get? locale := by
  rw [KeyCache.get]
  split <;> rename_i found <;> exact found.symm

/-- After any calls on an empty cache: a locale has the keys that were put last for it, unless they
were dropped since, and is asked for in vain just if there are none; of the calls since the cache
was emptied last, the hits are those that were given keys, hits and misses together those that
asked, and the invalidations those that dropped something, which are those for a locale that has
keys; and the size is the number of locales that have some. -/
theorem counts_after_calls (calls : List CacheCall) :
    let c := run {} calls
    let recent := sinceClear (transcript {} calls)
    (∀ locale keys, (c.get locale).1 = some keys ↔ Holds calls locale keys) ∧
    (∀ locale, (c.get locale).1 = none ↔ ∀ keys, ¬Holds calls locale keys) ∧
    c.hits + c.misses = recent.countP isGet ∧ c.hits = recent.countP isHit ∧
    c.invalidations = recent.countP isDrop ∧
    (∀ locale, (c.invalidate locale).1 = true ↔ ∃ keys, Holds calls locale keys) ∧
    ∃ held : Finset Text, (∀ locale, locale ∈ held ↔ ∃ keys, Holds calls locale keys) ∧
      c.size = held.card := by
  intro c recent
  obtain ⟨entries, distinct⟩ := recorded_run calls
  obtain ⟨hits, gets, drops⟩ := counted_run calls
  have known (locale : Text) :
      (c.entries.get? locale).isSome ↔ ∃ keys, Holds calls locale keys := by
    rw [Option.isSome_iff_exists]
    exact exists_congr (entries locale)
  refine ⟨fun locale keys => ?_, fun locale => ?_, gets, hits, drops, fun locale => ?_,
    c.entries.keys.toFinset, fun locale => ?_, ?_⟩
  · rw [get_eq]
    exact entries locale keys
  · rw [get_eq, ← Option.not_isSome_iff_eq_none, known, not_exists]
  · rw [← known, ← OrderedMap.has_eq, KeyCache.invalidate]
    split_ifs with present <;> simp [present]
  · rw [List.mem_toFinset, OrderedMap.mem_keys_iff, known]
  · rw [List.toFinset_card_of_nodup distinct, KeyCache.size, OrderedMap.keys, List.length_map]

/-- No keys at all are an answer too. -/
example :
    let c := run {} [.put "en" [], .get "en", .get "de", .invalidate "de"]
    (c.hits, c.misses, c.invalidations, c.size) = (1, 1, 0, 1) := by decide

end KeyCache
end Phrasebook
