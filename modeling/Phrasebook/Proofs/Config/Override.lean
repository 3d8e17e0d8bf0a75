import Phrasebook.Facade
import Phrasebook.Proofs.Locale.NormalForm
/-!
Settings on top of a configuration, against all settings at once. A configuration keeps what follows
from its settings, not the settings themselves, so that what one of them has implied outlasts it.
-/
namespace Phrasebook

namespace Setting

def defaultLanguage? : Setting → Option Text
  | defaultLanguage tag => some tag
  | _ => none

def defaultOnMissing? : Setting → Option Bool
  | defaultOnMissing b => some b
  | _ => none

def allowMissing? : Setting → Option Bool
  | allowMissing b => some b
  | _ => none

def templateData? : Setting → Option (OrderedMap Value)
  | templateData data => some data
  | _ => none

def timeout? : Setting → Option Duration
  | timeout d => some d
  | _ => none

def maxDepth? : Setting → Option Int
  | maxDepth n => some n
  | _ => none

/-- What is set last. -/
def last? {α : Type} (read : Setting → Option α) (settings : List Setting) : Option α :=
  settings.reverse.findSome? read

theorem last?_append {α : Type} (read : Setting → Option α) (older newer : List Setting) :
    last? read (older ++ newer) = (last? read newer).or (last? read older) := by
  simp [last?, List.findSome?_append]

end Setting

open Setting (last? last?_append)

namespace Config

variable {settings older newer : List Setting} {direct : Config}

/-- A field is as it is set last, or as it was. -/
theorem field_foldl_set {α : Type} (field : Config → α) {read : Setting → Option α}
    (sets : ∀ c s, field (set c s) = (read s).getD (field c)) (c : Config) :
    field (settings.foldl set c) = (last? read settings).getD (field c) := by
  induction settings generalizing c with
  | nil => rfl
  | cons s later ih =>
    have here : last? read [s] = read s := by cases given : read s <;> simp [last?, given]
    rw [List.foldl_cons, ih, sets, show s :: later = [s] ++ later from rfl, last?_append, here]
    cases last? read later <;> rfl

/-- What the settings come to, one field at a time. -/
theorem foldl_set_eq (c : Config) : settings.foldl set c =
    { defaultLanguage := (last? Setting.defaultLanguage? settings).getD c.defaultLanguage
      defaultOnMissing := (last? Setting.defaultOnMissing? settings).getD c.defaultOnMissing
      allowMissing := (last? Setting.allowMissing? settings).getD c.allowMissing
      templateData := (last? Setting.templateData? settings).getD c.templateData
      timeout := (last? Setting.timeout? settings).getD c.timeout
      maxDepth := (last? Setting.maxDepth? settings).getD c.maxDepth } := by
  rw [← field_foldl_set Config.defaultLanguage fun c s => by cases s <;> rfl,
    ← field_foldl_set Config.defaultOnMissing fun c s => by cases s <;> rfl,
    ← field_foldl_set Config.allowMissing fun c s => by cases s <;> rfl,
    ← field_foldl_set Config.templateData fun c s => by cases s <;> rfl,
    ← field_foldl_set Config.timeout fun c s => by cases s <;> rfl,
    ← field_foldl_set Config.maxDepth fun c s => by cases s <;> rfl]

/-- A configuration with what follows from its settings. -/
def settled (c : Config) : Config :=
  { c with
    defaultLanguage := Locale.normalize c.defaultLanguage
    allowMissing := c.defaultOnMissing || c.allowMissing }

/-- What a configuration has to have. -/
def IsAcceptable (c : Config) : Prop :=
  c.defaultLanguage ≠ [] ∧ c.timeout.isPositive = true ∧ 0 < c.maxDepth

theorem checked_eq_ok_iff {c : Config} :
    checked c = .ok direct ↔ c.settled.IsAcceptable ∧ c.settled = direct := by
  have language : (Locale.normalize c.defaultLanguage).isEmpty = true ↔
      Locale.normalize c.defaultLanguage = [] := List.isEmpty_iff
  simp only [checked, IsAcceptable, settled, language]
  split_ifs with empty unlimited shallow
  · simp [empty]
  · have spent : c.timeout.isPositive = false := by simpa using unlimited
    simp [spent]
  · simp [Int.not_lt.mpr shallow]
  · have positive : c.timeout.isPositive = true := by simpa using unlimited
    simp [empty, positive, Int.not_le.mp shallow]

theorem settled_settled (c : Config) : c.settled.settled = c.settled := by
  simp [settled, Locale.normalize_normalize]

/-- Falling back to the default language is asked for and taken back, without a word on missing keys
since they were ruled out. -/
def Lapses (older newer : List Setting) : Prop :=
  last? Setting.defaultOnMissing? older = some true ∧
    last? Setting.allowMissing? older = some false ∧
    last? Setting.defaultOnMissing? newer = some false ∧ last? Setting.allowMissing? newer = none

theorem lapses_iff : Lapses older newer ↔
    (older.foldl set {}).defaultOnMissing = true ∧ (older.foldl set {}).allowMissing = false ∧
      last? Setting.defaultOnMissing? newer = some false ∧
      last? Setting.allowMissing? newer = none := by
  rw [foldl_set_eq, Lapses]
  dsimp only
  rcases last? Setting.defaultOnMissing? older with _ | _ | _ <;>
    rcases last? Setting.allowMissing? older with _ | _ | _ <;> simp

/-- Missing keys are allowed after some settings on top of a configuration if and only if they are
after all of them at once, or else what implied them has lapsed. -/
theorem allowMissing_foldl_settled (older newer : List Setting) :
    (newer.foldl set (older.foldl set {}).settled).settled.allowMissing = true ↔
      (newer.foldl set (older.foldl set {})).settled.allowMissing = true ∨ Lapses older newer := by
  rw [lapses_iff]
  generalize older.foldl set {} = c
  rw [foldl_set_eq c, foldl_set_eq c.settled]
  simp only [settled]
  rcases last? Setting.defaultOnMissing? newer with _ | _ | _ <;>
    rcases last? Setting.allowMissing? newer with _ | _ | _ <;>
    cases c.defaultOnMissing <;> simp

/-- All other fields are the same. -/
theorem settled_foldl_settled (newer : List Setting) (c : Config) : (newer.foldl set c.settled).settled =
    { (newer.foldl set c).settled with
      allowMissing := (newer.foldl set c.settled).settled.allowMissing } := by
  rw [foldl_set_eq c, foldl_set_eq c.settled]
  simp only [settled]
  cases last? Setting.defaultLanguage? newer with
  | none => simp [Locale.normalize_normalize]
  | some tag => rfl

end Config

namespace Facade
open Config

/-- Settings on top of an accepted configuration give the configuration that is made of all of them at
once, except that missing keys stay allowed where what implied this has lapsed. -/
theorem configure_over (older newer : List Setting) {base direct : Config}
    (accepted : ofSettings older = .ok base) (together : ofSettings (older ++ newer) = .ok direct) :
    ∃ built, configure (some base) newer = .ok built ∧
      (¬Lapses older newer → built = direct) ∧
      (Lapses older newer →
        direct.allowMissing = false ∧ built = { direct with allowMissing := true }) := by
  obtain ⟨-, rfl⟩ := checked_eq_ok_iff.mp accepted
  unfold ofSettings replace at together
  rw [List.foldl_append] at together
  obtain ⟨acceptable, rfl⟩ := checked_eq_ok_iff.mp together
  have allowed := allowMissing_foldl_settled older newer
  have same := settled_foldl_settled newer (older.foldl set {})
  refine ⟨(newer.foldl set (older.foldl set {}).settled).settled, ?_, fun kept => ?_,
    fun lapsed => ⟨?_, ?_⟩⟩
  · unfold configure
    split_ifs with nothing
    · rw [List.isEmpty_iff.mp nothing, List.foldl_nil, settled_settled]
    · refine checked_eq_ok_iff.mpr ⟨?_, rfl⟩
      rw [same]
      exact acceptable
  · rw [or_iff_left kept, ← Bool.eq_iff_iff] at allowed
    rw [same, allowed]
  · obtain ⟨-, ruled, dropped, silent⟩ := lapses_iff.mp lapsed
    rw [foldl_set_eq (older.foldl set {}), settled, dropped, silent]
    exact ruled
  · rw [same, allowed.mpr (.inr lapsed)]

/-- A regional default of which the language is replaced. -/
theorem configure_over_regional :
    let older : List Setting := [.defaultLanguage "de_AT", .allowMissing false, .timeout (.whole 2)]
    let newer : List Setting := [.defaultLanguage " pt_BR", .maxDepth 20]
    let base : Config := ⟨"de-at", false, false, [], .whole 2, 100⟩
    let direct : Config := ⟨"pt-br", false, false, [], .whole 2, 20⟩
    ofSettings older = .ok base ∧ ofSettings (older ++ newer) = .ok direct ∧
      ¬Lapses older newer ∧ configure (some base) newer = .ok direct := by
  intro older newer base direct
  have accepted : ofSettings older = .ok base := by rfl
  have together : ofSettings (older ++ newer) = .ok direct := by rfl
  have kept : ¬Lapses older newer := fun ⟨opted, _⟩ => by cases opted
  obtain ⟨built, made, same, -⟩ := configure_over older newer accepted together
  exact ⟨accepted, together, kept, same kept ▸ made⟩

/-- What a fallback has implied outlasts the fallback. -/
theorem implied_setting_kept :
    let older : List Setting := [.defaultOnMissing true, .allowMissing false, .timeout (.whole 2)]
    let newer : List Setting := [.defaultOnMissing false]
    ∃ base direct built, ofSettings older = .ok base ∧ ofSettings (older ++ newer) = .ok direct ∧
      configure (some base) newer = .ok built ∧ built.allowMissing ≠ direct.allowMissing := by
  refine ⟨⟨"en", true, true, [], .whole 2, 100⟩, ⟨"en", false, false, [], .whole 2, 100⟩,
    ⟨"en", false, true, [], .whole 2, 100⟩, by rfl, by rfl, by rfl, by decide⟩

end Facade
end Phrasebook
