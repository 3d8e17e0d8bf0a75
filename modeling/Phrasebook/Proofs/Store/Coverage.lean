import Phrasebook.Proofs.Store.Lookup
import Mathlib.Algebra.Order.Field.Basic
import Mathlib.Data.Rat.Cast.Order
import Mathlib.Tactic.Positivity
/-!
Coverage of one locale by another: what is missing and what is common, how the progress measures it, and
what full coverage says about lookups. Coverage compares listed keys, and a sequence is listed as one
value, so that keys into sequences are not compared.
-/
namespace Phrasebook

namespace Resource

/-- The text before a separator of a key, or the whole key. -/
def IsPart (part key : Text) : Prop := part = key ∨ ∃ rest, key = part ++ separator :: rest

theorem dotted_mem_keys_iff {tree : ResourceTree} (sound : Sound (.tree tree)) {path : List Text}
    (nonempty : path ≠ []) (segments : ∀ s ∈ path, IsSegment s) :
    dotted path ∈ keys tree ↔ ∃ v, walk path (.tree tree) = some v ∧ v.isTree = false := by
  rw [keys_eq sound, ← mem_pathsOf sound path, List.mem_map]
  constructor
  · rintro ⟨other, member, same⟩
    obtain ⟨hasOther, segmentsOther⟩ := segments_of_mem_pathsOf sound member
    have equal : other = path := by
      rw [← splitAt_dotted hasOther segmentsOther, same, splitAt_dotted nonempty segments]
    rwa [← equal]
  · exact fun member => ⟨path, member, rfl⟩

end Resource

namespace ResourceStore
open Resource (separator IsPart IsSegment Sound dotted walk)

variable {s : ResourceStore} {tag key : Text}

/-- A key that is not empty names nothing more in a locale without a tree than in an empty tree. -/
theorem find_treeOf (nonempty : key ≠ []) : s.find tag key =
    Resource.findFrom (Text.splitAt separator key)
      (some (.tree (s.treeOf (Locale.normalize tag)))) := by
  rw [find, Resource.find_eq nonempty, treeOf]
  cases s.trees.get? (Locale.normalize tag) with
  | some tree => rfl
  | none =>
    rw [Option.map_none, Option.getD_none, Resource.findFrom_none]
    obtain ⟨first, rest, split⟩ := List.exists_cons_of_ne_nil (Text.splitAt_ne_nil separator key)
    rw [split]
    exact (Resource.findFrom_none rest).symm

theorem lookup_eq_some_iff (template : Template) :
    s.lookup tag key = .ok (some template) ↔ s.find tag key = .ok (some (.leaf template)) := by
  rw [lookup]
  rcases s.find tag key with fault | (_ | (other | items | entries)) <;>
    simp [bind, Except.bind, pure, Except.pure]

def HasTemplate (s : ResourceStore) (tag key : Text) : Prop :=
  ∃ template, s.lookup tag key = .ok (some template)

def NamesSequence (s : ResourceStore) (tag key : Text) : Prop :=
  ∃ items, s.find tag key = .ok (some (.sequence items))

instance : Decidable (s.HasTemplate tag key) :=
  match found : s.lookup tag key with
  | .ok (some template) => isTrue ⟨template, found⟩
  | .ok none => isFalse fun ⟨_, other⟩ => by simp [found] at other
  | .error _ => isFalse fun ⟨_, other⟩ => by simp [found] at other

instance : Decidable (s.NamesSequence tag key) :=
  match found : s.find tag key with
  | .ok (some (.sequence items)) => isTrue ⟨items, found⟩
  | .ok (some (.leaf _)) => isFalse fun ⟨_, other⟩ => by simp [found] at other
  | .ok (some (.tree _)) => isFalse fun ⟨_, other⟩ => by simp [found] at other
  | .ok none => isFalse fun ⟨_, other⟩ => by simp [found] at other
  | .error _ => isFalse fun ⟨_, other⟩ => by simp [found] at other

theorem missing_fst (coherent : Coherent s) (target reference : Text) :
    (s.missing target reference).1 =
      (s.keys reference).1.filter fun key => !(s.keys target).1.contains key := by
  have later : ((s.keys target).2.keys reference).1 = (s.keys reference).1 := by
    rw [(coherent.keys target).keys_eq, coherent.keys_eq, (Asked.start.keys target).frame]
    rfl
  simp only [missing, later]

/-- The keys of `reference` that `target` has, in the order of `reference`. -/
def common (s : ResourceStore) (target reference : Text) : List Text :=
  (s.keys reference).1.filter fun key => (s.keys target).1.contains key

theorem missing_append_common (coherent : Coherent s) (target reference : Text) :
    ((s.missing target reference).1 ++ s.common target reference).Perm (s.keys reference).1 := by
  have split := List.filter_append_perm (fun key => (s.keys target).1.contains key)
    (s.keys reference).1
  rw [missing_fst coherent]
  refine List.perm_append_comm.trans ?_
  simpa [common] using split

theorem length_missing_add_common (coherent : Coherent s) (target reference : Text) :
    (s.missing target reference).1.length + (s.common target reference).length =
      (s.keys reference).1.length := by
  rw [← List.length_append]
  exact (missing_append_common coherent target reference).length_eq

theorem common_of_missing_nil (coherent : Coherent s) {target reference : Text}
    (covered : (s.missing target reference).1 = []) :
    (s.common target reference).length = (s.keys reference).1.length := by
  have parts := length_missing_add_common coherent target reference
  rwa [covered, List.length_nil, Nat.zero_add] at parts

/-- Listed once each, the common keys are the same for both locales up to their order. -/
theorem common_comm {target reference : Text} (left : (s.keys target).1.Nodup)
    (right : (s.keys reference).1.Nodup) :
    (s.common target reference).Perm (s.common reference target) := by
  refine (List.perm_ext_iff_of_nodup (right.filter _) (left.filter _)).mpr fun key => ?_
  simp [and_comm]

/-- What is counted: the common keys, and all that are wanted. -/
theorem progress_fst (coherent : Coherent s) (target reference : Text) :
    (s.progress target reference).1 =
      ⟨(s.common target reference).length, (s.keys reference).1.length⟩ := by
  have asked : Coherent (s.keys reference).2 := coherent.keys reference
  have sameKeys (tag : Text) : ((s.keys reference).2.keys tag).1 = (s.keys tag).1 := by
    rw [asked.keys_eq, coherent.keys_eq, (Asked.start.keys reference).frame]
    rfl
  have later : ((s.keys reference).2.missing target reference).1 =
      (s.missing target reference).1 := by
    rw [missing_fst asked, sameKeys, sameKeys, ← missing_fst coherent]
  have parts := length_missing_add_common coherent target reference
  by_cases empty : (s.keys reference).1 = []
  · simp [progress, common, empty]
  · simp only [progress, List.isEmpty_iff, empty, if_false, later, Progress.mk.injEq, and_true]
    omega

theorem share_progress (coherent : Coherent s) (target reference : Text) :
    (s.progress target reference).1.share =
      if (s.keys reference).1 = [] then 1
      else Binary.ofRatio false (s.common target reference).length
        (s.keys reference).1.length := by
  rw [progress_fst coherent, Progress.share]
  simp only [List.length_eq_zero_iff]

/-- When nothing is missing, the progress is full. -/
theorem progress_of_missing_nil (coherent : Coherent s) {target reference : Text}
    (covered : (s.missing target reference).1 = []) :
    (s.progress target reference).1.present = (s.progress target reference).1.total ∧
      (s.progress target reference).1.share =
        if (s.keys reference).1 = [] then 1 else Binary.ofRatio false 1 1 := by
  have full := common_of_missing_nil coherent covered
  rw [share_progress coherent, progress_fst coherent, full]
  refine ⟨rfl, ?_⟩
  split_ifs with empty
  · rfl
  · exact Binary.ofRatio_self (List.length_pos_of_ne_nil empty)

/-- The share as an exact ratio, one when nothing is wanted. -/
def Progress.ratio (p : Progress) : ℚ := if p.total = 0 then 1 else p.present / p.total

namespace Progress

variable {p : Progress}

theorem ratio_mem_unit (bound : p.present ≤ p.total) : 0 ≤ p.ratio ∧ p.ratio ≤ 1 := by
  rw [ratio]
  split_ifs with empty
  · exact ⟨zero_le_one, le_rfl⟩
  · refine ⟨by positivity, div_le_one_of_le₀ ?_ (Nat.cast_nonneg _)⟩
    exact_mod_cast bound

theorem ratio_eq_one_iff (bound : p.present ≤ p.total) : p.ratio = 1 ↔ p.present = p.total := by
  rw [ratio]
  split_ifs with empty
  · refine iff_of_true rfl ?_
    omega
  · have nonzero : (p.total : ℚ) ≠ 0 := by exact_mod_cast empty
    rw [div_eq_one_iff_eq nonzero, Nat.cast_inj]

end Progress

theorem missing_self (coherent : Coherent s) (tag : Text) : (s.missing tag tag).1 = [] := by
  rw [missing_fst coherent, List.filter_eq_nil_iff]
  intro key listed
  simp [listed]

theorem present_le_total (coherent : Coherent s) (target reference : Text) :
    (s.progress target reference).1.present ≤ (s.progress target reference).1.total := by
  rw [progress_fst coherent]
  exact List.length_filter_le _ _

theorem ratio_progress (coherent : Coherent s) (target reference : Text) :
    (s.progress target reference).1.ratio =
      if (s.keys reference).1 = [] then 1
      else ((s.common target reference).length : ℚ) / (s.keys reference).1.length := by
  rw [progress_fst coherent, Progress.ratio]
  simp only [List.length_eq_zero_iff]

theorem ratio_progress_eq_one_iff (coherent : Coherent s) (target reference : Text) :
    (s.progress target reference).1.ratio = 1 ↔ (s.missing target reference).1 = [] := by
  have parts := length_missing_add_common coherent target reference
  rw [Progress.ratio_eq_one_iff (present_le_total coherent target reference),
    progress_fst coherent, ← List.length_eq_zero_iff]
  dsimp only
  omega

/-- After any calls on a fresh store, two locales are compared key by key: what is missing and what is
overspecified are the listed keys that the other locale lacks, in their order. With the common keys they
account for each key once. The progress is the proportion of the common keys, and it is full if and only
if nothing is missing. -/
theorem coverage_after_calls (budget : Budget) (maxDepth : Int) (s : RenderState)
    (calls : List StoreCall) (target reference : Text) :
    let t := (StoreCall.run { s with store := fresh budget maxDepth } calls).store
    let wanted := (t.keys reference).1
    let held := (t.keys target).1
    let missing := (t.missing target reference).1
    let extra := (t.extra target reference).1
    let common := t.common target reference
    let progress := (t.progress target reference).1
    (missing = wanted.filter (fun key => !held.contains key) ∧
      extra = held.filter fun key => !wanted.contains key) ∧
    (missing.length + common.length = wanted.length ∧
      extra.length + common.length = held.length) ∧
    ((missing ++ common).Perm wanted ∧ (extra ++ common).Perm held ∧
      (missing ++ common ++ extra).Nodup) ∧
    progress.ratio = (if wanted = [] then 1 else (common.length : ℚ) / wanted.length) ∧
    progress.share =
      (if wanted = [] then 1 else Binary.ofRatio false common.length wanted.length) ∧
    (0 ≤ progress.ratio ∧ progress.ratio ≤ 1) ∧ (progress.ratio = 1 ↔ missing = []) ∧
    (t.progress reference reference).1.ratio = 1 := by
  intro t wanted held missing extra common progress
  have coherent : Coherent t := coherent_run budget maxDepth s calls
  have sound : AllSound t := allSound_run budget maxDepth s calls
  have distinct (tag : Text) : (t.keys tag).1.Nodup := by
    rw [coherent.keys_eq]
    exact Resource.nodup_keys (sound _)
  have lacking : missing = wanted.filter fun key => !held.contains key :=
    missing_fst coherent target reference
  have beyond : extra = held.filter fun key => !wanted.contains key :=
    missing_fst coherent reference target
  have front : (missing ++ common).Perm wanted := missing_append_common coherent target reference
  have back : (extra ++ common).Perm held :=
    (List.Perm.append_left extra (common_comm (distinct target) (distinct reference))).trans
      (missing_append_common coherent reference target)
  have once : (missing ++ common ++ extra).Nodup := by
    refine List.Nodup.append (front.nodup_iff.mpr (distinct reference)) ?_ ?_
    · rw [beyond]
      exact (distinct target).filter _
    · intro key listed further
      have inReference : key ∈ wanted := front.mem_iff.mp listed
      rw [beyond, List.mem_filter] at further
      simp [inReference] at further
  refine ⟨⟨lacking, beyond⟩, ⟨length_missing_add_common coherent target reference, ?_⟩,
    ⟨front, back, once⟩, ratio_progress coherent target reference,
    share_progress coherent target reference,
    Progress.ratio_mem_unit (present_le_total coherent target reference),
    ratio_progress_eq_one_iff coherent target reference, ?_⟩
  · rw [← List.length_append]
    exact back.length_eq
  · exact (ratio_progress_eq_one_iff coherent reference reference).mpr (missing_self coherent reference)

/-- The keys of a locale whose trees are sound: the keys of the paths to its values. -/
theorem dotted_mem_keys_iff (coherent : Coherent s) (sound : AllSound s) {path : List Text}
    (nonempty : path ≠ []) (segments : ∀ piece ∈ path, IsSegment piece) :
    dotted path ∈ (s.keys tag).1 ↔
      ∃ v, walk path (.tree (s.treeOf (Locale.normalize tag))) = some v ∧ v.isTree = false := by
  rw [coherent.keys_eq]
  exact Resource.dotted_mem_keys_iff (sound _) nonempty segments

/-- Past the end of a path through trees, what stands there decides. -/
theorem find_of_walk {front back : List Text} {w : Resource} (nonempty : front ≠ [])
    (segments : ∀ piece ∈ front, IsSegment piece)
    (split : Text.splitAt separator key = front ++ back)
    (reached : walk front (.tree (s.treeOf (Locale.normalize tag))) = some w) :
    s.find tag key = Resource.findFrom back (some w) := by
  have full : key ≠ [] := by
    rintro rfl
    obtain ⟨first, rest, rfl⟩ := List.exists_cons_of_ne_nil nonempty
    have blank : first = [] := (List.cons.inj split).1.symm
    exact (segments first List.mem_cons_self).1 blank
  rw [find_treeOf full, split, Resource.findFrom_append reached]

/-- What is found by a key has a first part that is listed. -/
theorem exists_end_of_find (sound : AllSound s) {v : Resource}
    (found : s.find tag key = .ok (some v)) (isEnd : v.isTree = false) :
    ∃ front back w, front ≠ [] ∧ (∀ piece ∈ front, IsSegment piece) ∧
      Text.splitAt separator key = front ++ back ∧
      walk front (.tree (s.treeOf (Locale.normalize tag))) = some w ∧ w.isTree = false ∧
      Resource.findFrom back (some w) = .ok (some v) := by
  have full : key ≠ [] := by
    rintro rfl
    rw [find] at found
    cases stored : s.trees.get? (Locale.normalize tag) with
    | none =>
      rw [stored] at found
      cases found
    | some tree =>
      rw [stored] at found
      cases found
      cases isEnd
  rw [find_treeOf full] at found
  obtain ⟨front, back, w, split, reached, ends, rest⟩ :=
    Resource.exists_end_of_findFrom found isEnd
  refine ⟨front, back, w, ?_, Resource.walk_segments (sound _) reached, split, reached, ends, rest⟩
  rintro rfl
  cases reached
  cases ends

theorem isPart_dotted {front back : List Text} (nonempty : front ≠ [])
    (split : Text.splitAt separator key = front ++ back) : IsPart (dotted front) key := by
  by_cases last : back = []
  · left
    rw [← Text.joinWith_splitAt separator key, split, last, List.append_nil, dotted]
  · right
    refine ⟨dotted back, ?_⟩
    rw [← Text.joinWith_splitAt separator key, split]
    exact Text.joinWith_append separator nonempty last

/-- A template found in one of two locales, while the other lacks no key of it: some part of the key
is listed in both, and what the other has there decides whether a template is found in it. -/
theorem exists_listed_part (coherent : Coherent s) (sound : AllSound s) {target reference : Text}
    (covered : (s.missing target reference).1 = []) (found : s.HasTemplate reference key) :
    ∃ part, IsPart part key ∧ part ∈ (s.keys reference).1 ∧ part ∈ (s.keys target).1 ∧
      (part = key → (s.HasTemplate target key ↔ ¬s.NamesSequence target key)) ∧
      ∀ rest, key = part ++ separator :: rest → s.NamesSequence reference part ∧
        ∀ other, s.lookup target key = .ok (some other) ↔
          ∃ items, s.find target part = .ok (some (.sequence items)) ∧
            Resource.findFrom (Text.splitAt separator rest) (some (.sequence items)) =
              .ok (some (.leaf other)) := by
  obtain ⟨template, found⟩ := found
  rw [lookup_eq_some_iff] at found
  obtain ⟨front, back, w, nonempty, segments, split, reached, ends, remaining⟩ :=
    exists_end_of_find sound found rfl
  have pieces : Text.splitAt separator (dotted front) = front ++ [] := by
    rw [Resource.splitAt_dotted nonempty segments, List.append_nil]
  have listed : dotted front ∈ (s.keys reference).1 :=
    (dotted_mem_keys_iff coherent sound nonempty segments).mpr ⟨w, reached, ends⟩
  have listedToo : dotted front ∈ (s.keys target).1 := by
    rw [missing_fst coherent, List.filter_eq_nil_iff] at covered
    simpa using covered _ listed
  obtain ⟨w', reached', ends'⟩ :=
    (dotted_mem_keys_iff coherent sound nonempty segments).mp listedToo
  have here : s.find reference (dotted front) = .ok (some w) :=
    find_of_walk nonempty segments pieces reached
  have here' : s.find target (dotted front) = .ok (some w') :=
    find_of_walk nonempty segments pieces reached'
  have whole' : s.find target key = Resource.findFrom back (some w') :=
    find_of_walk nonempty segments split reached'
  refine ⟨dotted front, isPart_dotted nonempty split, listed, listedToo, fun isKey => ?_,
    fun rest cut => ?_⟩
  · rw [← isKey]
    simp only [HasTemplate, lookup_eq_some_iff, NamesSequence, here']
    cases w' with
    | leaf other => simp
    | sequence items => simp
    | tree => cases ends'
  · have tail : back = Text.splitAt separator rest := by
      rw [cut, Text.splitAt_append, Resource.splitAt_dotted nonempty segments] at split
      exact (List.append_cancel_left split).symm
    obtain ⟨segment, more, pastEnd⟩ :=
      List.exists_cons_of_ne_nil (Text.splitAt_ne_nil separator rest)
    simp only [lookup_eq_some_iff, NamesSequence, here, here', whole', ← tail]
    rw [tail, pastEnd] at remaining ⊢
    constructor
    · cases w with
      | leaf => rw [Resource.findFrom_leaf] at remaining; cases remaining
      | sequence items => exact ⟨items, rfl⟩
      | tree => cases ends
    · intro other
      cases w' with
      | leaf => simp [Resource.findFrom_leaf]
      | sequence items => simp
      | tree => cases ends'

theorem lookup_of_no_sequence (coherent : Coherent s) (sound : AllSound s)
    {target reference : Text} (covered : (s.missing target reference).1 = [])
    (found : s.HasTemplate reference key)
    (plain : ∀ part, IsPart part key →
      ¬s.NamesSequence reference part ∧ ¬s.NamesSequence target part) :
    s.HasTemplate target key := by
  obtain ⟨part, isPart, -, -, whole, shorter⟩ := exists_listed_part coherent sound covered found
  rcases isPart with isKey | ⟨rest, cut⟩
  · exact (whole isKey).mpr (plain key (.inl rfl)).2
  · exact absurd (shorter rest cut).1 (plain part (.inr ⟨rest, cut⟩)).1

/-- After any calls on a fresh store, when a locale lacks no key of another: its progress is full. A
key that names a template in the other has a part that both list. If the part is the key, the locale
has a template there unless it has a sequence; if not, the other has a sequence at the part, and the
locale has a template there only inside a sequence of its own. So it has a template under each key
that meets no sequence in either. -/
theorem lookup_of_covered_after_calls (budget : Budget) (maxDepth : Int) (s : RenderState)
    (calls : List StoreCall) (target reference : Text) :
    let t := (StoreCall.run { s with store := fresh budget maxDepth } calls).store
    (t.missing target reference).1 = [] →
    ((t.progress target reference).1.present = (t.progress target reference).1.total ∧
      (t.progress target reference).1.share =
        if (t.keys reference).1 = [] then 1 else Binary.ofRatio false 1 1) ∧
    ∀ key, t.HasTemplate reference key →
      (∃ part, IsPart part key ∧ part ∈ (t.keys reference).1 ∧ part ∈ (t.keys target).1 ∧
        (part = key → (t.HasTemplate target key ↔ ¬t.NamesSequence target key)) ∧
        ∀ rest, key = part ++ separator :: rest → t.NamesSequence reference part ∧
          ∀ other, t.lookup target key = .ok (some other) ↔
            ∃ items, t.find target part = .ok (some (.sequence items)) ∧
              Resource.findFrom (Text.splitAt separator rest) (some (.sequence items)) =
                .ok (some (.leaf other))) ∧
      ((∀ part, IsPart part key → ¬t.NamesSequence reference part ∧ ¬t.NamesSequence target part) →
        t.HasTemplate target key) := by
  intro t covered
  have coherent : Coherent t := coherent_run budget maxDepth s calls
  have sound : AllSound t := allSound_run budget maxDepth s calls
  refine ⟨progress_of_missing_nil coherent covered, fun key found => ⟨?_, ?_⟩⟩
  · exact exists_listed_part coherent sound covered found
  · exact lookup_of_no_sequence coherent sound covered found

/-- One phrase for each of two languages, at the same place. -/
def greetings : List StoreCall :=
  [.load "en" (.map [(.ofText "menu", .map [(.ofText "open", .text "Open")])]),
    .load "fr" (.map [(.ofText "menu", .map [(.ofText "open", .text "Ouvrir")])])]

theorem greetings_covered :
    let t := (StoreCall.run { store := fresh .standard 100 } greetings).store
    (t.missing "fr" "en").1 = [] ∧ t.HasTemplate "en" "menu.open" ∧
      t.HasTemplate "fr" "menu.open" := by
  intro t
  have covered : (t.missing "fr" "en").1 = [] := by decide +kernel
  have listed : (t.keys "en").1 = ["menu.open"] := by decide +kernel
  have found : t.HasTemplate "en" "menu.open" := by decide +kernel
  have plain : ¬t.NamesSequence "fr" "menu.open" := by decide +kernel
  obtain ⟨-, every⟩ := lookup_of_covered_after_calls .standard 100 {} greetings "fr" "en" covered
  obtain ⟨part, -, inReference, -, whole, -⟩ := (every "menu.open" found).1
  rw [listed] at inReference
  have isKey : part = "menu.open" := List.mem_singleton.mp inReference
  exact ⟨covered, found, (whole isKey).mpr plain⟩

/-- A text in one language against a list in the other. -/
def steps : List StoreCall :=
  [.load "en" (.map [(.ofText "steps", .text "one, two")]),
    .load "fr" (.map [(.ofText "steps", .list [.text "un", .text "deux"])])]

/-- Nothing is missing, and still the text has no counterpart. -/
theorem steps_covered_without_template :
    let t := (StoreCall.run { store := fresh .standard 100 } steps).store
    (t.missing "fr" "en").1 = [] ∧ t.HasTemplate "en" "steps" ∧ ¬t.HasTemplate "fr" "steps" :=
  ⟨by decide +kernel, by decide +kernel, by decide +kernel⟩

end ResourceStore
end Phrasebook
